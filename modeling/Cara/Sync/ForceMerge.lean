import Cara.Membership.Execution
import Cara.Sync.RootMerge

/-! The exceptional landing of a head by administrator squash: policy, audit, disarming and the
promotion behind it, with the convergence of the one merge actor that it shares. -/
namespace Cara
namespace Sync

open Cara.Membership (ControlLabelAudit controlLabelMarker)

section AutoMerge

def rootAutoMergeArmingAttempts : ℕ := 2

inductive RootAutoMergeTrigger where
  | idempotentReplay
  | rootAdmitted
  | rootHeadRewritten
  | rootBaseAdvanced
  | externallyDisarmed
  | nonSquashMethod
deriving DecidableEq

def RootAutoMergeTrigger.requiresWrite (trigger : RootAutoMergeTrigger) : Bool :=
  decide (trigger ≠ .idempotentReplay)

inductive RootAutoMergeFailureCause where
  | providerDidNotPersistArming
  | rootHeadMovedDuringArming
deriving DecidableEq

def RootAutoMergeFailureCause.code : RootAutoMergeFailureCause → String
  | .providerDidNotPersistArming => "provider_did_not_persist_arming"
  | .rootHeadMovedDuringArming => "root_head_moved_during_arming"

def RootAutoMergeFailureCause.next : RootAutoMergeFailureCause → String
  | .providerDidNotPersistArming => "rerun the same idempotent bounded sync tick; root arming " ++
      "converges without operator action"
  | .rootHeadMovedDuringArming => "rerun the same idempotent bounded sync tick against the fresh " ++
      "root generation"

def squashArmed (snapshot : PullRequestSnapshot) : Bool :=
  snapshot.autoMerge.enabled && decide (snapshot.autoMerge.mergeMethod = some .squash)

/-- A rewrite or a base transition is preferred over a disarming that nobody explains. -/
def classifyTrigger (discovery : Option PullRequestSnapshot) (observed : PullRequestSnapshot)
    (rewrittenHead provenGeneration : Option CommitOid) : RootAutoMergeTrigger :=
  if squashArmed observed then .idempotentReplay
  else if observed.autoMerge.enabled then .nonSquashMethod
  else if rewrittenHead = some observed.head.oid then .rootHeadRewritten
  else match discovery with
    | none => .rootAdmitted
    | some discovery =>
        if discovery.head.oid ≠ observed.head.oid then .rootHeadRewritten
        else if discovery.base.name ≠ observed.base.name ∨ discovery.base.oid ≠ observed.base.oid then
          .rootBaseAdvanced
        else if provenGeneration = some observed.head.oid ∨ discovery.autoMerge.enabled = true then
          .externallyDisarmed
        else .rootAdmitted

def rootAutoMergeFailure (number : PrNumber) (cause : RootAutoMergeFailureCause) : SyncError where
  category := .executionFailure
  code := "root_auto_merge_not_durable"
  message := "caravan root #" ++ toString number ++ " could not be proven to carry required squash " ++
    "auto-merge on its exact current head (" ++ cause.code ++ ")"
  details := some [("cause_code",cause.code),("affected_pr",toString number),("resumable","true"),
    ("next",cause.next)]

variable (repository : RepositoryId)

def disarm (number : PrNumber) (summary : String) : SyncM Unit := do
  ensureMutationCapacity 1
  let expected ← preconditionOf number
  let receipt ← ask (.disableAutoMerge repository expected) (some number) SyncAnswer.receipt?
  modify (·.record receipt summary)

def ensureAutoMergeDisabled (number : PrNumber) : SyncM Unit := do
  let current ← currentOf number
  if current.autoMerge.enabled = false then
    modify (·.already .disableAutoMerge number "non-head auto-merge already disabled")
  else disarm repository number "disabled auto-merge on non-head PR"

def disarmAll : List PrNumber → SyncM Unit
  | [] => return ()
  | number::rest => do
      ensureAutoMergeDisabled repository number
      disarmAll rest

def ensureNoForeignAutoMerge (number : PrNumber) : SyncM Unit := do
  let observed ← currentOf number
  let p ← get
  let owned := decide (p.headMergeActor = .caravan)
  if observed.autoMerge.enabled = false then
    modify (·.already .disableAutoMerge number (if owned then
      "no provider auto-merge request; cara is the single merge actor"
    else "non-head auto-merge already disabled"))
  else if owned = true ∧ p.externalAutoMergePolicy = .refuse then
    throw (rootMergeFailure number .foreignAutoMergeActor)
  else disarm repository number (if owned then
      "disabled a foreign provider auto-merge request; cara is the single merge actor"
    else "disabled auto-merge on non-head PR")

/-- Further reads, at most so many, until the head is armed. -/
def rereadArmed (number : PrNumber) (targetHead : CommitOid) : ℕ → PullRequestSnapshot →
    SyncM PullRequestSnapshot
  | 0,observed => return observed
  | left + 1,observed =>
      if observed.head.oid = targetHead ∧ squashArmed observed = true then return observed
      else do
        let again ← refetchPullRequest repository number
        modify (·.see number again)
        rereadArmed number targetHead left again

/-- One arming attempt on the exact head, and the head as it is read behind it. -/
def armRootOnce (number : PrNumber) (observed : PullRequestSnapshot) : SyncM PullRequestSnapshot := do
  if observed.autoMerge.enabled = true then
    disarm repository number "disabled non-squash auto-merge on the exact caravan root head"
  ensureMutationCapacity 1
  let expected ← preconditionOf number
  let receipt ← ask (.enableSquashAutoMerge repository expected) (some number) SyncAnswer.receipt?
  modify (·.record receipt "armed scheduler-owned squash auto-merge on the exact caravan root head")
  rereadArmed repository number observed.head.oid (rootAutoMergeConfirmationReads - 1) receipt.after

def armRoot (number : PrNumber) : ℕ → PullRequestSnapshot → SyncM PullRequestSnapshot
  | 0,_ => throw (rootAutoMergeFailure number .providerDidNotPersistArming)
  | left + 1,observed => do
      let armed ← armRootOnce repository number observed
      if armed.head.oid ≠ observed.head.oid then
        throw (rootAutoMergeFailure number .rootHeadMovedDuringArming)
      else if squashArmed armed = true then return armed
      else armRoot number left armed

def pushRootAutoMerge (p : SyncProgress) (observed : PullRequestSnapshot) : SyncProgress :=
  { p with rootAutoMerge := (p.rootAutoMerge.filter fun r => decide (r.1 ≠ observed.number)) ++
      [(observed.number,observed.head.oid)] }

/-- The required squash auto-merge of a root under native delegation. -/
def ensureRootSquashAutoMerge (number : PrNumber) (discovery : Option PullRequestSnapshot)
    (rewrittenHead : Option CommitOid) : SyncM Unit := do
  let defaultBranch := (← get).defaultBranch
  let (observed,_) ← readExactRootGeneration repository number defaultBranch
  let proven := ((← get).rootAutoMerge.reverse.find? fun r => decide (r.1 = number)).map (·.2)
  if (classifyTrigger discovery observed rewrittenHead proven).requiresWrite = false then
    modify (·.already .enableAutoMerge number
      "exact current caravan root head already carries required squash auto-merge")
    modify (pushRootAutoMerge · observed)
  else
    let armed ← armRoot repository number rootAutoMergeArmingAttempts observed
    modify (pushRootAutoMerge · armed)

end AutoMerge

section Force

structure ForceWire extends SyncWire where
  checks : List CheckSnapshot → String
  outcome : CompatibilityOutcome → String

def forceMergeDenied (message : String) : SyncError where
  category := .validation
  code := "force_merge_denied"
  message := message

def administratorDenied : SyncError :=
  forceMergeDenied "authenticated actor cannot perform the required administrator squash merge"

def SyncAnswer.text? : SyncAnswer → Option String
  | .text value => some value
  | _ => none

variable (w : ForceWire) (status : StatusOutput)

/-- The facts of the tick that refuse a forced landing before anything is asked. -/
def forceGate (current : PullRequestSnapshot) (forceMerge : Bool) : Except SyncError Unit :=
  if forceMerge = false then
    .error (forceMergeDenied "repository policy has force_merge=false")
  else if current.state ≠ .open ∨ current.draft = true ∨ current.hasLabel "caravan-force" = false then
    .error (forceMergeDenied
      "forced head must remain open, non-draft, and labelled caravan-force")
  else if headIsConflictFreeWithDefault status current = false then
    .error (forceMergeDenied
      "forced head is not proven conflict-free with the exact default-branch revision")
  else .ok ()

def forceAudit (head : PrNumber) (current : PullRequestSnapshot)
    (compatibility : CompatibilityReport) : ControlLabelAudit :=
  let before := current.labels.erase "caravan-force"
  { operation := "force_accept"
    marker := controlLabelMarker "force_accept" head current.head.oid before current.labels
    beforeLabels := before
    afterLabels := current.labels
    actor := "authenticated GitHub comment author; cara sync/loop force policy"
    reason := "observed durable \x60caravan-force\x60; force_merge=true; ADMIN permission confirmed; " ++
      "CI bypassed without waiting; current visible checks: " ++ w.checks current.checks
    reasonSource := "deterministic evidence from GitHub checks, external label, repository " ++
      "config, and permission preflight"
    compatibilityEvidence := compatibility.candidate.name ++ "@" ++ compatibility.candidate.oid ++
      " -> " ++ compatibility.target.name ++ "@" ++ compatibility.target.oid ++ " = " ++
      w.outcome compatibility.outcome
    cleanSquashEvidence := "exact head/default compatibility is clean; ADMIN squash merge is the " ++
      "configured force action"
    admissionPriorityBasis := "not applicable: force acceptance preserves existing caravan order" }

def ensureControlLabelComment (number : PrNumber) (audit : ControlLabelAudit) : SyncM Unit := do
  ensureMutationCapacity 1
  let expected ← preconditionOf number
  let receipt ← StateT.lift (call
    (.ensureControlLabelComment status.repository expected audit.marker audit.body)
    (fun error => {
      category := .executionFailure
      code := "github_comment_failed"
      message := "force label was accepted but its durable GitHub comment failed: " ++
        error.display }) SyncAnswer.receipt?)
  if commentExisted receipt then modify fun p =>
    (p.already .comment number "control-label audit comment already present").see number receipt.after
  else modify (·.record receipt "posted durable force-label audit comment")

/-- The reads before any write: the exact head, the exact default branch and the permission. -/
def forcePreflight (head : PrNumber) (current : PullRequestSnapshot) : SyncM Unit := do
  ask (.verifyPullRequest status.repository (.ofSnapshot current)) (some head) SyncAnswer.done?
  ask (.verifyBranchHead status.repository status.defaultBranch
    status.analysis.fleet.defaultBranch.oid) (some head) SyncAnswer.done?
  let permission ← ask (.viewerPermission status.repository) (some head) SyncAnswer.text?
  if permission = "ADMIN" then return () else throw administratorDenied

/-- The forced head is its only merge candidate and its audit is posted. -/
def forcePrepare (head : PrNumber) (others : List PrNumber) : SyncM Unit := do
  ensureAutoMergeDisabled status.repository head
  let current ← currentOf head
  ask (.verifyPullRequest status.repository (.ofSnapshot current)) (some head) SyncAnswer.done?
  match status.analysis.compatibility.find? fun report => decide (report.candidate = current.head ∧
      report.target = status.analysis.fleet.defaultBranch) with
  | none => StateT.lift Prog.crashed
  | some compatibility => do
      ensureControlLabelComment status head (forceAudit w head current compatibility)
      disarmAll status.repository others

/-- The administrator squash, and behind it the one-shot intent is consumed. -/
def forceSubmit (head : PrNumber) : SyncM Unit := do
  ensureMutationCapacity 2
  let expected ← preconditionOf head
  let receipt ← StateT.lift (call (.adminSquashMerge status.repository expected)
    (fun error => match error with
      | .permissionDenied .. => administratorDenied
      | error => mutationError error (some head)) SyncAnswer.receipt?)
  modify (·.record receipt "administrator squash-merged forced caravan head")
  let expected ← preconditionOf head
  let consumed ← StateT.lift (call (.removeLabel status.repository expected "caravan-force")
    (fun error => {
      category := (mutationError error (some head)).category
      code := "force_intent_consume_failed"
      message := "forced root merged, but its one-shot caravan-force label could not be consumed" })
    SyncAnswer.receipt?)
  modify (·.record consumed "consumed one-shot force intent after successful merge")

/-- The successor becomes the head, with the one merge actor that its own intent allows. -/
def forceAdvance (head next : PrNumber) (others : List PrNumber)
    (rewrittenHeads : PrNumber → Option CommitOid) : SyncM Unit := do
  promoteRoot status next true
  modify fun p => { p with headAdvancements := p.headAdvancements ++ [⟨head,next⟩] }
  disarmAll status.repository others
  let p ← get
  let successorForced := p.current[next]?.any (·.hasLabel "caravan-force")
  if p.headMergeActor = .github ∧ successorForced = false then
    ensureRootSquashAutoMerge status.repository next status.analysis.pullRequests[next]?
      (rewrittenHeads next)
  else ensureNoForeignAutoMerge status.repository next

def forceMergeHead (caravan : Caravan) (forceMerge : Bool)
    (rewrittenHeads : PrNumber → Option CommitOid) : SyncM Unit := do
  match caravan.members with
  | [] => StateT.lift Prog.crashed
  | head::others => do
      let current ← currentOf head
      StateT.lift (Prog.ofResult (forceGate status current forceMerge))
      forcePreflight status head current
      forcePrepare w status head others
      forceSubmit status head
      match others with
      | [] => return ()
      | next::rest => forceAdvance status head next rest rewrittenHeads

end Force

end Sync
end Cara
