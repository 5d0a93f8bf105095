import Cara.Sync.GraphGates
import Cara.Sync.NativeDrain
import Mathlib.Data.List.Destutter

/-! Caravan-owned promotion and squash merge of a root: the gates of one landing, and the
drain that lands one root after another within a tick. -/
namespace Cara
namespace Sync

open Generation (CommitRelation)
open RequiredRuns (RequiredContextsRead HeadRunLineage RequiredRunsAssessment RequiredContextState
  RequiredRunsStatus)

def rootMergeConfirmationReads : ℕ := 3

def rootAutoMergeConfirmationReads : ℕ := 3

inductive RootPromotionTrigger where
  | alreadyOnDefaultBranch
  | mergedPredecessorRetarget
  | nonDefaultBaseRetarget
deriving DecidableEq

def RootPromotionTrigger.requiresWrite (trigger : RootPromotionTrigger) : Bool :=
  decide (trigger ≠ .alreadyOnDefaultBranch)

inductive RootPromotionFailureCause where
  | baseRetargetNotObserved
  | rootHeadMovedDuringPromotion
  | staleProviderView
deriving DecidableEq

def RootPromotionFailureCause.code : RootPromotionFailureCause → String
  | .baseRetargetNotObserved => "base_retarget_not_observed"
  | .rootHeadMovedDuringPromotion => "root_head_moved_during_promotion"
  | .staleProviderView => "stale_provider_view"

def RootPromotionFailureCause.next : RootPromotionFailureCause → String
  | .baseRetargetNotObserved => "rerun the same idempotent bounded sync tick; root promotion " ++
      "converges without operator action"
  | .rootHeadMovedDuringPromotion => "rerun the same idempotent bounded sync tick against the " ++
      "fresh root generation"
  | .staleProviderView => "rerun the same idempotent bounded sync tick once provider reads agree"

inductive RootMergeFailureCause where
  | baseNotDefaultBranch
  | foreignAutoMergeActor
  | providerDidNotPersistMerge
  | mergedIntoUnexpectedBase
  | mergeNotReachableFromDefault
  | defaultBranchDivergedFromRetainedPatchSet
  | unmergedAncestorContainedByRoot
  | forgeRefusesMerge
deriving DecidableEq

def RootMergeFailureCause.code : RootMergeFailureCause → String
  | .baseNotDefaultBranch => "base_not_default_branch"
  | .foreignAutoMergeActor => "foreign_auto_merge_actor"
  | .providerDidNotPersistMerge => "provider_did_not_persist_merge"
  | .mergedIntoUnexpectedBase => "merged_into_unexpected_base"
  | .mergeNotReachableFromDefault => "merge_not_reachable_from_default"
  | .defaultBranchDivergedFromRetainedPatchSet => "default_branch_diverged_from_retained_patch_set"
  | .unmergedAncestorContainedByRoot => "unmerged_ancestor_contained_by_root"
  | .forgeRefusesMerge => "forge_refuses_merge"

def RootMergeFailureCause.resumable (cause : RootMergeFailureCause) : Bool :=
  decide (cause ∉ ([.mergedIntoUnexpectedBase,.mergeNotReachableFromDefault,
    .defaultBranchDivergedFromRetainedPatchSet,.unmergedAncestorContainedByRoot] :
      List RootMergeFailureCause))

def RootMergeFailureCause.next : RootMergeFailureCause → String
  | .baseNotDefaultBranch => "rerun the same idempotent bounded sync tick; promotion retargets " ++
      "the root to the default branch before any merge"
  | .foreignAutoMergeActor => "disable the foreign auto-merge request, or set " ++
      "sync.external_auto_merge_policy=\"disable\" so cara converges it, then rerun the same " ++
      "bounded sync tick"
  | .providerDidNotPersistMerge => "rerun the same idempotent bounded sync tick; an " ++
      "already-merged root is observed as such and advances the caravan"
  | .forgeRefusesMerge => "the forge still refuses this exact head even though required checks " ++
      "are green: inspect branch protection for an unsatisfied rule or a required review, then " ++
      "rerun the same bounded sync tick"
  | .mergedIntoUnexpectedBase => "inspect the provider merge receipt: the root landed on a " ++
      "branch other than the exact default branch and the caravan must be reconciled before " ++
      "further merges"
  | .mergeNotReachableFromDefault => "inspect the typed unreachable-merge evidence: the claimed " ++
      "merge commit is not contained by the fetched default branch, so the pull request stays " ++
      "open and recoverable rather than counted as delivered"
  | .defaultBranchDivergedFromRetainedPatchSet => "prove or rescope this caravan's content " ++
      "against the exact default branch before it may land: an already-landed ancestor was " ++
      "reverted or discarded, so this generation still carries content the default branch " ++
      "deliberately no longer has"
  | .unmergedAncestorContainedByRoot => "retire, merge, or remove the unmerged ancestor patch " ++
      "from this root and obtain fresh CI before retrying; never land a descendant that silently " ++
      "carries an evicted parent"

inductive RootMergeGate where
  | eligible
  | wait (block : RootMergeBlock)
  | refuse (cause : RootMergeFailureCause)
deriving DecidableEq

structure RootMergeFacts where
  defaultBranch : String
  checksPassing : Bool
  requiredRunsSatisfied : Bool
  conflictFreeWithDefault : Bool
  externalAutoMerge : ExternalAutoMergePolicy

/-- The base is a refusal, not a wait: it is the one fact that lands content elsewhere. -/
def mergeGate (observed : PullRequestSnapshot) (facts : RootMergeFacts) : RootMergeGate :=
  if observed.state = .merged then .wait .alreadyMerged
  else if observed.base.name ≠ facts.defaultBranch then .refuse .baseNotDefaultBranch
  else if observed.autoMerge.enabled = true ∧ facts.externalAutoMerge = .refuse then
    .refuse .foreignAutoMergeActor
  else if observed.state ≠ .open ∨ observed.draft = true then .wait .notOpen
  else if facts.conflictFreeWithDefault = false then .wait .notConflictFreeWithDefault
  else if facts.checksPassing = false then .wait .checksNotPassing
  else if facts.requiredRunsSatisfied = false then .wait .requiredRunsNotSatisfied
  else .eligible

/-- The default branch is in the root head, or it is what this tick itself landed. -/
def retainedPatchSetHolds (reachableFromHead landedByThisTick : Bool) : Bool :=
  reachableFromHead || landedByThisTick

def promotionTrigger (observedBase defaultBranch : String) (predecessorMerged : Bool) :
    RootPromotionTrigger :=
  if observedBase = defaultBranch then .alreadyOnDefaultBranch
  else if predecessorMerged then .mergedPredecessorRetarget
  else .nonDefaultBaseRetarget

/-- The relation of `base...head` in which the head contains the base. -/
def containsBase (relation : CommitRelation) : Bool :=
  decide (relation = .ahead ∨ relation = .identical)

section Failures

def rootPromotionFailure (number : PrNumber) (cause : RootPromotionFailureCause) : SyncError where
  category := .executionFailure
  code := "root_promotion_incomplete"
  message := "caravan root #" ++ toString number ++ " could not be proven to target the exact " ++
    "default branch before merging (" ++ cause.code ++ ")"
  details := some [("cause_code",cause.code),("affected_pr",toString number),("resumable","true"),
    ("next",cause.next)]

def rootMergeFailure (number : PrNumber) (cause : RootMergeFailureCause) : SyncError where
  category := .executionFailure
  code := "root_merge_refused"
  message := "caravan root #" ++ toString number ++ " was not merged by cara (" ++ cause.code ++ ")"
  details := some [("cause_code",cause.code),("affected_pr",toString number),
    ("resumable",toString cause.resumable),("next",cause.next)]

end Failures

def headIsConflictFreeWithDefault (status : StatusOutput) (head : PullRequestSnapshot) : Bool :=
  status.analysis.compatibility.any fun report => decide (report.candidate = head.head ∧
    report.target = status.analysis.fleet.defaultBranch ∧ report.outcome = .clean)

section Observation

variable (repository : RepositoryId)

def SyncAnswer.runs? : SyncAnswer → Option (List WorkflowRunSnapshot)
  | .runs value => some value
  | _ => none

def SyncAnswer.diagnostics? : SyncAnswer → Option Bool
  | .diagnostics value => some value
  | _ => none

def SyncAnswer.mergeCommit? : SyncAnswer → Option (Option CommitOid)
  | .mergeCommit value => some value
  | _ => none

def discoverRequiredContexts (branch : String) (number : PrNumber) : SyncM RequiredContextsRead := do
  match (← get).requiredContexts.lookup branch with
  | some cached => return cached
  | none =>
      let read ← branchRequiredContexts repository branch (some number)
      let kept := if read.branch = branch then read else { read with complete := false }
      modify fun p => { p with requiredContexts := p.requiredContexts ++ [(branch,kept)] }
      return kept

def redCoverage (assessment : RequiredRunsAssessment) : Bool :=
  (assessment.requiredPolicy.any (·.complete)) && assessment.coverage.any fun coverage =>
    !coverage.currentReportingChecks.isEmpty && decide (coverage.state = .failing ∨
      coverage.state = .cancelledSuperseded ∨ coverage.state = .unknown)

def requiredCiDisposition (assessment : RequiredRunsAssessment) (forced : Bool) : CiDisposition :=
  if forced then .forced
  else if redCoverage assessment then .failed
  else match assessment.status with
    | .satisfied | .notRequired => .passing
    | .failing | .cancelledSuperseded => .failed
    | _ => .waiting

def workflowRunId (url : String) : Option ℕ :=
  (Text.splitOnce "/actions/runs/".toList url.toList).bind fun parts =>
    Text.parseU64 (Text.firstField '/' parts.2)

def selectRerunnableRunIds (checks : List CheckSnapshot) (runs : List WorkflowRunSnapshot) : List ℕ :=
  let named := (checks.filter checkIsFailure).filterMap fun check =>
    check.detailsUrl.bind workflowRunId
  ((named.filter fun id => decide (id ∈ runs.map (·.databaseId))).toFinset).sort (· ≤ ·)

/-- The 32 newest rows, one for each number, oldest first. -/
def newestRows {α : Type} (id : α → ℕ) (rows : List α) : List α :=
  let newest := (rows.insertionSort fun a b => id b ≤ id a).destutter fun a b => id a ≠ id b
  (newest.take 32).insertionSort fun a b => id a ≤ id b

def withinBound {α : Type} (id : α → ℕ) (rows : List α) : Bool :=
  decide (rows.length ≤ 32 ∧ (rows.map id).Nodup)

/-- What an observation keeps of a lineage it was decided by. -/
def boundedLineage (lineage : HeadRunLineage) : HeadRunLineage :=
  { lineage with
    checkSuites := newestRows (·.id) lineage.checkSuites
    workflowRuns := newestRows (·.runId) lineage.workflowRuns
    complete := lineage.complete && withinBound (·.id) lineage.checkSuites &&
      withinBound (·.runId) lineage.workflowRuns }

/-- The second look at a red member: one more read, then the lineage of its head. -/
def reexamine (policy : RequiredContextsRead) (number : PrNumber) (forced : Bool)
    (current : PullRequestSnapshot) : SyncM (PullRequestSnapshot × Option HeadRunLineage) := do
  let first ← assessWithLineage current policy none
  if requiredCiDisposition first forced = .failed then
    let current ← refetchCiSnapshot repository number
    let second ← assessWithLineage current policy none
    if requiredCiDisposition second forced = .failed then
      let lineage ← ask (.headRunLineage repository (← preconditionOf number)) (some number)
        SyncAnswer.lineage?
      return (current,some lineage)
    else return (current,none)
  else return (current,none)

/-- A failed verdict that its runs prove to be the deferred admission gate alone is a wait. -/
def diagnose (policy : RequiredContextsRead) (number : PrNumber) (current : PullRequestSnapshot)
    (disposition : CiDisposition) : SyncM CiDisposition := do
  if disposition = .failed ∨ disposition = .forced then
    let failedRuns ← ask (.failedRunsForPullRequest repository (← preconditionOf number))
      (some number) SyncAnswer.runs?
    let selected := selectRerunnableRunIds (policy.requiredChecks current.checks current.head.oid)
      failedRuns
    if selected = [] then return disposition
    else
      let deferred ← ask (.failedRunDiagnostics repository (← preconditionOf number) selected)
        (some number) SyncAnswer.diagnostics?
      return if disposition = .failed ∧ deferred = true then .waiting else disposition
  else return disposition

def observeCi (number : PrNumber) : SyncM CiObservation := do
  let current ← refetchCiSnapshot repository number
  let forced := current.hasLabel "caravan-force"
  let policy ← discoverRequiredContexts repository (← get).defaultBranch number
  let (current,lineage) ← reexamine repository policy number forced current
  let assessment ← assessWithLineage current policy lineage
  let disposition ← diagnose repository policy number current
    (requiredCiDisposition assessment forced)
  return ⟨number,disposition,current.checks,lineage.map boundedLineage⟩

/-- One auditable rerequest on the unchanged head, and the assessment after it; none when the
request was refused or the head moved. -/
def retriggerRequiredRuns (number : PrNumber) (checkSuiteId : ℕ) (contexts : RequiredContextsRead) :
    SyncM (Option RequiredRunsAssessment) := do
  let before ← currentOf number
  ensureMutationCapacity 1
  let expected ← preconditionOf number
  match ← StateT.lift (attemptCall (.rerequestCheckSuite repository expected checkSuiteId)
      SyncAnswer.receipt?) with
  | .error _ => return none
  | .ok receipt =>
      modify (·.record receipt ("requested check suite " ++ toString checkSuiteId ++
        " again on unchanged head " ++ before.head.oid))
      let refreshed ← refetchPullRequest repository number
      if refreshed.head.oid ≠ before.head.oid then return none
      else
        modify (·.see number refreshed)
        let lineage ← ask (.headRunLineage repository (.ofSnapshot refreshed)) (some number)
          SyncAnswer.lineage?
        return some (← assessWithLineage refreshed contexts (some lineage))

/-- A missing run with a check suite to ask for again is looked at once more behind that. -/
def recoverRequiredRuns (number : PrNumber) (contexts : RequiredContextsRead)
    (assessment : RequiredRunsAssessment) : SyncM RequiredRunsAssessment := do
  match assessment.recovery,(← get).requiredRunsRetriggerEnabled with
  | .rerequestCheckSuite checkSuiteId,true => do
      let after ← retriggerRequiredRuns repository number checkSuiteId contexts
      return after.getD assessment
  | _,_ => return assessment

def verifyRequiredRuns (caravanId number : PrNumber) : SyncM Unit := do
  let current ← currentOf number
  let contexts ← discoverRequiredContexts repository (← get).defaultBranch number
  let assessment ← assessRequiredRuns repository current contexts
  let decided ← recoverRequiredRuns repository number contexts assessment
  modify (·.pushRequiredRuns caravanId decided)

end Observation

section Generation

variable (repository : RepositoryId)

def caravanControlLabels : List String := ["caravan","caravan-evicted"]

/-- Changes of a root that stop its promotion. A base that already is the default branch is
where the promotion leads. -/
def rootChangedFields (previous observed : PullRequestSnapshot) (defaultBranch : String) :
    List String :=
  ((changedPreconditionFields (.ofSnapshot previous) (.ofSnapshot observed)).filter fun field =>
    decide (field ≠ "auto_merge" ∧ field ≠ "labels") &&
      (!decide (field = "base_ref" ∨ field = "base_oid") ||
        decide (observed.base.name ≠ defaultBranch))) ++
  (caravanControlLabels.filter fun label => previous.hasLabel label != observed.hasLabel label).map
    ("labels." ++ ·)

/-- Further reads, at most so many, until the provider shows the expected head; with their
number. -/
def rereadHead (number : PrNumber) (expected : CommitOid) : ℕ → PullRequestSnapshot →
    SyncM (PullRequestSnapshot × ℕ)
  | 0,observed => return (observed,0)
  | left + 1,observed =>
      if observed.head.oid = expected then return (observed,0)
      else do
        let again ← refetchPullRequest repository number
        let (observed,reads) ← rereadHead number expected left again
        return (observed,reads + 1)

/-- A fresh read of the generation this tick already verified, and how many reads it took. -/
def readExactRootGeneration (number : PrNumber) (defaultBranch : String) :
    SyncM (PullRequestSnapshot × ℕ) := do
  let previous := (← get).current[number]?
  let first ← refetchPullRequest repository number
  match previous with
  | none => do
      modify (·.see number first)
      return (first,1)
  | some previous => do
      let (observed,more) ← rereadHead repository number previous.head.oid
        (rootAutoMergeConfirmationReads - 1) first
      if observed.head.oid ≠ previous.head.oid then
        throw (rootPromotionFailure number .staleProviderView)
      else
        let changed := rootChangedFields previous observed defaultBranch
        if changed ≠ [] then
          throw (mutationError (.stalePrecondition (.ofSnapshot previous) (.ofSnapshot observed)
            changed) (some number))
        else
          modify (·.see number observed)
          return (observed,more + 1)

/-- Further reads, at most so many, until the snapshot is as wanted. -/
def rereadUntil (number : PrNumber) (wanted : PullRequestSnapshot → Bool) : ℕ → PullRequestSnapshot →
    SyncM (PullRequestSnapshot × ℕ)
  | 0,observed => return (observed,0)
  | left + 1,observed =>
      if wanted observed then return (observed,0)
      else do
        let again ← refetchPullRequest repository number
        modify (·.see number again)
        let (observed,reads) ← rereadUntil number wanted left again
        return (observed,reads + 1)

end Generation

section Promotion

variable (status : StatusOutput)

/-- The provider shows the default branch as the base before anything may merge the root. -/
def promoteRoot (number : PrNumber) (predecessorMerged : Bool) : SyncM Unit := do
  let (observed,reads) ← readExactRootGeneration status.repository number status.defaultBranch
  let expectedHead := observed.head.oid
  let trigger := promotionTrigger observed.base.name status.defaultBranch predecessorMerged
  if trigger.requiresWrite = false then
    modify (·.already .setBase number
      "promoted caravan root already targets the exact default branch")
  else
    ensureMutationCapacity 1
    let expected ← preconditionOf number
    let receipt ← ask (.setBase status.repository expected status.defaultBranch) (some number)
      SyncAnswer.receipt?
    modify (·.record receipt "retargeted the promoted caravan root to the exact default branch")
    let (observed,_) ← rereadUntil status.repository number
      (fun p => decide (p.base.name = status.defaultBranch ∧ p.head.oid = expectedHead))
      (rootMergeConfirmationReads - reads) (← currentOf number)
    if observed.head.oid ≠ expectedHead then
      throw (rootPromotionFailure number .rootHeadMovedDuringPromotion)
    else if observed.base.name ≠ status.defaultBranch then
      throw (rootPromotionFailure number .baseRetargetNotObserved)
    else return ()

end Promotion

section Landing

variable (w : SyncWire) (status : StatusOutput)

def rootTreeProof (observed : PullRequestSnapshot) (observedDefault : CommitOid) :
    Option CumulativeTreeProof :=
  status.analysis.cumulativeTrees.find? fun proof => decide (proof.candidate = observed.head ∧
    proof.target.name = status.defaultBranch ∧ proof.target.oid = observedDefault)

/-- Evicted, parked and closed generations that have not merged; none may be in the root. -/
def unmergedAncestors (number : PrNumber) : List PullRequestSnapshot :=
  (Graph.rowsOf status.analysis.pullRequests).filter fun p =>
    decide (p.number ≠ number ∧ p.state ≠ .merged) && (p.hasLabel "caravan-evicted" ||
      p.hasLabel "caravan-parked" || (decide (p.state = .closed) && p.hasLabel "caravan"))

def refuteContainment (number : PrNumber) (observed : PullRequestSnapshot)
    (observedDefault : CommitOid) : List PullRequestSnapshot → SyncM Unit
  | [] => return ()
  | candidate::rest => do
      let relationToRoot ← ask (.compareCommits status.repository candidate.head.oid
        observed.head.oid) (some number) SyncAnswer.relation?
      let _ ← ask (.compareCommits status.repository candidate.head.oid observedDefault)
        (some number) SyncAnswer.relation?
      if containsBase relationToRoot then
        throw (rootMergeFailure number .unmergedAncestorContainedByRoot)
      else refuteContainment number observed observedDefault rest

def squashMergeAudit (number : PrNumber) (observed : PullRequestSnapshot)
    (defaultBefore : BranchSnapshot) (proof : CumulativeTreeProof) : String × String :=
  let fingerprint := Fnv.fnv1a64 (w.squashMergeAudit
    (status.repository,number,observed,defaultBefore,some proof))
  let marker := mergeAuditPrefix ++ "squash:" ++ toString number ++ ":" ++ observed.head.oid ++ ":" ++
    fingerprint ++ " -->"
  (marker,marker ++ "\n### Cara authorized this merge\n\n- **Exact generation:** PR #" ++
    toString number ++ " at \x60" ++ observed.head.oid ++ "\x60\n- **Target:** \x60" ++
    status.defaultBranch ++ "\x60 at \x60" ++ defaultBefore.oid ++ "\x60\n- **Why:** current " ++
    "checks and protection-required contexts are green, provider mergeability is clean, and " ++
    proof.reason ++ ".\n- **Operation:** Cara is the single merge actor and will now " ++
    "squash-merge this exact generation. This audit is posted before the irreversible provider " ++
    "write; exact retries reuse it without duplication.\n- **Evidence fingerprint:** \x60" ++
    fingerprint ++ "\x60\n")

def forgeRefuses (observed : PullRequestSnapshot) : Bool :=
  observed.mergeStateStatus.any fun s => decide (s = "BLOCKED" ∨ s = "DIRTY" ∨ s = "DRAFT")

/-- A read of the default branch, and whether it contains the merge commit. A commit that the
provider does not report is not looked for. -/
def defaultContains (number : PrNumber) (mergeCommit : Option CommitOid) :
    SyncM (CommitOid × Bool) := do
  let defaultAfter ← ask (.branchHeadOid status.repository status.defaultBranch) (some number)
    SyncAnswer.oid?
  match mergeCommit with
  | none => return (defaultAfter,true)
  | some commit => do
      let comparison ← ask (.compareCommits status.repository commit defaultAfter) (some number)
        SyncAnswer.relation?
      return (defaultAfter,containsBase comparison)

/-- The first read, and at most so many more, that contains the merge commit. -/
def confirmReachable (number : PrNumber) (mergeCommit : Option CommitOid) : ℕ →
    SyncM (CommitOid × ℕ)
  | 0 => do
      let (defaultAfter,contained) ← defaultContains status number mergeCommit
      if contained then return (defaultAfter,1)
      else throw (rootMergeFailure number .mergeNotReachableFromDefault)
  | left + 1 => do
      let (defaultAfter,contained) ← defaultContains status number mergeCommit
      if contained then return (defaultAfter,1)
      else
        let (defaultAfter,reads) ← confirmReachable number mergeCommit left
        return (defaultAfter,reads + 1)

structure Authorized where
  observed : PullRequestSnapshot
  reads : ℕ
  proof : CumulativeTreeProof
  policy : RequiredContextsRead
  defaultBefore : BranchSnapshot

/-- The gates in their order; none when the root has to wait. -/
def authorizeRoot (caravanId number : PrNumber) (landedDefault : Option CommitOid)
    (stacklessNativeSingleton : Bool) : SyncM (Option Authorized) := do
  let (observed,reads) ← readExactRootGeneration status.repository number status.defaultBranch
  let observedDefault ← ask (.branchHeadOid status.repository status.defaultBranch) (some number)
    SyncAnswer.oid?
  let treeProof := rootTreeProof status observed observedDefault
  refuteContainment status number observed observedDefault (unmergedAncestors status number)
  let policy ← branchRequiredContexts status.repository status.defaultBranch (some number)
  let assessment ← assessRequiredRuns status.repository observed policy
  let green := policy.complete && decide (policy.branch = status.defaultBranch) &&
    isGreen assessment.status
  modify (·.pushRequiredRuns caravanId assessment)
  let facts : RootMergeFacts := {
    defaultBranch := status.defaultBranch
    checksPassing := green
    requiredRunsSatisfied := green
    conflictFreeWithDefault := (treeProof.any (·.identical)) ||
      headIsConflictFreeWithDefault status observed
    externalAutoMerge := (← get).externalAutoMergePolicy }
  match mergeGate observed facts with
  | .refuse cause => throw (rootMergeFailure number cause)
  | .wait block => do
      recordMergeWait number block none
      return none
  | .eligible =>
      match treeProof with
      | none => do
          recordMergeWait number .cumulativeTreeUnproven none
          return none
      | some proof =>
          if proof.identical = false ∧ stacklessNativeSingleton = false then do
            recordMergeWait number .cumulativeTreeChanged (some proof.reason)
            return none
          else if stacklessNativeSingleton = false ∧ retainedPatchSetHolds
              proof.targetReachableFromCandidate (decide (landedDefault = some observedDefault)) =
                false then
            throw (rootMergeFailure number .defaultBranchDivergedFromRetainedPatchSet)
          else if forgeRefuses observed then throw (rootMergeFailure number .forgeRefusesMerge)
          else return some ⟨observed,reads,proof,policy,
            ⟨status.repository,status.defaultBranch,observedDefault⟩⟩

/-- The audit, and the facts once more behind it; none when the policy changed meanwhile. -/
def auditRoot (number : PrNumber) (a : Authorized) : SyncM Bool := do
  let audit := squashMergeAudit w status number a.observed a.defaultBefore a.proof
  ensureOperationComment status.repository number "squash merge" audit.1 audit.2
  ask (.verifyPullRequestWithChecks status.repository (.ofSnapshot a.observed)) (some number)
    SyncAnswer.done?
  ask (.verifyBranchHead status.repository status.defaultBranch a.defaultBefore.oid) (some number)
    SyncAnswer.done?
  let finalPolicy ← branchRequiredContexts status.repository status.defaultBranch (some number)
  if finalPolicy.complete = false ∨ finalPolicy ≠ a.policy then
    recordMergeWait number .requiredRunsNotSatisfied (some ("landing-target required policy " ++
      "changed during merge preflight; rediscover before submitting"))
    return false
  else return true

/-- The proof of the write: the root is merged into the default branch, and the branch contains
the reported merge commit. -/
def confirmLanding (caravanId number : PrNumber) (remaining : List PrNumber) (a : Authorized) :
    SyncM Unit := do
  let (observed,more) ← rereadUntil status.repository number (fun p => decide (p.state = .merged))
    (rootMergeConfirmationReads - a.reads) (← currentOf number)
  if observed.state ≠ .merged then throw (rootMergeFailure number .providerDidNotPersistMerge)
  else if observed.base.name ≠ status.defaultBranch then
    throw (rootMergeFailure number .mergedIntoUnexpectedBase)
  else
    let mergeCommit ← ask (.mergeCommitOid status.repository number) (some number)
      SyncAnswer.mergeCommit?
    let (defaultAfter,reachabilityReads) ← confirmReachable status number mergeCommit
      (rootMergeConfirmationReads - 1)
    modify fun p => { p with
      rootMerge := (p.rootMerge.filter fun r => decide (r.pr ≠ observed.number)) ++ [{
        pr := observed.number
        caravanId := caravanId
        defaultBefore := a.defaultBefore
        defaultAfter := ⟨status.repository,status.defaultBranch,defaultAfter⟩
        mergeCommit := mergeCommit
        cumulativeTree := a.proof
        remainingMembers := remaining.drop 1
        confirmationReads := a.reads + more + reachabilityReads }] }

def submitRoot (caravanId number : PrNumber) (remaining : List PrNumber) (a : Authorized) :
    SyncM Unit := do
  ensureMutationCapacity 1
  let expected ← preconditionOf number
  let receipt ← ask (.squashMerge status.repository expected) (some number) SyncAnswer.receipt?
  modify (·.record receipt "squash-merged the promoted caravan root into the exact default branch")
  confirmLanding status caravanId number remaining a

def mergeRoot (caravanId number : PrNumber) (remaining : List PrNumber)
    (landedDefault : Option CommitOid) (stacklessNativeSingleton : Bool) : SyncM Bool := do
  match ← authorizeRoot status caravanId number landedDefault stacklessNativeSingleton with
  | none => return false
  | some a =>
      if ← auditRoot w status number a then
        submitRoot status caravanId number remaining a
        return true
      else return false

end Landing

section Drain

variable (w : SyncWire) (status : StatusOutput) (caravanId : PrNumber)
  (stacklessNativeSingleton : Bool)

/-- The successor is promoted and its checks are observed again. -/
def advanceHead (root next : PrNumber) : SyncM Unit := do
  promoteRoot status next true
  modify fun p => { p with headAdvancements := p.headAdvancements ++ [⟨root,next⟩] }
  let observation ← observeCi status.repository next
  modify fun p => { p with ci := (p.ci.filter fun item => decide (item.pr ≠ next)) ++ [observation] }
  verifyRequiredRuns status.repository caravanId next

/-- Roots in order, each behind the landing of the one before. -/
def drainRoots : ℕ → Option CommitOid → List PrNumber → SyncM Unit
  | _,_,[] => return ()
  | merged,landedDefault,root::rest => do
      if (← get).maxRootMerges ≤ merged then recordMergeWait root .mergeBudgetReached none
      else if ← mergeRoot w status caravanId root (root::rest) landedDefault
          stacklessNativeSingleton then
        let landed := ((← get).rootMerge.reverse.find? fun r => decide (r.pr = root)).map
          (·.defaultAfter.oid)
        match rest with
        | [] => return ()
        | next::_ => do
            advanceHead status caravanId root next
            drainRoots (merged + 1) landed rest
      else return ()

def drainCaravanRoots (caravan : Caravan) : SyncM Unit :=
  drainRoots w status caravan.id stacklessNativeSingleton 0 none caravan.members

end Drain

end Sync
end Cara
