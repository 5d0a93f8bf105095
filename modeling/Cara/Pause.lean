import Cara.Status
import Cara.Lib.Guard
import Cara.Lib.Prog

/-! Explicit caravan holds. A hold is a durable record for one caravan head; an exact-owner
recovery is bound inside the record and ends in a durable terminal receipt. -/
namespace Cara
namespace Pause

abbrev PauseError := AppError (List (String × String))

def validationError (code message : String) : PauseError :=
  { category := .validation,code := code,message := message }

section Bindings

/-- Bytes of a text field, or its refusal: blank, too long or on several lines. -/
def textInvalid (value : String) : Bool :=
  Text.isBlank value || decide (maxText < (Text.utf8Bytes value).length) ||
    value.toList.any fun c => decide (c = '\n' ∨ c = '\r')

def textBound (name : String) : String :=
  name ++ " must be non-empty, single-line, and at most 512 bytes"

def validateText (name value : String) : Except PauseError Unit :=
  Guard.refuse (textInvalid value) (validationError "invalid_pause_metadata" (textBound name))

def validateRecoveryText (name value : String) : Except PauseError Unit :=
  Guard.refuse (textInvalid value)
    (validationError "pause_recovery_metadata_invalid" (textBound name))

def isHexDigit (c : Char) : Bool :=
  c.isDigit || decide (('a' ≤ c ∧ c ≤ 'f') ∨ ('A' ≤ c ∧ c ≤ 'F'))

def recoveryOid (name value : String) : Except PauseError CommitOid := do
  let size := (Text.utf8Bytes value).length
  Guard.refuse (!(decide (40 ≤ size ∧ size ≤ 64) && value.toList.all isHexDigit))
    (validationError "pause_recovery_oid_invalid"
      (name ++ " must be a complete 40-64 character hexadecimal Git OID"))
  return String.ofList (value.toList.map Char.toLower)

def membersInvalid (message : String) : PauseError :=
  validationError "pause_recovery_members_invalid" message

def recoveryBinding (input : RecoveryInput) : Except PauseError RecoveryBinding := do
  Guard.refuse (decide (input.schemaVersion ≠ 1))
    (validationError "pause_recovery_schema_unsupported" "pause-recovery requires schema_version 1")
  let _ ← [("operation_id",input.operationId),("external_reference",input.externalReference),
    ("idempotency_key",input.idempotencyKey),("actor",input.actor),
    ("owner_project",input.ownerProject),("owner_agent",input.ownerAgent),
    ("ownership_generation",input.ownershipGeneration),("repository",input.repository),
    ("pause_id",input.pauseId),("pause_generation",input.pauseGeneration),
    ("expected_base_ref",input.expectedBaseRef),("desired_base_ref",input.desiredBaseRef),
    ("reason",input.reason)].mapM fun item => validateRecoveryText item.1 item.2
  Guard.refuse (input.members.isEmpty || decide (input.members.head? ≠ some input.caravanId) ||
      !decide (input.targetPr ∈ input.members))
    (membersInvalid "members must be non-empty, start with caravan_id, and contain target_pr")
  Guard.refuse (!decide input.members.Nodup)
    (membersInvalid "members must not contain duplicate PR numbers")
  let expectedBaseOid ← recoveryOid "expected_base_oid" input.expectedBaseOid
  let expectedHeadOid ← recoveryOid "expected_head_oid" input.expectedHeadOid
  let desiredBaseOid ← recoveryOid "desired_base_oid" input.desiredBaseOid
  let desiredHeadOid ← recoveryOid "desired_head_oid" input.desiredHeadOid
  let desiredHeadTree ← recoveryOid "desired_head_tree" input.desiredHeadTree
  return {
    schemaVersion := 1
    operationId := input.operationId
    externalReference := input.externalReference
    idempotencyKey := input.idempotencyKey
    actor := input.actor
    ownerProject := input.ownerProject
    ownerAgent := input.ownerAgent
    ownershipGeneration := input.ownershipGeneration
    repository := input.repository
    caravanId := input.caravanId
    members := input.members
    pauseId := input.pauseId
    pauseGeneration := input.pauseGeneration
    targetPr := input.targetPr
    expectedBaseRef := input.expectedBaseRef
    expectedBaseOid := expectedBaseOid
    expectedHeadOid := expectedHeadOid
    desiredBaseRef := input.desiredBaseRef
    desiredBaseOid := desiredBaseOid
    desiredHeadOid := desiredHeadOid
    desiredHeadTree := desiredHeadTree
    reason := input.reason }

end Bindings

section Checks

def recoveryMismatch (name : String) : PauseError where
  category := .validation
  code := "pause_recovery_exact_mismatch"
  message := "exact-owner recovery mismatch at " ++ name
  details := some [("field",name),("next","leave the fence active; rediscover and use the " ++
    "exact matching owner generation or restore old provider state")]

def staleError (action : String) (report : PauseStatus) : PauseError where
  category := .validation
  code := "stale_pause_facts"
  message := "cannot " ++ action ++ " caravan #" ++ toString report.record.caravanHead ++
    " because recorded head, base, labels, checks, state, or topology changed"
  details := some [("next","inspect status and repair changed facts; never overwrite or " ++
    "auto-resume a stale hold")]

def finalFieldRequired (name : String) : PauseError :=
  validationError "pause_recovery_final_evidence_required" ("finalize requires " ++ name)

inductive TargetState where
  | old
  | desiredBaseOldHead
  | desired
deriving DecidableEq

/-- Base branch, base OID and head OID of the target in a reviewed state. -/
def TargetState.facts (b : RecoveryBinding) : TargetState → String × CommitOid × CommitOid
  | old => (b.expectedBaseRef,b.expectedBaseOid,b.expectedHeadOid)
  | desiredBaseOldHead => (b.desiredBaseRef,b.desiredBaseOid,b.expectedHeadOid)
  | desired => (b.desiredBaseRef,b.desiredBaseOid,b.desiredHeadOid)

def targetFacts (p : PullRequestSnapshot) : String × CommitOid × CommitOid :=
  (p.base.name,p.base.oid,p.head.oid)

def safeNextAction : PauseState → String
  | .retired => "provider truth retired this head; keep the record as history and never resume " ++
      "or repair auto-merge on it"
  | .stale => "facts changed: inspect and repair without resuming; stale holds fail closed"
  | .recovering => "exact-owner recovery is fenced; use only the matching checkpoint, finalize, " ++
      "or rollback phase"
  | .recoveryDrift => "recovery provider facts drifted; the fence remains active until exact " ++
      "finalize or rollback reconciliation"
  | .expired => "expiry never resumes automatically; explicitly resume after revalidation or " ++
      "replace the hold"
  | .active => "after recovery, explicitly run `cara resume` as an audited action"

/-- The recorded head facts still hold. Auto-merge may be back only after an authorized resume. -/
def factsMatch (record : PauseRecord) (p : PullRequestSnapshot) : Bool :=
  let expected := record.expectedHead
  decide (p.number = expected.number ∧ p.state = .open ∧ p.head.oid = expected.headOid ∧
    p.base.name = expected.baseRef ∧ p.base.oid = expected.baseOid ∧ p.labels = expected.labels) &&
    (p.autoMerge == .disabled || (p.autoMerge == .squash && record.resumeAuthorizedBy.isSome))

/-- The recovery is in one of its reviewed provider states. -/
def recoveryMatch (status : StatusOutput) (record : PauseRecord) : Bool :=
  record.recovery.any fun recovery =>
    let binding := recovery.binding
    decide (binding.caravanId = record.caravanHead) && decide (binding.members = record.members) &&
    decide (status.repository.slug = binding.repository) &&
    (status.analysis.pullRequests[record.caravanHead]?).any (fun p => decide (p.state = .open)) &&
    (status.analysis.pullRequests[binding.targetPr]?).any fun target =>
      decide (target.state = .open) &&
        [TargetState.old,.desiredBaseOldHead,.desired].any fun state =>
          decide (targetFacts target = state.facts binding)

def classify (status : StatusOutput) (now : ℕ) (record : PauseRecord) : PauseStatus :=
  let current := status.analysis.pullRequests[record.caravanHead]?
  let caravan := status.analysis.fleet.caravan record.caravanHead
  let retiredState := (current.map (·.state)).filter fun state => decide (state ≠ .open)
  let stale := !current.any (factsMatch record) ||
    !caravan.any fun c => decide (c.members = record.members)
  let expired := record.expiresUnixSecs.any fun expiry => decide (expiry ≤ now)
  let state : PauseState :=
    if retiredState.isSome then .retired
    else if record.recovery.isSome then
      if recoveryMatch status record then .recovering else .recoveryDrift
    else if stale then .stale
    else if expired then .expired
    else .active
  { record := record
    state := state
    autoMergeSuspended := retiredState.isNone && current.any fun p => !p.autoMerge.enabled
    retiredState := retiredState
    safeNextAction := safeNextAction state }

def rejectOtherGraphProblems (status : StatusOutput) (members : List PrNumber)
    (allowHeadAuto : Bool) : Except PauseError Unit :=
  Guard.refuse (status.analysis.fleet.problems.any fun problem =>
      !(allowHeadAuto && decide (problem.kind = .autoMergeInvariant) &&
        decide (problem.prs = members.head?.toList))) {
    category := .validation
    code := "pause_unsafe_graph"
    message := "a pause cannot hide structural, state, label, compatibility, or non-head " ++
      "auto-merge failures"
    details := some [("next","repair the reported graph problem before pausing or resuming")] }

def verifyOriginalTopology (status : StatusOutput) (binding : RecoveryBinding) :
    Except PauseError Unit :=
  Guard.refuse (decide ((status.analysis.fleet.caravan binding.caravanId).map (·.members) ≠
    some binding.members)) (recoveryMismatch "caravan.members")

def verifyTarget (status : StatusOutput) (binding : RecoveryBinding) (state : TargetState) :
    Except PauseError Unit :=
  match status.analysis.pullRequests[binding.targetPr]? with
  | none => .error (validationError "pause_recovery_target_missing" ("target PR #" ++
      toString binding.targetPr ++ " is absent from provider discovery"))
  | some target => Guard.refuse (decide (target.state ≠ .open ∨
      targetFacts target ≠ state.facts binding)) (recoveryMismatch "target.provider_state")

def verifyPrepare (status : StatusOutput) (now : ℕ) (record : PauseRecord)
    (binding : RecoveryBinding) : Except PauseError Unit := do
  Guard.refuse (decide (status.repository.slug ≠ binding.repository))
    (recoveryMismatch "repository")
  Guard.refuse (decide (record.actor ≠ binding.actor)) (recoveryMismatch "pause.actor")
  Guard.refuse (decide (record.externalReference ≠ some binding.externalReference))
    (recoveryMismatch "pause.external_reference")
  Guard.refuse (decide (record.caravanHead ≠ binding.caravanId ∨ record.members ≠ binding.members))
    (recoveryMismatch "pause.topology")
  let report := classify status now record
  Guard.refuse (!decide (report.state = .active ∨ report.state = .expired))
    (staleError "prepare exact-owner recovery for" report)
  verifyOriginalTopology status binding
  verifyTarget status binding .old

def verifyHeadCommit (binding : RecoveryBinding) (head : GitCommitIdentity) :
    Except PauseError Unit :=
  Guard.refuse (decide (head.oid ≠ binding.desiredHeadOid ∨
    head.treeOid ≠ binding.desiredHeadTree ∨ head.parents ≠ [binding.desiredBaseOid]))
    (recoveryMismatch "replacement_head")

def attributionUnknown : PauseError where
  category := .validation
  code := "pause_recovery_check_attribution_unknown"
  message := "every final provider check row must have exact CheckRun or StatusContext attribution"

/-- Rows by provider kind; a row of another kind is refused. -/
def countAttribution : List CheckSnapshot → ℕ × ℕ → Except PauseError (ℕ × ℕ)
  | [],counts => .ok counts
  | check::rest,counts =>
      if check.providerKind = some "CheckRun" then countAttribution rest (counts.1 + 1,counts.2)
      else if check.providerKind = some "StatusContext" then
        countAttribution rest (counts.1,counts.2 + 1)
      else .error attributionUnknown

def checkAttribution (target : PullRequestSnapshot) : Except PauseError CheckAttribution := do
  let counts ← countAttribution target.checks (0,0)
  return ⟨target.head.oid,counts.1,counts.2⟩

def mergeRef (pr : PrNumber) : String := "refs/pull/" ++ toString pr ++ "/merge"

def virtualMergeMissing (message : String) : PauseError :=
  validationError "pause_recovery_virtual_merge_missing" message

/-- The final fields a finalize request supplies, in the order they are demanded. -/
def suppliedMerge (input : RecoveryInput) : Except PauseError (List CommitOid × CommitOid) := do
  let tree ← (input.virtualMergeTree).elim (.error (finalFieldRequired "virtual_merge_tree")) .ok
  let parents ← input.virtualMergeParents.mapM (recoveryOid "virtual_merge_parents")
  let tree ← recoveryOid "virtual_merge_tree" tree
  return (parents,tree)

def verifyFinalEvidence (status : StatusOutput) (input : RecoveryInput)
    (binding : RecoveryBinding) (head : GitCommitIdentity) : Except PauseError FinalEvidence := do
  verifyHeadCommit binding head
  verifyOriginalTopology status binding
  -- the caller has verified the target, so it is present
  let target ← (status.analysis.pullRequests[binding.targetPr]?).elim
    (.error (validationError "pause_recovery_target_missing" "")) .ok
  let supplied ← input.checkAttribution.elim (.error (finalFieldRequired "check_attribution")) .ok
  let discovered ← checkAttribution target
  Guard.refuse (decide (supplied ≠ discovered)) (recoveryMismatch "final.check_attribution")
  let candidate ← (status.mergeCandidates.find? fun c => decide (c.pr = binding.targetPr)).elim
    (.error (virtualMergeMissing "provider discovery omitted the target virtual merge candidate")) .ok
  Guard.refuse (decide (candidate.freshness ≠ .fresh ∨
      candidate.base.name ≠ binding.desiredBaseRef ∨ candidate.base.oid ≠ binding.desiredBaseOid ∨
      candidate.head.oid ≠ binding.desiredHeadOid)) (recoveryMismatch "final.virtual_merge_identity")
  let synthetic ← candidate.synthetic.elim
    (.error (virtualMergeMissing "fresh target has no provider virtual merge commit")) .ok
  let merge ← suppliedMerge input
  Guard.refuse (decide (merge.1 ≠ [binding.desiredBaseOid,binding.desiredHeadOid] ∨
      synthetic.gitRef ≠ mergeRef binding.targetPr ∨ synthetic.treeOid ≠ merge.2 ∨
      synthetic.parents ≠ merge.1)) (recoveryMismatch "final.virtual_merge")
  return {
    head := head.oid
    headTree := head.treeOid
    headParents := head.parents
    virtualMerge := synthetic
    checkAttribution := discovered }

def advancePauseEvidence (status : StatusOutput) (record : PauseRecord)
    (binding : RecoveryBinding) : Except PauseError PauseRecord := do
  let caravan ← (status.analysis.fleet.caravan binding.caravanId).elim
    (.error (validationError "pause_recovery_final_topology_missing"
      "final provider topology no longer contains the paused caravan")) .ok
  Guard.refuse (decide (caravan.members ≠ binding.members))
    (recoveryMismatch "final.caravan_members")
  let head ← (status.analysis.pullRequests[binding.caravanId]?).elim
    (.error (validationError "pause_recovery_final_head_missing"
      "final provider topology omitted the paused caravan head")) .ok
  return { record with
    expectedHead := { PullRequestPrecondition.ofSnapshot head with autoMerge := .squash }
    expectedChecks := head.checks
    members := caravan.members }

def verifyReplayedFinalInput (input : RecoveryInput) (evidence : Option FinalEvidence) :
    Except PauseError Unit := do
  let evidence ← evidence.elim (.error (validationError "pause_recovery_terminal_invalid"
    "finalized terminal receipt omitted final evidence")) .ok
  let supplied ← input.checkAttribution.elim (.error (finalFieldRequired "check_attribution")) .ok
  let merge ← suppliedMerge input
  Guard.refuse (decide (evidence.virtualMerge.treeOid ≠ merge.2 ∨
      evidence.virtualMerge.parents ≠ merge.1 ∨ evidence.checkAttribution ≠ supplied))
    (recoveryMismatch "terminal.final_evidence")

def requireSameBinding (expected : RecoveryBinding) (actual : RecoveryRecord) :
    Except PauseError Unit :=
  Guard.refuse (decide (actual.version ≠ 1 ∨ actual.binding ≠ expected))
    (recoveryMismatch "recovery.binding")

def Checkpoint.rank : Checkpoint → ℕ
  | prepared => 0
  | baseCheckpointed => 1
  | headCheckpointed => 2

def requireCheckpoint (actual required : Checkpoint) (requiredPhase : String) :
    Except PauseError Unit :=
  Guard.refuse (decide (actual.rank < required.rank)) {
    category := .validation
    code := "pause_recovery_phase_out_of_order"
    message := requiredPhase ++ " must be durably acknowledged first"
    details := some [("actual_checkpoint",checkpointName actual),
      ("required_checkpoint",checkpointName required)] }

end Checks

end Pause
end Cara
