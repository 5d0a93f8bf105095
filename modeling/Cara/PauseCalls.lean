import Cara.Pause

/-! The three operations on holds as programs over single durable writes, provider calls and
reads, in the order the code issues them. -/
namespace Cara
namespace Pause

open Prog (send ofResult)

inductive Request where
  | acquireWriter (operation : String)
  | status
  | now
  | nowMs
  | newOperationId
  | readRecord (head : PrNumber)
  | readTerminal (path : String)
  | lockCheckpoint (phase : String) (binding : RecoveryBinding) (receiptId : String)
  | writeRecord (record : PauseRecord)
  | writeTerminal (path : String) (receipt : TerminalReceipt)
  | appendAudit (action : String) (record : PauseRecord) (actor : String)
  | removeRecord (head : PrNumber)
  | disableAutoMerge (expected : PullRequestPrecondition)
  | verifyPrecondition (expected : PullRequestPrecondition)
  | enableSquashAutoMerge (expected : PullRequestPrecondition)
  | commitIdentity (oid : CommitOid)

inductive Answer where
  | done
  | failed (error : PauseError)
  | status (status : StatusOutput)
  | clock (value : ℕ)
  | operationId (id : String)
  | record (record : Option PauseRecord)
  | terminal (receipt : Option TerminalReceipt)
  | commit (identity : GitCommitIdentity)

abbrev PauseIo (α : Type) := Prog.Fallible Request Answer PauseError α

section Requests

/-- An answer of another kind than the request stands for a failed call. -/
def unanswered : PauseError := { category := .executionFailure,code := "",message := "" }

def perform (request : Request) : PauseIo Unit := do
  match ← send request with
  | .done => pure ()
  | .failed error => throw error
  | _ => throw unanswered

def readStatus : PauseIo StatusOutput := do
  match ← send .status with
  | .status status => do
      ofResult status.initialization.requireReady
      return status
  | .failed error => throw error
  | _ => throw unanswered

/-- The clocks are total; any other answer stands for one before the epoch. -/
def clock (request : Request) : PauseIo ℕ := do
  match ← send request with
  | .clock value => pure value
  | _ => pure 0

def newOperationId : PauseIo String := do
  match ← send .newOperationId with
  | .operationId id => pure id
  | _ => pure ""

def commitIdentity (oid : CommitOid) : PauseIo GitCommitIdentity := do
  match ← send (.commitIdentity oid) with
  | .commit identity => pure identity
  | .failed error => throw {
      category := .executionFailure
      code := "pause_recovery_provider_read_failed"
      message := "pause-recovery provider read failed at head_commit: " ++ error.message
      details := some [("stage","head_commit"),
        ("next","leave the fence active and retry exact rediscovery")] }
  | _ => throw unanswered

def recordTooLarge : PauseError where
  category := .executionFailure
  code := "pause_record_too_large"
  message := "pause record exceeds its safe bound"

def loadOne (head : PrNumber) : PauseIo (Option PauseRecord) := do
  match ← send (.readRecord head) with
  | .record none => pure none
  | .record (some record) => do
      ofResult (Guard.refuse (decide (maxFileBytes < record.fileBytes)) recordTooLarge)
      return some record
  | .failed error => throw error
  | _ => throw unanswered

/-- The size check counts the compact encoding although the file is indented. -/
def validateRecordSize (record : PauseRecord) : Except PauseError Unit :=
  Guard.refuse (decide (maxFileBytes < record.encodedBytes)) {
    category := .validation
    code := "pause_metadata_too_large"
    message := "pause metadata exceeds its 64 KiB non-secret evidence bound"
    details := some [("next","reduce provider check evidence before retrying; no hold mutation " ++
      "was authorized")] }

def writeRecord (record : PauseRecord) : PauseIo Unit := do
  ofResult (validateRecordSize record)
  perform (.writeRecord record)

end Requests

section Terminals

variable (digest : String → String)

def terminalPath (binding : RecoveryBinding) : String := digest binding.idempotencyKey ++ ".json"

def loadTerminalReceipt (binding : RecoveryBinding) : PauseIo (Option TerminalReceipt) := do
  match ← send (.readTerminal (terminalPath digest binding)) with
  | .terminal none => pure none
  | .terminal (some receipt) => do
      ofResult (Guard.refuse (decide (maxFileBytes < receipt.fileBytes)) {
        category := .executionFailure
        code := "pause_recovery_receipt_too_large"
        message := "terminal recovery receipt exceeds its safe bound" })
      ofResult (Guard.refuse (decide (receipt.binding.idempotencyKey ≠ binding.idempotencyKey))
        (recoveryMismatch "terminal.idempotency_key"))
      return some receipt
  | .failed error => throw error
  | _ => throw unanswered

def writeTerminalReceipt (receipt : TerminalReceipt) : PauseIo Unit := do
  let path := terminalPath digest receipt.binding
  ofResult (Guard.refuse (decide (maxFileBytes < receipt.fileBytes))
    (validationError "pause_recovery_receipt_too_large"
      "terminal recovery receipt exceeds its 64 KiB non-secret evidence bound"))
  match ← send (.readTerminal path) with
  | .terminal (some existing) =>
      ofResult (Guard.refuse (decide (existing ≠ receipt))
        (validationError "pause_recovery_idempotency_conflict"
          "idempotency key already names a different terminal receipt"))
  | _ => perform (.writeTerminal path receipt)

end Terminals

section Ordinary

structure PauseInput where
  headPr : PrNumber
  actor : String
  reason : String
  expiresUnixSecs : Option ℕ := none
  externalReference : Option String := none
deriving DecidableEq

structure ResumeInput where
  headPr : PrNumber
  actor : String
deriving DecidableEq

structure PauseOutput where
  receipt : OperationReceipt
  pause : PauseRecord
  next : String

def step (kind : MutationKind) (state : MutationStepState) (head : PrNumber) (summary : String) :
    MutationStep := { kind := kind,state := state,pr := some head,summary := summary }

def receipt (operation : String) (steps : List MutationStep) : PauseIo OperationReceipt := do
  let id ← newOperationId
  return {
    operationId := id
    operation := operation
    completedSteps := steps
    changed := steps.any fun s => decide (s.state = .completed) }

def noop (operation : String) (record : PauseRecord) (next : String) : PauseIo PauseOutput := do
  let kind := if operation = "pause" then MutationKind.disableAutoMerge else .enableAutoMerge
  let receipt ← receipt operation
    [step kind .alreadySatisfied record.caravanHead "requested hold state already satisfied"]
  return { receipt := receipt,pause := record,next := next }

def mutate (action : String) (request : Request) : PauseIo Unit := do
  match ← send request with
  | .done => pure ()
  | .failed error => throw {
      category := .executionFailure
      code := if error.code = "stale_precondition" then error.code else "pause_mutation_failed"
      message := action ++ " failed: " ++ error.message
      details := some [("next","rediscover and retry `cara " ++ action ++
        "`; exact preconditions prevented an overwrite")] }
  | _ => throw unanswered

def headNotFound (head : PrNumber) : PauseError :=
  validationError "caravan_head_not_found" ("#" ++ toString head ++ " is not a current caravan head")

/-- The record a pause writes; auto-merge is recorded as a resume must restore it. -/
def pausedRecord (input : PauseInput) (caravan : Caravan) (current : PullRequestSnapshot)
    (now : ℕ) : PauseRecord where
  version := 1
  caravanHead := input.headPr
  members := caravan.members
  expectedHead := { PullRequestPrecondition.ofSnapshot current with autoMerge := .squash }
  expectedChecks := current.checks
  actor := input.actor
  reason := input.reason
  pausedUnixSecs := now
  expiresUnixSecs := input.expiresUnixSecs
  externalReference := input.externalReference

def suspendAutoMerge (head : PrNumber) (current : PullRequestSnapshot) : PauseIo MutationStep :=
  if current.autoMerge.enabled then do
    mutate "pause" (.disableAutoMerge (.ofSnapshot current))
    pure (step .disableAutoMerge .completed head "disabled squash auto-merge on paused head")
  else
    pure (step .disableAutoMerge .alreadySatisfied head "paused head auto-merge already disabled")

def freeze (input : PauseInput) (status : StatusOutput) : PauseIo PauseOutput := do
  let caravan ← ofResult ((status.analysis.fleet.caravan input.headPr).elim
    (.error (headNotFound input.headPr)) .ok)
  ofResult (rejectOtherGraphProblems status caravan.members true)
  -- a caravan head always has its snapshot
  let current ← ofResult ((status.analysis.pullRequests[input.headPr]?).elim
    (.error (headNotFound input.headPr)) .ok)
  let now ← clock .now
  let record := pausedRecord input caravan current now
  ofResult (validateRecordSize record)
  let disabled ← suspendAutoMerge input.headPr current
  writeRecord record
  perform (.appendAudit "pause" record input.actor)
  let receipt ← receipt "pause" [disabled]
  return { receipt := receipt,pause := record,next :=
    "leave the hold in place until CI/operator recovery, then explicitly run `cara resume`" }

def pause (input : PauseInput) : PauseIo PauseOutput := do
  ofResult (validateText "actor" input.actor)
  ofResult (validateText "reason" input.reason)
  ofResult (input.externalReference.elim (.ok ()) (validateText "external reference"))
  perform (.acquireWriter "pause")
  let status ← readStatus
  match ← loadOne input.headPr with
  | some existing => do
      let now ← clock .now
      let report := classify status now existing
      if report.state.isEffective then
        noop "pause" existing
          "hold already exists; use `cara resume --head-pr <PR> --actor <actor>` after recovery"
      else throw (staleError "pause" report)
  | none => freeze input status

def rejectOrdinaryResumeDuringRecovery (record : PauseRecord) (head : PrNumber) :
    Except PauseError Unit :=
  match record.recovery with
  | none => .ok ()
  | some recovery => .error {
      category := .validation
      code := "pause_recovery_in_progress"
      message := "ordinary resume cannot consume exact-owner recovery authority"
      details := some [("caravan_id",toString head),("operation_id",recovery.binding.operationId),
        ("owner_project",recovery.binding.ownerProject),("owner_agent",recovery.binding.ownerAgent),
        ("ownership_generation",recovery.binding.ownershipGeneration),
        ("checkpoint",checkpointName recovery.checkpoint),("next",
        "use the exact matching `cara pause-recovery finalize` or `rollback`; never overwrite " ++
        "the pause or bypass the fence")] }

def safelyTerminal (checks : List CheckSnapshot) : Bool :=
  !checks.isEmpty && checks.all fun c =>
    decide (c.state = .success ∨ c.state = .neutral ∨ c.state = .skipped)

/-- The resume authority written before any remote mutation. -/
def authorizeResume (input : ResumeInput) (record : PauseRecord) : PauseIo PauseRecord :=
  match record.resumeAuthorizedBy with
  | some _ => pure record
  | none => do
      let authorized := { record with resumeAuthorizedBy := some input.actor }
      writeRecord authorized
      perform (.appendAudit "resume_authorized" authorized input.actor)
      return authorized

def restoreAutoMerge (status : StatusOutput) (head : PrNumber) (current : PullRequestSnapshot) :
    PauseIo MutationStep :=
  if status.headMergeActor = .caravan then
    pure (step .enableAutoMerge .alreadySatisfied head ("cara is the single merge actor; the " ++
      "resumed root is merged by the next bounded sync tick with no provider auto-merge request"))
  else if current.autoMerge == .squash then
    pure (step .enableAutoMerge .alreadySatisfied head
      "squash auto-merge already restored by a prior resume attempt")
  else do
    mutate "resume" (.verifyPrecondition (.ofSnapshot current))
    mutate "resume" (.enableSquashAutoMerge (.ofSnapshot current))
    pure (step .enableAutoMerge .completed head
      "re-enabled squash auto-merge after exact hold revalidation")

def releaseHold (input : ResumeInput) (status : StatusOutput) (current : PullRequestSnapshot)
    (record : PauseRecord) : PauseIo PauseOutput := do
  let restored ← restoreAutoMerge status input.headPr current
  perform (.appendAudit "resume" record input.actor)
  perform (.removeRecord input.headPr)
  let receipt ← receipt "resume" [restored]
  return { receipt := receipt,pause := record,next :=
    "run `cara status`, then `cara sync` to continue the caravan" }

def resume (input : ResumeInput) : PauseIo PauseOutput := do
  ofResult (validateText "actor" input.actor)
  perform (.acquireWriter "resume")
  let record ← (do
    match ← loadOne input.headPr with
    | some record => pure record
    | none => throw (validationError "pause_not_found" ("caravan #" ++ toString input.headPr ++
        " has no durable pause to resume")))
  ofResult (rejectOrdinaryResumeDuringRecovery record input.headPr)
  let status ← readStatus
  let now ← clock .now
  let report := classify status now record
  ofResult (Guard.refuse (!report.state.isEffective) (staleError "resume" report))
  ofResult (rejectOtherGraphProblems status record.members true)
  -- an effective hold without a recovery has its head in the status
  let current ← ofResult ((status.analysis.pullRequests[input.headPr]?).elim
    (.error (headNotFound input.headPr)) .ok)
  ofResult (Guard.refuse (!safelyTerminal current.checks) {
    category := .validation
    code := "paused_ci_not_ready"
    message := "paused head checks are not all in a safe terminal state"
    details := some [("next","leave the hold in place; after CI is safely terminal, explicitly " ++
      "rerun `cara resume`")] })
  let record ← authorizeResume input record
  releaseHold input status current record

end Ordinary

section Recovery

inductive RecoveryStatus where
  | prepared
  | baseCheckpointed
  | headCheckpointed
  | finalized
  | rolledBack
deriving DecidableEq

inductive FenceState where
  | active
  | released
deriving DecidableEq

inductive RollbackState where
  | available
  | completed
  | unavailable
deriving DecidableEq

structure RecoveryOutput where
  phase : Phase
  status : RecoveryStatus
  operationChanged : Bool
  receiptId : String
  nextAction : String
  binding : RecoveryBinding
  fenceState : FenceState
  rollbackState : RollbackState
  finalEvidence : Option FinalEvidence := none
deriving DecidableEq

def Checkpoint.status : Checkpoint → RecoveryStatus
  | prepared => .prepared
  | baseCheckpointed => .baseCheckpointed
  | headCheckpointed => .headCheckpointed

def Checkpoint.next : Checkpoint → String
  | prepared => "perform the exact provider base transition, reread it, then checkpoint-base"
  | baseCheckpointed =>
      "perform the exact reverse-lease head replacement, reread it, then checkpoint-head"
  | headCheckpointed => "supply exact virtual merge and check attribution to finalize, or " ++
      "restore old leases and rollback"

def fencedOutput (binding : RecoveryBinding) (phase : Phase) (recovery : RecoveryRecord)
    (changed : Bool) : RecoveryOutput where
  phase := phase
  status := recovery.checkpoint.status
  operationChanged := changed
  receiptId := recovery.receiptId
  nextAction := recovery.checkpoint.next
  binding := binding
  fenceState := .active
  rollbackState := .available

variable (digest : String → String)

def TerminalOutcome.phase : TerminalOutcome → Phase
  | finalized => .finalize
  | rolledBack => .rollback

def TerminalOutcome.status : TerminalOutcome → RecoveryStatus
  | finalized => .finalized
  | rolledBack => .rolledBack

def TerminalOutcome.rollbackState : TerminalOutcome → RollbackState
  | finalized => .unavailable
  | rolledBack => .completed

def TerminalOutcome.replayed : TerminalOutcome → String
  | finalized => "exact finalized receipt replayed; the fence remains released"
  | rolledBack => "exact rollback receipt replayed; the fence remains released"

def TerminalOutcome.completed : TerminalOutcome → String
  | finalized => "recovery finalized and the exact pause fence released; rediscover before " ++
      "ordinary sync"
  | rolledBack => "rollback to the exact old provider state verified and the pause fence released"

def releasedOutput (terminal : TerminalReceipt) (changed : Bool) (next : String) :
    RecoveryOutput where
  phase := terminal.outcome.phase
  status := terminal.outcome.status
  operationChanged := changed
  receiptId := terminal.receiptId
  nextAction := next
  binding := terminal.binding
  fenceState := .released
  rollbackState := terminal.outcome.rollbackState
  finalEvidence := terminal.finalEvidence

/-- Remove what a stopped process left after publishing its receipt. -/
def reconcileRecord (binding : RecoveryBinding) : PauseIo Unit := do
  match ← loadOne binding.caravanId with
  | none => pure ()
  | some record =>
      match record.recovery with
      | none => throw (validationError "pause_recovery_terminal_conflict"
          "terminal receipt exists but the remaining pause has no matching recovery owner")
      | some recovery => do
          ofResult (requireSameBinding binding recovery)
          perform (.removeRecord binding.caravanId)

def replayTerminal (phase : Phase) (input : RecoveryInput) (binding : RecoveryBinding)
    (terminal : TerminalReceipt) : PauseIo RecoveryOutput := do
  ofResult (Guard.refuse (decide (terminal.binding ≠ binding)) (recoveryMismatch "terminal.binding"))
  ofResult (Guard.refuse (decide (phase ≠ terminal.outcome.phase))
    (validationError "pause_recovery_already_terminal"
      "this idempotency key already completed a different terminal phase"))
  ofResult (if terminal.outcome = .finalized then
    verifyReplayedFinalInput input terminal.finalEvidence else .ok ())
  reconcileRecord binding
  return releasedOutput terminal false terminal.outcome.replayed

def prepare (input : RecoveryInput) (binding : RecoveryBinding) (record : PauseRecord) :
    PauseIo RecoveryOutput :=
  match record.recovery with
  | some existing => do
      ofResult (requireSameBinding binding existing)
      return fencedOutput binding .prepare existing false
  | none => do
      let status ← readStatus
      let now ← clock .now
      ofResult (verifyPrepare status now record binding)
      let receiptId ← newOperationId
      let timestamp ← clock .nowMs
      let recovery : RecoveryRecord := {
        version := 1
        binding := binding
        checkpoint := .prepared
        receiptId := receiptId
        preparedUnixMs := timestamp
        updatedUnixMs := timestamp }
      let fenced := { record with recovery := some recovery }
      perform (.lockCheckpoint "pause_recovery_prepared" binding receiptId)
      writeRecord fenced
      perform (.appendAudit "pause_recovery_prepared" fenced input.actor)
      return fencedOutput binding .prepare recovery true

def advance (input : RecoveryInput) (binding : RecoveryBinding) (record : PauseRecord)
    (recovery : RecoveryRecord) (phase : Phase) (checkpoint : Checkpoint) (event : String) :
    PauseIo RecoveryOutput := do
  let timestamp ← clock .nowMs
  let recovery := { recovery with checkpoint := checkpoint,updatedUnixMs := timestamp }
  let advanced := { record with recovery := some recovery }
  perform (.lockCheckpoint event binding recovery.receiptId)
  writeRecord advanced
  perform (.appendAudit event advanced input.actor)
  return fencedOutput binding phase recovery true

def verifyHead (binding : RecoveryBinding) : PauseIo Unit := do
  let head ← commitIdentity binding.desiredHeadOid
  ofResult (verifyHeadCommit binding head)

def checkpointBase (input : RecoveryInput) (binding : RecoveryBinding) (record : PauseRecord)
    (recovery : RecoveryRecord) (status : StatusOutput) : PauseIo RecoveryOutput :=
  match recovery.checkpoint with
  | .prepared => do
      ofResult (verifyTarget status binding .desiredBaseOldHead)
      advance input binding record recovery .checkpointBase .baseCheckpointed
        "pause_recovery_base_checkpointed"
  | .baseCheckpointed => do
      ofResult (verifyTarget status binding .desiredBaseOldHead)
      return fencedOutput binding .checkpointBase recovery false
  | .headCheckpointed => do
      ofResult (verifyTarget status binding .desired)
      verifyHead binding
      return fencedOutput binding .checkpointBase recovery false

def checkpointHead (input : RecoveryInput) (binding : RecoveryBinding) (record : PauseRecord)
    (recovery : RecoveryRecord) (status : StatusOutput) : PauseIo RecoveryOutput := do
  ofResult (requireCheckpoint recovery.checkpoint .baseCheckpointed "checkpoint-base")
  ofResult (verifyTarget status binding .desired)
  verifyHead binding
  if recovery.checkpoint = .headCheckpointed then
    return fencedOutput binding .checkpointHead recovery false
  else
    advance input binding record recovery .checkpointHead .headCheckpointed
      "pause_recovery_head_checkpointed"

def release (input : RecoveryInput) (record : PauseRecord) (terminal : TerminalReceipt)
    (action : String) : PauseIo RecoveryOutput := do
  writeTerminalReceipt digest terminal
  perform (.appendAudit action record input.actor)
  perform (.removeRecord terminal.binding.caravanId)
  return releasedOutput terminal true terminal.outcome.completed

def finalize (input : RecoveryInput) (binding : RecoveryBinding) (record : PauseRecord)
    (recovery : RecoveryRecord) (status : StatusOutput) : PauseIo RecoveryOutput := do
  ofResult (requireCheckpoint recovery.checkpoint .headCheckpointed "checkpoint-head")
  ofResult (verifyTarget status binding .desired)
  let head ← commitIdentity binding.desiredHeadOid
  let evidence ← ofResult (verifyFinalEvidence status input binding head)
  let advanced ← ofResult (advancePauseEvidence status record binding)
  perform (.lockCheckpoint "pause_recovery_final_verified" binding recovery.receiptId)
  -- the record keeps its recovery until the receipt is durable
  writeRecord advanced
  let completed ← clock .nowMs
  release digest input advanced {
    version := 1
    binding := binding
    outcome := .finalized
    receiptId := recovery.receiptId
    completedUnixMs := completed
    finalEvidence := some evidence } "pause_recovery_finalized"

def rollback (input : RecoveryInput) (binding : RecoveryBinding) (record : PauseRecord)
    (recovery : RecoveryRecord) (status : StatusOutput) : PauseIo RecoveryOutput := do
  ofResult (verifyTarget status binding .old)
  ofResult (verifyOriginalTopology status binding)
  perform (.lockCheckpoint "pause_recovery_rollback_verified" binding recovery.receiptId)
  let completed ← clock .nowMs
  release digest input record {
    version := 1
    binding := binding
    outcome := .rolledBack
    receiptId := recovery.receiptId
    completedUnixMs := completed } "pause_recovery_rolled_back"

def runPhase (phase : Phase) (input : RecoveryInput) (binding : RecoveryBinding)
    (record : PauseRecord) : PauseIo RecoveryOutput :=
  if phase = .prepare then prepare input binding record
  else do
    let recovery ← ofResult (record.recovery.elim
      (.error (validationError "pause_recovery_not_prepared" ("run the exact matching `cara " ++
        "pause-recovery prepare` before any provider mutation"))) .ok)
    ofResult (requireSameBinding binding recovery)
    let status ← readStatus
    match phase with
    | .prepare => throw unanswered
    | .checkpointBase => checkpointBase input binding record recovery status
    | .checkpointHead => checkpointHead input binding record recovery status
    | .finalize => finalize digest input binding record recovery status
    | .rollback => rollback digest input binding record recovery status

def pauseRecovery (phase : Phase) (input : RecoveryInput) : PauseIo RecoveryOutput := do
  let binding ← ofResult (recoveryBinding input)
  perform (.acquireWriter "pause-recovery")
  match ← loadTerminalReceipt digest binding with
  | some terminal => replayTerminal phase input binding terminal
  | none => do
      match ← loadOne binding.caravanId with
      | some record => runPhase digest phase input binding record
      | none => throw (validationError "pause_not_found" ("caravan #" ++
          toString binding.caravanId ++ " has no durable pause for exact-owner recovery"))

end Recovery

end Pause
end Cara
