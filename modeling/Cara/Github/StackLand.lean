import Cara.Github.StackMerge

/-! Ordered, lock-fenced landing transaction. The adapters below perform one exact provider
step each; this layer owns the order of the steps and the single release of the lock. -/
namespace Cara
namespace Github

open Prog (mapError ofResult crashed)

def landSchemaVersion : ℕ := 2

def landCheckpointSeal : Sealing StackLandCheckpoint where
  get c := c.evidenceHash
  set c h := { c with evidenceHash := h }
  get_set _ _ := rfl
  set_set _ _ _ := rfl

def phaseShape (c : StackLandCheckpoint) : Bool :=
  match c.phase with
  | .planned => c.branchLock.isNone && c.merge.isNone && c.terminalStatus.isNone &&
      c.lockRelease.isNone
  | .locked | .submitting => c.branchLock.isSome && c.merge.isNone && c.terminalStatus.isNone &&
      c.lockRelease.isNone
  | .submitted => c.branchLock.isSome && c.merge.isSome && c.terminalStatus.isNone &&
      c.lockRelease.isNone
  | .terminal => c.branchLock.isSome && c.terminalStatus.isSome && c.lockRelease.isNone
  | .released => c.branchLock.isSome && c.terminalStatus.isSome && c.lockRelease.isSome

def StackLandPhase.debug : StackLandPhase → String
  | .planned => "Planned"
  | .locked => "Locked"
  | .submitting => "Submitting"
  | .submitted => "Submitted"
  | .terminal => "Terminal"
  | .released => "Released"

def StackLandError.display (w : Wire) : StackLandError → String
  | .invalidCheckpoint diagnostic => "invalid Stack land checkpoint: " ++ diagnostic
  | .outOfOrder expected actual => "Stack land step requires " ++ expected ++ ", observed " ++
      actual.debug
  | .lock error => error.display w
  | .merge error => error.display w

def StackLandCheckpoint.outstandingLock (c : StackLandCheckpoint) :
    Option StackBranchLockGeneration :=
  match c.phase with
  | .planned | .released => none
  | .locked | .submitting | .submitted | .terminal => c.branchLock

section Land

variable (w : Wire)

def StackLandCheckpoint.sealed : StackLandCheckpoint → StackLandCheckpoint :=
  landCheckpointSeal.sealed w.landCheckpoint

def StackLandCheckpoint.observeConvergencePending (c : StackLandCheckpoint) (problem : String) :
    StackLandCheckpoint :=
  StackLandCheckpoint.sealed w { c with
    convergenceObservations := min (c.convergenceObservations + 1) Saturating.maxU32
    convergenceLastProblem := some problem }

/-- A kept terminal receipt belongs to this transaction and carries its status. -/
def receiptBound (c : StackLandCheckpoint) : Bool :=
  c.terminalReceipt.all fun receipt => receipt.verify w &&
    decide (receipt.merge.repository = c.repository ∧ receipt.merge.plan = c.plan ∧
      some receipt.merge.status = c.terminalStatus)

def StackLandCheckpoint.verify (c : StackLandCheckpoint) : Bool :=
  decide (c.schemaVersion = landSchemaVersion) && !c.providerAtomic && phaseShape c &&
    receiptBound w c && landCheckpointSeal.verify w.landCheckpoint c

def validateLand (repository : RepositoryId) (c : StackLandCheckpoint) :
    Except StackLandError Unit :=
  if c.repository ≠ repository ∨ c.verify w = false then
    .error (.invalidCheckpoint "schema, repository, phase evidence, or hash is invalid")
  else .ok ()

def nativeStackLandBegin (repository : RepositoryId) (plan : StackAsyncMergePlan) :
    StackLandCheckpoint :=
  StackLandCheckpoint.sealed w {
    schemaVersion := landSchemaVersion
    repository := repository
    plan := plan
    phase := .planned }

def nativeStackLandLock (repository : RepositoryId) (c : StackLandCheckpoint) :
    Io StackLandError StackLandCheckpoint := do
  ofResult (validateLand w repository c)
  if StackLandPhase.locked.rank ≤ c.phase.rank then return c
  else
    let receipt ← mapError .lock (nativeStackBranchLockAcquire w repository c.plan.branchLockPlan)
    match receipt.lock with
    | none => throw (.invalidCheckpoint "lock acquisition returned no exact ruleset generation")
    | some lock => return StackLandCheckpoint.sealed w { c with
        phase := .locked
        branchLock := some lock }

def nativeStackLandMarkSubmitting (repository : RepositoryId) (c : StackLandCheckpoint) :
    Except StackLandError StackLandCheckpoint := do
  validateLand w repository c
  if StackLandPhase.submitting.rank ≤ c.phase.rank then return c
  else if c.phase ≠ .locked then .error (.outOfOrder "an acquired complete-group lock" c.phase)
  else return StackLandCheckpoint.sealed w { c with phase := .submitting }

/-- A crash at the marker is sealed as indeterminate, never submitted again. -/
def nativeStackLandAbandonUncertainSubmission (repository : RepositoryId)
    (c : StackLandCheckpoint) : Except StackLandError StackLandCheckpoint := do
  validateLand w repository c
  if c.phase ≠ .submitting then
    .error (.outOfOrder "a durable pre-submit marker with no UUID" c.phase)
  else return StackLandCheckpoint.sealed w { c with
    phase := .terminal
    terminalStatus := some .indeterminate }

/-- Every terminal word of the provider, indeterminate included, ends at a releasable lock. -/
def advance (c : StackLandCheckpoint) (receipt : StackLockedMergeReceipt) :
    StackLandCheckpoint :=
  let next := { c with branchLock := some receipt.branchLock,merge := receipt.checkpoint }
  StackLandCheckpoint.sealed w (match receipt.merge.status with
    | .merged | .failed | .indeterminate => { next with
        phase := .terminal
        terminalStatus := some receipt.merge.status
        terminalReceipt := some receipt }
    | .submitted | .pending | .enqueued => { next with phase := .submitted })

def nativeStackLandSubmit (repository : RepositoryId) (c : StackLandCheckpoint) :
    Io StackLandError StackLandCheckpoint := do
  ofResult (validateLand w repository c)
  if StackLandPhase.submitted.rank ≤ c.phase.rank then return c
  else if c.phase ≠ .submitting then
    throw (.outOfOrder "an acquired complete-group lock" c.phase)
  else match c.branchLock with
    | none => crashed
    | some lock =>
        let receipt ← mapError .merge (nativeStackMergeSubmitLocked w repository c.plan lock)
        return advance w c receipt

def nativeStackLandPoll (repository : RepositoryId) (c : StackLandCheckpoint) :
    Io StackLandError StackLandCheckpoint := do
  ofResult (validateLand w repository c)
  if StackLandPhase.terminal.rank ≤ c.phase.rank then return c
  else match c.phase,c.merge with
    | .submitted,some merge =>
        let receipt ← mapError .merge (nativeStackMergePollLocked w repository merge)
        return advance w c receipt
    | actual,_ =>
        throw (.outOfOrder "a submitted merge with a durable UUID checkpoint" actual)

/-- With a saved UUID its status is read, without one only the provider's truth. -/
def reobserveMerge (repository : RepositoryId) (c : StackLandCheckpoint) :
    Io StackMergeError StackLockedMergeReceipt :=
  match c.merge,c.branchLock with
  | some merge,_ => nativeStackMergeReobserveReleased w repository merge
  | none,some lock => nativeStackMergeReobserveUnidentified w repository c.plan lock
  | none,none => crashed

/-- Re-observe an indeterminate result after release. Only a proved landing or a proved
rejection resolves it; fresh unknown evidence is kept. -/
def nativeStackLandReobserveReleased (repository : RepositoryId) (c : StackLandCheckpoint) :
    Io StackLandError StackLandCheckpoint := do
  ofResult (validateLand w repository c)
  if c.phase ≠ .released ∨ c.terminalStatus ≠ some .indeterminate then
    throw (.outOfOrder "a released indeterminate checkpoint" c.phase)
  else
    let receipt ← mapError .merge (reobserveMerge w repository c)
    match receipt.merge.status with
    | .merged | .failed => return StackLandCheckpoint.sealed w { c with
        merge := receipt.checkpoint
        terminalStatus := some receipt.merge.status
        terminalReceipt := some receipt }
    | .indeterminate => return StackLandCheckpoint.sealed w { c with
        terminalReceipt := some receipt }
    | _ => return StackLandCheckpoint.sealed w c

def nativeStackLandRelease (repository : RepositoryId) (c : StackLandCheckpoint) :
    Io StackLandError StackLandCheckpoint := do
  ofResult (validateLand w repository c)
  if c.phase = .released then return c
  else match c.phase,c.branchLock with
    | .terminal,some lock =>
        let receipt ← mapError .lock
          (nativeStackBranchLockRelease w repository c.plan.branchLockPlan lock)
        return StackLandCheckpoint.sealed w { c with
          phase := .released
          lockRelease := some receipt }
    | actual,_ =>
        throw (.outOfOrder "terminal provider proof for every selected entry" actual)

end Land

end Github
end Cara
