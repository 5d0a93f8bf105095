import Cara.Model
import Cara.Lib.Guard
import Cara.Lib.Prog
import Cara.Lib.Saturating
import Cara.Lib.Text

/-! The repository operation lock: an owner file below Git's common metadata directory. Each
operation is a program over single file-system and process requests. -/
namespace Cara
namespace Lock

open Prog (send attempt ofResult)

structure CheckpointCompaction where
  originalBytes : ℕ
  originalDigest : String
  keys : List String := []
  counts : List (String × ℕ) := []
deriving DecidableEq

structure OperationLockCheckpoint (V : Type) where
  phase : String
  updatedUnixMs : ℕ
  evidence : V
  evidenceCompaction : Option CheckpointCompaction := none
  providerStateIndeterminate : Bool
deriving DecidableEq

structure OperationLockOwner (V : Type) where
  version : ℕ
  pid : ℕ
  operation : String
  createdUnixSecs : ℕ
  token : String
  checkpoint : Option (OperationLockCheckpoint V) := none
deriving DecidableEq

structure OperationLockRecovery (V : Type) where
  removedOwner : OperationLockOwner V
  ageSecs : ℕ
  ownerAlive : Bool
  tokenVerified : Bool
deriving DecidableEq

structure OperationLock (V : Type) where
  owner : OperationLockOwner V
  fileOpen : Bool
  recoveredDeadOwner : Option (OperationLockRecovery V) := none
deriving DecidableEq

def maxOwnerBytes : ℕ := 16 * 1024

inductive IoErrorKind where
  | notFound
  | alreadyExists
  | invalidData
  | other
deriving DecidableEq

structure IoError where
  kind : IoErrorKind
  message : String
deriving DecidableEq

inductive CommonDir where
  | timeout (message : String)
  | spawnFailed (message : String)
  | notARepository
  | blank
  | found
deriving DecidableEq

inductive Syscall (V : Type) where
  | commonDir
  | createDirectory
  | identity
  | clock
  | createNew
  | writeOwner (owner : OperationLockOwner V)
  | metadata
  | readFile
  | probe (pid : ℕ)
  /-- Unlink the owner file; a recovery unlinks another process's. -/
  | unlink (recovery : Bool)
  | writeTemporary (owner : OperationLockOwner V)
  | removeTemporary
  | rename (owner : OperationLockOwner V)
  | reopen
deriving DecidableEq

inductive Answer (V : Type) where
  | done
  | error (error : IoError)
  | commonDir (outcome : CommonDir)
  | identity (pid nanos sequence : ℕ)
  /-- Milliseconds since the epoch, unless the clock stands before it. -/
  | clock (millis : Option ℕ)
  /-- Nanoseconds since the file was modified. -/
  | metadata (age : ℕ)
  /-- The owner of a completely written file; a torn one has none. -/
  | contents (owner : Option (OperationLockOwner V))
  | alive (value : Bool)
deriving DecidableEq

abbrev LockError (V : Type) := AppError (List (String × OperationLockOwner V))

abbrev LockIo (V α : Type) := Prog.Fallible (Syscall V) (Answer V) (LockError V) α

structure LockCodec (V : Type) where
  ownerBytes : OperationLockOwner V → ℕ
  evidenceBytes : V → ℕ
  digestHex : V → String
  /-- Keys of an object with the lengths of its arrays. -/
  topLevel : V → List (String × Option ℕ)
  compacted : V
  minimal : V

variable {V : Type}

def validation (code message : String) (owners : List (String × OperationLockOwner V)) :
    LockError V :=
  ⟨.validation,code,message,some owners⟩

def lockIoError (code message : String) (error : IoError) : LockError V :=
  ⟨.executionFailure,code,message ++ ": " ++ error.message,none⟩

def raceError (message : String) : LockError V :=
  ⟨.executionFailure,"operation_lock_race",message,none⟩

section Requests

def foreignAnswer : IoError := ⟨.other,"unexpected answer"⟩

def unitOf : Answer V → Except IoError Unit
  | .done => .ok ()
  | .error error => .error error
  | _ => .error foreignAnswer

def perform (q : Syscall V) : LockIo V (Except IoError Unit) := do return unitOf (← send q)

def metadata : LockIo V (Except IoError ℕ) := do
  match ← send .metadata with
  | .metadata age => return .ok age
  | .error error => return .error error
  | _ => return .error foreignAnswer

def clockSecs : LockIo V (Option ℕ) := do
  match ← send .clock with
  | .clock millis => return millis.map (· / 1000)
  | _ => return none

def clockMillis : LockIo V ℕ := do
  match ← send .clock with
  | .clock millis => return min (millis.getD 0) Saturating.maxU64
  | _ => return 0

def readOwner (codec : LockCodec V) : LockIo V (Except IoError (OperationLockOwner V)) := do
  match ← send .readFile with
  | .contents (some owner) =>
      if codec.ownerBytes owner ≤ maxOwnerBytes then return .ok owner
      else return .error ⟨.invalidData,"EOF while parsing a value"⟩
  | .contents none => return .error ⟨.invalidData,"EOF while parsing a value"⟩
  | .error error => return .error error
  | _ => return .error foreignAnswer

def processIsAlive (pid : ℕ) : LockIo V Bool := do
  if 2147483648 ≤ pid then
    throw (validation "operation_lock_pid_invalid"
      "the operation lock owner PID is outside the platform range" [])
  else if pid = 0 then
    throw (validation "operation_lock_pid_invalid"
      "the operation lock owner PID must be positive" [])
  else
    match ← send (.probe pid) with
    | .alive value => return value
    | .error error => throw ⟨.executionFailure,"operation_lock_process_probe_failed",
        "could not determine whether operation lock owner PID exists: " ++ error.message,none⟩
    | _ => throw (lockIoError "operation_lock_process_probe_failed"
        "could not determine whether operation lock owner PID exists" foreignAnswer)

def lockPath : LockIo V Unit := do
  match ← send .commonDir with
  | .commonDir .found => return ()
  | .commonDir (.timeout message) =>
      throw ⟨.timeout,"operation_lock_command_timeout",message,none⟩
  | .commonDir (.spawnFailed message) => throw ⟨.executionFailure,"git_spawn_failed",
      "could not execute Git while locating lock metadata: " ++ message,none⟩
  | .commonDir .notARepository => throw ⟨.targetNotFound,"git_repository_not_found",
      "the operation lock requires a Git repository",none⟩
  | _ => throw ⟨.executionFailure,"git_common_dir_missing",
      "Git did not return its common metadata directory",none⟩

def newOwner (operation : String) : LockIo V (OperationLockOwner V) := do
  match ← send .identity with
  | .identity pid nanos sequence => return {
      version := 1
      pid := pid
      operation := operation
      createdUnixSecs := nanos / 10 ^ 9
      token := toString pid ++ "-" ++ toString nanos ++ "-" ++ toString sequence }
  | _ => throw (lockIoError "operation_lock_create_failed"
      "could not create the repository operation lock" foreignAnswer)

/-- Wall-clock age of an owner, the file's own age when the clock is unusable. -/
def lockAgeSecs (fileAge : ℕ) (owner : OperationLockOwner V) : LockIo V ℕ := do
  match ← clockSecs with
  | some now => return now - owner.createdUnixSecs
  | none => return fileAge / 10 ^ 9

end Requests

section Recovery

variable [DecidableEq V] (codec : LockCodec V)

inductive DeadOwnerProbe (V : Type) where
  | gone
  | live
  | recovered (receipt : OperationLockRecovery V)

/-- The owner was read again unchanged and its process is still dead. -/
def unlinkDeadOwner (fileAge : ℕ) (latest : OperationLockOwner V) :
    LockIo V (DeadOwnerProbe V) := do
  match ← perform (.unlink true) with
  | .error error => throw (lockIoError "operation_lock_recovery_failed"
      "could not remove a proven-dead operation lock" error)
  | .ok () =>
      let ageSecs ← lockAgeSecs fileAge latest
      return .recovered ⟨latest,ageSecs,false,true⟩

def recoverDeadOwnerForAcquire : LockIo V (DeadOwnerProbe V) := do
  match ← metadata with
  | .error error =>
      if error.kind = .notFound then return .gone
      else
        throw (lockIoError "operation_lock_inspection_failed"
          "could not inspect the existing operation lock" error)
  | .ok fileAge =>
    match ← readOwner codec with
    | .error error =>
        if error.kind = .notFound then return .gone
        else
          throw (lockIoError "operation_lock_owner_invalid"
            "could not read existing operation lock owner evidence" error)
    | .ok owner =>
      if ← processIsAlive owner.pid then return .live
      else
        match ← readOwner codec with
        | .error error =>
            if error.kind = .notFound then return .gone
            else
              throw (lockIoError "operation_lock_recovery_inspection_failed"
                "could not re-read dead owner evidence before cleanup" error)
        | .ok latest =>
            if latest ≠ owner ∨ latest.token ≠ owner.token then
              throw (validation "operation_lock_owner_changed"
                "operation lock ownership changed during dead-owner cleanup; refusing removal"
                [("inspected_owner",owner),("latest_owner",latest)])
            else if ← processIsAlive latest.pid then return .live
            else unlinkDeadOwner fileAge latest

def existingLockError (staleAfter : ℕ) : LockIo V (Except IoError (LockError V)) := do
  match ← metadata with
  | .error error => return .error error
  | .ok age =>
      let owner := (← readOwner codec).toOption
      let owners := (owner.map fun o => ("owner",o)).toList
      if staleAfter ≤ age then
        return .ok (validation "stale_operation_lock"
          "a repository operation lock is older than the configured stale threshold" owners)
      else
        return .ok (validation "operation_lock_contended"
          "another mutating Caravan operation owns this repository" owners)

structure OperationLockStatus (V : Type) where
  owner : Option (OperationLockOwner V) := none
  ageSecs : ℕ := 0
  ownerAlive : Bool := false
  stale : Bool := false

def inspectLock (staleAfter : ℕ) : LockIo V (OperationLockStatus V) := do
  lockPath
  match ← metadata with
  | .error error =>
      if error.kind = .notFound then return {}
      else
        throw (lockIoError "operation_lock_inspection_failed"
          "could not inspect the operation lock" error)
  | .ok fileAge =>
    match ← readOwner codec with
    | .error error => throw (lockIoError "operation_lock_owner_invalid"
        "could not read operation lock owner evidence" error)
    | .ok owner =>
        let ageSecs ← lockAgeSecs fileAge owner
        let ownerAlive ← processIsAlive owner.pid
        return ⟨some owner,ageSecs,ownerAlive,decide (staleAfter / 10 ^ 9 ≤ ageSecs)⟩

/-- What an inspection has to show before a recovery re-reads the owner. -/
def recoverable (status : OperationLockStatus V) (expectedToken : String) :
    Except (LockError V) (OperationLockOwner V) :=
  match status.owner with
  | none => .error ⟨.targetNotFound,"operation_lock_not_found",
      "there is no Caravan operation lock to recover",none⟩
  | some owner =>
      if owner.token ≠ expectedToken then
        .error (validation "operation_lock_token_mismatch"
          "the supplied recovery token does not match the current lock owner"
          [("actual_owner",owner)])
      else if status.stale = false then
        .error (validation "operation_lock_not_stale"
          "the operation lock has not reached the required recovery age" [("owner",owner)])
      else if status.ownerAlive then
        .error (validation "operation_lock_owner_alive"
          "refusing to recover an operation lock whose recorded PID is alive" [("owner",owner)])
      else .ok owner

def recoverStaleLock (staleAfter : ℕ) (expectedToken : String) :
    LockIo V (OperationLockRecovery V) := do
  ofResult (Guard.refuse (Text.isBlank expectedToken) ⟨.validation,"operation_lock_token_required",
    "recovery requires the exact token returned by `cara lock status`",none⟩)
  let status ← inspectLock codec staleAfter
  let owner ← ofResult (recoverable status expectedToken)
  lockPath
  match ← readOwner codec with
  | .error error => throw (lockIoError "operation_lock_recovery_inspection_failed"
      "could not re-read owner evidence before recovery" error)
  | .ok latest =>
      if latest ≠ owner ∨ latest.token ≠ expectedToken then
        throw (validation "operation_lock_owner_changed"
          "operation lock ownership changed during recovery; refusing removal"
          [("inspected_owner",owner),("latest_owner",latest)])
      else if ← processIsAlive latest.pid then
        throw (validation "operation_lock_owner_alive"
          "the recorded PID became live during recovery; refusing removal" [("owner",latest)])
      else
        match ← perform (.unlink true) with
        | .error error => throw (lockIoError "operation_lock_recovery_failed"
            "could not remove the verified-stale operation lock" error)
        | .ok () => return ⟨latest,status.ageSecs,false,true⟩

end Recovery

section Guards

variable [DecidableEq V] (codec : LockCodec V)

/-- Attempts to create the owner file; each may first clean a dead owner. -/
def acquireAttempts (staleAfter : ℕ) (owner : OperationLockOwner V) :
    List ℕ → Option (OperationLockRecovery V) → LockIo V (OperationLock V)
  | [],_ => throw (raceError "the operation lock repeatedly changed while it was being acquired")
  | attempt::rest,recovered => do
      match ← perform .createNew with
      | .ok () =>
          match ← perform (.writeOwner owner) with
          | .ok () => return ⟨owner,true,recovered⟩
          | .error error =>
              let _ ← perform (.unlink false)
              throw (lockIoError "operation_lock_write_failed"
                "could not persist operation lock owner evidence" error)
      | .error error =>
          if error.kind = .alreadyExists then
            match ← recoverDeadOwnerForAcquire codec with
            | .recovered receipt =>
                acquireAttempts staleAfter owner rest (recovered.or (some receipt))
            | .gone =>
                if attempt < 2 then acquireAttempts staleAfter owner rest recovered
                else
                  throw (raceError
                    "the operation lock repeatedly changed during dead-owner inspection")
            | .live =>
                match ← existingLockError codec staleAfter with
                | .ok error => throw error
                | .error readError =>
                    if readError.kind = .notFound ∧ attempt < 2 then
                      acquireAttempts staleAfter owner rest recovered
                    else
                      throw (lockIoError "operation_lock_inspection_failed"
                        "the operation lock exists but its owner evidence could not be read"
                        readError)
          else
            throw (lockIoError "operation_lock_create_failed"
              "could not create the repository operation lock" error)

def acquireWithStaleAfter (operation : String) (staleAfter : ℕ) : LockIo V (OperationLock V) := do
  ofResult (Guard.refuse (Text.isBlank operation || operation.toList.any fun c => c = '\n' || c = '\r')
    ⟨.validation,"invalid_operation_name",
      "a lock operation name must be non-empty and single-line",none⟩)
  lockPath
  match ← perform .createDirectory with
  | .error error => throw (lockIoError "operation_lock_directory_failed"
      "could not create Caravan's Git metadata directory" error)
  | .ok () =>
      let owner ← newOwner operation
      acquireAttempts codec staleAfter owner [0,1,2] none

/-- Replace oversized evidence with counts, keys and an exact digest. -/
def compactCheckpointEvidence (c : OperationLockCheckpoint V) : OperationLockCheckpoint V :=
  { c with
    evidence := codec.compacted
    evidenceCompaction := some {
      originalBytes := min (codec.evidenceBytes c.evidence) Saturating.maxU64
      originalDigest := codec.digestHex c.evidence
      keys := (codec.topLevel c.evidence).map Prod.fst
      counts := (codec.topLevel c.evidence).filterMap fun row => row.2.map fun n => (row.1,n) } }

def minimizeCheckpointEvidence (c : OperationLockCheckpoint V) : OperationLockCheckpoint V :=
  { c with
    evidence := codec.minimal
    evidenceCompaction := c.evidenceCompaction.map fun compaction =>
      { compaction with keys := [],counts := [] } }

/-- The owner with a checkpoint, its evidence reduced until the file is small enough. -/
def boundedOwner (owner : OperationLockOwner V) (c : OperationLockCheckpoint V) :
    OperationLockOwner V :=
  let whole := { owner with checkpoint := some c }
  let compacted := { owner with checkpoint := some (compactCheckpointEvidence codec c) }
  let minimal := { owner with
    checkpoint := some (minimizeCheckpointEvidence codec (compactCheckpointEvidence codec c)) }
  if codec.ownerBytes whole ≤ maxOwnerBytes then whole
  else if codec.ownerBytes compacted ≤ maxOwnerBytes then compacted
  else minimal

/-- Replace the owner file atomically while its token is still the guard's. -/
def OperationLock.persistCheckpointBytes (lock : OperationLock V) : LockIo V (OperationLock V) := do
  match ← perform (.writeTemporary lock.owner) with
  | .error error =>
      let _ ← perform .removeTemporary
      throw (lockIoError "operation_lock_checkpoint_write_failed"
        "could not persist operation lock checkpoint temporary file" error)
  | .ok () =>
    match ← readOwner codec with
    | .error error =>
        let _ ← perform .removeTemporary
        throw (lockIoError "operation_lock_checkpoint_inspection_failed"
          "could not revalidate owner before atomic checkpoint" error)
    | .ok latest =>
        if latest.token ≠ lock.owner.token then do
          let _ ← perform .removeTemporary
          throw (validation "operation_lock_owner_changed"
            "operation lock owner changed before atomic checkpoint; refusing replacement"
            [("expected_owner",lock.owner),("actual_owner",latest)])
        else
          match ← perform (.rename lock.owner) with
          | .error error =>
              let _ ← perform .removeTemporary
              throw (lockIoError "operation_lock_checkpoint_write_failed"
                "could not atomically replace operation lock checkpoint" error)
          | .ok () =>
            match ← perform .reopen with
            | .error error => throw (lockIoError "operation_lock_checkpoint_reopen_failed"
                "could not reopen operation lock after atomic checkpoint" error)
            | .ok () => return { lock with fileOpen := true }

/-- The guard after a checkpoint, with the result. Evidence is bound to the guard before it
is persisted. -/
def OperationLock.checkpoint (lock : OperationLock V) (phase : String) (evidence : V) (indeterminate : Bool) :
    LockIo V (OperationLock V × Except (LockError V) Unit) := do
  match ← readOwner codec with
  | .error error => return (lock,.error (lockIoError "operation_lock_checkpoint_inspection_failed"
      "could not verify operation lock ownership before checkpoint" error))
  | .ok existing =>
      if existing.token ≠ lock.owner.token then
        return (lock,.error (validation "operation_lock_owner_changed"
          "refusing to checkpoint an operation lock now owned by another process"
          [("expected_owner",lock.owner),("actual_owner",existing)]))
      else
        let updatedUnixMs ← clockMillis
        let next := { lock with owner := boundedOwner codec lock.owner {
          phase := phase
          updatedUnixMs := updatedUnixMs
          evidence := evidence
          providerStateIndeterminate := indeterminate } }
        if maxOwnerBytes < codec.ownerBytes next.owner then
          return (next,.error (validation "operation_lock_checkpoint_too_large"
            "operation lock checkpoint exceeds the bounded owner-file limit" []))
        else if next.fileOpen = false then
          return (next,.error ⟨.executionFailure,"operation_lock_checkpoint_file_closed",
            "cannot checkpoint a released operation lock",none⟩)
        else
          match ← attempt (next.persistCheckpointBytes codec) with
          | .ok persisted => return (persisted,.ok ())
          | .error error => return (next,.error error)

/-- Dropping a guard removes the file while its token is the guard's; errors are ignored. -/
def OperationLock.drop (lock : OperationLock V) : LockIo V Unit := do
  match ← readOwner codec with
  | .ok owner =>
      if owner.token = lock.owner.token then do
        let _ ← perform (.unlink false)
        return ()
      else return ()
  | .error _ => return ()

def OperationLock.releaseInner (lock : OperationLock V) : LockIo V Unit := do
  match ← readOwner codec with
  | .error error => throw (lockIoError "operation_lock_release_inspection_failed"
      "could not verify operation lock ownership before release" error)
  | .ok existing =>
      if existing.token ≠ lock.owner.token then
        throw (validation "operation_lock_owner_changed"
          "refusing to remove an operation lock now owned by another process"
          [("expected_owner",lock.owner),("actual_owner",existing)])
      else
        match ← perform (.unlink false) with
        | .error error => throw (lockIoError "operation_lock_release_failed"
            "could not remove the repository operation lock" error)
        | .ok () => return ()

def OperationLock.release (lock : OperationLock V) : LockIo V (Except (LockError V) Unit) := do
  match ← attempt (lock.releaseInner codec) with
  | .ok () => return .ok ()
  | .error error =>
      lock.drop codec
      return .error error

end Guards

end Lock
end Cara
