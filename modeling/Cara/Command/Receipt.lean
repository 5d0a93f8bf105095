import Cara.Command.Spec
import Cara.Lib.Fnv

/-! The write-ahead receipt of one sync tick: an attempt is recorded before its subprocess starts. -/
namespace Cara
namespace Command

inductive AttemptState where
  | mayHaveRun
  | notStarted
  | returned
deriving DecidableEq

structure WriteAttempt where
  program : String
  intent : CommandIntent
  argumentsHash : String
  state : AttemptState
  exitCode : Option ℤ
deriving DecidableEq

inductive ReceiptState where
  | unfinished
  | completed
  | failedBeforeProviderWrite
  | failed
deriving DecidableEq

structure SyncReceipt where
  operationId : String
  state : ReceiptState
  writes : List WriteAttempt
  nativeOperations : List String
  errorCode : Option String
deriving DecidableEq

inductive Saved where
  | ok
  | failed (error : String) (replaced : Bool)
deriving DecidableEq

def Saved.error : Saved → Option String
  | .ok => none
  | .failed error _ => some error

inductive Event where
  | beforeWrite (intent : CommandIntent) (authorised : Bool)
  | saved (receipt : SyncReceipt)
  | start (request : CommandSpec)
  | invalidateGithubAppAuthCache
deriving DecidableEq

structure Machine where
  active : Option SyncReceipt
  events : List Event

abbrev Effect (α : Type) := ExceptT CommandRunError (StateM Machine) α

def emit (event : Event) : Effect Unit :=
  modify fun m => { m with events := m.events ++ [event] }

def ofResult {α : Type} (result : Except CommandRunError α) : Effect α := ExceptT.mk (pure result)

def setActive (receipt : SyncReceipt) : Effect Unit := modify fun m => { m with active := some receipt }

def storageRefusal (command : CommandSpec) (error : String) : CommandRunError :=
  .mutationFenceRefused command command.intent ("durable sync receipt unavailable: " ++ error)

/-- The file after the write of a receipt; an error is left to the caller. -/
def save (receipt : SyncReceipt) : Saved → Effect (Option String)
  | .ok => do
      emit (.saved receipt)
      return none
  | .failed error replaced => do
      if replaced then emit (.saved receipt)
      return some error

structure ArgsWire where
  argsJson : List String → List UInt8

variable (w : ArgsWire)

def writeAttempt (command : CommandSpec) (intent : CommandIntent) : WriteAttempt where
  program := (fileName command.program).getD ""
  intent := intent
  argumentsHash := Fnv.fnv1a64 (w.argsJson command.args)
  state := .mayHaveRun
  exitCode := none

/-- Record a write before its subprocess starts, and where it was recorded. -/
def beforeSpawn (command : CommandSpec) (saved : Saved) : Effect (Option ℕ) := do
  let intent := command.inferredWriteIntent.getD command.intent
  if !intent.isWrite then return none
  match (← get).active with
  | none => return none
  | some receipt =>
      let pushed := { receipt with writes := receipt.writes ++ [writeAttempt w command intent] }
      match ← save pushed saved with
      | some error => throw (storageRefusal command error)
      | none =>
          setActive pushed
          return some receipt.writes.length

def SyncReceipt.finishAt (receipt : SyncReceipt) (index : ℕ) (state : AttemptState) (code : Option ℤ) :
    SyncReceipt :=
  { receipt with writes := receipt.writes.modify index fun a => { a with state := state,exitCode := code } }

def finishAttempt (command : CommandSpec) (attempt : Option ℕ) (state : AttemptState) (code : Option ℤ)
    (saved : Saved) : Effect Unit := do
  match attempt,(← get).active with
  | some index,some receipt =>
      let finished := receipt.finishAt index state code
      setActive finished
      match ← save finished saved with
      | some error => throw (storageRefusal command error)
      | none => return ()
  | _,_ => return ()

def mayHaveWritten (receipt : SyncReceipt) : Bool :=
  receipt.writes.any fun attempt => decide (attempt.state ≠ .notStarted)

/-- The versions of the file that a write of the receipt leaves behind. -/
def written (receipt : SyncReceipt) : Saved → List Event
  | .ok => [.saved receipt]
  | .failed _ replaced => if replaced then [.saved receipt] else []

/-- Note the operation of a native merge in the receipt, once. -/
def noteNative (operation : String) (saved : Saved) (m : Machine) : Option String × Machine :=
  match m.active with
  | some receipt =>
      if receipt.nativeOperations.contains operation then (none,m)
      else
        let noted := { receipt with nativeOperations := receipt.nativeOperations ++ [operation] }
        (saved.error,⟨some noted,m.events ++ written noted saved⟩)
  | none => (none,m)

def beginReceipt (operationId : String) : SyncReceipt := ⟨operationId,.unfinished,[],[],none⟩

structure Finished where
  receipt : SyncReceipt
  providerWriteMayHaveOccurred : Option Bool
deriving DecidableEq

/-- The scope ends with the tick's error code, if any, and a last write of the receipt. -/
def finishScope (receipt : SyncReceipt) (error : Option String) (saved : Saved) : Finished :=
  let state := match error with
    | none => .completed
    | some _ => if mayHaveWritten receipt then .failed else .failedBeforeProviderWrite
  let finished := { receipt with state := state,errorCode := error }
  ⟨finished,if error.isSome || saved.error.isSome then some (mayHaveWritten finished) else none⟩

end Command
end Cara
