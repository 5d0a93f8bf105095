import Cara.OperationLock
import Cara.Lib.Interleave
import Mathlib.Logic.Function.Basic

/-! Processes that share one owner file. Every request is one atomic step; calls of any
processes interleave in any order, and processes start and die at any moment. -/
namespace Cara
namespace Lock

variable {V : Type}

/-- One process from its start to its death; the system may give its pid out again later. -/
abbrev ProcessId := ℕ

structure LockFile (V : Type) where
  creator : ProcessId
  content : Option (OperationLockOwner V)
deriving DecidableEq

inductive Status where
  | unborn
  | live
  | dead
deriving DecidableEq

structure Machine (V : Type) where
  file : Option (LockFile V)
  status : ProcessId → Status
  lastRead : ProcessId → Option (LockFile V)

/-- A handle writes to the file its process created, which need not be at the path any more. -/
def Machine.write (m : Machine V) (p : ProcessId) (owner : OperationLockOwner V) : Machine V :=
  match m.file with
  | some ⟨creator,none⟩ => if creator = p then { m with file := some ⟨p,some owner⟩ } else m
  | _ => m

section Requests

variable (pidOf : ProcessId → ℕ)

/-- What one request of a process can do. Any request may also fail and change nothing. -/
inductive Exec (p : ProcessId) (m : Machine V) : Syscall V → Answer V → Machine V → Prop
  | failed (q : Syscall V) (error : IoError) : Exec p m q (.error error) m
  | commonDir (outcome : CommonDir) : Exec p m .commonDir (.commonDir outcome) m
  | createDirectory : Exec p m .createDirectory .done m
  | identity (nanos sequence : ℕ) : Exec p m .identity (.identity (pidOf p) nanos sequence) m
  | clock (millis : Option ℕ) : Exec p m .clock (.clock millis) m
  | createNew : m.file = none → Exec p m .createNew .done { m with file := some ⟨p,none⟩ }
  | writeOwner (owner : OperationLockOwner V) : Exec p m (.writeOwner owner) .done (m.write p owner)
  /-- The bytes are complete although they could not be synced. -/
  | writeUnsynced (owner : OperationLockOwner V) (error : IoError) :
      Exec p m (.writeOwner owner) (.error error) (m.write p owner)
  | metadata (age : ℕ) : m.file.isSome = true → Exec p m .metadata (.metadata age) m
  | readFile {f : LockFile V} : m.file = some f → Exec p m .readFile (.contents f.content)
      { m with lastRead := Function.update m.lastRead p (some f) }
  | probe (pid : ℕ) {value : Bool} :
      (value = true ↔ ∃ q, m.status q = .live ∧ pidOf q = pid) →
      Exec p m (.probe pid) (.alive value) m
  | unlink (recovery : Bool) : m.file.isSome = true →
      Exec p m (.unlink recovery) .done { m with file := none }
  | writeTemporary (owner : OperationLockOwner V) : Exec p m (.writeTemporary owner) .done m
  | removeTemporary : Exec p m .removeTemporary .done m
  | rename (owner : OperationLockOwner V) :
      Exec p m (.rename owner) .done { m with file := some ⟨p,some owner⟩ }
  | reopen : Exec p m .reopen .done m

end Requests

section Calls

variable [DecidableEq V] (codec : LockCodec V)

inductive LockCall (V : Type) where
  | acquire (operation : String) (staleAfter : ℕ)
  | checkpoint (guard : ℕ) (phase : String) (evidence : V) (indeterminate : Bool)
  | release (guard : ℕ)
  | drop (guard : ℕ)
  | recoverStale (staleAfter : ℕ) (expectedToken : String)
deriving DecidableEq

abbrev LockProg (V : Type) := Prog (Syscall V) (Answer V) (List (OperationLock V))

def LockCall.prog (guards : List (OperationLock V)) :
    LockCall V → Prog (Syscall V) (Answer V) (List (OperationLock V))
  | .acquire operation staleAfter =>
      (acquireWithStaleAfter codec operation staleAfter).run >>= fun r => pure (match r with
        | .ok lock => lock::guards
        | .error _ => guards)
  | .checkpoint i phase evidence indeterminate =>
      match guards[i]? with
      | none => pure guards
      | some lock =>
          (lock.checkpoint codec phase evidence indeterminate).run >>= fun r => pure (match r with
            | .ok next => guards.set i next.1
            | .error _ => guards)
  | .release i =>
      match guards[i]? with
      | none => pure guards
      | some lock => (lock.release codec).run >>= fun _ => pure (guards.eraseIdx i)
  | .drop i =>
      match guards[i]? with
      | none => pure guards
      | some lock => (lock.drop codec).run >>= fun _ => pure (guards.eraseIdx i)
  | .recoverStale staleAfter expectedToken =>
      (recoverStaleLock codec staleAfter expectedToken).run >>= fun _ => pure guards

end Calls

section Steps

variable [DecidableEq V] (codec : LockCodec V) (pidOf : ProcessId → ℕ)

structure Process (V : Type) where
  guards : List (OperationLock V) := []
  task : Option (LockProg V) := none

def Process.resume (guards : List (OperationLock V)) : LockProg V → Process V
  | .done guards' => { guards := guards' }
  | rest => { guards := guards,task := some rest }

structure System (V : Type) where
  machine : Machine V
  process : ProcessId → Process V

def System.initial : System V where
  machine := { file := none,status := fun _ => .unborn,lastRead := fun _ => none }
  process := fun _ => {}

inductive LockEvent (V : Type) where
  | spawn (p : ProcessId)
  | die (p : ProcessId)
  | call (p : ProcessId) (call : LockCall V)
  | request (p : ProcessId) (q : Syscall V) (a : Answer V)
deriving DecidableEq

def LockEvent.actor : LockEvent V → ProcessId
  | .spawn p => p
  | .die p => p
  | .call p _ => p
  | .request p _ _ => p

def System.setStatus (s : System V) (p : ProcessId) (status : Status) : System V :=
  { s with machine := { s.machine with status := Function.update s.machine.status p status } }

inductive System.Step (s : System V) : LockEvent V → System V → Prop
  | spawn {p : ProcessId} : s.machine.status p = .unborn → s.Step (.spawn p) (s.setStatus p .live)
  | die {p : ProcessId} : s.machine.status p = .live → s.Step (.die p) (s.setStatus p .dead)
  | call {p : ProcessId} (c : LockCall V) : s.machine.status p = .live →
      (s.process p).task = none → s.Step (.call p c) { s with
        process := Function.update s.process p
          (Process.resume (s.process p).guards (c.prog codec (s.process p).guards)) }
  | request {p : ProcessId} {q : Syscall V} {k : Answer V → LockProg V} {a : Answer V}
      {m : Machine V} : s.machine.status p = .live → (s.process p).task = some (.ask q k) →
      Exec pidOf p s.machine q a m → s.Step (.request p q a) {
        machine := m
        process := Function.update s.process p (Process.resume (s.process p).guards (k a)) }

inductive LockRun : List (System V × LockEvent V) → System V → Prop
  | start : LockRun [] System.initial
  | step {history : List (System V × LockEvent V)} {s s' : System V} {e : LockEvent V} :
      LockRun history s → s.Step codec pidOf e s' → LockRun ((s,e)::history) s'

/-- The process is alive and has a guard it has not released. -/
def System.Holding (s : System V) (p : ProcessId) : Prop :=
  s.machine.status p = .live ∧ (s.process p).guards ≠ []

/-- A recovery that unlinks finds the owner file as it re-read it, or none. -/
def Unraced (s : System V) (e : LockEvent V) : Prop :=
  ∀ p a, e = .request p (.unlink true) a →
    s.machine.file = none ∨ s.machine.file = s.machine.lastRead p

end Steps

end Lock
end Cara
