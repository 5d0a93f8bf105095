import Cara.PauseCalls
import Mathlib.Logic.Function.Basic

/-! Runs of the hold operations over their two durable directories. The writer lock makes the
calls serial; a process may stop after any request, and what it wrote stays. -/
namespace Cara
namespace Pause

structure Store where
  records : PrNumber → Option PauseRecord
  terminals : String → Option TerminalReceipt

namespace Store

def empty : Store := ⟨fun _ => none,fun _ => none⟩

def put (s : Store) (record : PauseRecord) : Store :=
  { s with records := Function.update s.records record.caravanHead (some record) }

def publish (s : Store) (path : String) (receipt : TerminalReceipt) : Store :=
  { s with terminals := Function.update s.terminals path (some receipt) }

def erase (s : Store) (head : PrNumber) : Store :=
  { s with records := Function.update s.records head none }

def fence (s : Store) (head : PrNumber) : Option RecoveryRecord :=
  (s.records head).bind (·.recovery)

end Store

/-- What a request that succeeds answers and leaves behind. Provider facts and clocks are free. -/
inductive Served (s : Store) : Request → Answer → Store → Prop
  | acquireWriter (operation : String) : Served s (.acquireWriter operation) .done s
  | status (status : StatusOutput) : Served s .status (.status status) s
  | now (value : ℕ) : Served s .now (.clock value) s
  | nowMs (value : ℕ) : Served s .nowMs (.clock value) s
  | newOperationId (id : String) : Served s .newOperationId (.operationId id) s
  | readRecord (head : PrNumber) : Served s (.readRecord head) (.record (s.records head)) s
  | readTerminal (path : String) : Served s (.readTerminal path) (.terminal (s.terminals path)) s
  | lockCheckpoint (phase : String) (binding : RecoveryBinding) (receiptId : String) :
      Served s (.lockCheckpoint phase binding receiptId) .done s
  | writeRecord (record : PauseRecord) : Served s (.writeRecord record) .done (s.put record)
  | writeTerminal (path : String) (receipt : TerminalReceipt) :
      Served s (.writeTerminal path receipt) .done (s.publish path receipt)
  | appendAudit (action : String) (record : PauseRecord) (actor : String) :
      Served s (.appendAudit action record actor) .done s
  | removeRecord (head : PrNumber) : (s.records head).isSome = true →
      Served s (.removeRecord head) .done (s.erase head)
  | disableAutoMerge (expected : PullRequestPrecondition) :
      Served s (.disableAutoMerge expected) .done s
  | verifyPrecondition (expected : PullRequestPrecondition) :
      Served s (.verifyPrecondition expected) .done s
  | enableSquashAutoMerge (expected : PullRequestPrecondition) :
      Served s (.enableSquashAutoMerge expected) .done s
  | commitIdentity (oid : CommitOid) (identity : GitCommitIdentity) :
      Served s (.commitIdentity oid) (.commit identity) s

inductive Exec (s : Store) (q : Request) : Answer → Store → Prop
  | served {a : Answer} {s' : Store} : Served s q a s' → Exec s q a s'
  | failed (error : PauseError) : Exec s q (.failed error) s

/-- The store after a request with this answer, when the request can be so answered. -/
def serve (s : Store) : Request → Answer → Option Store
  | .acquireWriter _,.done => some s
  | .status,.status _ => some s
  | .now,.clock _ => some s
  | .nowMs,.clock _ => some s
  | .newOperationId,.operationId _ => some s
  | .readRecord head,.record record => if record = s.records head then some s else none
  | .readTerminal path,.terminal receipt => if receipt = s.terminals path then some s else none
  | .lockCheckpoint _ _ _,.done => some s
  | .writeRecord record,.done => some (s.put record)
  | .writeTerminal path receipt,.done => some (s.publish path receipt)
  | .appendAudit _ _ _,.done => some s
  | .removeRecord head,.done => if (s.records head).isSome then some (s.erase head) else none
  | .disableAutoMerge _,.done => some s
  | .verifyPrecondition _,.done => some s
  | .enableSquashAutoMerge _,.done => some s
  | .commitIdentity _,.commit _ => some s
  | _,.failed _ => some s
  | _,_ => none

theorem exec_of_serve {s s' : Store} {q : Request} {a : Answer} (h : serve s q a = some s') :
    Exec s q a s' := by
  unfold serve at h
  split at h
  case h_6 head record =>
    split at h
    case isTrue hrecord =>
      cases h
      rw [hrecord]
      exact .served (.readRecord head)
    case isFalse => cases h
  case h_7 path receipt =>
    split at h
    case isTrue hreceipt =>
      cases h
      rw [hreceipt]
      exact .served (.readTerminal path)
    case isFalse => cases h
  case h_12 head =>
    split at h
    case isTrue hsome =>
      cases h
      exact .served (.removeRecord head hsome)
    case isFalse => cases h
  case h_18 => cases h
  all_goals cases h
  · exact .served (.acquireWriter _)
  · exact .served (.status _)
  · exact .served (.now _)
  · exact .served (.nowMs _)
  · exact .served (.newOperationId _)
  · exact .served (.lockCheckpoint _ _ _)
  · exact .served (.writeRecord _)
  · exact .served (.writeTerminal _ _)
  · exact .served (.appendAudit _ _ _)
  · exact .served (.disableAutoMerge _)
  · exact .served (.verifyPrecondition _)
  · exact .served (.enableSquashAutoMerge _)
  · exact .served (.commitIdentity _ _)
  · exact .failed _

section Runs

variable (digest : String → String)

inductive Call where
  | pause (input : PauseInput)
  | resume (input : ResumeInput)
  | recovery (phase : Phase) (input : RecoveryInput)
deriving DecidableEq

def Call.prog : Call → Prog Request Answer Unit
  | .pause input => (Pause.pause input).run >>= fun _ => pure ()
  | .resume input => (Pause.resume input).run >>= fun _ => pure ()
  | .recovery phase input => (pauseRecovery digest phase input).run >>= fun _ => pure ()

structure System where
  store : Store
  task : Option (Call × Prog Request Answer Unit) := none

def System.initial : System := { store := .empty }

inductive Event where
  | call (call : Call)
  | request (request : Request) (answer : Answer)
  | stop

/-- A call begins, asks its next request, or ends; it may end at any moment. -/
inductive System.Step (s : System) : Event → System → Prop
  | call (c : Call) : s.task = none → s.Step (.call c) { s with task := some (c,c.prog digest) }
  | request {c : Call} {q : Request} {k : Answer → Prog Request Answer Unit} {a : Answer}
      {store : Store} : s.task = some (c,.ask q k) → Exec s.store q a store →
      s.Step (.request q a) { store := store,task := some (c,k a) }
  | stop : s.Step .stop { s with task := none }

inductive PauseRun : List (System × Event) → System → Prop
  | start : PauseRun [] .initial
  | step {history : List (System × Event)} {s s' : System} {e : Event} :
      PauseRun history s → s.Step digest e s' → PauseRun ((s,e)::history) s'

def visited (history : List (System × Event)) (s : System) : List Store :=
  s.store::history.map fun x => x.1.store

/-- Moves of a scripted run: begin a call, answer its next request, let the next request
succeed on the store as it is, stop the call. -/
inductive Move where
  | call (call : Call)
  | answer (answer : Answer)
  | proceed
  | stop

/-- The answer of a request that needs nothing from outside the store. -/
def plainAnswer (s : Store) : Request → Answer
  | .readRecord head => .record (s.records head)
  | .readTerminal path => .terminal (s.terminals path)
  | .now => .clock 0
  | .nowMs => .clock 0
  | .newOperationId => .operationId ""
  | _ => .done

def System.answer (s : System) (answerOf : Request → Answer) : Option System :=
  match s.task with
  | some (c,.ask q k) => (serve s.store q (answerOf q)).map fun store => ⟨store,some (c,k (answerOf q))⟩
  | _ => none

def System.move (s : System) : Move → Option System
  | .call c => if s.task.isNone then some { s with task := some (c,c.prog digest) } else none
  | .answer a => s.answer fun _ => a
  | .proceed => s.answer (plainAnswer s.store)
  | .stop => some { s with task := none }

def System.play (s : System) (moves : List Move) : Option System :=
  moves.foldlM (fun s m => s.move digest m) s

def System.event (s : System) : Move → Event
  | .call c => .call c
  | .stop => .stop
  | .answer a =>
      match s.task with
      | some (_,.ask q _) => .request q a
      | _ => .stop
  | .proceed =>
      match s.task with
      | some (_,.ask q _) => .request q (plainAnswer s.store q)
      | _ => .stop

theorem System.step_of_move {s s' : System} {m : Move} (h : s.move digest m = some s') :
    s.Step digest (s.event m) s' := by
  cases m with
  | call c =>
    simp only [System.move] at h
    split at h
    case isTrue hnone =>
      cases h
      exact .call c (Option.isNone_iff_eq_none.mp hnone)
    case isFalse => cases h
  | answer a =>
    simp only [System.move,System.answer] at h
    split at h
    case h_1 c q k htask =>
      obtain ⟨store,hserve,hnext⟩ := Option.map_eq_some_iff.mp h
      cases hnext
      simp only [System.event,htask]
      exact .request htask (exec_of_serve hserve)
    case h_2 => cases h
  | proceed =>
    simp only [System.move,System.answer] at h
    split at h
    case h_1 c q k htask =>
      obtain ⟨store,hserve,hnext⟩ := Option.map_eq_some_iff.mp h
      cases hnext
      simp only [System.event,htask]
      exact .request htask (exec_of_serve hserve)
    case h_2 => cases h
  | stop =>
    cases h
    exact .stop

def System.record (s : System) : List Move → List (System × Event) → List (System × Event)
  | [],history => history
  | m::moves,history =>
      match s.move digest m with
      | some s' => s'.record moves ((s,s.event m)::history)
      | none => history

theorem PauseRun.play {history : List (System × Event)} {s s' : System} {moves : List Move}
    (hrun : PauseRun digest history s) (h : s.play digest moves = some s') :
    PauseRun digest (s.record digest moves history) s' := by
  induction moves generalizing history s with
  | nil =>
    cases h
    exact hrun
  | cons m moves ih =>
    unfold System.play at h
    rw [List.foldlM_cons] at h
    obtain ⟨s₁,hmove,hrest⟩ := Option.bind_eq_some_iff.mp h
    have hnext := ih (.step hrun (System.step_of_move digest hmove)) hrest
    unfold System.record
    rw [hmove]
    exact hnext

end Runs

end Pause
end Cara
