import Cara.OperationLockContract

/-! Mutual exclusion of the operation lock over every run. -/
namespace Cara
namespace Lock

open Prog (Contract)

variable {V : Type} {pidOf : ProcessId → ℕ}

section Runs

variable {p : ProcessId} {m : Machine V}

structure Idle (pidOf : ProcessId → ℕ) (p : ProcessId) (guards : List (OperationLock V))
    (m : Machine V) : Prop where
  standing : Standing pidOf p (guards ≠ []) none [] m
  single : guards.length ≤ 1
  pids : ∀ lock ∈ guards, lock.owner.pid = pidOf p

theorem Idle.guard {guards : List (OperationLock V)} (h : Idle pidOf p guards m) {i : ℕ}
    {lock : OperationLock V} (hlock : guards[i]? = some lock) :
    guards = [lock] ∧ i = 0 ∧ Standing pidOf p True none [] m ∧ lock.owner.pid = pidOf p := by
  obtain ⟨hi,hget⟩ := List.getElem?_eq_some_iff.mp hlock
  have hsingle := h.single
  have hzero : i = 0 := by omega
  obtain ⟨lock',hguards⟩ := List.length_eq_one_iff.mp (show guards.length = 1 by omega)
  have hsame : guards = [lock] := by
    rw [hguards,hzero] at hlock
    rw [hguards,Option.some_inj.mp hlock]
  refine ⟨hsame,hzero,h.standing.given fun _ => ?_,h.pids lock (by rw [hsame]; simp)⟩
  rw [hsame]
  simp

theorem idle_nil {own : Prop} (h : Standing pidOf p own none [] m) : Idle pidOf p [] m where
  standing := h.disown fun hne => hne rfl
  single := Nat.zero_le 1
  pids _ hlock := absurd hlock (by simp)

/-- Every call keeps the contract and leaves the process between calls. -/
theorem prog_guarded [DecidableEq V] (codec : LockCodec V) {guards : List (OperationLock V)} (h : Idle pidOf p guards m)
    (call : LockCall V) :
    (contract pidOf p (guards ≠ [])).Guarded (UnracedExec pidOf p) (call.prog codec guards)
      (fun m' guards' => Idle pidOf p guards' m') m := by
  cases call with
  | acquire operation staleAfter =>
    apply Contract.Guards.guarded
    apply (keeps_acquire codec operation staleAfter h.standing).mono
    intro m' r hr
    cases r with
    | error e => exact { h with standing := hr }
    | ok lock =>
      obtain ⟨hfree,hstanding,hpid⟩ := hr
      have hnil : guards = [] := not_not.mp hfree
      show Idle pidOf p (lock::guards) m'
      rw [hnil]
      exact {
        standing := hstanding.given fun _ => trivial
        single := le_refl 1
        pids := fun lock' hlock' => by rw [List.mem_singleton.mp hlock']; exact hpid }
  | checkpoint i phase evidence indeterminate =>
    rw [LockCall.prog]
    split
    · exact h
    case h_2 lock hlock =>
      obtain ⟨hguards,hi,hown,hpid⟩ := h.guard hlock
      apply Contract.Guards.guarded
      apply (keeps_checkpoint codec phase evidence indeterminate hown
        (by rw [hguards]; simp) hpid).mono
      intro m' r hr
      cases r with
      | error e => exact { h with standing := hr }
      | ok next =>
        show Idle pidOf p (guards.set i next.1) m'
        rw [hguards,hi]
        exact {
          standing := hr.1.given fun _ => trivial
          single := le_refl 1
          pids := fun lock' hlock' => by rw [List.mem_singleton.mp hlock']; exact hr.2 }
  | release i =>
    rw [LockCall.prog]
    split
    · exact h
    case h_2 lock hlock =>
      obtain ⟨hguards,hi,hown,_⟩ := h.guard hlock
      apply Contract.Guards.guarded
      apply (keeps_release codec lock hown (by rw [hguards]; simp)).mono
      intro m' r hr
      show Idle pidOf p (guards.eraseIdx i) m'
      rw [hguards,hi]
      cases r with
      | error e => exact idle_nil hr
      | ok _ => exact idle_nil hr
  | drop i =>
    rw [LockCall.prog]
    split
    · exact h
    case h_2 lock hlock =>
      obtain ⟨hguards,hi,hown,_⟩ := h.guard hlock
      apply Contract.Guards.guarded
      apply (keeps_drop codec lock hown).mono
      intro m' r hr
      show Idle pidOf p (guards.eraseIdx i) m'
      rw [hguards,hi]
      cases r with
      | error e => exact idle_nil hr
      | ok _ => exact idle_nil hr
  | recoverStale staleAfter expectedToken =>
    apply Contract.Guards.guarded
    apply (keeps_recoverStaleLock codec staleAfter expectedToken h.standing id).mono
    intro m' r hr
    cases r with
    | error e => exact { h with standing := hr }
    | ok _ => exact { h with standing := hr }

/-- The process is between calls, or the rest of its call keeps the contract. -/
def Process.Safe (pidOf : ProcessId → ℕ) (p : ProcessId) (x : Process V) (m : Machine V) : Prop :=
  match x.task with
  | none => Idle pidOf p x.guards m
  | some (.ask q k) => (contract pidOf p (x.guards ≠ [])).Guarded (UnracedExec pidOf p) (.ask q k)
      (fun m' guards' => Idle pidOf p guards' m') m
  | some _ => False

theorem Process.safe_resume {guards : List (OperationLock V)} {rest : LockProg V}
    (h : (contract pidOf p (guards ≠ [])).Guarded (UnracedExec pidOf p) rest
      (fun m' guards' => Idle pidOf p guards' m') m) :
    (Process.resume guards rest).Safe pidOf p m := by
  cases rest with
  | done guards' => exact h
  | ask q k => exact h
  | abort => exact False.elim h

theorem Process.Safe.stable {x : Process V} {m' : Machine V} (h : x.Safe pidOf p m)
    (hrely : Rely pidOf p m m') : x.Safe pidOf p m' := by
  unfold Process.Safe at *
  split at h
  · exact { h with standing := h.standing.stable hrely }
  · exact Contract.Guarded.stable h hrely
  · exact h

theorem Process.Safe.owns {x : Process V} (h : x.Safe pidOf p m) :
    m.Sound pidOf ∧ (x.guards ≠ [] → m.Owns p) := by
  unfold Process.Safe at h
  split at h
  · exact ⟨h.standing.sound,h.standing.owns⟩
  · exact (h.1 m (Rely.refl p m)).1
  · exact h.elim

structure SystemSafe (pidOf : ProcessId → ℕ) (s : System V) : Prop where
  sound : s.machine.Sound pidOf
  safe : ∀ p, s.machine.status p = .live → (s.process p).Safe pidOf p s.machine
  unborn : ∀ p, s.machine.status p = .unborn → s.process p = {}

theorem Exec.status_eq {q : Syscall V} {a : Answer V} {m' : Machine V}
    (h : Exec pidOf p m q a m') : m'.status = m.status := by
  cases h with
  | writeOwner _ | writeUnsynced _ _ =>
    unfold Machine.write
    split
    · split <;> rfl
    · rfl
  | _ => rfl

theorem Rely.of_status {status : ProcessId → Status} (hlive : status p = m.status p)
    (hborn : ∀ q, m.status q ≠ .unborn → status q ≠ .unborn)
    (hdead : ∀ q, m.status q = .dead → status q = .dead) :
    Rely pidOf p m { m with status := status } where
  kept _ := rfl
  live h := hlive.trans h
  born := hborn
  dead := hdead
  lastRead := rfl
  sound h f hf := ⟨hborn _ (h f hf).1,(h f hf).2⟩

theorem rely_setStatus {s : System V} {q : ProcessId} {status : Status} (hq : q ≠ p)
    (hstatus : status ≠ .unborn) (hp : s.machine.status p ≠ .dead) :
    Rely pidOf q s.machine (s.setStatus p status).machine := by
  apply Rely.of_status
  · exact Function.update_of_ne hq _ _
  · intro r hr
    by_cases hrp : r = p
    · rw [hrp,Function.update_self]
      exact hstatus
    · rw [Function.update_of_ne hrp]
      exact hr
  · intro r hr
    have hrp : r ≠ p := by
      intro heq
      rw [heq] at hr
      exact hp hr
    rw [Function.update_of_ne hrp]
    exact hr

/-- A process whose state changed while every other live one could rely on the change. -/
theorem SystemSafe.update {s : System V} (h : SystemSafe pidOf s) {p : ProcessId} {m : Machine V}
    {x : Process V} (hstatus : m.status = s.machine.status) (hlive : s.machine.status p = .live)
    (hx : x.Safe pidOf p m)
    (hrely : ∀ q, q ≠ p → s.machine.status q = .live → Rely pidOf q s.machine m) :
    SystemSafe pidOf ⟨m,Function.update s.process p x⟩ where
  sound := hx.owns.1
  safe q hq := by
    have hq' : s.machine.status q = .live := by
      rw [← hstatus]
      exact hq
    by_cases hqp : q = p
    · rw [hqp]
      show (Function.update s.process p x p).Safe pidOf p m
      rw [Function.update_self]
      exact hx
    · show (Function.update s.process p x q).Safe pidOf q m
      rw [Function.update_of_ne hqp]
      exact (h.safe q hq').stable (hrely q hqp hq')
  unborn q hq := by
    have hq' : s.machine.status q = .unborn := by
      rw [← hstatus]
      exact hq
    have hqp : q ≠ p := by
      intro heq
      rw [heq,hlive] at hq'
      cases hq'
    show Function.update s.process p x q = {}
    rw [Function.update_of_ne hqp]
    exact h.unborn q hq'

theorem SystemSafe.setStatus {s : System V} (h : SystemSafe pidOf s) {p : ProcessId}
    {status : Status} (hstatus : status ≠ .unborn) (hp : s.machine.status p ≠ .dead)
    (hx : status = .live → (s.process p).Safe pidOf p (s.setStatus p status).machine) :
    SystemSafe pidOf (s.setStatus p status) ∧ ∀ q, q ≠ p → s.machine.status q = .live →
      Rely pidOf q s.machine (s.setStatus p status).machine := by
  have hrely : ∀ q, q ≠ p → Rely pidOf q s.machine (s.setStatus p status).machine :=
    fun q hq => rely_setStatus hq hstatus hp
  have hother : ∀ q, q ≠ p → (s.setStatus p status).machine.status q = s.machine.status q :=
    fun q hq => Function.update_of_ne hq _ _
  have hself : (s.setStatus p status).machine.status p = status := Function.update_self _ _ _
  refine ⟨?_,fun q hq _ => hrely q hq⟩
  exact {
    sound := (hrely (p + 1) (Nat.succ_ne_self p)).sound h.sound
    safe := by
      intro q hq
      by_cases hqp : q = p
      · rw [hqp,hself] at hq
        rw [hqp]
        exact hx hq
      · rw [hother q hqp] at hq
        exact (h.safe q hq).stable (hrely q hqp)
    unborn := by
      intro q hq
      by_cases hqp : q = p
      · rw [hqp,hself] at hq
        exact absurd hq hstatus
      · rw [hother q hqp] at hq
        exact h.unborn q hq }

variable [DecidableEq V] (codec : LockCodec V)

/-- Every unraced step keeps the processes safe and leaves the others what they rely on. -/
theorem systemSafe_step {s s' : System V} {e : LockEvent V} (h : SystemSafe pidOf s)
    (hstep : s.Step codec pidOf e s') (hunraced : Unraced s e) :
    SystemSafe pidOf s' ∧ ∀ q, q ≠ e.actor → s.machine.status q = .live →
      Rely pidOf q s.machine s'.machine := by
  cases hstep with
  | spawn hunborn =>
    rename_i p
    apply h.setStatus (by decide) (by rw [hunborn]; decide)
    intro _
    rw [h.unborn p hunborn]
    have hrely : Rely pidOf (p + 1) s.machine (s.setStatus p .live).machine :=
      rely_setStatus (Nat.succ_ne_self p) (by decide) (by rw [hunborn]; decide)
    have hstanding : Standing pidOf p False none [] (s.setStatus p .live).machine := {
      live := Function.update_self _ _ _
      sound := hrely.sound h.sound
      owns := False.elim
      seen_eq := fun _ hf => absurd hf (by simp)
      dead := fun _ hq => absurd hq (by simp) }
    exact idle_nil hstanding
  | die hlive =>
    apply h.setStatus (by decide) (by rw [hlive]; decide)
    intro hfalse
    cases hfalse
  | call c hlive hidle =>
    rename_i p
    have hsafe := h.safe p hlive
    unfold Process.Safe at hsafe
    rw [hidle] at hsafe
    have hprog := Process.safe_resume (prog_guarded codec hsafe c)
    exact ⟨h.update rfl hlive hprog fun q _ _ => Rely.refl q _,fun q _ _ => Rely.refl q _⟩
  | request hlive htask hexec =>
    rename_i p q k a m
    have hsafe := h.safe p hlive
    unfold Process.Safe at hsafe
    rw [htask] at hsafe
    have hexec' : UnracedExec pidOf p s.machine q a m := by
      refine ⟨hexec,?_⟩
      intro hq
      rw [hq] at hunraced
      exact hunraced p a rfl
    obtain ⟨hguar,hrest⟩ := Contract.Guarded.advance hsafe (Rely.refl p _) hexec'
    exact ⟨h.update hexec.status_eq hlive (Process.safe_resume hrest) hguar,hguar⟩

variable {codec}

theorem LockRun.safe {history : List (System V × LockEvent V)} {s : System V}
    (h : LockRun codec pidOf history s) (hunraced : ∀ row ∈ history, Unraced row.1 row.2) :
    SystemSafe pidOf s := by
  induction h with
  | start =>
    exact {
      sound := fun _ hf => absurd hf (by simp [System.initial])
      safe := fun _ hlive => absurd hlive (by simp [System.initial])
      unborn := fun _ _ => rfl }
  | step _ hstep ih =>
    have hbefore := ih fun row hrow => hunraced row (List.mem_cons_of_mem _ hrow)
    exact (systemSafe_step codec hbefore hstep (hunraced _ List.mem_cons_self)).1

/-- The lock excludes: one live holder at most, whose file nobody else touches. -/
structure Exclusive (codec : LockCodec V) (pidOf : ProcessId → ℕ) (s : System V) : Prop where
  exclusive : ∀ p q, s.Holding p → s.Holding q → p = q
  present : ∀ p, s.Holding p → s.machine.Owns p
  untouched : ∀ e s', s.Step codec pidOf e s' → Unraced s e → ∀ p, s.Holding p → p ≠ e.actor →
    s'.machine.file = s.machine.file

/-- In every run whose recoveries unlink only what they re-read, the lock excludes. -/
theorem lockRun_exclusive {history : List (System V × LockEvent V)} {s : System V}
    (h : LockRun codec pidOf history s) (hunraced : ∀ row ∈ history, Unraced row.1 row.2) :
    Exclusive codec pidOf s := by
  have hsafe := h.safe hunraced
  have howns : ∀ p, s.Holding p → s.machine.Owns p :=
    fun p hp => (hsafe.safe p hp.1).owns.2 hp.2
  constructor
  · intro p q hp hq
    obtain ⟨f,hf,hcreator⟩ := howns p hp
    obtain ⟨f',hf',hcreator'⟩ := howns q hq
    rw [hf] at hf'
    cases hf'
    exact hcreator.symm.trans hcreator'
  · exact howns
  · intro e s' hstep hnow p hp hactor
    exact ((systemSafe_step codec hsafe hstep hnow).2 p hactor hp.1).kept (howns p hp)

end Runs

section Script

variable [DecidableEq V] (codec : LockCodec V) (pidOf : ProcessId → ℕ) (known : List ProcessId)

/-- The state after a request with this answer, where the answer is one the request can have.
Only the known processes have ever lived. -/
def execute (p : ProcessId) (m : Machine V) : Syscall V → Answer V → Option (Machine V)
  | .commonDir,.commonDir _ => some m
  | .createDirectory,.done => some m
  | .identity,.identity pid _ _ => if pid = pidOf p then some m else none
  | .clock,.clock _ => some m
  | .createNew,.done =>
      if m.file.isNone then some { m with file := some ⟨p,none⟩ } else none
  | .writeOwner owner,.done => some (m.write p owner)
  | .metadata,.metadata _ => if m.file.isSome then some m else none
  | .readFile,.contents content =>
      match m.file with
      | some f =>
          if f.content = content then
            some { m with lastRead := Function.update m.lastRead p (some f) }
          else none
      | none => none
  | .probe pid,.alive value =>
      if value = known.any (fun q => decide (m.status q = .live ∧ pidOf q = pid)) then some m
      else none
  | .unlink _,.done => if m.file.isSome then some { m with file := none } else none
  | _,.error _ => some m
  | _,_ => none

def Confined (known : List ProcessId) (m : Machine V) : Prop :=
  ∀ q, q ∉ known → m.status q = .unborn

theorem exec_of_execute {p : ProcessId} {m m' : Machine V} {q : Syscall V} {a : Answer V}
    (hconfined : Confined known m) (h : execute pidOf known p m q a = some m') :
    Exec pidOf p m q a m' := by
  unfold execute at h
  split at h
  · cases h
    exact .commonDir _
  · cases h
    exact .createDirectory
  · split at h
    case isTrue hpid =>
      cases h
      rw [hpid]
      exact .identity _ _
    · cases h
  · cases h
    exact .clock _
  · split at h
    case isTrue hnone =>
      cases h
      exact .createNew (Option.isNone_iff_eq_none.mp hnone)
    · cases h
  · cases h
    exact .writeOwner _
  · split at h
    case isTrue hsome =>
      cases h
      exact .metadata _ hsome
    · cases h
  · split at h
    case h_1 f hfile =>
      split at h
      case isTrue hcontent =>
        cases h
        rw [← hcontent]
        exact .readFile hfile
      · cases h
    · cases h
  · split at h
    case isTrue hvalue =>
      cases h
      apply Exec.probe
      rw [hvalue,List.any_eq_true]
      constructor
      · intro hany
        obtain ⟨q,_,hq⟩ := hany
        exact ⟨q,of_decide_eq_true hq⟩
      · intro hany
        obtain ⟨q,hlive,hpid⟩ := hany
        refine ⟨q,?_,decide_eq_true ⟨hlive,hpid⟩⟩
        by_contra hout
        rw [hconfined q hout] at hlive
        cases hlive
    · cases h
  · split at h
    case isTrue hsome =>
      cases h
      exact .unlink _ hsome
    · cases h
  · cases h
    exact .failed _ _
  · cases h

inductive Move (V : Type) where
  | spawn (p : ProcessId)
  | die (p : ProcessId)
  | call (p : ProcessId) (call : LockCall V)
  | answer (p : ProcessId) (a : Answer V)

def System.move (s : System V) : Move V → Option (LockEvent V × System V)
  | .spawn p =>
      if s.machine.status p = .unborn ∧ p ∈ known then some (.spawn p,s.setStatus p .live) else none
  | .die p =>
      if s.machine.status p = .live then some (.die p,s.setStatus p .dead) else none
  | .call p c =>
      match (s.process p).task with
      | some _ => none
      | none =>
          if s.machine.status p = .live then some (.call p c,{ s with
            process := Function.update s.process p
              (Process.resume (s.process p).guards (c.prog codec (s.process p).guards)) })
          else none
  | .answer p a =>
      match (s.process p).task with
      | some (.ask q k) =>
          if s.machine.status p = .live then
            (execute pidOf known p s.machine q a).map fun m => (.request p q a,{
              machine := m
              process := Function.update s.process p (Process.resume (s.process p).guards (k a)) })
          else none
      | _ => none

def play : List (Move V) → List (System V × LockEvent V) × System V →
    Option (List (System V × LockEvent V) × System V)
  | [],r => some r
  | move::moves,r => do
      let (e,s') ← r.2.move codec pidOf known move
      play moves ((r.2,e)::r.1,s')

omit [DecidableEq V] in
theorem confined_setStatus {s : System V} {p : ProcessId} {status : Status}
    (h : Confined known s.machine) (hp : p ∈ known) :
    Confined known (s.setStatus p status).machine := by
  intro q hq
  have hqp : q ≠ p := by
    intro heq
    rw [heq] at hq
    exact hq hp
  show Function.update s.machine.status p status q = .unborn
  rw [Function.update_of_ne hqp]
  exact h q hq

theorem step_of_move {s s' : System V} {e : LockEvent V} {move : Move V}
    (hconfined : Confined known s.machine) (h : s.move codec pidOf known move = some (e,s')) :
    s.Step codec pidOf e s' ∧ Confined known s'.machine := by
  cases move with
  | spawn p =>
    simp only [System.move] at h
    split at h
    case isTrue hready =>
      cases h
      exact ⟨.spawn hready.1,confined_setStatus known hconfined hready.2⟩
    · cases h
  | die p =>
    simp only [System.move] at h
    split at h
    case isTrue hlive =>
      cases h
      refine ⟨.die hlive,confined_setStatus known hconfined ?_⟩
      by_contra hout
      rw [hconfined p hout] at hlive
      cases hlive
    · cases h
  | call p c =>
    simp only [System.move] at h
    split at h
    · cases h
    case h_2 hidle =>
      split at h
      case isTrue hlive =>
        cases h
        exact ⟨.call c hlive hidle,hconfined⟩
      · cases h
  | answer p a =>
    simp only [System.move] at h
    split at h
    case h_1 q k htask =>
      split at h
      case isTrue hlive =>
        obtain ⟨m,hexecute,heq⟩ := Option.map_eq_some_iff.mp h
        cases heq
        have hexec := exec_of_execute pidOf known hconfined hexecute
        refine ⟨.request hlive htask hexec,?_⟩
        intro r hr
        show m.status r = .unborn
        rw [hexec.status_eq]
        exact hconfined r hr
      · cases h
    · cases h

theorem lockRun_of_play {moves : List (Move V)}
    {r r' : List (System V × LockEvent V) × System V} (hrun : LockRun codec pidOf r.1 r.2)
    (hconfined : Confined known r.2.machine) (h : play codec pidOf known moves r = some r') :
    LockRun codec pidOf r'.1 r'.2 := by
  induction moves generalizing r with
  | nil =>
    cases h
    exact hrun
  | cons move moves ih =>
    obtain ⟨⟨e,s'⟩,hmove,hrest⟩ := Option.bind_eq_some_iff.mp h
    obtain ⟨hstep,hconfined'⟩ := step_of_move codec pidOf known hconfined hmove
    exact ih (r := (_,_)) (.step hrun hstep) hconfined' hrest

def unraced (s : System V) : LockEvent V → Bool
  | .request p (.unlink true) _ =>
      decide (s.machine.file = none ∨ s.machine.file = s.machine.lastRead p)
  | _ => true

theorem unraced_sound {s : System V} {e : LockEvent V} (h : unraced s e = true) : Unraced s e := by
  intro p a he
  rw [he] at h
  exact of_decide_eq_true h

end Script

section Example

def bareCodec : LockCodec Unit where
  ownerBytes _ := 128
  evidenceBytes _ := 4
  digestHex _ := "sha256:74234e98afe7498fb5daf1f36ac2d78acc339464f950703b8c019892f982b90b"
  topLevel _ := []
  compacted := ()
  minimal := ()

def examplePid (p : ProcessId) : ℕ := 4100 + p

/-- Acquisition up to the attempt to create the owner file. -/
def approach (p : ProcessId) : List (Move Unit) :=
  [.call p (.acquire "sync" 1800000000000),.answer p (.commonDir .found),.answer p .done,
    .answer p (.identity (examplePid p) (1767225600000000000 + p) 0)]

def createAndWrite (p : ProcessId) : List (Move Unit) := [.answer p .done,.answer p .done]

def orphaned : List (Move Unit) := [.spawn 0] ++ approach 0 ++ createAndWrite 0 ++ [.die 0]

def orphanOwner : OperationLockOwner Unit where
  version := 1
  pid := 4100
  operation := "sync"
  createdUnixSecs := 1767225600
  token := "4100-1767225600000000000-0"

/-- The file exists; its owner is read, probed dead, re-read and probed again. -/
def inspectOrphan (p : ProcessId) : List (Move Unit) :=
  [.answer p (.error ⟨.alreadyExists,"File exists (os error 17)"⟩),.answer p (.metadata 1000000000),
    .answer p (.contents (some orphanOwner)),.answer p (.alive false),
    .answer p (.contents (some orphanOwner)),.answer p (.alive false)]

/-- The dead owner's file is unlinked and a new one created. -/
def replaceOrphan (p : ProcessId) : List (Move Unit) :=
  [.answer p .done,.answer p (.clock (some 1767225700000))] ++ createAndWrite p

def played (moves : List (Move Unit)) :
    Option (List (System Unit × LockEvent Unit) × System Unit) :=
  play bareCodec examplePid [0,1,2] moves ([],System.initial)

theorem lockRun_of_played {moves : List (Move Unit)}
    {r : List (System Unit × LockEvent Unit) × System Unit} (h : played moves = some r) :
    LockRun bareCodec examplePid r.1 r.2 :=
  lockRun_of_play bareCodec examplePid [0,1,2] (r := ([],System.initial)) .start
    (fun _ _ => rfl) h

/-- Process 1 cleans the orphaned lock and holds it. -/
theorem lockRun_exclusive_recovered : ∃ history s, LockRun bareCodec examplePid history s ∧
    s.Holding 1 ∧ Exclusive bareCodec examplePid s := by
  have hplayed : ((played (orphaned ++ [.spawn 1] ++ approach 1 ++ inspectOrphan 1 ++
      replaceOrphan 1)).any fun r => decide (r.2.machine.status 1 = .live ∧
        (r.2.process 1).guards ≠ []) && r.1.all fun row => unraced row.1 row.2) = true := by
    decide +kernel
  obtain ⟨⟨history,s⟩,hplay,hlast⟩ := (Option.any_eq_true _ _).mp hplayed
  obtain ⟨hlast,hunraced⟩ := (Bool.and_eq_true _ _).mp hlast
  have hholding := of_decide_eq_true hlast
  refine ⟨history,s,lockRun_of_played hplay,hholding,
    lockRun_exclusive (lockRun_of_played hplay) ?_⟩
  intro row hrow
  exact unraced_sound (List.all_eq_true.mp hunraced row hrow)

/-- Processes 1 and 2 both verify the orphan before either unlinks it: the second unlink
removes the file of the first, and both hold the lock. -/
theorem lockRun_not_exclusive : ∃ history s, LockRun bareCodec examplePid history s ∧
    ¬ Exclusive bareCodec examplePid s := by
  have hplayed : ((played (orphaned ++ [.spawn 1,.spawn 2] ++ approach 1 ++ approach 2 ++
      inspectOrphan 1 ++ inspectOrphan 2 ++ replaceOrphan 1 ++ replaceOrphan 2)).any fun r =>
      decide ((r.2.machine.status 1 = .live ∧ (r.2.process 1).guards ≠ []) ∧
        r.2.machine.status 2 = .live ∧ (r.2.process 2).guards ≠ [])) = true := by
    decide +kernel
  obtain ⟨⟨history,s⟩,hplay,hlast⟩ := (Option.any_eq_true _ _).mp hplayed
  obtain ⟨hfirst,hsecond⟩ := of_decide_eq_true hlast
  refine ⟨history,s,lockRun_of_played hplay,?_⟩
  intro h
  have hsame := h.exclusive 1 2 hfirst hsecond
  exact absurd hsame (by decide)

end Example

end Lock
end Cara
