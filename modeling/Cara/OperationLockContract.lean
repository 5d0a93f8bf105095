import Cara.OperationLockSystem

/-! The contract of a process that uses the operation lock: it relies on its own file being
left alone and guarantees the same to every live process, as long as its recoveries unlink
only what they re-read. -/
namespace Cara
namespace Lock

open Prog (Contract)

variable {V : Type} (pidOf : ProcessId → ℕ)

/-- The file belongs to a process that has started and names its pid. -/
def Machine.Sound (m : Machine V) : Prop :=
  ∀ f, m.file = some f → m.status f.creator ≠ .unborn ∧
    ∀ owner, f.content = some owner → owner.pid = pidOf f.creator

def Machine.Owns (m : Machine V) (p : ProcessId) : Prop :=
  ∃ f, m.file = some f ∧ f.creator = p

structure Rely (p : ProcessId) (m m' : Machine V) : Prop where
  kept : m.Owns p → m'.file = m.file
  live : m.status p = .live → m'.status p = .live
  born : ∀ q, m.status q ≠ .unborn → m'.status q ≠ .unborn
  dead : ∀ q, m.status q = .dead → m'.status q = .dead
  lastRead : m'.lastRead p = m.lastRead p
  sound : m.Sound pidOf → m'.Sound pidOf

variable {pidOf}

theorem Rely.refl (p : ProcessId) (m : Machine V) : Rely pidOf p m m where
  kept _ := rfl
  live h := h
  born _ h := h
  dead _ h := h
  lastRead := rfl
  sound h := h

theorem Rely.of_file {p : ProcessId} {m : Machine V} {file : Option (LockFile V)}
    (hkept : m.Owns p → file = m.file)
    (hsound : m.Sound pidOf → Machine.Sound pidOf { m with file := file }) :
    Rely pidOf p m { m with file := file } where
  kept := hkept
  live h := h
  born _ h := h
  dead _ h := h
  lastRead := rfl
  sound := hsound

theorem Rely.trans {p : ProcessId} {m m' m'' : Machine V} (h : Rely pidOf p m m')
    (h' : Rely pidOf p m' m'') : Rely pidOf p m m'' where
  kept howns := by
    have hfile := h.kept howns
    have howns' : m'.Owns p := by
      unfold Machine.Owns
      rw [hfile]
      exact howns
    rw [h'.kept howns',hfile]
  live hlive := h'.live (h.live hlive)
  born q hq := h'.born q (h.born q hq)
  dead q hq := h'.dead q (h.dead q hq)
  lastRead := h'.lastRead.trans h.lastRead
  sound hsound := h'.sound (h.sound hsound)

/-- The contract of a process; `own` says that it has a guard. -/
def contract (pidOf : ProcessId → ℕ) (p : ProcessId) (own : Prop) : Contract (Machine V) where
  rely := Rely pidOf p
  guar m m' := ∀ q, q ≠ p → m.status q = .live → Rely pidOf q m m'
  pending m := m.Sound pidOf ∧ (own → m.Owns p)
  rely_trans _ _ _ h h' := h.trans h'

/-- A request whose unlink, when it is a recovery's, finds the file as it was last read. -/
def UnracedExec (pidOf : ProcessId → ℕ) (p : ProcessId) (m : Machine V) (q : Syscall V)
    (a : Answer V) (m' : Machine V) : Prop :=
  Exec pidOf p m q a m' ∧ (q = .unlink true → m.file = none ∨ m.file = m.lastRead p)

/-- What a live process knows: whether it owns the file, which file it has last read and
which processes are dead for good. -/
structure Standing (pidOf : ProcessId → ℕ) (p : ProcessId) (own : Prop)
    (seen : Option (LockFile V)) (gone : List ProcessId) (m : Machine V) : Prop where
  live : m.status p = .live
  sound : m.Sound pidOf
  owns : own → m.Owns p
  seen_eq : ∀ f, seen = some f → m.lastRead p = some f ∧ m.status f.creator ≠ .unborn
  dead : ∀ q ∈ gone, m.status q = .dead

section Standing

variable {p : ProcessId} {own : Prop} {seen : Option (LockFile V)} {gone : List ProcessId}
  {m m' : Machine V}

theorem Standing.stable (h : Standing pidOf p own seen gone m) (hrely : Rely pidOf p m m') :
    Standing pidOf p own seen gone m' where
  live := hrely.live h.live
  sound := hrely.sound h.sound
  owns hown := by
    unfold Machine.Owns
    rw [hrely.kept (h.owns hown)]
    exact h.owns hown
  seen_eq f hf := by
    obtain ⟨hread,hborn⟩ := h.seen_eq f hf
    exact ⟨hrely.lastRead.trans hread,hrely.born _ hborn⟩
  dead q hq := hrely.dead q (h.dead q hq)

theorem Standing.forget (h : Standing pidOf p own seen gone m) :
    Standing pidOf p own none [] m where
  live := h.live
  sound := h.sound
  owns := h.owns
  seen_eq _ hf := absurd hf (by simp)
  dead _ hq := absurd hq (by simp)

theorem Standing.disown (h : Standing pidOf p own seen gone m) {own' : Prop} (hno : ¬ own') :
    Standing pidOf p own' seen gone m :=
  { h with owns := fun hown => absurd hown hno }

end Standing

def Syscall.quiet : Syscall V → Bool
  | .createNew | .writeOwner _ | .readFile | .unlink _ | .rename _ => false
  | _ => true

theorem Exec.quiet {p : ProcessId} {m m' : Machine V} {q : Syscall V} {a : Answer V}
    (h : Exec pidOf p m q a m') (hq : q.quiet = true) : m' = m := by
  cases h <;> first | rfl | cases hq

section Programs

variable {p : ProcessId} {held own : Prop} {seen : Option (LockFile V)} {gone : List ProcessId}
  {m : Machine V} {α β : Type}

/-- The program keeps the contract of a process that has a guard when `held`. -/
abbrev Keeps (pidOf : ProcessId → ℕ) (p : ProcessId) (held : Prop) (prog : LockIo V α)
    (post : Machine V → Except (LockError V) α → Prop) (m : Machine V) : Prop :=
  (contract pidOf p held).Guards (UnracedExec pidOf p) prog post m

/-- A call that fails leaves the process where it stood. -/
def Ends (pidOf : ProcessId → ℕ) (p : ProcessId) (held : Prop) (good : Machine V → α → Prop)
    (m : Machine V) : Except (LockError V) α → Prop
  | .ok a => good m a
  | .error _ => Standing pidOf p held none [] m

theorem Keeps.bind {x : LockIo V α} {f : α → LockIo V β} {mid : Machine V → α → Prop}
    {good : Machine V → β → Prop} (hx : Keeps pidOf p held x (Ends pidOf p held mid) m)
    (hf : ∀ m' a, mid m' a → Keeps pidOf p held (f a) (Ends pidOf p held good) m') :
    Keeps pidOf p held (x >>= f) (Ends pidOf p held good) m := by
  apply Contract.Guards.bind _ hf
  apply hx.mono
  intro m' r hr
  cases r with
  | ok a => exact hr
  | error e => exact hr

theorem keeps_send {q : Syscall V} {f : Answer V → LockIo V α}
    {post : Machine V → Except (LockError V) α → Prop}
    (h : Standing pidOf p own seen gone m) (hheld : held → own)
    (hstep : ∀ m' a m'', Standing pidOf p own seen gone m' → UnracedExec pidOf p m' q a m'' →
      (∀ r, r ≠ p → m'.status r = .live → Rely pidOf r m' m'') ∧
        Keeps pidOf p held (f a) post m'') :
    Keeps pidOf p held (Prog.send q >>= f) post m := by
  apply Contract.Guards.send
  intro m' hrely
  have h' := h.stable hrely
  exact ⟨⟨h'.sound,fun hown => h'.owns (hheld hown)⟩,fun a m'' hexec => hstep m' a m'' h' hexec⟩

theorem keeps_quiet {q : Syscall V} {f : Answer V → LockIo V α}
    {post : Machine V → Except (LockError V) α → Prop} (hq : q.quiet = true)
    (h : Standing pidOf p own seen gone m) (hheld : held → own)
    (hf : ∀ m' a, Standing pidOf p own seen gone m' → Exec pidOf p m' q a m' →
      Keeps pidOf p held (f a) post m') :
    Keeps pidOf p held (Prog.send q >>= f) post m := by
  apply keeps_send h hheld
  intro m' a m'' hstanding hexec
  obtain ⟨hexec,_⟩ := hexec
  have hsame := hexec.quiet hq
  rw [hsame] at hexec ⊢
  exact ⟨fun r _ _ => Rely.refl r m',hf m' a hstanding hexec⟩

theorem keeps_perform {q : Syscall V} (hq : q.quiet = true)
    (h : Standing pidOf p own seen gone m) (hheld : held → own) :
    Keeps pidOf p held (perform q)
      (Ends pidOf p held fun m' _ => Standing pidOf p own seen gone m') m :=
  keeps_quiet hq h hheld fun _ _ hstanding _ => hstanding

theorem keeps_metadata (h : Standing pidOf p own seen gone m) (hheld : held → own) :
    Keeps pidOf p held metadata
      (Ends pidOf p held fun m' _ => Standing pidOf p own seen gone m') m := by
  apply keeps_quiet rfl h hheld
  intro m' a hstanding _
  cases a <;> exact hstanding

theorem keeps_lockAgeSecs (fileAge : ℕ) (owner : OperationLockOwner V)
    (h : Standing pidOf p own seen gone m) (hheld : held → own) :
    Keeps pidOf p held (lockAgeSecs fileAge owner)
      (Ends pidOf p held fun m' _ => Standing pidOf p own seen gone m') m := by
  have hclock : Keeps pidOf p held clockSecs
      (Ends pidOf p held fun m' _ => Standing pidOf p own seen gone m') m := by
    apply keeps_quiet rfl h hheld
    intro m' a hstanding _
    cases a <;> exact hstanding
  apply hclock.bind
  intro m' now hstanding
  cases now <;> exact hstanding

theorem keeps_clockMillis (h : Standing pidOf p own seen gone m) (hheld : held → own) :
    Keeps pidOf p held clockMillis
      (Ends pidOf p held fun m' _ => Standing pidOf p own seen gone m') m := by
  apply keeps_quiet rfl h hheld
  intro m' a hstanding _
  cases a <;> exact hstanding

theorem Standing.given (h : Standing pidOf p own seen gone m) (hheld : held → own) :
    Standing pidOf p held none [] m :=
  { h.forget with owns := fun hown => h.owns (hheld hown) }

theorem keeps_lockPath (h : Standing pidOf p own seen gone m) (hheld : held → own) :
    Keeps pidOf p held lockPath
      (Ends pidOf p held fun m' _ => Standing pidOf p own seen gone m') m := by
  apply keeps_quiet rfl h hheld
  intro m' a hstanding _
  split
  · exact hstanding
  all_goals exact hstanding.given hheld

/-- Reading marks the file as seen; a complete owner names its creator's pid. -/
def ReadOutcome (pidOf : ProcessId → ℕ) (p : ProcessId) (own : Prop) (gone : List ProcessId)
    (m : Machine V) : Except IoError (OperationLockOwner V) → Prop
  | .ok owner => ∃ f, Standing pidOf p own (some f) gone m ∧ owner.pid = pidOf f.creator
  | .error _ => Standing pidOf p own none gone m

theorem Standing.unseen (h : Standing pidOf p own seen gone m) :
    Standing pidOf p own none gone m :=
  { h with seen_eq := fun _ hf => absurd hf (by simp) }

theorem Standing.read (h : Standing pidOf p own seen gone m) {f : LockFile V}
    (hfile : m.file = some f) : Standing pidOf p own (some f) gone
      { m with lastRead := Function.update m.lastRead p (some f) } where
  live := h.live
  sound := h.sound
  owns := h.owns
  seen_eq f' hf' := by
    cases hf'
    exact ⟨Function.update_self p (some f) m.lastRead,(h.sound f hfile).1⟩
  dead := h.dead

theorem keeps_readOwner (codec : LockCodec V) (h : Standing pidOf p own seen gone m)
    (hheld : held → own) :
    Keeps pidOf p held (readOwner codec)
      (Ends pidOf p held (ReadOutcome pidOf p own gone)) m := by
  apply keeps_send h hheld
  intro m' a m'' hstanding hexec
  obtain ⟨hexec,_⟩ := hexec
  cases hexec with
  | failed _ error => exact ⟨fun r _ _ => Rely.refl r m',hstanding.unseen⟩
  | readFile hfile =>
    rename_i f
    constructor
    · intro r hr hlive
      exact {
        Rely.refl r m' with
        lastRead := Function.update_of_ne hr (some f) m'.lastRead }
    · have hread := hstanding.read hfile
      cases hcontent : f.content with
      | none => exact hread.unseen
      | some owner =>
        dsimp only
        split
        · exact ⟨f,hread,(hstanding.sound f hfile).2 owner hcontent⟩
        · exact hread.unseen

/-- A probe that finds nobody proves the creator of the seen file dead. -/
theorem keeps_processIsAlive {f : LockFile V} {pid : ℕ}
    (h : Standing pidOf p own (some f) gone m) (hheld : held → own)
    (hpid : pid = pidOf f.creator) :
    Keeps pidOf p held (processIsAlive pid) (Ends pidOf p held fun m' alive =>
      Standing pidOf p own (some f) (if alive then gone else f.creator::gone) m') m := by
  unfold processIsAlive
  split
  · exact h.given hheld
  · split
    · exact h.given hheld
    · apply keeps_quiet rfl h hheld
      intro m' a hstanding hexec
      cases hexec with
      | failed _ error => exact hstanding.given hheld
      | probe _ hvalue =>
        rename_i value
        cases value with
        | true => exact hstanding
        | false =>
          refine { hstanding with dead := ?_ }
          intro q hq
          rcases List.mem_cons.mp hq with hq | hq
          · have hborn := (hstanding.seen_eq f rfl).2
            have hnot : m'.status f.creator ≠ .live := by
              intro hlive
              have := hvalue.mpr ⟨f.creator,hlive,hpid.symm⟩
              cases this
            rw [hq]
            cases hstatus : m'.status f.creator with
            | unborn => exact absurd hstatus hborn
            | live => exact absurd hstatus hnot
            | dead => rfl
          · exact hstanding.dead q hq

/-- A recovery's unlink hits the file of a dead process, or fails. -/
theorem keeps_unlinkRecovered {f : LockFile V} (h : Standing pidOf p own (some f) gone m)
    (hheld : held → own) (hdead : f.creator ∈ gone) :
    Keeps pidOf p held (perform (.unlink true))
      (Ends pidOf p held fun m' _ => Standing pidOf p own none [] m') m := by
  apply keeps_send h hheld
  intro m' a m'' hstanding hexec
  obtain ⟨hexec,hunraced⟩ := hexec
  cases hexec with
  | failed _ error => exact ⟨fun r _ _ => Rely.refl r m',hstanding.forget⟩
  | unlink _ hfile =>
    have hseen := (hstanding.seen_eq f rfl).1
    have hcurrent : m'.file = some f := by
      rcases hunraced rfl with hnone | hsame
      · rw [hnone] at hfile
        cases hfile
      · rw [hsame,hseen]
    have hgone := hstanding.dead f.creator hdead
    have hnot : ∀ r, m'.status r = .live → ¬ m'.Owns r := by
      intro r hlive howns
      obtain ⟨f',hf',hcreator⟩ := howns
      rw [hcurrent] at hf'
      cases hf'
      rw [hcreator,hlive] at hgone
      cases hgone
    constructor
    · intro r _ hlive
      exact Rely.of_file (fun howns => absurd howns (hnot r hlive))
        fun _ _ hf' => absurd hf' (by simp)
    · exact {
        live := hstanding.live
        sound := fun _ hf' => absurd hf' (by simp)
        owns := fun hown => absurd (hstanding.owns hown) (hnot p hstanding.live)
        seen_eq := fun _ hf' => absurd hf' (by simp)
        dead := fun _ hq => absurd hq (by simp) }

variable (codec : LockCodec V)

theorem keeps_unlinkDeadOwner {f : LockFile V} (fileAge : ℕ) (latest : OperationLockOwner V)
    (h : Standing pidOf p own (some f) gone m) (hheld : held → own) (hdead : f.creator ∈ gone) :
    Keeps pidOf p held (unlinkDeadOwner fileAge latest)
      (Ends pidOf p held fun m' _ => Standing pidOf p own none [] m') m := by
  apply (keeps_unlinkRecovered h hheld hdead).bind
  intro m' r hstanding
  cases r with
  | error e => exact hstanding.given hheld
  | ok _ =>
    apply (keeps_lockAgeSecs fileAge latest hstanding hheld).bind
    exact fun _ _ hlast => hlast

theorem keeps_recoverDeadOwnerForAcquire [DecidableEq V] (h : Standing pidOf p own seen gone m)
    (hheld : held → own) :
    Keeps pidOf p held (recoverDeadOwnerForAcquire codec)
      (Ends pidOf p held fun m' _ => Standing pidOf p own none [] m') m := by
  apply (keeps_metadata h hheld).bind
  intro m' r hstanding
  cases r with
  | error e =>
    dsimp only
    split
    · exact hstanding.forget
    · exact hstanding.given hheld
  | ok fileAge =>
    apply (keeps_readOwner codec hstanding hheld).bind
    intro m₁ r hread
    cases r with
    | error e =>
      dsimp only
      split
      · exact Standing.forget hread
      · exact Standing.given hread hheld
    | ok owner =>
      obtain ⟨f,hseen,hpid⟩ := hread
      apply (keeps_processIsAlive hseen hheld hpid).bind
      intro m₂ alive hprobed
      cases alive with
      | true => exact hprobed.forget
      | false =>
        -- the second look: only an unchanged owner that is still dead is removed
        apply (keeps_readOwner codec hprobed hheld).bind
        intro m₃ r hread
        cases r with
        | error e =>
          dsimp only
          split
          · exact Standing.forget hread
          · exact Standing.given hread hheld
        | ok latest =>
          obtain ⟨f',hseen',hpid'⟩ := hread
          dsimp only
          split
          · exact hseen'.given hheld
          · apply (keeps_processIsAlive hseen' hheld hpid').bind
            intro m₄ alive hprobed'
            cases alive with
            | true => exact hprobed'.forget
            | false => exact keeps_unlinkDeadOwner fileAge latest hprobed' hheld (by simp)

theorem keeps_existingLockError (staleAfter : ℕ) (h : Standing pidOf p own seen gone m)
    (hheld : held → own) :
    Keeps pidOf p held (existingLockError codec staleAfter)
      (Ends pidOf p held fun m' _ => Standing pidOf p own none [] m') m := by
  apply (keeps_metadata h hheld).bind
  intro m' r hstanding
  cases r with
  | error e => exact hstanding.forget
  | ok age =>
    apply (keeps_readOwner codec hstanding hheld).bind
    intro m₁ r hread
    have hlast : Standing pidOf p own none [] m₁ := by
      cases r with
      | error e => exact Standing.forget hread
      | ok owner =>
        obtain ⟨f,hseen,_⟩ := hread
        exact hseen.forget
    dsimp only
    split
    · exact hlast
    · exact hlast

theorem keeps_inspectLock (staleAfter : ℕ) (h : Standing pidOf p own seen gone m)
    (hheld : held → own) :
    Keeps pidOf p held (inspectLock codec staleAfter)
      (Ends pidOf p held fun m' _ => Standing pidOf p own none [] m') m := by
  apply (keeps_lockPath h hheld).bind
  intro m₀ _ hstanding
  apply (keeps_metadata hstanding hheld).bind
  intro m₁ r hstanding
  cases r with
  | error e =>
    dsimp only
    split
    · exact hstanding.forget
    · exact hstanding.given hheld
  | ok fileAge =>
    apply (keeps_readOwner codec hstanding hheld).bind
    intro m₂ r hread
    cases r with
    | error e => exact Standing.given hread hheld
    | ok owner =>
      obtain ⟨f,hseen,hpid⟩ := hread
      apply (keeps_lockAgeSecs fileAge owner hseen hheld).bind
      intro m₃ ageSecs hseen
      apply (keeps_processIsAlive hseen hheld hpid).bind
      exact fun _ _ hprobed => hprobed.forget

theorem keeps_recoverStaleLock [DecidableEq V] (staleAfter : ℕ) (expectedToken : String)
    (h : Standing pidOf p own seen gone m) (hheld : held → own) :
    Keeps pidOf p held (recoverStaleLock codec staleAfter expectedToken)
      (Ends pidOf p held fun m' _ => Standing pidOf p own none [] m') m := by
  have hresult {γ : Type} (x : Except (LockError V) γ) {m' : Machine V}
      (hm' : Standing pidOf p own none [] m') :
      Keeps pidOf p held (Prog.ofResult x)
        (Ends pidOf p held fun m'' _ => Standing pidOf p own none [] m'') m' := by
    cases x with
    | ok _ => exact hm'
    | error _ => exact hm'.given hheld
  apply (hresult _ h.forget).bind
  intro m₀ _ hstanding
  apply (keeps_inspectLock codec staleAfter hstanding hheld).bind
  intro m₁ status hstanding
  apply (hresult _ hstanding).bind
  intro m₂ owner hstanding
  apply (keeps_lockPath hstanding hheld).bind
  intro m₃ _ hstanding
  apply (keeps_readOwner codec hstanding hheld).bind
  intro m₄ r hread
  cases r with
  | error e => exact Standing.given hread hheld
  | ok latest =>
    obtain ⟨f,hseen,hpid⟩ := hread
    dsimp only
    split
    · exact hseen.given hheld
    · apply (keeps_processIsAlive hseen hheld hpid).bind
      intro m₅ alive hprobed
      cases alive with
      | true => exact hprobed.given hheld
      | false =>
        apply (keeps_unlinkRecovered hprobed hheld (by simp)).bind
        intro m₆ r hlast
        cases r with
        | ok _ => exact hlast
        | error _ => exact hlast.given hheld

end Programs

section Owning

variable {p : ProcessId} {held own : Prop} {seen : Option (LockFile V)} {gone : List ProcessId}
  {m : Machine V}

/-- Another process is not touched when the owner replaces its own file. -/
theorem Rely.of_owned {r : ProcessId} (howns : m.Owns p) (hr : r ≠ p)
    {file : Option (LockFile V)}
    (hsound : m.Sound pidOf → Machine.Sound pidOf { m with file := file }) :
    Rely pidOf r m { m with file := file } := by
  apply Rely.of_file _ hsound
  intro howns'
  obtain ⟨f,hf,hcreator⟩ := howns
  obtain ⟨f',hf',hcreator'⟩ := howns'
  rw [hf] at hf'
  cases hf'
  exact absurd (hcreator'.symm.trans hcreator) hr

def Removal (pidOf : ProcessId → ℕ) (p : ProcessId) (m : Machine V) : Except IoError Unit → Prop
  | .ok _ => Standing pidOf p False none [] m
  | .error _ => Standing pidOf p True none [] m

theorem keeps_unlinkOwned (h : Standing pidOf p True seen gone m) :
    Keeps pidOf p held (perform (.unlink false)) (Ends pidOf p held (Removal pidOf p)) m := by
  apply keeps_send h fun _ => trivial
  intro m' a m'' hstanding hexec
  obtain ⟨hexec,_⟩ := hexec
  cases hexec with
  | failed _ error => exact ⟨fun r _ _ => Rely.refl r m',hstanding.forget⟩
  | unlink _ _ =>
    constructor
    · intro r hr _
      exact Rely.of_owned (hstanding.owns trivial) hr fun _ _ hf => absurd hf (by simp)
    · exact {
        live := hstanding.live
        sound := fun _ hf => absurd hf (by simp)
        owns := fun hfalse => hfalse.elim
        seen_eq := fun _ hf => absurd hf (by simp)
        dead := fun _ hq => absurd hq (by simp) }

/-- The process has created the file, or stands where it stood. -/
def Creation (pidOf : ProcessId → ℕ) (p : ProcessId) (own : Prop) (m : Machine V) :
    Except IoError Unit → Prop
  | .ok _ => ¬ own ∧ Standing pidOf p True none [] m
  | .error _ => Standing pidOf p own none [] m

/-- The file is created only where there was none, so a process with a guard never succeeds. -/
theorem keeps_createNew (h : Standing pidOf p own seen gone m) (hheld : held → own) :
    Keeps pidOf p held (perform .createNew) (Ends pidOf p held (Creation pidOf p own)) m := by
  apply keeps_send h hheld
  intro m' a m'' hstanding hexec
  obtain ⟨hexec,_⟩ := hexec
  cases hexec with
  | failed _ error => exact ⟨fun r _ _ => Rely.refl r m',hstanding.forget⟩
  | createNew hnone =>
    have hnobody : ∀ r, ¬ m'.Owns r := by
      intro r howns
      obtain ⟨f,hf,_⟩ := howns
      rw [hnone] at hf
      cases hf
    have hsound : Machine.Sound pidOf { m' with file := some ⟨p,none⟩ } := by
      intro f hf
      cases hf
      refine ⟨?_,fun _ hcontent => absurd hcontent (by simp)⟩
      show m'.status p ≠ .unborn
      rw [hstanding.live]
      decide
    constructor
    · intro r _ _
      exact Rely.of_file (fun howns => absurd howns (hnobody r)) fun _ => hsound
    · refine ⟨fun hown => hnobody p (hstanding.owns hown),?_⟩
      exact {
        live := hstanding.live
        sound := hsound
        owns := fun _ => ⟨⟨p,none⟩,rfl,rfl⟩
        seen_eq := fun _ hf => absurd hf (by simp)
        dead := fun _ hq => absurd hq (by simp) }

theorem Standing.rewrite (h : Standing pidOf p True seen gone m)
    {owner : OperationLockOwner V} (hpid : owner.pid = pidOf p) :
    (∀ r, r ≠ p → m.status r = .live →
      Rely pidOf r m { m with file := some ⟨p,some owner⟩ }) ∧
    Standing pidOf p True none [] { m with file := some ⟨p,some owner⟩ } := by
  have hsound : Machine.Sound pidOf { m with file := some ⟨p,some owner⟩ } := by
    intro f hf
    cases hf
    constructor
    · show m.status p ≠ .unborn
      rw [h.live]
      decide
    · intro owner' hcontent
      cases hcontent
      exact hpid
  constructor
  · intro r hr _
    exact Rely.of_owned (h.owns trivial) hr fun _ => hsound
  · exact {
      live := h.live
      sound := hsound
      owns := fun _ => ⟨⟨p,some owner⟩,rfl,rfl⟩
      seen_eq := fun _ hf => absurd hf (by simp)
      dead := fun _ hq => absurd hq (by simp) }

theorem Standing.write (h : Standing pidOf p True seen gone m)
    {owner : OperationLockOwner V} (hpid : owner.pid = pidOf p) :
    (∀ r, r ≠ p → m.status r = .live → Rely pidOf r m (m.write p owner)) ∧
    Standing pidOf p True none [] (m.write p owner) := by
  unfold Machine.write
  split
  · split
    · exact h.rewrite hpid
    · exact ⟨fun r _ _ => Rely.refl r m,h.forget⟩
  · exact ⟨fun r _ _ => Rely.refl r m,h.forget⟩

theorem keeps_writeOwner (h : Standing pidOf p True seen gone m)
    {owner : OperationLockOwner V} (hpid : owner.pid = pidOf p) :
    Keeps pidOf p held (perform (.writeOwner owner))
      (Ends pidOf p held fun m' _ => Standing pidOf p True none [] m') m := by
  apply keeps_send h fun _ => trivial
  intro m' a m'' hstanding hexec
  obtain ⟨hexec,_⟩ := hexec
  cases hexec with
  | failed _ error => exact ⟨fun r _ _ => Rely.refl r m',hstanding.forget⟩
  | writeOwner _ => exact hstanding.write hpid
  | writeUnsynced _ error => exact hstanding.write hpid

theorem keeps_rename (h : Standing pidOf p True seen gone m)
    {owner : OperationLockOwner V} (hpid : owner.pid = pidOf p) :
    Keeps pidOf p held (perform (.rename owner))
      (Ends pidOf p held fun m' _ => Standing pidOf p True none [] m') m := by
  apply keeps_send h fun _ => trivial
  intro m' a m'' hstanding hexec
  obtain ⟨hexec,_⟩ := hexec
  cases hexec with
  | failed _ error => exact ⟨fun r _ _ => Rely.refl r m',hstanding.forget⟩
  | rename _ => exact hstanding.rewrite hpid

variable (codec : LockCodec V)

theorem boundedOwner_pid (owner : OperationLockOwner V) (c : OperationLockCheckpoint V) :
    (boundedOwner codec owner c).pid = owner.pid := by
  unfold boundedOwner
  dsimp only
  split
  · rfl
  · split <;> rfl

theorem keeps_persistCheckpointBytes {lock : OperationLock V}
    (h : Standing pidOf p True seen gone m) (hpid : lock.owner.pid = pidOf p) :
    Keeps pidOf p held (lock.persistCheckpointBytes codec) (Ends pidOf p held fun m' next =>
      Standing pidOf p True none [] m' ∧ next.owner = lock.owner) m := by
  have hgiveUp {m' : Machine V} (hm' : Standing pidOf p True none [] m') (e : LockError V) :
      Keeps pidOf p held (do
        let _ ← perform .removeTemporary
        throw e : LockIo V (OperationLock V)) (Ends pidOf p held fun m' next =>
          Standing pidOf p True none [] m' ∧ next.owner = lock.owner) m' := by
    apply (keeps_perform rfl hm' fun _ => trivial).bind
    exact fun _ _ hlast => hlast.given fun _ => trivial
  apply (keeps_perform rfl h.forget fun _ => trivial).bind
  intro m₁ r hstanding
  cases r with
  | error e => exact hgiveUp hstanding _
  | ok _ =>
    apply (keeps_readOwner codec hstanding fun _ => trivial).bind
    intro m₂ r hread
    cases r with
    | error e => exact hgiveUp hread _
    | ok latest =>
      obtain ⟨f,hseen,_⟩ := hread
      dsimp only
      split
      · exact hgiveUp hseen.forget _
      · apply (keeps_rename hseen hpid).bind
        intro m₃ r hrenamed
        cases r with
        | error e => exact hgiveUp hrenamed _
        | ok _ =>
          apply (keeps_perform rfl hrenamed fun _ => trivial).bind
          intro m₄ r hlast
          cases r with
          | error e => exact hlast.given fun _ => trivial
          | ok _ => exact ⟨hlast,rfl⟩

/-- A checkpoint leaves a guard of the same process on its own file. -/
theorem keeps_checkpoint {lock : OperationLock V} (phase : String) (evidence : V)
    (indeterminate : Bool) (h : Standing pidOf p True seen gone m) (hheld : held)
    (hpid : lock.owner.pid = pidOf p) :
    Keeps pidOf p held (lock.checkpoint codec phase evidence indeterminate)
      (Ends pidOf p held fun m' next =>
        Standing pidOf p True none [] m' ∧ next.1.owner.pid = pidOf p) m := by
  apply (keeps_readOwner codec h fun _ => trivial).bind
  intro m₁ r hread
  cases r with
  | error e => exact ⟨Standing.forget hread,hpid⟩
  | ok existing =>
    obtain ⟨f,hseen,_⟩ := hread
    dsimp only
    split
    · exact ⟨hseen.forget,hpid⟩
    · apply (keeps_clockMillis hseen fun _ => trivial).bind
      intro m₂ updatedUnixMs hstanding
      have hbounded := boundedOwner_pid codec lock.owner {
        phase := phase
        updatedUnixMs := updatedUnixMs
        evidence := evidence
        providerStateIndeterminate := indeterminate }
      have hnext := hbounded.trans hpid
      split
      · exact ⟨hstanding.forget,hnext⟩
      · split
        · exact ⟨hstanding.forget,hnext⟩
        · apply Contract.Guards.attempt
          apply (keeps_persistCheckpointBytes codec hstanding hnext).mono
          intro m₃ r hlast
          cases r with
          | ok persisted =>
            refine ⟨hlast.1,?_⟩
            show persisted.owner.pid = pidOf p
            rw [hlast.2]
            exact hnext
          | error e =>
            have howns : Standing pidOf p held none [] m₃ := hlast
            exact ⟨howns.given fun _ => hheld,hnext⟩

theorem keeps_drop (lock : OperationLock V) (h : Standing pidOf p True seen gone m) :
    Keeps pidOf p held (lock.drop codec)
      (Ends pidOf p held fun m' _ => Standing pidOf p False none [] m') m := by
  apply (keeps_readOwner codec h fun _ => trivial).bind
  intro m₁ r hread
  cases r with
  | error e => exact Standing.given hread False.elim
  | ok owner =>
    obtain ⟨f,hseen,_⟩ := hread
    dsimp only
    split
    · apply (keeps_unlinkOwned hseen).bind
      intro m₂ r hremoved
      cases r with
      | ok _ => exact hremoved
      | error _ => exact Standing.given hremoved False.elim
    · exact hseen.given False.elim

theorem keeps_releaseInner (lock : OperationLock V) (h : Standing pidOf p True seen gone m) :
    Keeps pidOf p held (lock.releaseInner codec)
      (Ends pidOf p held fun m' _ => Standing pidOf p False none [] m') m := by
  apply (keeps_readOwner codec h fun _ => trivial).bind
  intro m₁ r hread
  cases r with
  | error e => exact Standing.given hread fun _ => trivial
  | ok existing =>
    obtain ⟨f,hseen,_⟩ := hread
    dsimp only
    split
    · exact hseen.given fun _ => trivial
    · apply (keeps_unlinkOwned hseen).bind
      intro m₂ r hremoved
      cases r with
      | ok _ => exact hremoved
      | error _ => exact Standing.given hremoved fun _ => trivial

theorem keeps_release (lock : OperationLock V) (h : Standing pidOf p True seen gone m)
    (hheld : held) :
    Keeps pidOf p held (lock.release codec)
      (Ends pidOf p held fun m' _ => Standing pidOf p False none [] m') m := by
  apply Contract.Guards.attempt
  apply (keeps_releaseInner codec lock h).mono
  intro m₁ r hinner
  cases r with
  | ok _ => exact hinner
  | error e =>
    have howns : Standing pidOf p held none [] m₁ := hinner
    apply (keeps_drop codec lock (howns.given fun _ => hheld)).bind
    exact fun _ _ hlast => hlast

variable [DecidableEq V]

/-- A new guard: the process had none, owns the file now and recorded its own pid. -/
def Acquired (pidOf : ProcessId → ℕ) (p : ProcessId) (held : Prop) (m : Machine V)
    (lock : OperationLock V) : Prop :=
  ¬ held ∧ Standing pidOf p True none [] m ∧ lock.owner.pid = pidOf p

theorem keeps_acquireAttempts (staleAfter : ℕ) {owner : OperationLockOwner V}
    (hpid : owner.pid = pidOf p) (attempts : List ℕ)
    (recovered : Option (OperationLockRecovery V)) (h : Standing pidOf p held none [] m) :
    Keeps pidOf p held (acquireAttempts codec staleAfter owner attempts recovered)
      (Ends pidOf p held (Acquired pidOf p held)) m := by
  induction attempts generalizing recovered m with
  | nil => exact h
  | cons attempt rest ih =>
    apply (keeps_createNew h id).bind
    intro m₁ r hcreated
    cases r with
    | ok _ =>
      obtain ⟨hfree,hown⟩ := hcreated
      apply (keeps_writeOwner hown hpid).bind
      intro m₂ r hwritten
      cases r with
      | ok _ => exact ⟨hfree,hwritten,hpid⟩
      | error e =>
        apply (keeps_unlinkOwned hwritten).bind
        intro m₃ r hremoved
        cases r with
        | ok _ => exact Standing.disown hremoved hfree
        | error _ => exact Standing.disown hremoved hfree
    | error e =>
      dsimp only
      split
      · apply (keeps_recoverDeadOwnerForAcquire codec hcreated id).bind
        intro m₂ probe hstanding
        cases probe with
        | recovered receipt => exact ih _ hstanding
        | gone =>
          dsimp only
          split
          · exact ih _ hstanding
          · exact hstanding
        | live =>
          apply (keeps_existingLockError codec staleAfter hstanding id).bind
          intro m₃ r hstanding
          cases r with
          | ok _ => exact hstanding
          | error readError =>
            dsimp only
            split
            · exact ih _ hstanding
            · exact hstanding
      · exact hcreated

theorem keeps_acquire (operation : String) (staleAfter : ℕ)
    (h : Standing pidOf p held none [] m) :
    Keeps pidOf p held (acquireWithStaleAfter codec operation staleAfter)
      (Ends pidOf p held (Acquired pidOf p held)) m := by
  have hname : Keeps pidOf p held (Prog.ofResult (Guard.refuse (Text.isBlank operation ||
      operation.toList.any fun c => c = '\n' || c = '\r') ⟨.validation,"invalid_operation_name",
        "a lock operation name must be non-empty and single-line",none⟩))
      (Ends pidOf p held fun m' _ => Standing pidOf p held none [] m') m := by
    unfold Guard.refuse
    split
    · exact h
    · exact h
  apply hname.bind
  intro m₁ _ hstanding
  apply (keeps_lockPath hstanding id).bind
  intro m₂ _ hstanding
  apply (keeps_perform rfl hstanding id).bind
  intro m₃ r hstanding
  cases r with
  | error e => exact hstanding
  | ok _ =>
    have howner : Keeps pidOf p held (newOwner operation) (Ends pidOf p held fun m' owner =>
        Standing pidOf p held none [] m' ∧ owner.pid = pidOf p) m₃ := by
      apply keeps_quiet rfl hstanding id
      intro m' a hstanding hexec
      cases hexec with
      | failed _ error => exact hstanding
      | identity nanos sequence => exact ⟨hstanding,rfl⟩
    apply howner.bind
    intro m₄ owner hidentity
    exact keeps_acquireAttempts codec staleAfter hidentity.2 _ _ hidentity.1

end Owning

end Lock
end Cara
