import Cara.Lib.Prog

/-! The conversations on which a program gives a result: runs of the recording environment
read off the program itself, with one rule for each way to build a program. -/
namespace Prog

variable {Q A α β ε : Type}

/-- The program asks and is answered exactly as in the conversation and ends in the result. -/
def Converses : Prog Q A α → List (Q × A) → Option α → Prop
  | done a,t,r => t = [] ∧ r = some a
  | ask q k,t,r => ∃ a t', t = (q,a)::t' ∧ Converses (k a) t' r
  | abort,t,r => t = [] ∧ r = none

theorem converses_of_run {p : Prog Q A α} {past t : List (Q × A)} {r : Option α}
    (h : Run record p past r t) : ∃ s, t = past ++ s ∧ Converses p s r := by
  induction h with
  | done a s => exact ⟨[],by simp,rfl,rfl⟩
  | abort s => exact ⟨[],by simp,rfl,rfl⟩
  | ask hstep _ ih =>
    obtain ⟨s,hs,hconverses⟩ := ih
    have hnext := hstep
    unfold record at hnext
    refine ⟨_::s,?_,_,s,rfl,hconverses⟩
    rw [hs,hnext,List.append_assoc]
    rfl

theorem converses_bind (p : Prog Q A α) (f : α → Prog Q A β) (t : List (Q × A)) (b : β) :
    Converses (p >>= f) t (some b) ↔
      ∃ a t₁ t₂, t = t₁ ++ t₂ ∧ Converses p t₁ (some a) ∧ Converses (f a) t₂ (some b) := by
  induction p generalizing t with
  | done a =>
    constructor
    · intro h
      exact ⟨a,[],t,rfl,⟨rfl,rfl⟩,h⟩
    · intro h
      obtain ⟨a',t₁,t₂,ht,⟨ht₁,ha⟩,h⟩ := h
      cases ha
      rw [ht,ht₁]
      exact h
  | abort =>
    constructor
    · intro h
      cases h.2
    · intro h
      obtain ⟨_,_,_,_,⟨_,ha⟩,_⟩ := h
      cases ha
  | ask q k ih =>
    constructor
    · intro h
      obtain ⟨a,t',ht,h⟩ := h
      obtain ⟨b',t₁,t₂,ht',h₁,h₂⟩ := (ih a t').mp h
      exact ⟨b',(q,a)::t₁,t₂,by rw [ht,ht']; rfl,⟨a,t₁,rfl,h₁⟩,h₂⟩
    · intro h
      obtain ⟨b',t₁,t₂,ht,⟨a,t',ht₁,h₁⟩,h₂⟩ := h
      exact ⟨a,t' ++ t₂,by rw [ht,ht₁]; rfl,(ih a _).mpr ⟨b',t',t₂,rfl,h₁,h₂⟩⟩

/-- A program is determined by its answers: two of its conversations that begin alike are
the same one. -/
theorem Converses.unique {p : Prog Q A α} {t t' s s' : List (Q × A)} {r r' : Option α}
    (h : Converses p t r) (h' : Converses p t' r') (heq : t ++ s = t' ++ s') :
    t = t' ∧ r = r' ∧ s = s' := by
  induction p generalizing t t' with
  | done a =>
    obtain ⟨ht,hr⟩ := h
    obtain ⟨ht',hr'⟩ := h'
    rw [ht,ht'] at heq
    exact ⟨ht.trans ht'.symm,hr.trans hr'.symm,heq⟩
  | abort =>
    obtain ⟨ht,hr⟩ := h
    obtain ⟨ht',hr'⟩ := h'
    rw [ht,ht'] at heq
    exact ⟨ht.trans ht'.symm,hr.trans hr'.symm,heq⟩
  | ask q k ih =>
    obtain ⟨a,u,ht,h⟩ := h
    obtain ⟨a',u',ht',h'⟩ := h'
    rw [ht,ht'] at heq
    obtain ⟨hhead,htail⟩ := List.cons.inj heq
    have ha : a = a' := congrArg Prod.snd hhead
    rw [← ha] at h'
    obtain ⟨hu,hr,hs⟩ := ih a h h' htail
    exact ⟨by rw [ht,ht',hu,ha],hr,hs⟩

section Fallible

/-- The fallible program gives the result, error included, on exactly this conversation. -/
def Yields (p : Fallible Q A ε α) (t : List (Q × A)) (r : Except ε α) : Prop :=
  Converses p.run t (some r)

variable {t : List (Q × A)}

@[simp] theorem yields_pure (a : α) (r : Except ε α) :
    Yields (pure a : Fallible Q A ε α) t r ↔ t = [] ∧ r = .ok a := by
  show t = [] ∧ some r = some (Except.ok a) ↔ _
  rw [Option.some_inj]

@[simp] theorem yields_throw (e : ε) (r : Except ε α) :
    Yields (throw e : Fallible Q A ε α) t r ↔ t = [] ∧ r = .error e := by
  show t = [] ∧ some r = some (Except.error e) ↔ _
  rw [Option.some_inj]

@[simp] theorem yields_ofResult (x r : Except ε α) :
    Yields (ofResult x : Fallible Q A ε α) t r ↔ t = [] ∧ r = x := by
  show t = [] ∧ some r = some x ↔ _
  rw [Option.some_inj]

@[simp] theorem yields_crashed (r : Except ε α) :
    ¬ Yields (crashed : Fallible Q A ε α) t r := by
  intro h
  cases h.2

@[simp] theorem yields_send (q : Q) (r : Except ε A) :
    Yields (send q : Fallible Q A ε A) t r ↔ ∃ a, t = [(q,a)] ∧ r = .ok a := by
  constructor
  · intro h
    obtain ⟨a,t',ht,hrest⟩ := h
    obtain ⟨ht',hr⟩ := hrest
    rw [ht'] at ht
    exact ⟨a,ht,Option.some_inj.mp hr⟩
  · intro h
    obtain ⟨a,ht,hr⟩ := h
    rw [ht,hr]
    exact ⟨a,[],rfl,rfl,rfl⟩

theorem yields_bind (p : Fallible Q A ε α) (f : α → Fallible Q A ε β) (r : Except ε β) :
    Yields (p >>= f) t r ↔ ∃ x t₁ t₂, t = t₁ ++ t₂ ∧ Yields p t₁ x ∧
      match x with
      | .ok a => Yields (f a) t₂ r
      | .error e => t₂ = [] ∧ r = .error e := by
  have hbind : Yields (p >>= f) t r ↔ ∃ x t₁ t₂, t = t₁ ++ t₂ ∧ Converses p.run t₁ (some x) ∧
      Converses (ExceptT.bindCont f x) t₂ (some r) := converses_bind _ _ _ _
  rw [hbind]
  constructor
  · intro h
    obtain ⟨x,t₁,t₂,ht,hp,hf⟩ := h
    refine ⟨x,t₁,t₂,ht,hp,?_⟩
    cases x with
    | ok a => exact hf
    | error e => exact ⟨hf.1,Option.some_inj.mp hf.2⟩
  · intro h
    obtain ⟨x,t₁,t₂,ht,hp,hf⟩ := h
    refine ⟨x,t₁,t₂,ht,hp,?_⟩
    cases x with
    | ok a => exact hf
    | error e => exact ⟨hf.1,congrArg some hf.2⟩

/-- A sequence succeeds when both parts do, each on its share of the conversation. -/
theorem yields_bind_ok (p : Fallible Q A ε α) (f : α → Fallible Q A ε β) (b : β) :
    Yields (p >>= f) t (.ok b) ↔
      ∃ a t₁ t₂, t = t₁ ++ t₂ ∧ Yields p t₁ (.ok a) ∧ Yields (f a) t₂ (.ok b) := by
  rw [yields_bind]
  constructor
  · intro h
    obtain ⟨x,t₁,t₂,ht,hp,hf⟩ := h
    cases x with
    | ok a => exact ⟨a,t₁,t₂,ht,hp,hf⟩
    | error e => cases hf.2
  · intro h
    obtain ⟨a,t₁,t₂,ht,hp,hf⟩ := h
    exact ⟨.ok a,t₁,t₂,ht,hp,hf⟩

theorem yields_ofResult_bind (x : Except ε α) (f : α → Fallible Q A ε β) (b : β) :
    Yields (ofResult x >>= f) t (.ok b) ↔ ∃ a, x = .ok a ∧ Yields (f a) t (.ok b) := by
  rw [yields_bind_ok]
  constructor
  · intro h
    obtain ⟨a,t₁,t₂,ht,hx,hf⟩ := h
    obtain ⟨ht₁,hx⟩ := (yields_ofResult _ _).mp hx
    rw [ht,ht₁]
    exact ⟨a,hx.symm,hf⟩
  · intro h
    obtain ⟨a,hx,hf⟩ := h
    exact ⟨a,[],t,rfl,(yields_ofResult _ _).mpr ⟨rfl,hx.symm⟩,hf⟩

theorem yields_send_bind (q : Q) (f : A → Fallible Q A ε β) (b : β) :
    Yields (send q >>= f) t (.ok b) ↔ ∃ a t', t = (q,a)::t' ∧ Yields (f a) t' (.ok b) := by
  rw [yields_bind_ok]
  constructor
  · intro h
    obtain ⟨a,t₁,t₂,ht,hsend,hf⟩ := h
    obtain ⟨a',ht₁,ha⟩ := (yields_send _ _).mp hsend
    cases ha
    rw [ht₁] at ht
    exact ⟨a,t₂,ht,hf⟩
  · intro h
    obtain ⟨a,t',ht,hf⟩ := h
    exact ⟨a,[(q,a)],t',ht,(yields_send _ _).mpr ⟨a,rfl,rfl⟩,hf⟩

@[simp] theorem yields_mapError {ε' : Type} (f : ε → ε') (p : Fallible Q A ε α) (a : α) :
    Yields (mapError f p) t (.ok a) ↔ Yields p t (.ok a) := by
  have hbind : Yields (mapError f p) t (.ok a) ↔ ∃ x t₁ t₂, t = t₁ ++ t₂ ∧
      Converses p.run t₁ (some x) ∧ t₂ = [] ∧ some (Except.ok a) = some (x.mapError f) :=
    converses_bind _ _ _ _
  rw [hbind]
  constructor
  · intro h
    obtain ⟨x,t₁,t₂,ht,hp,ht₂,hx⟩ := h
    rw [ht₂,List.append_nil] at ht
    cases x with
    | ok a' =>
      cases hx
      rw [ht]
      exact hp
    | error e => cases hx
  · intro h
    exact ⟨.ok a,t,[],by simp,h,rfl,rfl⟩

/-- The value of an attempted program is whatever the program gives. -/
theorem yields_attempt_bind {ε' : Type} (p : Fallible Q A ε α)
    (f : Except ε α → Fallible Q A ε' β) (b : β) :
    Yields (attempt p >>= f) t (.ok b) ↔
      ∃ x t₁ t₂, t = t₁ ++ t₂ ∧ Yields p t₁ x ∧ Yields (f x) t₂ (.ok b) := by
  have hattempt (x : Except ε α) (t₁ : List (Q × A)) :
      Yields (attempt p : Fallible Q A ε' _) t₁ (.ok x) ↔ Yields p t₁ x := by
    have hbind : Yields (attempt p : Fallible Q A ε' _) t₁ (.ok x) ↔ ∃ y u₁ u₂, t₁ = u₁ ++ u₂ ∧
        Converses p.run u₁ (some y) ∧ u₂ = [] ∧
        some (Except.ok x) = some (Except.ok y : Except ε' _) := converses_bind _ _ _ _
    rw [hbind]
    constructor
    · intro h
      obtain ⟨y,u₁,u₂,ht,hp,hu₂,hy⟩ := h
      cases hy
      rw [ht,hu₂,List.append_nil]
      exact hp
    · intro h
      exact ⟨x,t₁,[],by simp,h,rfl,rfl⟩
  rw [yields_bind_ok]
  simp only [hattempt]

theorem Yields.forEach_length {l : List α} {f : α → Fallible Q A ε β} {bs : List β}
    (h : Yields (forEach l f) t (.ok bs)) : bs.length = l.length := by
  induction l generalizing t bs with
  | nil =>
    cases ((yields_pure _ _).mp h).2
    rfl
  | cons a l ih =>
    obtain ⟨b,_,_,_,_,hrest⟩ := (yields_bind_ok _ _ _).mp h
    obtain ⟨bs',_,_,_,hbs,hpure⟩ := (yields_bind_ok _ _ _).mp hrest
    cases ((yields_pure _ _).mp hpure).2
    exact congrArg (· + 1) (ih hbs)

theorem Yields.unique {p : Fallible Q A ε α} {t' s s' : List (Q × A)} {r r' : Except ε α}
    (h : Yields p t r) (h' : Yields p t' r') (heq : t ++ s = t' ++ s') :
    t = t' ∧ r = r' ∧ s = s' := by
  obtain ⟨ht,hr,hs⟩ := Converses.unique h h' heq
  exact ⟨ht,Option.some_inj.mp hr,hs⟩

theorem Yields.result_unique {p : Fallible Q A ε α} {r r' : Except ε α} (h : Yields p t r)
    (h' : Yields p t r') : r = r' :=
  (h.unique h' (congrArg (· ++ []) rfl)).2.1

theorem yields_of_replay {p : Fallible Q A ε α} {answers : List A} {r : Except ε α}
    (h : p.run.replay answers = some (some r,t)) : Yields p t r := by
  obtain ⟨s,hs,hconverses⟩ := converses_of_run (run_of_replay h [])
  rw [List.append_cancel_left hs]
  exact hconverses

/-- A program that only makes allowed requests has only those in its conversations. -/
theorem Only.converses {allowed : Q → Prop} {p : Fallible Q A ε α} (h : Only allowed p)
    {r : Option (Except ε α)} (hp : Converses p.run t r) : ∀ e ∈ t, allowed e.1 := by
  unfold Only Calls Holds at h
  generalize p.run = tree at h hp
  induction tree generalizing t with
  | done a =>
    rw [hp.1]
    exact fun e he => absurd he (by simp)
  | abort =>
    rw [hp.1]
    exact fun e he => absurd he (by simp)
  | ask q k ih =>
    obtain ⟨a,t',ht,hrest⟩ := hp
    rw [ht]
    intro e he
    obtain he | he := List.mem_cons.mp he
    · rw [he]
      exact h.1
    · exact ih a (h.2 a () trivial) hrest e he

theorem Only.requests {allowed : Q → Prop} {p : Fallible Q A ε α} (h : Only allowed p)
    {r : Except ε α} (hp : Yields p t r) : ∀ e ∈ t, allowed e.1 := h.converses hp

/-- What a process leaves of a program: its whole conversation with the result, or any
beginning of one and no result. -/
inductive Leaves (p : Fallible Q A ε α) (t : List (Q × A)) : Option (Except ε α) → Prop
  | completed {r : Except ε α} : Yields p t r → Leaves p t (some r)
  | stopped {r : Option (Except ε α)} {u : List (Q × A)} : Converses p.run u r → t <+: u →
      Leaves p t none

theorem Leaves.yields {p : Fallible Q A ε α} {r : Except ε α} (h : Leaves p t (some r)) :
    Yields p t r := by
  cases h with
  | completed h => exact h

/-- Requests of a program that was left are allowed ones. -/
theorem Only.left {allowed : Q → Prop} {p : Fallible Q A ε α} (h : Only allowed p)
    {r : Option (Except ε α)} (hp : Leaves p t r) : ∀ e ∈ t, allowed e.1 := by
  cases hp with
  | completed hp => exact h.requests hp
  | stopped hp hshort => exact fun e he => h.converses hp e (hshort.subset he)

/-- The result of the program when its requests stand at the beginning of a conversation,
with what is left of it. -/
def follow [DecidableEq Q] : Prog Q A α → List (Q × A) → Option (α × List (Q × A))
  | done a,t => some (a,t)
  | abort,_ => none
  | ask _ _,[] => none
  | ask q k,(q',a)::t => if q = q' then follow (k a) t else none

theorem Yields.follow [DecidableEq Q] {p : Fallible Q A ε α} {r : Except ε α} (h : Yields p t r)
    (rest : List (Q × A)) : p.run.follow (t ++ rest) = some (r,rest) := by
  unfold Yields at h
  generalize p.run = tree at h ⊢
  induction tree generalizing t with
  | done a =>
    obtain ⟨ht,hr⟩ := h
    rw [ht,Option.some_inj.mp hr]
    rfl
  | abort => cases h.2
  | ask q k ih =>
    obtain ⟨a,t',ht,hrest⟩ := h
    rw [ht]
    show (if q = q then (k a).follow (t' ++ rest) else none) = _
    rw [if_pos rfl]
    exact ih a hrest

theorem yields_of_follow [DecidableEq Q] {p : Fallible Q A ε α} {r : Except ε α}
    (h : p.run.follow t = some (r,[])) : Yields p t r := by
  unfold Yields
  generalize p.run = tree at h ⊢
  induction tree generalizing t with
  | done a =>
    cases h
    exact ⟨rfl,rfl⟩
  | abort => cases h
  | ask q k ih =>
    cases t with
    | nil => cases h
    | cons e t =>
      obtain ⟨q',a⟩ := e
      have hstep : (if q = q' then (k a).follow t else none) = some (r,[]) := h
      split at hstep
      case isTrue heq =>
        rw [heq]
        exact ⟨a,t,rfl,ih a hstep⟩
      case isFalse => cases hstep

end Fallible

end Prog
