import Cara.Lib.Stateful

/-! Programs against an environment that does not change: what they come to while they only read, and
the conversations in which every read before the first write was answered alike. -/
namespace Prog

variable {Q A α β ε : Type} (reads : Q → Bool) (answer : Q → A)

def observe : Prog Q A α → Option α
  | done a => some a
  | ask q k => if reads q then observe (k (answer q)) else none
  | abort => none

def Read (t : List (Q × A)) : Prop := ∀ row ∈ t,reads row.1 = true ∧ row.2 = answer row.1

def Unchanged : List (Q × A) → Prop
  | [] => True
  | row::t => reads row.1 = true → row.2 = answer row.1 ∧ Unchanged t

section Rules

variable {reads} {answer}

theorem Read.unchanged {t : List (Q × A)} (h : Read reads answer t) : Unchanged reads answer t := by
  induction t with
  | nil => trivial
  | cons row t ih =>
    intro _
    exact ⟨(h row List.mem_cons_self).2,ih fun other hother => h other (List.mem_cons_of_mem _ hother)⟩

theorem Unchanged.read {t₁ t₂ : List (Q × A)} (h : Unchanged reads answer (t₁ ++ t₂))
    (hreads : ∀ row ∈ t₁,reads row.1 = true) : Read reads answer t₁ := by
  induction t₁ with
  | nil => exact fun row hrow => by cases hrow
  | cons row t₁ ih =>
    obtain ⟨hanswer,hrest⟩ := h (hreads row List.mem_cons_self)
    intro other hother
    rcases List.mem_cons.mp hother with rfl | hother
    · exact ⟨hreads other List.mem_cons_self,hanswer⟩
    · exact ih hrest (fun next hnext => hreads next (List.mem_cons_of_mem _ hnext)) other hother

/-- What a program observes is what it comes to in a conversation of reads. -/
theorem observe_eq_some_iff {p : Prog Q A α} {a : α} :
    p.observe reads answer = some a ↔ ∃ t,Converses p t (some a) ∧ Read reads answer t := by
  induction p with
  | done b =>
    constructor
    · intro h
      exact ⟨[],⟨rfl,h.symm⟩,fun row hrow => by cases hrow⟩
    · intro h
      obtain ⟨t,⟨_,hresult⟩,_⟩ := h
      exact hresult.symm
  | abort =>
    constructor
    · intro h
      cases h
    · intro h
      obtain ⟨t,⟨_,hresult⟩,_⟩ := h
      cases hresult
  | ask q k ih =>
    show (if reads q = true then _ else _) = _ ↔ _
    constructor
    · intro h
      split at h
      case isFalse => cases h
      case isTrue hq =>
        obtain ⟨t,hconverses,hread⟩ := (ih _).mp h
        refine ⟨(q,answer q)::t,⟨_,t,rfl,hconverses⟩,fun row hrow => ?_⟩
        rcases List.mem_cons.mp hrow with rfl | hrow
        · exact ⟨hq,rfl⟩
        · exact hread row hrow
    · intro h
      obtain ⟨t,⟨b,t',ht,hconverses⟩,hread⟩ := h
      rw [ht] at hread
      obtain ⟨hq,hb⟩ := hread (q,b) List.mem_cons_self
      rw [if_pos hq]
      dsimp only at hb
      rw [← hb]
      exact (ih b).mpr ⟨t',hconverses,fun row hrow => hread row (List.mem_cons_of_mem _ hrow)⟩

theorem observe_bind (p : Prog Q A α) (f : α → Prog Q A β) :
    (p >>= f).observe reads answer = (p.observe reads answer).bind fun a => (f a).observe reads answer := by
  induction p with
  | done a => rfl
  | abort => rfl
  | ask q k ih =>
    show (if reads q = true then (k (answer q) >>= f).observe reads answer else none) =
      (if reads q = true then (k (answer q)).observe reads answer else none).bind _
    rw [ih]
    split <;> rfl

variable {p : Fallible Q A ε α} {f : α → Fallible Q A ε β} {a : α} {b : β}

theorem observe_bind_ok (h : p.run.observe reads answer = some (.ok a)) :
    (p >>= f).run.observe reads answer = (f a).run.observe reads answer := by
  show (p.run >>= ExceptT.bindCont f).observe reads answer = _
  rw [observe_bind,h]
  rfl

theorem observe_bind_eq_ok : (p >>= f).run.observe reads answer = some (.ok b) ↔
    ∃ a,p.run.observe reads answer = some (.ok a) ∧ (f a).run.observe reads answer = some (.ok b) := by
  constructor
  · intro h
    have hbind : (p.run >>= ExceptT.bindCont f).observe reads answer = some (.ok b) := h
    rw [observe_bind] at hbind
    obtain ⟨x,hx,hrest⟩ := Option.bind_eq_some_iff.mp hbind
    cases x with
    | ok a => exact ⟨a,hx,hrest⟩
    | error e => cases hrest
  · intro h
    obtain ⟨a,ha,hrest⟩ := h
    rw [observe_bind_ok ha]
    exact hrest

theorem observe_refuseIf {condition : Bool} {e : ε} :
    (refuseIf condition e).run.observe reads answer = some (.ok ()) ↔ condition = false := by
  cases condition with
  | false => exact iff_of_true rfl rfl
  | true =>
    constructor
    · intro h
      cases h
    · intro h
      cases h

theorem observe_mapError {ε' : Type} (g : ε → ε') (p : Fallible Q A ε α) :
    (mapError g p).run.observe reads answer = (p.run.observe reads answer).map fun r => r.mapError g := by
  show (p.run >>= fun r => Prog.done (r.mapError g)).observe reads answer = _
  rw [observe_bind]
  cases p.run.observe reads answer <;> rfl

theorem yields_mapError_iff {ε' : Type} {g : ε → ε'} {t : List (Q × A)} {r : Except ε' α} :
    Yields (mapError g p) t r ↔ ∃ x,Yields p t x ∧ r = x.mapError g := by
  have hbind : Yields (mapError g p) t r ↔ ∃ x t₁ t₂,t = t₁ ++ t₂ ∧ Converses p.run t₁ (some x) ∧
      t₂ = [] ∧ some r = some (x.mapError g) := converses_bind _ _ _ _
  rw [hbind]
  constructor
  · intro h
    obtain ⟨x,t₁,t₂,ht,hp,ht₂,hr⟩ := h
    rw [ht₂,List.append_nil] at ht
    rw [ht]
    exact ⟨x,hp,Option.some_inj.mp hr⟩
  · intro h
    obtain ⟨x,hp,hr⟩ := h
    exact ⟨x,t,[],by simp,hp,rfl,congrArg some hr⟩

/-- The first part of a conversation with an unchanged environment, when it only reads. -/
theorem Unchanged.observed {t₁ t₂ : List (Q × A)} {r : Except ε α} (h : Unchanged reads answer (t₁ ++ t₂))
    (hreads : Only (fun q => reads q = true) p) (hp : Yields p t₁ r) :
    p.run.observe reads answer = some r :=
  observe_eq_some_iff.mpr ⟨t₁,hp,h.read (hreads.requests hp)⟩

end Rules

end Prog
