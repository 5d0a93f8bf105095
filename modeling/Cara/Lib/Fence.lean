import Mathlib.Algebra.Order.Ring.Nat

/-! Fenced ownership of one resource: a slot holds at most one grant, and the fence of every
new grant carries a token beyond all that were issued before. -/

structure Fencing (G F : Type) where
  fence : G → F
  token : F → ℕ

namespace Fencing

variable {G F : Type}

structure Slot (f : Fencing G F) where
  current : Option G
  last : ℕ
  bounded : ∀ g,current = some g → f.token (f.fence g) ≤ last

namespace Slot

variable {f : Fencing G F}

def vacant : Slot f := ⟨none,0,fun _ h => nomatch h⟩

def grant (s : Slot f) (g : G) : Slot f where
  current := some g
  last := max s.last (f.token (f.fence g))
  bounded := by
    intro g' h
    rw [← Option.some.inj h]
    exact le_max_right ..

def renew (s : Slot f) {g : G} (hg : s.current = some g) (g' : G) (h : f.fence g' = f.fence g) :
    Slot f where
  current := some g'
  last := s.last
  bounded := by
    intro g'' h'
    rw [← Option.some.inj h',h]
    exact s.bounded g hg

def vacate (s : Slot f) : Slot f := ⟨none,s.last,fun _ h => nomatch h⟩

end Slot

variable {f : Fencing G F}

/-- One change of ownership. -/
inductive Move : Slot f → Slot f → Prop
  | keep (s : Slot f) : Move s s
  | grant (s : Slot f) (g : G) : s.last < f.token (f.fence g) → Move s (s.grant g)
  | renew (s : Slot f) {g : G} (hg : s.current = some g) (g' : G) (h : f.fence g' = f.fence g) :
      Move s (s.renew hg g' h)
  | vacate (s : Slot f) : Move s s.vacate

/-- Whoever holds the slot later held it before or has a greater token. -/
structure Ahead (s s' : Slot f) : Prop where
  last : s.last ≤ s'.last
  current : ∀ g',s'.current = some g' →
    (∃ g,s.current = some g ∧ f.fence g' = f.fence g) ∨ s.last < f.token (f.fence g')

variable {s s' t : Slot f}

theorem Ahead.refl (s : Slot f) : Ahead s s := ⟨le_rfl,fun g h => .inl ⟨g,h,rfl⟩⟩

theorem Ahead.trans (h : Ahead s s') (h' : Ahead s' t) : Ahead s t where
  last := h.last.trans h'.last
  current := by
    intro g'' hg''
    rcases h'.current g'' hg'' with ⟨g',hg',hfence⟩ | hlater
    · rcases h.current g' hg' with ⟨g,hg,hfence'⟩ | hlater
      · exact .inl ⟨g,hg,hfence.trans hfence'⟩
      · exact .inr (by rw [hfence]; exact hlater)
    · exact .inr (h.last.trans_lt hlater)

theorem Move.ahead (h : Move s s') : Ahead s s' := by
  cases h with
  | keep => exact .refl s
  | grant g hg =>
    refine ⟨le_max_left ..,?_⟩
    intro g' hg'
    rw [← Option.some.inj hg']
    exact .inr hg
  | @renew g hg g' hfence =>
    refine ⟨le_rfl,?_⟩
    intro g'' hg''
    rw [← Option.some.inj hg'']
    exact .inl ⟨g,hg,hfence⟩
  | vacate => exact ⟨le_rfl,fun _ h => nomatch h⟩

theorem Ahead.token_le (h : Ahead s s') {g g' : G} (hg : s.current = some g)
    (hg' : s'.current = some g') : f.token (f.fence g) ≤ f.token (f.fence g') := by
  rcases h.current g' hg' with ⟨g₀,hg₀,hfence⟩ | hlater
  · rw [hg,Option.some.injEq] at hg₀
    rw [hfence,hg₀]
  · exact ((s.bounded g hg).trans_lt hlater).le

end Fencing
