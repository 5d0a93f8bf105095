import Mathlib.Data.List.Nodup
import Mathlib.Logic.Function.Basic

/-! References moved together in one exchange: every move names the value that its reference
must hold, and either all references move or none does. The answer of an exchange may be lost. -/
namespace AtomicRefs

structure Move (K V : Type) where
  key : K
  old : V
  new : V
deriving DecidableEq

variable {K V : Type}

abbrev Store (K V : Type) := K → Option V

def Move.undo (m : Move K V) : Move K V := { m with old := m.new,new := m.old }

def Ready (store : Store K V) (moves : List (Move K V)) : Prop :=
  ∀ m ∈ moves,store m.key = some m.old

section Moved

variable [DecidableEq K]

def moved (store : Store K V) : List (Move K V) → Store K V
  | [] => store
  | m::moves => Function.update (moved store moves) m.key (some m.new)

variable {store : Store K V} {moves : List (Move K V)} {k : K} {m : Move K V}

theorem moved_other (h : k ∉ moves.map (·.key)) : moved store moves k = store k := by
  induction moves with
  | nil => rfl
  | cons m moves ih =>
    rw [List.map_cons,List.mem_cons,not_or] at h
    show Function.update (moved store moves) m.key (some m.new) k = _
    rw [Function.update_of_ne h.1]
    exact ih h.2

theorem moved_mem (hkeys : (moves.map (·.key)).Nodup) (h : m ∈ moves) :
    moved store moves m.key = some m.new := by
  induction moves with
  | nil => cases h
  | cons first moves ih =>
    rw [List.map_cons,List.nodup_cons] at hkeys
    show Function.update (moved store moves) first.key (some first.new) m.key = _
    rcases List.mem_cons.mp h with rfl | h
    · exact Function.update_self ..
    · have hne : m.key ≠ first.key := fun heq => hkeys.1 (heq ▸ List.mem_map_of_mem h)
      rw [Function.update_of_ne hne]
      exact ih hkeys.2 h

theorem moved_undo (hkeys : (moves.map (·.key)).Nodup) (h : Ready store moves) :
    moved (moved store moves) (moves.map Move.undo) = store := by
  have hundone : (moves.map Move.undo).map (·.key) = moves.map (·.key) := by
    rw [List.map_map]
    rfl
  funext k
  by_cases hk : k ∈ moves.map (·.key)
  · obtain ⟨m,hm,rfl⟩ := List.mem_map.mp hk
    have hback : moved (moved store moves) (moves.map Move.undo) m.key = some m.old :=
      moved_mem (hundone ▸ hkeys) (List.mem_map_of_mem hm)
    exact hback.trans (h m hm).symm
  · rw [moved_other (hundone ▸ hk),moved_other hk]

/-- A move to the value that is already there can be left out. -/
theorem moved_filter {p : Move K V → Bool} (hkeys : (moves.map (·.key)).Nodup)
    (h : Ready store moves) (hp : ∀ m ∈ moves,p m = false → m.old = m.new) :
    moved store (moves.filter p) = moved store moves := by
  have hsub : ((moves.filter p).map (·.key)).Sublist (moves.map (·.key)) :=
    List.filter_sublist.map _
  funext k
  by_cases hk : k ∈ moves.map (·.key)
  · obtain ⟨m,hm,rfl⟩ := List.mem_map.mp hk
    rw [moved_mem hkeys hm]
    cases hpm : p m with
    | true => exact moved_mem (hkeys.sublist hsub) (List.mem_filter.mpr ⟨hm,hpm⟩)
    | false =>
      have hout : m.key ∉ (moves.filter p).map (·.key) := by
        intro hin
        obtain ⟨m',hm',heq⟩ := List.mem_map.mp hin
        obtain ⟨hmem,hpm'⟩ := List.mem_filter.mp hm'
        have hsame : m' = m := List.inj_on_of_nodup_map hkeys hmem hm heq
        rw [hsame,hpm] at hpm'
        cases hpm'
      rw [moved_other hout,h m hm,hp m hm hpm]
  · rw [moved_other hk,moved_other fun hin => hk (hsub.subset hin)]

end Moved

/-- One exchange: whether it was answered as made, and the store after it. -/
inductive Exchange [DecidableEq K] (store : Store K V) (moves : List (Move K V)) : Bool → Store K V → Prop
  | made : Ready store moves → Exchange store moves true (moved store moves)
  | lost : Ready store moves → Exchange store moves false (moved store moves)
  | refused : Exchange store moves false store

section Exchange

variable [DecidableEq K] {store store' : Store K V} {moves : List (Move K V)} {answered : Bool}

theorem Exchange.cases_moved (h : Exchange store moves answered store') :
    store' = store ∨ store' = moved store moves := by
  cases h with
  | made => exact .inr rfl
  | lost => exact .inr rfl
  | refused => exact .inl rfl

theorem Exchange.of_answered (h : Exchange store moves true store') : store' = moved store moves := by
  cases h
  rfl

end Exchange

end AtomicRefs
