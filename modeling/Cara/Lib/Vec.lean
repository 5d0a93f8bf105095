import Mathlib.Data.List.Chain
import Mathlib.Data.List.Sort

/-! Vector operations: consecutive chunks, neighbouring pairs and removal of adjacent
repetitions. -/
namespace Vec

variable {α : Type*}

def chunks (size : ℕ) (l : List α) : List (List α) :=
  (List.range ((l.length + size - 1) / size)).map fun k => (l.drop (k * size)).take size

def windows : List α → List (α × α)
  | a::b::rest => (a,b)::windows (b::rest)
  | _ => []

/-- The only element outside a predicate splits a list in one way. -/
theorem split_unique {P : α → Prop} {l l' r r' : List α} {x x' : α} (hl' : ∀ a ∈ l', P a)
    (hr' : ∀ a ∈ r', P a) (hx : ¬ P x) (h : l ++ x::r = l' ++ x'::r') :
    l = l' ∧ x = x' ∧ r = r' := by
  induction l' generalizing l with
  | nil =>
    cases l with
    | nil => exact ⟨rfl,List.cons.inj h⟩
    | cons a l =>
      have htail : l ++ x::r = r' := (List.cons.inj h).2
      exact absurd (hr' x (by simp [← htail])) hx
  | cons b l' ih =>
    cases l with
    | nil =>
      have hb : x = b := (List.cons.inj h).1
      exact absurd (hl' b (by simp)) (hb ▸ hx)
    | cons a l =>
      obtain ⟨hab,htail⟩ := List.cons.inj h
      obtain ⟨hll,hrest⟩ := ih (fun c hc => hl' c (by simp [hc])) htail
      exact ⟨by rw [hab,hll],hrest⟩

/-- A list without adjacent repetitions whose elements are all one. -/
theorem eq_singleton_of_isChain {l : List α} {a : α} (h : List.IsChain (· ≠ ·) l) (ha : a ∈ l)
    (hall : ∀ b ∈ l,b = a) : l = [a] := by
  cases l with
  | nil => cases ha
  | cons b rest =>
    rw [hall b List.mem_cons_self]
    cases rest with
    | nil => rfl
    | cons c rest =>
      have hb := hall b List.mem_cons_self
      have hc := hall c (by simp)
      exact absurd (hb.trans hc.symm) (List.isChain_cons_cons.mp h).1

variable [DecidableEq α]

def dedupAdjacent : List α → List α
  | [] => []
  | a::rest =>
      match dedupAdjacent rest with
      | [] => [a]
      | b::kept => if a = b then b::kept else a::b::kept

theorem mem_dedupAdjacent {l : List α} {x : α} : x ∈ dedupAdjacent l ↔ x ∈ l := by
  induction l with
  | nil => simp [dedupAdjacent]
  | cons a rest ih =>
    cases hkept : dedupAdjacent rest with
    | nil =>
      have hrest : x ∉ rest := by
        intro hx
        have hmem := ih.mpr hx
        simp [hkept] at hmem
      simp [dedupAdjacent,hkept,hrest]
    | cons b kept =>
      rw [hkept] at ih
      by_cases hab : a = b
      · simp only [dedupAdjacent,hkept,hab,if_true,ih,List.mem_cons]
        constructor
        · exact .inr
        · intro h
          apply h.elim
          · intro hx
            exact ih.mp (by simp [hx])
          · exact id
      · simp only [dedupAdjacent,hkept,hab,if_false]
        rw [List.mem_cons,ih,List.mem_cons]

theorem dedupAdjacent_sublist (l : List α) : List.Sublist (dedupAdjacent l) l := by
  induction l with
  | nil => exact List.Sublist.slnil
  | cons a rest ih =>
    unfold dedupAdjacent
    cases hkept : dedupAdjacent rest with
    | nil => exact (List.nil_sublist rest).cons_cons a
    | cons b kept =>
      rw [hkept] at ih
      dsimp only
      split
      · exact ih.cons a
      · exact ih.cons_cons a

theorem isChain_dedupAdjacent (l : List α) : List.IsChain (· ≠ ·) (dedupAdjacent l) := by
  induction l with
  | nil => exact List.isChain_nil
  | cons a rest ih =>
    unfold dedupAdjacent
    cases hkept : dedupAdjacent rest with
    | nil => exact List.isChain_singleton a
    | cons b kept =>
      rw [hkept] at ih
      dsimp only
      split
      · exact ih
      case isFalse hne => exact List.isChain_cons_cons.mpr ⟨hne,ih⟩

theorem dedupAdjacent_of_isChain {l : List α} (h : List.IsChain (· ≠ ·) l) : dedupAdjacent l = l := by
  induction l with
  | nil => rfl
  | cons a rest ih =>
    unfold dedupAdjacent
    rw [ih h.tail]
    cases rest with
    | nil => rfl
    | cons b kept =>
      dsimp only
      rw [if_neg (List.isChain_cons_cons.mp h).1]

/-- Sorting and removing repetitions a second time changes nothing. -/
theorem dedupAdjacent_insertionSort_self {r : α → α → Prop} [DecidableRel r] {l : List α} (h : l.Pairwise r)
    (hchain : List.IsChain (· ≠ ·) l) : dedupAdjacent (l.insertionSort r) = l := by
  rw [h.insertionSort_eq,dedupAdjacent_of_isChain hchain]

/-- Pairing one more element with the next one of the other list. -/
theorem zip_concat {α β : Type} (l : List α) {m : List β} (a : α) {b : β}
    (h : m[l.length]? = some b) : (l ++ [a]).zip m = l.zip m ++ [(a,b)] := by
  induction l generalizing m with
  | nil =>
    cases m with
    | nil => simp at h
    | cons b' m =>
      have hb : b' = b := by simpa using h
      rw [hb]
      simp
  | cons a' l ih =>
    cases m with
    | nil => simp at h
    | cons b' m =>
      have hrest := ih (m := m) (by simpa using h)
      rw [List.cons_append,List.zip_cons_cons,List.zip_cons_cons,hrest,List.cons_append]

end Vec
