import Mathlib.Data.List.Induction
import Mathlib.Order.Basic

/-! Rows pushed into the lists of an ordered map, one entry for every key. -/
namespace Grouping
open Std

variable {κ β : Type*} [DecidableEq κ]

def valuesAt (rows : List (κ × β)) (k : κ) : List β :=
  (rows.filter fun row => decide (row.1 = k)).map Prod.snd

theorem mem_valuesAt {rows : List (κ × β)} {k : κ} {v : β} :
    v ∈ valuesAt rows k ↔ (k,v) ∈ rows := by
  simp only [valuesAt,List.mem_map,List.mem_filter,decide_eq_true_eq]
  constructor
  · rintro ⟨⟨a,b⟩,⟨hmem,rfl⟩,rfl⟩
    exact hmem
  · intro h
    exact ⟨(k,v),⟨h,rfl⟩,rfl⟩

theorem valuesAt_snoc (rows : List (κ × β)) (row : κ × β) (k : κ) :
    valuesAt (rows ++ [row]) k = valuesAt rows k ++ if row.1 = k then [row.2] else [] := by
  by_cases hk : row.1 = k <;> simp [valuesAt,hk]

variable [Ord κ] [TransOrd κ]

def push (m : ExtTreeMap κ (List β)) (row : κ × β) : ExtTreeMap κ (List β) :=
  m.alter row.1 fun entry => some (entry.getD [] ++ [row.2])

def groupRows (rows : List (κ × β)) : ExtTreeMap κ (List β) := rows.foldl push ∅

/-- Rows inserted into a map, where a later row replaces an earlier one of its key. -/
def indexRows (rows : List (κ × β)) : ExtTreeMap κ β :=
  rows.foldl (fun m row => m.insert row.1 row.2) ∅

variable [LawfulEqOrd κ]

theorem groupRows_getElem? (rows : List (κ × β)) (k : κ) :
    (groupRows rows)[k]? = if valuesAt rows k = [] then none else some (valuesAt rows k) := by
  induction rows using List.reverseRecOn with
  | nil => simp [groupRows,valuesAt]
  | append_singleton rows row ih =>
    have hfold : groupRows (rows ++ [row]) = push (groupRows rows) row := by simp [groupRows]
    rw [hfold,push,ExtTreeMap.getElem?_alter,valuesAt_snoc]
    by_cases hk : row.1 = k
    · subst hk
      rw [if_pos ReflOrd.compare_self,ih,if_pos rfl]
      by_cases hempty : valuesAt rows row.1 = [] <;> simp [hempty]
    · have hcmp : compare row.1 k ≠ .eq := fun h => hk (LawfulEqOrd.eq_of_compare h)
      rw [if_neg hcmp,ih,if_neg hk,List.append_nil]

/-- An entry of the map is the nonempty list of all values of its key. -/
theorem groupRows_eq_some_iff {rows : List (κ × β)} {k : κ} {vs : List β} :
    (groupRows rows)[k]? = some vs ↔ vs ≠ [] ∧ valuesAt rows k = vs := by
  rw [groupRows_getElem?]
  split
  next h =>
    simp only [reduceCtorEq,false_iff,not_and]
    intro hne heq
    exact hne (heq.symm.trans h)
  next h =>
    rw [Option.some.injEq]
    constructor
    · rintro rfl
      exact ⟨h,rfl⟩
    · exact And.right

theorem groupRows_eq_none_iff {rows : List (κ × β)} {k : κ} :
    (groupRows rows)[k]? = none ↔ ∀ v, (k,v) ∉ rows := by
  rw [groupRows_getElem?]
  split
  next h =>
    simp only [true_iff]
    intro v hv
    have hmem := mem_valuesAt.mpr hv
    simp [h] at hmem
  next h =>
    simp only [reduceCtorEq,false_iff,not_forall,not_not]
    obtain ⟨v,hv⟩ := List.exists_mem_of_ne_nil _ h
    exact ⟨v,mem_valuesAt.mp hv⟩

omit [DecidableEq κ] in
theorem mem_of_indexRows_eq_some {rows : List (κ × β)} {k : κ} {v : β}
    (h : (indexRows rows)[k]? = some v) : (k,v) ∈ rows := by
  induction rows using List.reverseRecOn with
  | nil => simp [indexRows] at h
  | append_singleton rows row ih =>
    have hfold : indexRows (rows ++ [row]) = (indexRows rows).insert row.1 row.2 := by
      simp [indexRows]
    rw [hfold,ExtTreeMap.getElem?_insert] at h
    split at h
    next hcmp =>
      have hk : row.1 = k := LawfulEqOrd.eq_of_compare hcmp
      have hv : row.2 = v := Option.some.inj h
      exact List.mem_append_right _ (by simp [← hk,← hv])
    next => exact List.mem_append_left _ (ih h)

omit [DecidableEq κ] in
theorem indexRows_isSome_of_mem {rows : List (κ × β)} {k : κ} {v : β} (h : (k,v) ∈ rows) :
    ∃ w, (indexRows rows)[k]? = some w := by
  induction rows using List.reverseRecOn with
  | nil => simp at h
  | append_singleton rows row ih =>
    have hfold : indexRows (rows ++ [row]) = (indexRows rows).insert row.1 row.2 := by
      simp [indexRows]
    rw [hfold,ExtTreeMap.getElem?_insert]
    split
    next => exact ⟨row.2,rfl⟩
    next hcmp =>
      rcases List.mem_append.mp h with h | h
      · exact ih h
      · have hk : row.1 = k := congrArg Prod.fst (List.mem_singleton.mp h).symm
        exact absurd (by rw [hk]; exact ReflOrd.compare_self) hcmp

end Grouping
