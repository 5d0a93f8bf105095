import Mathlib.Order.MinMax
import Mathlib.Data.List.Induction

/-! The largest value seen for every key of a row list, as an accumulating loop
computes it with an entry map. -/
namespace KeyedMax

variable {κ β : Type*} [DecidableEq κ] [LinearOrder β]

def record (best : κ → Option β) (row : κ × β) : κ → Option β :=
  Function.update best row.1 (some ((best row.1).elim row.2 (max · row.2)))

def keyedMax (rows : List (κ × β)) : κ → Option β := rows.foldl record fun _ => none

@[simp] theorem keyedMax_nil (k : κ) : keyedMax ([] : List (κ × β)) k = none := rfl

theorem keyedMax_snoc (rows : List (κ × β)) (row : κ × β) :
    keyedMax (rows ++ [row]) = record (keyedMax rows) row := by
  simp [keyedMax]

theorem keyedMax_eq_none_iff (rows : List (κ × β)) (k : κ) :
    keyedMax rows k = none ↔ ∀ v, (k,v) ∉ rows := by
  induction rows using List.reverseRecOn with
  | nil => simp
  | append_singleton rows row ih =>
    rw [keyedMax_snoc]
    by_cases hk : k = row.1
    · subst hk
      simp only [record,Function.update_self,reduceCtorEq,false_iff,not_forall,not_not]
      exact ⟨row.2,by simp⟩
    · have hne : ∀ v, (k,v) ≠ row := fun v hv => hk (congrArg Prod.fst hv)
      simp [record,Function.update_of_ne hk,ih,hne]

/-- The entry of a key is the value of one of its rows and bounds all of them. -/
theorem keyedMax_spec (rows : List (κ × β)) (k : κ) (b : β) (h : keyedMax rows k = some b) :
    (k,b) ∈ rows ∧ ∀ v, (k,v) ∈ rows → v ≤ b := by
  induction rows using List.reverseRecOn generalizing b with
  | nil => simp at h
  | append_singleton rows row ih =>
    rw [keyedMax_snoc] at h
    by_cases hk : k = row.1
    · subst hk
      simp only [record,Function.update_self,Option.some.injEq] at h
      cases hb : keyedMax rows row.1 with
      | none =>
        have hfresh := (keyedMax_eq_none_iff rows row.1).mp hb
        rw [hb,Option.elim_none] at h
        subst h
        refine ⟨by simp,fun v hv => ?_⟩
        rcases List.mem_append.mp hv with hv | hv
        · exact absurd hv (hfresh v)
        · exact le_of_eq (congrArg Prod.snd (List.mem_singleton.mp hv))
      | some old =>
        obtain ⟨hmem,hle⟩ := ih old hb
        rw [hb,Option.elim_some] at h
        subst h
        refine ⟨?_,fun v hv => ?_⟩
        · rcases max_choice old row.2 with hm | hm <;> rw [hm]
          · exact List.mem_append_left _ hmem
          · simp
        · rcases List.mem_append.mp hv with hv | hv
          · exact (hle v hv).trans (le_max_left _ _)
          · exact (le_of_eq (congrArg Prod.snd (List.mem_singleton.mp hv))).trans (le_max_right _ _)
    · rw [record,Function.update_of_ne hk] at h
      obtain ⟨hmem,hle⟩ := ih b h
      refine ⟨List.mem_append_left _ hmem,fun v hv => ?_⟩
      rcases List.mem_append.mp hv with hv | hv
      · exact hle v hv
      · exact absurd (congrArg Prod.fst (List.mem_singleton.mp hv)) hk

theorem keyedMax_isSome_of_mem {rows : List (κ × β)} {k : κ} {v : β} (h : (k,v) ∈ rows) :
    ∃ b, keyedMax rows k = some b := by
  cases hb : keyedMax rows k with
  | none => exact absurd h ((keyedMax_eq_none_iff rows k).mp hb v)
  | some b => exact ⟨b,rfl⟩

/-- A value lies strictly below the entry of its key exactly when a row exceeds it. -/
theorem lt_keyedMax_iff {rows : List (κ × β)} {k : κ} {v : β} :
    (∃ b, keyedMax rows k = some b ∧ v < b) ↔ ∃ w, (k,w) ∈ rows ∧ v < w := by
  constructor
  · rintro ⟨b,hb,hlt⟩
    exact ⟨b,(keyedMax_spec rows k b hb).1,hlt⟩
  · rintro ⟨w,hw,hlt⟩
    obtain ⟨b,hb⟩ := keyedMax_isSome_of_mem hw
    exact ⟨b,hb,hlt.trans_le ((keyedMax_spec rows k b hb).2 w hw)⟩

end KeyedMax
