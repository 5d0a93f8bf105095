import Mathlib.Data.List.Sort
import Mathlib.Data.List.Perm.Basic

/-! A stable sort by a key that does not tell all entries apart. The sorted list is the same
for every order of the input exactly when entries with one key are equal. -/
namespace StableSort

variable {α κ : Type} [LinearOrder κ] (key : α → κ)

/-- Entries before the first one with a greater key stay in front of it. -/
def sortByKey (l : List α) : List α := l.insertionSort fun a b => key a ≤ key b

def TiesAgree (l : List α) : Prop := ∀ a ∈ l, ∀ b ∈ l, key a = key b → a = b

instance keyTotal : Std.Total fun a b : α => key a ≤ key b := ⟨fun _ _ => le_total _ _⟩

instance keyTrans : IsTrans α fun a b => key a ≤ key b := ⟨fun _ _ _ => le_trans⟩

theorem sortByKey_perm (l : List α) : (sortByKey key l).Perm l := List.perm_insertionSort _ l

theorem sortByKey_pairwise (l : List α) :
    (sortByKey key l).Pairwise fun a b => key a ≤ key b :=
  List.pairwise_insertionSort _ l

variable {key}

theorem sortByKey_eq_of_perm {l l' : List α} (h : TiesAgree key l) (hperm : l'.Perm l) :
    sortByKey key l' = sortByKey key l := by
  have hsorted : (sortByKey key l').Perm (sortByKey key l) :=
    ((sortByKey_perm key l').trans hperm).trans (sortByKey_perm key l).symm
  refine List.Perm.eq_of_pairwise ?_ (sortByKey_pairwise key l') (sortByKey_pairwise key l) hsorted
  intro a b ha hb hab hba
  have ha' : a ∈ l := hperm.mem_iff.mp ((sortByKey_perm key l').mem_iff.mp ha)
  exact h a ha' b ((sortByKey_perm key l).mem_iff.mp hb) (le_antisymm hab hba)

theorem filter_sortByKey (k : κ) (l : List α) :
    (sortByKey key l).filter (fun a => decide (key a = k)) =
      l.filter fun a => decide (key a = k) := by
  have htied : (l.filter fun a => decide (key a = k)).Pairwise
      fun a b => key a ≤ key b := by
    apply List.pairwise_of_forall_mem_list
    intro a ha b hb
    have hka := of_decide_eq_true (List.mem_filter.mp ha).2
    have hkb := of_decide_eq_true (List.mem_filter.mp hb).2
    rw [hka,hkb]
  have hkept : (l.filter fun a => decide (key a = k)).Sublist (sortByKey key l) :=
    List.sublist_insertionSort htied List.filter_sublist
  have hfiltered := hkept.filter fun a => decide (key a = k)
  rw [List.filter_filter] at hfiltered
  simp only [Bool.and_self] at hfiltered
  have hlength := ((sortByKey_perm key l).filter fun a => decide (key a = k)).length_eq
  exact (hfiltered.eq_of_length hlength.symm).symm

/-- Two entries with one key that differ are sorted as they came. -/
theorem sortByKey_swap_ne {a b : α} (hkey : key a = key b) (hne : a ≠ b) (l : List α) :
    sortByKey key (a::b::l) ≠ sortByKey key (b::a::l) := by
  intro h
  have hab := @filter_sortByKey α κ _ key (key b) (a::b::l)
  rw [h,filter_sortByKey] at hab
  simp only [hkey,decide_true,List.filter_cons_of_pos,List.cons.injEq] at hab
  exact hne hab.1.symm

theorem exists_perm_cons_cons {a b : α} {l : List α} (ha : a ∈ l) (hb : b ∈ l) (hne : a ≠ b) :
    ∃ rest, (a::b::rest).Perm l := by
  obtain ⟨s,t,rfl⟩ := List.append_of_mem ha
  have hrest : b ∈ s ++ t := by
    rcases List.mem_append.mp hb with hb | hb
    · exact List.mem_append.mpr (Or.inl hb)
    · rcases List.mem_cons.mp hb with rfl | hb
      · exact absurd rfl hne
      · exact List.mem_append.mpr (Or.inr hb)
  obtain ⟨u,v,huv⟩ := List.append_of_mem hrest
  refine ⟨u ++ v,?_⟩
  have hinner : (b::(u ++ v)).Perm (s ++ t) := by
    rw [huv]
    exact List.perm_middle.symm
  exact (hinner.cons a).trans List.perm_middle.symm

/-- Some order of entries that differ under one key is sorted otherwise. -/
theorem exists_sortByKey_ne {l : List α} (h : ¬ TiesAgree key l) :
    ∃ l', l'.Perm l ∧ sortByKey key l' ≠ sortByKey key l := by
  unfold TiesAgree at h
  push Not at h
  obtain ⟨a,ha,b,hb,hkey,hne⟩ := h
  obtain ⟨rest,hrest⟩ := exists_perm_cons_cons ha hb hne
  by_cases hsame : sortByKey key (a::b::rest) = sortByKey key l
  · refine ⟨b::a::rest,(List.Perm.swap a b rest).trans hrest,?_⟩
    rw [← hsame]
    exact (sortByKey_swap_ne hkey hne rest).symm
  · exact ⟨a::b::rest,hrest,hsame⟩

end StableSort
