import Cara.Budget

/-! The admitted prefix of several chains. The greedy fill stops by itself, cuts each
chain into a prefix and its suffix, keeps inside the remaining time whatever it admits
and leaves no chain that could still take its next member. -/
namespace Cara
namespace Budget

open Config (CaravanConfig)

variable {c : CaravanConfig} {chains : List ChainCost} {remaining : Duration}

def prefixScope (c : CaravanConfig) (chains : List ChainCost) (remaining : Duration) :
    ReserveScope :=
  if fits remaining (completeBudget c chains) then .complete else .boundedPrefix

def prOf (members : List MemberCost) : List PrNumber := members.map MemberCost.pr

/-- A reserve with the guard second that ends strictly before the remaining time. -/
def Within (remaining : Duration) (budget : PhysicalCommitBudget) : Prop :=
  (budget.required.saturatingAdd admissionGuard).lt remaining

theorem fits_iff_within (budget : PhysicalCommitBudget) :
    fits remaining budget = true ↔ Within remaining budget := decide_eq_true_iff

/-- What an admission is for: each chain is cut at its count, the cuts lose and repeat no
member, the budget prices the prefix, what is admitted ends in time, and a chain that is
not complete is refused its next member. -/
structure CutsPrefix (c : CaravanConfig) (chains : List ChainCost) (remaining : Duration)
    (admission : PhysicalApplyAdmission) : Prop where
  length_eq : admission.admitted.length = chains.length
  le_length : List.Forall₂ (fun count chain => count ≤ chain.members.length)
    admission.admitted chains
  admitted_eq : admission.admittedPrs = (List.zipWith (fun count chain =>
    prOf (chain.members.take count)) admission.admitted chains).flatten
  deferred_eq : admission.deferred = (List.zipWith (fun count chain =>
    prOf (chain.members.drop count)) admission.admitted chains).flatten
  partition : (admission.admittedPrs ++ admission.deferred).Perm
    (chains.flatMap fun chain => prOf chain.members)
  budget_eq : admission.budget =
    budgetFor c chains admission.admitted (prefixScope c chains remaining)
  within : admission.admittedPrs ≠ [] → Within remaining admission.budget
  maximal : ¬ Within remaining (completeBudget c chains) → ∀ i < chains.length,
    (chains.map fun chain => chain.members.length).getD i 0 ≤ admission.admitted.getD i 0 ∨
      ∀ scope, ¬ Within remaining
        (budgetFor c chains (RoundRobin.extend admission.admitted i) scope)

/-- Reading a vector by the index of a row is pairing the rows with the vector. -/
theorem flatMap_zipIdx_getD {ι α : Type*} (rows : List ι) (counts : List ℕ) (k : ℕ)
    (f : ℕ → ι → List α) (front : List ℕ) (hfront : front.length = k)
    (hlen : counts.length = rows.length) :
    ((rows.zipIdx k).flatMap fun (row,i) => f ((front ++ counts).getD i 0) row) =
      (List.zipWith f counts rows).flatten := by
  induction rows generalizing counts k front with
  | nil => simp
  | cons row rows ih =>
    cases counts with
    | nil => simp at hlen
    | cons count counts =>
      have hrest := ih counts (k + 1) (front ++ [count]) (by simp [hfront])
        (by simpa using hlen)
      have hhead : (front ++ count::counts).getD k 0 = count := by
        subst hfront
        simp
      rw [List.append_assoc,List.singleton_append] at hrest
      rw [List.zipIdx_cons,List.flatMap_cons,List.zipWith_cons_cons,List.flatten_cons,hrest]
      show f ((front ++ count::counts).getD k 0) row ++ _ = _
      rw [hhead]

theorem admittedMembers_eq {admitted : List ℕ} (h : admitted.length = chains.length) :
    admittedMembers chains admitted = (List.zipWith (fun count chain =>
      prOf (chain.members.take count)) admitted chains).flatten :=
  flatMap_zipIdx_getD chains admitted 0 (fun count chain => prOf (chain.members.take count)) [] rfl h

theorem deferredMembers_eq {admitted : List ℕ} (h : admitted.length = chains.length) :
    deferredMembers chains admitted = (List.zipWith (fun count chain =>
      prOf (chain.members.drop count)) admitted chains).flatten :=
  flatMap_zipIdx_getD chains admitted 0 (fun count chain => prOf (chain.members.drop count)) [] rfl h

theorem cut_perm {ι α : Type*} (counts : List ℕ) (rows : List ι) (members : ι → List α)
    (h : counts.length = rows.length) :
    ((List.zipWith (fun count row => (members row).take count) counts rows).flatten ++
      (List.zipWith (fun count row => (members row).drop count) counts rows).flatten).Perm
      (rows.flatMap members) := by
  induction counts generalizing rows with
  | nil =>
    cases rows with
    | nil => simp
    | cons row rows => simp at h
  | cons count counts ih =>
    cases rows with
    | nil => simp at h
    | cons row rows =>
      simp only [List.zipWith_cons_cons,List.flatten_cons,List.flatMap_cons]
      have hrest := ih rows (by simpa using h)
      set taken := (List.zipWith (fun count row => (members row).take count) counts rows).flatten
      set dropped := (List.zipWith (fun count row => (members row).drop count) counts rows).flatten
      calc (members row).take count ++ taken ++ ((members row).drop count ++ dropped)
          _ = (members row).take count ++ (taken ++ (members row).drop count) ++ dropped := by
            simp only [List.append_assoc]
          _ |>.Perm ((members row).take count ++ ((members row).drop count ++ taken) ++ dropped) :=
            (List.perm_append_comm.append_left _).append_right _
          _ = (members row).take count ++ (members row).drop count ++ (taken ++ dropped) := by
            simp only [List.append_assoc]
          _ = members row ++ (taken ++ dropped) := by rw [List.take_append_drop]
          _ |>.Perm (members row ++ rows.flatMap members) := hrest.append_left _

theorem members_perm {admitted : List ℕ} (h : admitted.length = chains.length) :
    (admittedMembers chains admitted ++ deferredMembers chains admitted).Perm
      (chains.flatMap fun chain => prOf chain.members) := by
  rw [admittedMembers_eq h,deferredMembers_eq h]
  have hcut := cut_perm admitted chains (fun chain => prOf chain.members) h
  simpa only [prOf,List.map_take,List.map_drop] using hcut

theorem completePrefix_length : (completePrefix chains).length = chains.length := List.length_map _

theorem deferredMembers_complete : deferredMembers chains (completePrefix chains) = [] := by
  rw [deferredMembers_eq completePrefix_length]
  unfold completePrefix
  induction chains with
  | nil => rfl
  | cons chain chains ih => simpa [prOf] using ih

theorem le_length_of_getD {admitted : List ℕ} (h : admitted.length = chains.length)
    (hle : ∀ i < chains.length, admitted.getD i 0 ≤ (completePrefix chains).getD i 0) :
    List.Forall₂ (fun count chain => count ≤ chain.members.length) admitted chains := by
  rw [List.forall₂_iff_get]
  refine ⟨h,?_⟩
  intro i hi hi'
  have hcount := hle i hi'
  unfold completePrefix at hcount
  rw [List.getD_eq_getElem _ _ hi,List.getD_eq_getElem _ _ (by simpa using hi'),
    List.getElem_map] at hcount
  exact hcount

theorem exists_pos_of_admitted {admitted : List ℕ} (h : admitted.length = chains.length)
    (hne : admittedMembers chains admitted ≠ []) :
    ∃ i < (completePrefix chains).length, 0 < admitted.getD i 0 := by
  rw [completePrefix_length]
  by_contra hzero
  apply hne
  have hall (i : ℕ) : admitted.getD i 0 = 0 := by
    by_cases hi : i < chains.length
    · by_contra hpos
      exact hzero ⟨i,hi,Nat.pos_of_ne_zero hpos⟩
    · exact List.getD_eq_default _ _ (by omega)
  unfold admittedMembers
  rw [List.flatMap_eq_nil_iff]
  intro row _
  show prOf (row.1.members.take (admitted.getD row.2 0)) = []
  rw [hall]
  rfl

theorem cutsPrefix_complete (h : fits remaining (completeBudget c chains) = true) :
    CutsPrefix c chains remaining (admitPhysicalPrefix c chains remaining) := by
  have hout : admitPhysicalPrefix c chains remaining =
      { admitted := completePrefix chains
        admittedPrs := admittedMembers chains (completePrefix chains)
        deferred := []
        budget := completeBudget c chains
        completeBudget := completeBudget c chains
        deferredConvergence := false
        pendingAdmitted := pendingInPrefix chains (completePrefix chains) } := if_pos h
  have hscope : prefixScope c chains remaining = .complete := if_pos h
  rw [hout]
  refine
    { length_eq := completePrefix_length
      le_length := le_length_of_getD completePrefix_length fun _ _ => le_rfl
      admitted_eq := admittedMembers_eq completePrefix_length
      deferred_eq := ?_
      partition := ?_
      budget_eq := ?_
      within := fun _ => (fits_iff_within _).mp h
      maximal := fun hover => absurd ((fits_iff_within _).mp h) hover }
  · rw [← deferredMembers_complete]
    exact deferredMembers_eq completePrefix_length
  · have hperm := @members_perm chains _ completePrefix_length
    rw [deferredMembers_complete] at hperm
    exact hperm
  · rw [hscope]
    rfl

theorem cutsPrefix_grown (h : fits remaining (completeBudget c chains) = false) :
    CutsPrefix c chains remaining (admitPhysicalPrefix c chains remaining) := by
  have hinv := growPrefix_invariant c chains remaining
  have hlen : (growPrefix c chains remaining).counts.length = chains.length :=
    hinv.counts_length.trans completePrefix_length
  have hout : admitPhysicalPrefix c chains remaining =
      { admitted := (growPrefix c chains remaining).counts
        admittedPrs := admittedMembers chains (growPrefix c chains remaining).counts
        deferred := deferredMembers chains (growPrefix c chains remaining).counts
        budget := (growPrefix c chains remaining).value
        completeBudget := completeBudget c chains
        deferredConvergence :=
          !(deferredMembers chains (growPrefix c chains remaining).counts).isEmpty ||
            decide (0 < pendingInPrefix chains (growPrefix c chains remaining).counts)
        pendingAdmitted := pendingInPrefix chains (growPrefix c chains remaining).counts } :=
    if_neg (Bool.eq_false_iff.mp h)
  have hscope : prefixScope c chains remaining = .boundedPrefix := if_neg (Bool.eq_false_iff.mp h)
  rw [hout]
  refine
    { length_eq := hlen
      le_length := le_length_of_getD hlen ?_
      admitted_eq := admittedMembers_eq hlen
      deferred_eq := deferredMembers_eq hlen
      partition := members_perm hlen
      budget_eq := ?_
      within := ?_
      maximal := ?_ }
  · intro i hi
    exact hinv.le_limit i (completePrefix_length.symm ▸ hi)
  · rw [hscope]
    exact hinv.value_eq
  · intro hne
    exact (fits_iff_within _).mp (hinv.accepted (exists_pos_of_admitted hlen hne))
  · intro _ i hi
    apply (@growPrefix_maximal chains remaining c i (completePrefix_length.symm ▸ hi)).imp
    · exact ge_of_eq
    · -- the complete scope asks for at least as much as the bounded one
      intro hrefused scope hwithin
      have hfit := fits_of_le (fun _ => le_rfl) scope ((fits_iff_within _).mpr hwithin)
      exact Bool.false_ne_true (hrefused.symm.trans hfit)

/-- For every context, list of chains and remaining time the greedy loop stops, and its
admission is a sound and maximal cut of the chains. -/
theorem admitPhysicalPrefix_sound_maximal (c : CaravanConfig) (chains : List ChainCost)
    (remaining : Duration) :
    ((growPrefix c chains remaining).closed.all id = true ∧
      ∀ fuel, (completePrefix chains).sum + (completePrefix chains).length ≤ fuel →
        RoundRobin.rounds (fun admitted => budgetFor c chains admitted .boundedPrefix)
          (fits remaining) (completePrefix chains) fuel
          (RoundRobin.start (fun admitted => budgetFor c chains admitted .boundedPrefix)
            (completePrefix chains)) = growPrefix c chains remaining) ∧
      CutsPrefix c chains remaining (admitPhysicalPrefix c chains remaining) := by
  -- The rounds end by themselves, and then each chain is saturated.
  refine ⟨⟨RoundRobin.fill_all_closed boundedPrefix_monotone,
    fun _ hfuel => RoundRobin.rounds_eq_fill boundedPrefix_monotone hfuel⟩,?_⟩
  by_cases hcomplete : fits remaining (completeBudget c chains) = true
  · exact cutsPrefix_complete hcomplete
  · exact cutsPrefix_grown (Bool.eq_false_iff.mpr hcomplete)

end Budget
end Cara
