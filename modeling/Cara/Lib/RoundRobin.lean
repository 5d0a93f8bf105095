import Mathlib.Data.List.Basic
import Mathlib.Data.List.GetD
import Mathlib.Algebra.Order.BigOperators.Group.List
import Mathlib.Algebra.Order.Ring.Nat

/-! Greedy round-robin filling of bounded lanes. In every round each open lane takes
one more item when the price of the extended fill is still accepted, and is closed
for good at its first refusal or when it is full. -/
namespace RoundRobin

variable {β : Type*}

structure Fill (β : Type*) where
  counts : List ℕ
  closed : List Bool
  value : β

variable (price : List ℕ → β) (fits : β → Bool) (limits : List ℕ)

def extend (counts : List ℕ) (i : ℕ) : List ℕ := counts.set i (counts.getD i 0 + 1)

def close (st : Fill β) (i : ℕ) : Fill β := { st with closed := st.closed.set i true }

def visit (st : Fill β) (i : ℕ) : Fill β :=
  if st.closed.getD i true then st
  else if limits.getD i 0 ≤ st.counts.getD i 0 then close st i
  else if fits (price (extend st.counts i)) then
    { st with counts := extend st.counts i,value := price (extend st.counts i) }
  else close st i

def round (st : Fill β) : Fill β := (List.range limits.length).foldl (visit price fits limits) st

def start : Fill β :=
  let counts := List.replicate limits.length 0
  { counts := counts,closed := List.replicate limits.length false,value := price counts }

def rounds : ℕ → Fill β → Fill β
  | 0,st => st
  | fuel + 1,st => if st.closed.all id then st else rounds fuel (round price fits limits st)

/-- No round leaves every open lane as it was, so the items and the lanes bound the rounds. -/
def fill : Fill β := rounds price fits limits (limits.sum + limits.length) (start price limits)

/-- Items the open lanes may still take, with one closing step for each of them. -/
def work (st : Fill β) : ℕ :=
  ((List.range limits.length).map fun i =>
    if st.closed.getD i true then 0 else limits.getD i 0 - st.counts.getD i 0 + 1).sum

/-- What every visit keeps: the value is the price of the counts, no lane exceeds its
limit, a nonempty fill is an accepted one, and a closed lane was full or refused. -/
structure Invariant (st : Fill β) : Prop where
  counts_length : st.counts.length = limits.length
  closed_length : st.closed.length = limits.length
  value_eq : st.value = price st.counts
  le_limit : ∀ i < limits.length, st.counts.getD i 0 ≤ limits.getD i 0
  accepted : (∃ i < limits.length, 0 < st.counts.getD i 0) → fits st.value = true
  refused : ∀ i < limits.length, st.closed.getD i true = true →
    limits.getD i 0 ≤ st.counts.getD i 0 ∨ fits (price (extend st.counts i)) = false

variable {price fits limits} {st : Fill β} {i j : ℕ}

theorem getD_set {α : Type*} (l : List α) (v d : α) (hi : i < l.length) :
    (l.set i v).getD j d = if i = j then v else l.getD j d := by
  simp only [List.getD_eq_getElem?_getD,List.getElem?_set]
  by_cases hij : i = j
  · simp [hij,hij ▸ hi]
  · simp [hij]

@[simp] theorem extend_length (counts : List ℕ) (i : ℕ) :
    (extend counts i).length = counts.length := List.length_set

theorem extend_getD (counts : List ℕ) (hi : i < counts.length) (j : ℕ) :
    (extend counts i).getD j 0 = counts.getD j 0 + if i = j then 1 else 0 := by
  unfold extend
  rw [getD_set counts _ _ hi]
  by_cases hij : i = j
  · simp [hij]
  · simp [hij]

theorem visit_cases (st : Fill β) (i : ℕ) :
    (st.closed.getD i true = true ∧ visit price fits limits st i = st) ∨
    (st.closed.getD i true = false ∧
      (limits.getD i 0 ≤ st.counts.getD i 0 ∨ fits (price (extend st.counts i)) = false) ∧
      visit price fits limits st i = close st i) ∨
    (st.closed.getD i true = false ∧ st.counts.getD i 0 < limits.getD i 0 ∧
      fits (price (extend st.counts i)) = true ∧
      visit price fits limits st i =
        { st with counts := extend st.counts i,value := price (extend st.counts i) }) := by
  unfold visit
  by_cases hclosed : st.closed.getD i true = true
  · exact .inl ⟨hclosed,if_pos hclosed⟩
  have hopen : st.closed.getD i true = false := Bool.eq_false_iff.mpr hclosed
  rw [if_neg hclosed]
  right
  by_cases hfull : limits.getD i 0 ≤ st.counts.getD i 0
  · exact .inl ⟨hopen,.inl hfull,if_pos hfull⟩
  rw [if_neg hfull]
  by_cases hfits : fits (price (extend st.counts i)) = true
  · exact .inr ⟨hopen,by omega,hfits,if_pos hfits⟩
  · exact .inl ⟨hopen,.inr (Bool.eq_false_iff.mpr hfits),if_neg hfits⟩

/-- A fill that fits still fits after some lanes give items back. -/
def Monotone (price : List ℕ → β) (fits : β → Bool) : Prop :=
  ∀ a b : List ℕ, (∀ i, a.getD i 0 ≤ b.getD i 0) → fits (price b) = true → fits (price a) = true

theorem Monotone.refused_of_le (h : Monotone price fits) {a b : List ℕ}
    (hle : ∀ i, a.getD i 0 ≤ b.getD i 0) (ha : fits (price a) = false) :
    fits (price b) = false := by
  rw [Bool.eq_false_iff]
  intro hb
  rw [h a b hle hb] at ha
  cases ha

namespace Invariant

theorem closing (hst : Invariant price fits limits st) (hi : i < limits.length)
    (href : limits.getD i 0 ≤ st.counts.getD i 0 ∨
      fits (price (extend st.counts i)) = false) :
    Invariant price fits limits (close st i) where
  counts_length := hst.counts_length
  closed_length := by
    unfold close
    rw [List.length_set]
    exact hst.closed_length
  value_eq := hst.value_eq
  le_limit := hst.le_limit
  accepted := hst.accepted
  refused := by
    intro j hj hclosed
    unfold close at hclosed
    rw [getD_set _ _ _ (hst.closed_length ▸ hi)] at hclosed
    by_cases hij : i = j
    · exact hij ▸ href
    · rw [if_neg hij] at hclosed
      exact hst.refused j hj hclosed

theorem extending (hmono : Monotone price fits) (hst : Invariant price fits limits st)
    (hi : i < limits.length) (hopen : st.closed.getD i true = false)
    (hlt : st.counts.getD i 0 < limits.getD i 0)
    (hfits : fits (price (extend st.counts i)) = true) :
    Invariant price fits limits
      { st with counts := extend st.counts i,value := price (extend st.counts i) } := by
  have hlen : i < st.counts.length := hst.counts_length ▸ hi
  refine ⟨by simpa using hst.counts_length,hst.closed_length,rfl,?_,fun _ => hfits,?_⟩
  · intro j hj
    show (extend st.counts i).getD j 0 ≤ limits.getD j 0
    rw [extend_getD _ hlen]
    by_cases hij : i = j
    · subst hij
      rw [if_pos rfl]
      omega
    · simpa [hij] using hst.le_limit j hj
  · -- a lane refused before the extension is refused after it
    intro j hj hclosed
    have hij : i ≠ j := by
      intro hij
      subst hij
      exact Bool.false_ne_true (hopen.symm.trans hclosed)
    have hlen' : j < st.counts.length := hst.counts_length ▸ hj
    have hle (k : ℕ) : (extend st.counts j).getD k 0 ≤ (extend (extend st.counts i) j).getD k 0 := by
      rw [extend_getD _ hlen',extend_getD _ (by simpa using hlen'),extend_getD _ hlen]
      omega
    show limits.getD j 0 ≤ (extend st.counts i).getD j 0 ∨ _
    rw [extend_getD _ hlen]
    apply (hst.refused j hj hclosed).imp
    · intro hfull
      omega
    · exact hmono.refused_of_le hle

theorem visit (hmono : Monotone price fits) (hst : Invariant price fits limits st)
    (hi : i < limits.length) : Invariant price fits limits (visit price fits limits st i) := by
  obtain ⟨-,heq⟩ | ⟨-,href,heq⟩ | ⟨hopen,hlt,hfits,heq⟩ := @visit_cases _ price fits limits st i
  · rw [heq]
    exact hst
  · rw [heq]
    exact hst.closing hi href
  · rw [heq]
    exact hst.extending hmono hi hopen hlt hfits

theorem visits (hmono : Monotone price fits) (lanes : List ℕ)
    (hlanes : ∀ i ∈ lanes, i < limits.length) (hst : Invariant price fits limits st) :
    Invariant price fits limits (lanes.foldl (RoundRobin.visit price fits limits) st) := by
  induction lanes generalizing st with
  | nil => exact hst
  | cons i lanes ih =>
    apply ih
    · intro j hj
      exact hlanes j (by simp [hj])
    · exact hst.visit hmono (hlanes i (by simp))

theorem round (hmono : Monotone price fits) (hst : Invariant price fits limits st) :
    Invariant price fits limits (round price fits limits st) :=
  hst.visits hmono _ fun _ hi => List.mem_range.mp hi

theorem start : Invariant price fits limits (start price limits) where
  counts_length := List.length_replicate
  closed_length := List.length_replicate
  value_eq := rfl
  le_limit := by
    intro i hi
    simp [RoundRobin.start,hi]
  accepted := by
    intro hpos
    obtain ⟨i,hi,hpos⟩ := hpos
    simp [RoundRobin.start,hi] at hpos
  refused := by
    intro i hi hclosed
    simp [RoundRobin.start,hi] at hclosed

theorem rounds (hmono : Monotone price fits) (fuel : ℕ)
    (hst : Invariant price fits limits st) :
    Invariant price fits limits (rounds price fits limits fuel st) := by
  induction fuel generalizing st with
  | zero => exact hst
  | succ fuel ih =>
    unfold RoundRobin.rounds
    split
    · exact hst
    · exact ih (hst.round hmono)

end Invariant

/-- A visit leaves the fill alone only when its lane is closed. -/
theorem work_visit_lt (hst : Invariant price fits limits st) (hi : i < limits.length)
    (hopen : st.closed.getD i true = false) :
    work limits (visit price fits limits st i) < work limits st := by
  have hclen : i < st.closed.length := hst.closed_length ▸ hi
  have hlen : i < st.counts.length := hst.counts_length ▸ hi
  unfold work
  apply List.sum_lt_sum
  · intro j hj
    obtain ⟨hclosed,-⟩ | ⟨-,-,heq⟩ | ⟨-,-,-,heq⟩ := @visit_cases _ price fits limits st i
    · exact absurd (hopen.symm.trans hclosed) Bool.false_ne_true
    · rw [heq]
      unfold close
      rw [getD_set _ _ _ hclen]
      split <;> split <;> simp_all
    · rw [heq]
      show (if st.closed.getD j true = true then 0 else
        limits.getD j 0 - (extend st.counts i).getD j 0 + 1) ≤ _
      rw [extend_getD _ hlen]
      split
      · exact le_rfl
      · omega
  · refine ⟨i,List.mem_range.mpr hi,?_⟩
    obtain ⟨hclosed,-⟩ | ⟨-,-,heq⟩ | ⟨-,hlt,-,heq⟩ := @visit_cases _ price fits limits st i
    · exact absurd (hopen.symm.trans hclosed) Bool.false_ne_true
    · rw [heq]
      unfold close
      rw [getD_set _ _ _ hclen,if_pos rfl,if_pos rfl,hopen,if_neg Bool.false_ne_true]
      exact Nat.succ_pos _
    · rw [heq]
      show (if st.closed.getD i true = true then 0 else
        limits.getD i 0 - (extend st.counts i).getD i 0 + 1) < _
      rw [extend_getD _ hlen,hopen,if_neg Bool.false_ne_true,if_neg Bool.false_ne_true,if_pos rfl]
      omega

theorem visits_idle_or_work_lt (hmono : Monotone price fits) (lanes : List ℕ)
    (hlanes : ∀ i ∈ lanes, i < limits.length) (hst : Invariant price fits limits st) :
    (lanes.foldl (visit price fits limits) st = st ∧ ∀ i ∈ lanes, st.closed.getD i true = true) ∨
      work limits (lanes.foldl (visit price fits limits) st) < work limits st := by
  induction lanes generalizing st with
  | nil => simp
  | cons i lanes ih =>
    have hi := hlanes i (by simp)
    have hrest : ∀ j ∈ lanes, j < limits.length := fun j hj => hlanes j (by simp [hj])
    rw [List.foldl_cons]
    by_cases hclosed : st.closed.getD i true = true
    · have heq : visit price fits limits st i = st := if_pos hclosed
      rw [heq]
      apply (ih hrest hst).imp_left
      intro hidle
      refine ⟨hidle.1,?_⟩
      intro j hj
      apply (List.mem_cons.mp hj).elim
      · intro hji
        exact hji ▸ hclosed
      · exact hidle.2 j
    · right
      have hlt := work_visit_lt hst hi (Bool.eq_false_iff.mpr hclosed)
      apply (ih hrest (hst.visit hmono hi)).elim
      · intro hidle
        rw [hidle.1]
        exact hlt
      · intro hless
        omega

theorem all_closed_of_getD (hst : Invariant price fits limits st)
    (h : ∀ i < limits.length, st.closed.getD i true = true) : st.closed.all id = true := by
  rw [List.all_eq_true]
  intro b hb
  obtain ⟨i,hi,hget⟩ := List.mem_iff_getElem.mp hb
  have hclosed := h i (hst.closed_length ▸ hi)
  rw [List.getD_eq_getElem _ _ hi,hget] at hclosed
  exact hclosed

theorem rounds_all_closed (hmono : Monotone price fits) (fuel : ℕ)
    (hst : Invariant price fits limits st) (hfuel : work limits st ≤ fuel) :
    (rounds price fits limits fuel st).closed.all id = true := by
  induction fuel generalizing st with
  | zero =>
    apply all_closed_of_getD hst
    intro i hi
    by_contra hopen
    have hlt := work_visit_lt hst hi (Bool.eq_false_iff.mpr hopen)
    omega
  | succ fuel ih =>
    unfold rounds
    split
    case isTrue hall => exact hall
    case isFalse hopen =>
      apply ih (hst.round hmono)
      have hlanes : ∀ i ∈ List.range limits.length, i < limits.length :=
        fun i hi => List.mem_range.mp hi
      obtain ⟨-,hclosed⟩ | hlt := visits_idle_or_work_lt hmono _ hlanes hst
      · exact absurd (all_closed_of_getD hst fun i hi => hclosed i (List.mem_range.mpr hi)) hopen
      · show work limits ((List.range limits.length).foldl (visit price fits limits) st) ≤ fuel
        omega

theorem work_start_le : work limits (start price limits) ≤ limits.sum + limits.length := by
  have hterm : ∀ i ∈ List.range limits.length,
      (if (start price limits).closed.getD i true then 0 else
        limits.getD i 0 - (start price limits).counts.getD i 0 + 1) = limits.getD i 0 + 1 := by
    intro i hi
    have hi' := List.mem_range.mp hi
    simp [start,hi']
  have hlanes : (List.range limits.length).map (fun i => limits.getD i 0) = limits := by
    apply List.ext_getElem
    · simp
    · intro i hi hi'
      rw [List.getElem_map,List.getElem_range,List.getD_eq_getElem _ _ hi']
  unfold work
  rw [List.map_congr_left hterm,List.sum_map_add,hlanes]
  simp

/-- Once every lane is closed further rounds change nothing. -/
theorem rounds_add_of_all_closed (fuel more : ℕ)
    (h : (rounds price fits limits fuel st).closed.all id = true) :
    rounds price fits limits (fuel + more) st = rounds price fits limits fuel st := by
  induction fuel generalizing st with
  | zero =>
    show rounds price fits limits (0 + more) st = st
    have hst : st.closed.all id = true := h
    cases more with
    | zero => rfl
    | succ more =>
      rw [Nat.zero_add]
      exact if_pos hst
  | succ fuel ih =>
    rw [Nat.succ_add]
    unfold rounds at h ⊢
    by_cases hall : st.closed.all id = true
    · rw [if_pos hall,if_pos hall]
    · rw [if_neg hall] at h ⊢
      rw [if_neg hall]
      exact ih h

theorem fill_all_closed (hmono : Monotone price fits) :
    (fill price fits limits).closed.all id = true :=
  rounds_all_closed hmono _ Invariant.start work_start_le

/-- The loop stops on its own: every larger bound on the rounds gives the same fill. -/
theorem rounds_eq_fill (hmono : Monotone price fits) {fuel : ℕ}
    (hfuel : limits.sum + limits.length ≤ fuel) :
    rounds price fits limits fuel (start price limits) = fill price fits limits := by
  obtain ⟨more,rfl⟩ := Nat.exists_eq_add_of_le hfuel
  exact rounds_add_of_all_closed _ more (fill_all_closed hmono)

theorem fill_invariant (hmono : Monotone price fits) :
    Invariant price fits limits (fill price fits limits) := Invariant.start.rounds hmono _

/-- The finished fill is maximal: a lane that is not full cannot take one more item. -/
theorem fill_maximal (hmono : Monotone price fits) (hi : i < limits.length) :
    (fill price fits limits).counts.getD i 0 = limits.getD i 0 ∨
      fits (price (extend (fill price fits limits).counts i)) = false := by
  have hinv : Invariant price fits limits (fill price fits limits) := fill_invariant hmono
  have hall : (fill price fits limits).closed.all id = true := fill_all_closed hmono
  have hclen : i < (fill price fits limits).closed.length := hinv.closed_length ▸ hi
  have hclosed : (fill price fits limits).closed.getD i true = true := by
    rw [List.getD_eq_getElem _ _ hclen]
    exact List.all_eq_true.mp hall _ (List.getElem_mem hclen)
  apply (hinv.refused i hi hclosed).imp_left
  intro hfull
  exact le_antisymm (hinv.le_limit i hi) hfull

end RoundRobin
