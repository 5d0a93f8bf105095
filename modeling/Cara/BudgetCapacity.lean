import Cara.Budget

/-! The admission bound against the apply reserve for one chain: which chains inside
the bound still advance when the whole deadline remains. -/
namespace Cara
namespace Budget

open Config (CaravanConfig)

variable {c : CaravanConfig} {deadline : Duration} {chain : ChainCost} {members : List MemberCost}

theorem searchCapacity_spec (slots steps size admissible : ℕ)
    (hadm : admissible = 0 ∨ capacityCommandSlots admissible < slots) (hlt : admissible < size) :
    (searchCapacity slots steps size admissible = 0 ∨
      capacityCommandSlots (searchCapacity slots steps size admissible) < slots) ∧
    searchCapacity slots steps size admissible < size + steps := by
  induction steps generalizing size admissible with
  | zero => exact ⟨hadm,hlt⟩
  | succ steps ih =>
    unfold searchCapacity
    split
    case isTrue => exact ⟨hadm,by omega⟩
    case isFalse hcost =>
      have hnext := ih (size + 1) size (.inr (by omega)) (by omega)
      exact ⟨hnext.1,by omega⟩

theorem capacityCommandSlots_eq {size : ℕ} (hpos : 0 < size)
    (hle : size ≤ maxCapacitySearchMembers) : capacityCommandSlots size = 2 * size + 4 := by
  unfold maxCapacitySearchMembers at hle
  unfold capacityCommandSlots Saturating.add Saturating.mul Saturating.maxU64
    physicalApplyCommandSlotsPerRetainedMember physicalApplyCommandSlotsPerPendingMember
    physicalFixedPostWriteCommandSlots
  omega

/-- Every size inside an accepted bound costs fewer slots than the deadline holds. -/
theorem admissionCapacity_slots {bound n : ℕ} (hcap : admissionCapacity c deadline = .ok bound)
    (hn : n ≤ bound) :
    n ≤ maxCapacitySearchMembers ∧ 2 * n + 4 < deadlineCommandSlots c deadline := by
  unfold admissionCapacity at hcap
  simp only at hcap
  split at hcap
  · cases hcap
  case isFalse hsound =>
    have hbound : computedCapacity c deadline = bound := Except.ok.inj hcap
    have hspec := searchCapacity_spec (deadlineCommandSlots c deadline)
      maxCapacitySearchMembers 1 0 (.inl rfl) Nat.one_pos
    change (computedCapacity c deadline = 0 ∨
      capacityCommandSlots (computedCapacity c deadline) < deadlineCommandSlots c deadline) ∧
      computedCapacity c deadline < 1 + maxCapacitySearchMembers at hspec
    rw [hbound] at hspec hsound
    unfold minimumSoundCapacity at hsound
    have hcost := capacityCommandSlots_eq (by omega : 0 < bound) (by omega)
    omega

/-- Control and apply slots of a prefix with the fixed verification, without saturation. -/
def hardSlots (members : List MemberCost) : ℕ :=
  (members.map MemberCost.controlSlots).sum + (members.map MemberCost.applySlots).sum + 2

theorem controlSlots_le (m : MemberCost) : m.controlSlots ≤ 1 := by
  unfold MemberCost.controlSlots
  split
  · omega
  · split <;> omega

theorem applySlots_le (m : MemberCost) : m.applySlots ≤ 3 := by
  unfold MemberCost.applySlots physicalApplyCommandSlotsPerPendingMember
    physicalApplyCommandSlotsPerRetainedMember
  split <;> omega

theorem map_sum_le {f : MemberCost → ℕ} {k : ℕ} (hf : ∀ m, f m ≤ k) (members : List MemberCost) :
    (members.map f).sum ≤ k * members.length := by
  induction members with
  | nil => exact Nat.zero_le _
  | cons m members ih =>
    have hm := hf m
    rw [List.map_cons,List.sum_cons,List.length_cons,Nat.mul_succ]
    omega

/-- The reserve of one chain's leading members, for every chain the bound can admit. -/
theorem budgetFor_single (hlen : chain.members.length ≤ maxCapacitySearchMembers) (a : ℕ) :
    (budgetFor c [chain] [a] .boundedPrefix).commandSlots = hardSlots (chain.members.take a) := by
  have htake : (chain.members.take a).length ≤ 4096 :=
    (List.length_take_le' _ _).trans hlen
  have hcontrol := map_sum_le controlSlots_le (chain.members.take a)
  have happly := map_sum_le applySlots_le (chain.members.take a)
  have hcosts : admittedCosts [chain] [a] = chain.members.take a := by
    simp [admittedCosts,admittedOf]
  have hrounds : applyRounds [chain] [a] =
      (chain.members.take a |>.map MemberCost.applySlots).sum := by
    have hchunks : Vec.chunks maxParallelRebaseChains [chain] = [[chain]] := by
      simp [Vec.chunks,maxParallelRebaseChains]
    have hsum : (chain.members.take a |>.map MemberCost.applySlots).sum ≤ Saturating.maxU64 := by
      unfold Saturating.maxU64
      omega
    unfold applyRounds
    rw [hchunks]
    simp only [List.zipIdx_singleton,List.map_cons,List.map_nil,List.foldr_cons,List.foldr_nil,
      admittedOf,Nat.zero_mul,Nat.zero_add,List.getD_cons_zero,Nat.max_zero]
    rw [Saturating.sum_eq hsum]
    simp only [Saturating.sum,List.foldl_cons,List.foldl_nil,Saturating.add,Nat.zero_add]
    omega
  unfold budgetFor hardSlots
  simp only [hcosts,hrounds]
  rw [Saturating.sum_eq (by unfold Saturating.maxU64; omega)]
  unfold Saturating.add Saturating.maxU64 physicalFixedPostWriteCommandSlots
  omega

theorem hardSlots_retained (h : ∀ m ∈ members, m.pending = false) :
    hardSlots members = 2 * members.length + 2 := by
  unfold hardSlots
  induction members with
  | nil => rfl
  | cons m members ih =>
    have hm := h m (by simp)
    have hrest := ih fun x hx => h x (by simp [hx])
    have hcontrol : m.controlSlots = 0 := by simp [MemberCost.controlSlots,hm]
    have happly : m.applySlots = 2 := by
      simp [MemberCost.applySlots,hm,physicalApplyCommandSlotsPerRetainedMember]
    simp only [List.map_cons,List.sum_cons,List.length_cons,hcontrol,happly]
    omega

theorem hardSlots_firstPending {front : List MemberCost} {m : MemberCost}
    (hfront : ∀ x ∈ front, x.pending = false) (hm : m.pending = true) :
    hardSlots (front ++ [m]) = 2 * front.length + 5 + (if m.autoMergeEnabled then 1 else 0) := by
  have hretained := hardSlots_retained hfront
  have hcontrol : m.controlSlots = if m.autoMergeEnabled then 1 else 0 := by
    simp [MemberCost.controlSlots,hm]
  have happly : m.applySlots = 3 := by
    simp [MemberCost.applySlots,hm,physicalApplyCommandSlotsPerPendingMember]
  unfold hardSlots at *
  simp only [List.map_append,List.sum_append,List.map_cons,List.map_nil,List.sum_cons,List.sum_nil,
    hcontrol,happly]
  omega

theorem retained_or_firstPending (members : List MemberCost) :
    (∀ m ∈ members, m.pending = false) ∨
      ∃ front m rest, members = front ++ m::rest ∧ (∀ x ∈ front, x.pending = false) ∧
        m.pending = true := by
  induction members with
  | nil => simp
  | cons m members ih =>
    cases hm : m.pending with
    | true => exact .inr ⟨[],m,members,rfl,by simp,hm⟩
    | false =>
      obtain hall | ⟨front,first,rest,heq,hfront,hfirst⟩ := ih
      · left
        simpa [hm] using hall
      · right
        refine ⟨m::front,first,rest,by simp [heq],?_,hfirst⟩
        simpa [hm] using hfront

/-- A prefix reaches a pending member exactly when it reaches the first one. -/
theorem exists_pending_take_iff {front rest : List MemberCost} {m : MemberCost}
    (hfront : ∀ x ∈ front, x.pending = false) (hm : m.pending = true) (a : ℕ) :
    (∃ x ∈ (front ++ m::rest).take a, x.pending = true) ↔ front.length < a := by
  constructor
  · intro hpending
    obtain ⟨x,hx,hp⟩ := hpending
    by_contra hle
    rw [List.take_append_of_le_length (by omega)] at hx
    exact Bool.false_ne_true ((hfront x (List.mem_of_mem_take hx)).symm.trans hp)
  · intro hlt
    refine ⟨m,?_,hm⟩
    rw [List.mem_take_iff_getElem]
    exact ⟨front.length,by simp [hlt],by simp⟩

theorem getD_singleton (a i : ℕ) : [a].getD i 0 = if i = 0 then a else 0 := by
  cases i <;> simp

theorem single_le {a b : ℕ} (h : a ≤ b) (i : ℕ) : [a].getD i 0 ≤ [b].getD i 0 := by
  rw [getD_singleton,getD_singleton]
  split <;> omega

def admittedCount (c : CaravanConfig) (chain : ChainCost) (remaining : Duration) : ℕ :=
  (admitPhysicalPrefix c [chain] remaining).admitted.getD 0 0

theorem growPrefix_single (c : CaravanConfig) (chain : ChainCost) (remaining : Duration) :
    ∃ a, (growPrefix c [chain] remaining).counts = [a] :=
  List.length_eq_one_iff.mp (growPrefix_invariant c [chain] remaining).counts_length

theorem admitted_single (c : CaravanConfig) (chain : ChainCost) (remaining : Duration) :
    (admitPhysicalPrefix c [chain] remaining).admitted = [admittedCount c chain remaining] := by
  obtain ⟨a,ha⟩ := growPrefix_single c chain remaining
  unfold admittedCount admitPhysicalPrefix
  dsimp only
  split
  · rfl
  · simp [ha]

/-- A nonempty prefix is admitted exactly when its own hard reserve is affordable. -/
theorem le_admittedCount_iff (hlen : chain.members.length ≤ maxCapacitySearchMembers) {k : ℕ}
    (hpos : 0 < k) (hk : k ≤ chain.members.length) :
    k ≤ admittedCount c chain deadline ↔ Affords c deadline (hardSlots (chain.members.take k)) := by
  have hfits (a : ℕ) : fits deadline (budgetFor c [chain] [a] .boundedPrefix) = true ↔
      Affords c deadline (hardSlots (chain.members.take a)) := by
    rw [fits_iff_affords,budgetFor_single hlen]
  rw [← hfits]
  unfold admittedCount admitPhysicalPrefix
  dsimp only
  split
  case isTrue hcomplete =>
    exact ⟨fun _ => fits_of_le (single_le hk) .complete hcomplete,fun _ => hk⟩
  case isFalse =>
    obtain ⟨a,ha⟩ := growPrefix_single c chain deadline
    have hinv := growPrefix_invariant c [chain] deadline
    have hmax := @growPrefix_maximal [chain] deadline c 0 Nat.one_pos
    have hvalue := hinv.value_eq
    rw [ha] at hmax hvalue ⊢
    show k ≤ a ↔ _
    constructor
    · intro hka
      have haccepted := hinv.accepted ⟨0,Nat.one_pos,by rw [ha]; exact hpos.trans_le hka⟩
      rw [hvalue] at haccepted
      exact fits_of_le (single_le hka) .boundedPrefix haccepted
    · intro hfit
      by_contra hlt
      obtain hfull | hrefused := hmax
      · have hfull' : a = chain.members.length := hfull
        omega
      · have hnext := fits_of_le (single_le (by omega : a + 1 ≤ k)) .boundedPrefix hfit
        exact Bool.false_ne_true (hrefused.symm.trans hnext)

theorem deferred_eq_nil_iff (c : CaravanConfig) (chain : ChainCost) (remaining : Duration) :
    (admitPhysicalPrefix c [chain] remaining).deferred = [] ↔
      chain.members.length ≤ admittedCount c chain remaining := by
  obtain ⟨a,ha⟩ := growPrefix_single c chain remaining
  unfold admittedCount admitPhysicalPrefix
  dsimp only
  split
  · simp [completePrefix]
  · simp [ha,deferredMembers]

theorem pendingAdmitted_pos_iff (c : CaravanConfig) (chain : ChainCost) (remaining : Duration) :
    0 < (admitPhysicalPrefix c [chain] remaining).pendingAdmitted ↔
      ∃ m ∈ chain.members.take (admittedCount c chain remaining), m.pending = true := by
  have hsum (a : ℕ) : 0 < pendingInPrefix [chain] [a] ↔
      ∃ m ∈ chain.members.take a, m.pending = true := by
    rw [← List.countP_pos_iff]
    unfold pendingInPrefix
    rw [Saturating.sum_eq_min]
    simp only [List.zipIdx_singleton,List.map_cons,List.map_nil,List.sum_cons,List.sum_nil,admittedOf,
      List.getD_cons_zero]
    unfold Saturating.maxU64
    omega
  rw [← hsum,← admitted_single]
  unfold admitPhysicalPrefix
  dsimp only
  split <;> rfl

/-- The tick admits a prefix with the first pending member or defers nothing. -/
def Advances (members : List MemberCost) (admission : PhysicalApplyAdmission) : Prop :=
  (∃ front m rest, members = front ++ m::rest ∧ (∀ x ∈ front, x.pending = false) ∧
      m.pending = true ∧ front.length < admission.admitted.getD 0 0) ∨
    admission.deferred = []

theorem makesProgress_iff_advances (c : CaravanConfig) (chain : ChainCost) (remaining : Duration) :
    (admitPhysicalPrefix c [chain] remaining).makesProgress = true ↔
      Advances chain.members (admitPhysicalPrefix c [chain] remaining) := by
  unfold PhysicalApplyAdmission.makesProgress Advances
  rw [Bool.or_eq_true,decide_eq_true_eq,pendingAdmitted_pos_iff,List.isEmpty_iff]
  apply or_congr_left
  have hcount : (admitPhysicalPrefix c [chain] remaining).admitted.getD 0 0 =
      admittedCount c chain remaining := rfl
  rw [hcount]
  generalize admittedCount c chain remaining = a
  obtain hall | ⟨front,m,rest,heq,hfront,hm⟩ := retained_or_firstPending chain.members
  · -- neither side finds a pending member in a retained chain
    constructor
    · intro hpending
      obtain ⟨m,hm,hp⟩ := hpending
      exact absurd ((hall m (List.mem_of_mem_take hm)).symm.trans hp) Bool.false_ne_true
    · intro hfirst
      obtain ⟨front,m,rest,heq,-,hp,-⟩ := hfirst
      exact absurd ((hall m (heq ▸ by simp)).symm.trans hp) Bool.false_ne_true
  · constructor
    · intro hpending
      rw [heq,exists_pending_take_iff hfront hm] at hpending
      exact ⟨front,m,rest,heq,hfront,hm,hpending⟩
    · intro hfirst
      obtain ⟨front',m',rest',heq',hfront',hm',hlt⟩ := hfirst
      rw [heq']
      exact (exists_pending_take_iff hfront' hm' a).mpr hlt

/-- The guard second is not covered by the price difference between the two models: free
commands leave at most the guard, and commands of one second end exactly on the deadline
when the only pending member is the last one and still carries auto-merge. -/
def GuardExhausted (c : CaravanConfig) (deadline : Duration) (members : List MemberCost) : Prop :=
  (reserveSecsPerCommand c = 0 ∧ members ≠ [] ∧ ¬ admissionGuard.lt deadline) ∨
    (reserveSecsPerCommand c = 1 ∧ deadline.secs = 2 * members.length + 5 ∧ deadline.nanos = 0 ∧
      ∃ front last, members = front ++ [last] ∧ (∀ x ∈ front, x.pending = false) ∧
        last.pending = true ∧ last.autoMergeEnabled = true)

theorem affords_zero_price (hprice : reserveSecsPerCommand c = 0) (slots : ℕ) :
    Affords c deadline slots ↔ admissionGuard.lt deadline := by
  have hguard : admissionGuard.lt deadline ↔
      1 < deadline.secs ∨ 1 = deadline.secs ∧ 0 < deadline.nanos := Iff.rfl
  rw [hguard]
  unfold Affords
  rw [hprice]
  omega

theorem price_mul_le_secs {n : ℕ} (hprice : reserveSecsPerCommand c ≠ 0)
    (hslots : 2 * n + 4 < deadlineCommandSlots c deadline) :
    reserveSecsPerCommand c * (2 * n + 5) ≤ deadline.secs := by
  unfold deadlineCommandSlots at hslots
  rw [if_neg hprice] at hslots
  rw [Nat.mul_comm]
  exact (Nat.le_div_iff_mul_le (Nat.pos_of_ne_zero hprice)).mp hslots

/-- One spare slot pays for the guard at any price of two seconds or more, two spare slots
at any price; with one spare second the deadline has to exceed the last slot. -/
theorem affords_iff_of_capacity {n slots : ℕ} (hprice : reserveSecsPerCommand c ≠ 0)
    (hslots : 2 * n + 4 < deadlineCommandSlots c deadline) (hle : slots ≤ 2 * n + 4) :
    Affords c deadline slots ↔ ¬ (reserveSecsPerCommand c = 1 ∧ slots = 2 * n + 4 ∧
      deadline.secs = 2 * n + 5 ∧ deadline.nanos = 0) := by
  have hsecs := price_mul_le_secs hprice hslots
  have hspare := Nat.mul_le_mul_left (reserveSecsPerCommand c) hle
  rw [show 2 * n + 5 = (2 * n + 4) + 1 from rfl,Nat.mul_add,Nat.mul_one] at hsecs
  unfold Affords
  by_cases hone : reserveSecsPerCommand c = 1
  · rw [hone] at hsecs ⊢
    omega
  · have htwo : 2 ≤ reserveSecsPerCommand c := by omega
    constructor
    · intro _ hexhausted
      exact hone hexhausted.1
    · intro _
      left
      omega

/-- A last armed pending member after a retained front is the first pending member. -/
theorem lastArmed_iff {front rest : List MemberCost} {m : MemberCost}
    (hfront : ∀ x ∈ front, x.pending = false) (hm : m.pending = true) :
    (∃ front' last, front ++ m::rest = front' ++ [last] ∧ (∀ x ∈ front', x.pending = false) ∧
      last.pending = true ∧ last.autoMergeEnabled = true) ↔
    rest = [] ∧ m.autoMergeEnabled = true := by
  constructor
  · intro hlast
    obtain ⟨front',last,heq,hfront',-,harmed⟩ := hlast
    obtain hnil | ⟨rest',x,hrest⟩ := List.eq_nil_or_concat rest
    · rw [hnil] at heq
      have hinj := List.append_inj' heq rfl
      have hlast : m = last := by simpa using hinj.2
      exact ⟨hnil,hlast ▸ harmed⟩
    · rw [hrest,List.concat_eq_append,← List.cons_append,← List.append_assoc] at heq
      have hinj := List.append_inj' heq rfl
      have hretained := hfront' m (hinj.1 ▸ by simp)
      exact absurd (hretained.symm.trans hm) Bool.false_ne_true
  · intro harmed
    exact ⟨front,m,by rw [harmed.1],hfront,hm,harmed.2⟩

theorem makesProgress_retained (hlen : chain.members.length ≤ maxCapacitySearchMembers)
    (hall : ∀ m ∈ chain.members, m.pending = false) :
    (admitPhysicalPrefix c [chain] deadline).makesProgress = true ↔
      chain.members = [] ∨ Affords c deadline (2 * chain.members.length + 2) := by
  have hpending : ¬ 0 < (admitPhysicalPrefix c [chain] deadline).pendingAdmitted := by
    rw [pendingAdmitted_pos_iff]
    intro hpending
    obtain ⟨m,hm,hp⟩ := hpending
    exact Bool.false_ne_true ((hall m (List.mem_of_mem_take hm)).symm.trans hp)
  unfold PhysicalApplyAdmission.makesProgress
  rw [Bool.or_eq_true,decide_eq_true_eq,List.isEmpty_iff,deferred_eq_nil_iff,
    or_iff_right hpending]
  by_cases hnil : chain.members = []
  · simp [hnil]
  · have hiff := @le_admittedCount_iff c deadline chain hlen _
      (List.length_pos_iff.mpr hnil) le_rfl
    rw [List.take_length,hardSlots_retained hall] at hiff
    rw [hiff,or_iff_right hnil]

theorem makesProgress_firstPending (hlen : chain.members.length ≤ maxCapacitySearchMembers)
    {front rest : List MemberCost} {m : MemberCost} (heq : chain.members = front ++ m::rest)
    (hfront : ∀ x ∈ front, x.pending = false) (hm : m.pending = true) :
    (admitPhysicalPrefix c [chain] deadline).makesProgress = true ↔
      Affords c deadline (2 * front.length + 5 + (if m.autoMergeEnabled then 1 else 0)) := by
  have hlength : front.length + 1 ≤ chain.members.length := by
    rw [heq]
    simp
  have hiff := @le_admittedCount_iff c deadline chain hlen _
    (Nat.succ_pos front.length) hlength
  have htake : chain.members.take (front.length + 1) = front ++ [m] := by
    rw [heq,List.take_append]
    simp
  rw [htake,hardSlots_firstPending hfront hm] at hiff
  rw [← hiff]
  unfold PhysicalApplyAdmission.makesProgress
  rw [Bool.or_eq_true,decide_eq_true_eq,pendingAdmitted_pos_iff,List.isEmpty_iff,
    deferred_eq_nil_iff]
  have hpending := @exists_pending_take_iff front rest m hfront hm
    (admittedCount c chain deadline)
  rw [← heq] at hpending
  rw [hpending]
  omega

/-- For every policy, deadline and chain inside the admission bound, the tick that starts with
the whole deadline advances exactly when the guard second is covered. -/
theorem admissionCapacity_makesProgress_iff {bound : ℕ}
    (hcap : admissionCapacity c deadline = .ok bound) (hlen : chain.members.length ≤ bound) :
    ((admitPhysicalPrefix c [chain] deadline).makesProgress = true ↔
      Advances chain.members (admitPhysicalPrefix c [chain] deadline)) ∧
    (Advances chain.members (admitPhysicalPrefix c [chain] deadline) ↔
      ¬ GuardExhausted c deadline chain.members) := by
  obtain ⟨hsearch,hslots⟩ := admissionCapacity_slots hcap hlen
  have hprogress := makesProgress_iff_advances c chain deadline
  refine ⟨hprogress,?_⟩
  rw [← hprogress]
  unfold GuardExhausted
  obtain hall | ⟨front,m,rest,heq,hfront,hm⟩ := retained_or_firstPending chain.members
  · have hlast : ¬ ∃ front last, chain.members = front ++ [last] ∧
        (∀ x ∈ front, x.pending = false) ∧ last.pending = true ∧
        last.autoMergeEnabled = true := by
      intro hlast
      obtain ⟨front,last,heq,-,hp,-⟩ := hlast
      exact Bool.false_ne_true ((hall last (heq ▸ by simp)).symm.trans hp)
    rw [makesProgress_retained hsearch hall]
    by_cases hprice : reserveSecsPerCommand c = 0
    · rw [affords_zero_price hprice]
      simp only [hprice,hlast,and_false,or_false,true_and,not_and,not_not]
      exact or_iff_not_imp_left
    · rw [affords_iff_of_capacity hprice hslots (by omega)]
      simp only [hprice,hlast,false_and,and_false,or_false,not_false_eq_true,iff_true]
      right
      omega
  · have hne : chain.members ≠ [] := by simp [heq]
    have hlength : chain.members.length = front.length + 1 + rest.length := by
      rw [heq]
      simp
      omega
    have hrest : rest = [] ↔ rest.length = 0 := List.length_eq_zero_iff.symm
    rw [makesProgress_firstPending hsearch heq hfront hm]
    by_cases hprice : reserveSecsPerCommand c = 0
    · rw [affords_zero_price hprice]
      simp [hprice,hne]
    · rw [affords_iff_of_capacity hprice hslots (by split <;> omega)]
      simp only [heq,lastArmed_iff hfront hm,hprice,false_and,false_or]
      rw [← heq,hrest]
      apply not_congr
      cases m.autoMergeEnabled with
      | true =>
        simp only [if_true,and_true]
        omega
      | false =>
        simp only [Bool.false_eq_true,if_false,and_false,iff_false]
        omega

/-- Policy accepted by the loader whose commands are priced at one second. -/
def secondPriced : CaravanConfig := { sync := { reserveSecsPerCommand := 1 } }

/-- A retained root and an armed pending member on top of it. -/
def armedTail : ChainCost where
  caravanId := 1
  members := [⟨1,false,false⟩,⟨2,true,true⟩]
  externallyArmedNonRoots := 0

theorem admissionCapacity_makesProgress_default :
    admissionCapacity {} (.fromSecs 150) = .ok 2 ∧
      Advances armedTail.members (admitPhysicalPrefix {} [armedTail] (.fromSecs 150)) := by
  have hcap : admissionCapacity {} (.fromSecs 150) = .ok 2 := by decide +kernel
  refine ⟨hcap,(admissionCapacity_makesProgress_iff hcap (by decide)).2.mpr ?_⟩
  intro hexhausted
  obtain hfree | hsecond := hexhausted
  · exact absurd hfree.1 (by decide)
  · exact absurd hsecond.1 (by decide)

/-- The bound of nine seconds admits the two-member chain, the reserve of the same nine
seconds never reaches its pending member. -/
theorem admissionCapacity_not_makesProgress :
    secondPriced.validate = .ok () ∧
      admissionCapacity secondPriced (.fromSecs 9) = .ok armedTail.members.length ∧
      (admitPhysicalPrefix secondPriced [armedTail] (.fromSecs 9)).makesProgress = false ∧
      (admitPhysicalPrefix secondPriced [armedTail] (.fromSecs 9)).deferred = [2] := by
  decide +kernel

end Budget
end Cara
