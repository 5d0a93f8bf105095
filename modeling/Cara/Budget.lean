import Cara.Config
import Cara.Lib.Vec
import Cara.Lib.Saturating
import Cara.Lib.RoundRobin

/-! Deterministic model of the physical-apply wall-clock reserve. A hard reserve
covers control mutations, branch-apply rounds and the midpoint verification; the
soft reserve adds ordinary reconciliation. Admission bounds a chain by the same
price per command. -/
namespace Cara
namespace Budget

open Config (CaravanConfig)

def maxParallelRebaseChains : ℕ := 2

def physicalApplyCommandSlotsPerPendingMember : ℕ := 3

def physicalApplyCommandSlotsPerRetainedMember : ℕ := 2

def physicalReconciliationCommandSlotsPerMember : ℕ := 1

def physicalReconciliationCommandSlotsPerCaravan : ℕ := 2

def physicalFixedPostWriteCommandSlots : ℕ := 2

def maxCapacitySearchMembers : ℕ := 4096

/-- Smallest admission bound that can be enforced as ordinary gating. -/
def minimumSoundCapacity : ℕ := 2

/-- Wall clock left unclaimed between admitting a prefix and reserving it. -/
def admissionGuard : Duration := .fromSecs 1

structure MemberCost where
  pr : PrNumber
  /-- A branch rewrite is required for this exact generation. -/
  pending : Bool
  /-- Native auto-merge must be dropped before rewriting this member. -/
  autoMergeEnabled : Bool
deriving DecidableEq

namespace MemberCost

def applySlots (m : MemberCost) : ℕ :=
  if m.pending then physicalApplyCommandSlotsPerPendingMember
  else physicalApplyCommandSlotsPerRetainedMember

def controlSlots (m : MemberCost) : ℕ :=
  if !m.pending then 0 else if m.autoMergeEnabled then 1 else 0

def controlMutations (m : MemberCost) : ℕ :=
  if !m.pending then 0 else Saturating.add (if m.autoMergeEnabled then 1 else 0) 1

end MemberCost

structure ChainCost where
  caravanId : PrNumber
  members : List MemberCost
  externallyArmedNonRoots : ℕ
deriving DecidableEq

def ChainCost.reconciliationSlots (chain : ChainCost) : ℕ :=
  Saturating.add
    (Saturating.add
      (Saturating.mul chain.members.length physicalReconciliationCommandSlotsPerMember)
      chain.externallyArmedNonRoots)
    physicalReconciliationCommandSlotsPerCaravan

structure PhysicalCommitBudget where
  commandSlots : ℕ
  required : Duration
  mutationReserve : ℕ
deriving DecidableEq

inductive ReserveScope where
  | complete
  | boundedPrefix
deriving DecidableEq

structure PhysicalApplyAdmission where
  admitted : List ℕ
  admittedPrs : List PrNumber
  deferred : List PrNumber
  budget : PhysicalCommitBudget
  completeBudget : PhysicalCommitBudget
  deferredConvergence : Bool
  pendingAdmitted : ℕ
deriving DecidableEq

/-- A tick finishes the graph or writes at least one pending member of it. -/
def PhysicalApplyAdmission.makesProgress (a : PhysicalApplyAdmission) : Bool :=
  decide (0 < a.pendingAdmitted) || a.deferred.isEmpty

structure CapacityDefect where
  code : String
  computedBound : ℕ
  minimumSoundBound : ℕ
  deadlineMs : ℕ
  commandTimeoutMs : ℕ
  reserveMsPerCommand : ℕ
  minimumChainCommandSlots : ℕ
  minimumDeadlineMs : ℕ
  safeNextAction : String
deriving DecidableEq

def durationMillis (d : Duration) : ℕ := min d.asMillis Saturating.maxU64

section Model

variable (c : CaravanConfig)

def reserveSecsPerCommand : ℕ := min c.commandTimeoutSecs c.sync.reserveSecsPerCommand

def slotsToDuration (slots : ℕ) : Duration :=
  .fromSecs (Saturating.mul (reserveSecsPerCommand c) slots)

def deadlineCommandSlots (deadline : Duration) : ℕ :=
  if reserveSecsPerCommand c = 0 then Saturating.maxU64
  else deadline.secs / reserveSecsPerCommand c

/-- Leading members of one chain that a prefix vector admits. -/
def admittedOf (admitted : List ℕ) (chain : ChainCost) (index : ℕ) : List MemberCost :=
  chain.members.take (admitted.getD index 0)

/-- Chains of one batch apply in parallel, batches one after another. -/
def applyRounds (chains : List ChainCost) (admitted : List ℕ) : ℕ :=
  Saturating.sum ((Vec.chunks maxParallelRebaseChains chains).zipIdx.map fun (group,batch) =>
    (group.zipIdx.map fun (chain,offset) =>
      Saturating.sum ((admittedOf admitted chain
        (batch * maxParallelRebaseChains + offset)).map MemberCost.applySlots)).foldr max 0)

/-- Admitted members of every chain, in exact apply order. -/
def admittedCosts (chains : List ChainCost) (admitted : List ℕ) : List MemberCost :=
  chains.zipIdx.flatMap fun (chain,index) => admittedOf admitted chain index

def budgetFor (chains : List ChainCost) (admitted : List ℕ) (scope : ReserveScope) :
    PhysicalCommitBudget :=
  let members := admittedCosts chains admitted
  let controlSlots := Saturating.sum (members.map MemberCost.controlSlots)
  let controlMutations := Saturating.sum (members.map MemberCost.controlMutations)
  let pendingWrites := min (members.countP MemberCost.pending) Saturating.maxU64
  let reconciliation := match scope with
    | .complete => Saturating.sum (chains.map ChainCost.reconciliationSlots)
    | .boundedPrefix => 0
  let commandSlots :=
    Saturating.add
      (Saturating.add (Saturating.add controlSlots (applyRounds chains admitted)) reconciliation)
      physicalFixedPostWriteCommandSlots
  { commandSlots := commandSlots
    required := slotsToDuration c commandSlots
    mutationReserve := min
      (Saturating.add (Saturating.add controlMutations pendingWrites) reconciliation)
      Saturating.maxU32 }

def completePrefix (chains : List ChainCost) : List ℕ := chains.map fun chain => chain.members.length

def completeBudget (chains : List ChainCost) : PhysicalCommitBudget :=
  budgetFor c chains (completePrefix chains) .complete

def deferredMembers (chains : List ChainCost) (admitted : List ℕ) : List PrNumber :=
  chains.zipIdx.flatMap fun (chain,index) =>
    (chain.members.drop (admitted.getD index 0)).map MemberCost.pr

def admittedMembers (chains : List ChainCost) (admitted : List ℕ) : List PrNumber :=
  chains.zipIdx.flatMap fun (chain,index) => (admittedOf admitted chain index).map MemberCost.pr

def pendingInPrefix (chains : List ChainCost) (admitted : List ℕ) : ℕ :=
  Saturating.sum (chains.zipIdx.map fun (chain,index) =>
    min ((admittedOf admitted chain index).countP MemberCost.pending) Saturating.maxU64)

def fits (remaining : Duration) (budget : PhysicalCommitBudget) : Bool :=
  decide ((budget.required.saturatingAdd admissionGuard).lt remaining)

/-- Chains grow one member at a time in selection order, each strictly from its root. -/
def growPrefix (chains : List ChainCost) (remaining : Duration) :
    RoundRobin.Fill PhysicalCommitBudget :=
  RoundRobin.fill (fun admitted => budgetFor c chains admitted .boundedPrefix) (fits remaining)
    (completePrefix chains)

def admitPhysicalPrefix (chains : List ChainCost) (remaining : Duration) :
    PhysicalApplyAdmission :=
  let complete := completeBudget c chains
  let full := completePrefix chains
  if fits remaining complete then
    { admitted := full
      admittedPrs := admittedMembers chains full
      deferred := []
      budget := complete
      completeBudget := complete
      deferredConvergence := false
      pendingAdmitted := pendingInPrefix chains full }
  else
    let grown := growPrefix c chains remaining
    let deferred := deferredMembers chains grown.counts
    let pendingAdmitted := pendingInPrefix chains grown.counts
    { admitted := grown.counts
      admittedPrs := admittedMembers chains grown.counts
      deferred := deferred
      budget := grown.value
      completeBudget := complete
      deferredConvergence := !deferred.isEmpty || decide (0 < pendingAdmitted)
      pendingAdmitted := pendingAdmitted }

/-- Hardest ordinary shape: earlier members retained, one trailing pending rewrite and
one native auto-merge drop. -/
def capacityCommandSlots (size : ℕ) : ℕ :=
  Saturating.add
    (Saturating.add
      (Saturating.add (Saturating.mul (size - 1) physicalApplyCommandSlotsPerRetainedMember)
        physicalApplyCommandSlotsPerPendingMember)
      1)
    physicalFixedPostWriteCommandSlots

/-- The search stops at the first size whose cost reaches the available slots. -/
def searchCapacity (slots : ℕ) : ℕ → ℕ → ℕ → ℕ
  | 0,_,admissible => admissible
  | steps + 1,size,admissible =>
      if slots ≤ capacityCommandSlots size then admissible
      else searchCapacity slots steps (size + 1) size

def computedCapacity (deadline : Duration) : ℕ :=
  searchCapacity (deadlineCommandSlots c deadline) maxCapacitySearchMembers 1 0

def minimumSoundDeadline : Duration :=
  .fromSecs (Saturating.mul (Saturating.add (capacityCommandSlots minimumSoundCapacity) 1)
    (reserveSecsPerCommand c))

def capacityDefect (deadline : Duration) (computedBound : ℕ) : CapacityDefect where
  code := "sync_budget_capacity_unsound"
  computedBound := computedBound
  minimumSoundBound := minimumSoundCapacity
  deadlineMs := durationMillis deadline
  commandTimeoutMs := Saturating.mul c.commandTimeoutSecs 1000
  reserveMsPerCommand := Saturating.mul (reserveSecsPerCommand c) 1000
  minimumChainCommandSlots := capacityCommandSlots minimumSoundCapacity
  minimumDeadlineMs := durationMillis (minimumSoundDeadline c)
  safeNextAction := "raise sync.max_duration_secs to at least " ++
    toString (minimumSoundDeadline c).secs ++ "s (currently " ++ toString deadline.secs ++
    "s), or lower sync.reserve_secs_per_command (currently " ++
    toString (reserveSecsPerCommand c) ++
    "s) to a proven-safe value: the configured deadline implies a " ++ toString computedBound ++
    "-member bound, below the " ++ toString minimumSoundCapacity ++
    "-member floor admission can enforce, and draining a caravan can never raise a bound " ++
    "derived from configuration alone"

/-- Largest chain size the deadline allows, or the defect of its arithmetic. -/
def admissionCapacity (deadline : Duration) : Except CapacityDefect ℕ :=
  let computed := computedCapacity c deadline
  if computed < minimumSoundCapacity then .error (capacityDefect c deadline computed)
  else .ok computed

end Model

variable {c : CaravanConfig} {chains : List ChainCost} {remaining deadline : Duration}

/-- The priced slots and the guard second leave some of the remaining time. -/
def Affords (c : CaravanConfig) (remaining : Duration) (slots : ℕ) : Prop :=
  reserveSecsPerCommand c * slots + 1 < remaining.secs ∨
    reserveSecsPerCommand c * slots + 1 = remaining.secs ∧ 0 < remaining.nanos

theorem Affords.mono {slots slots' : ℕ} (h : Affords c remaining slots') (hle : slots ≤ slots') :
    Affords c remaining slots := by
  have hmul := Nat.mul_le_mul_left (reserveSecsPerCommand c) hle
  unfold Affords at *
  omega

theorem fits_iff_affords (admitted : List ℕ) (scope : ReserveScope) :
    fits remaining (budgetFor c chains admitted scope) = true ↔
      Affords c remaining (budgetFor c chains admitted scope).commandSlots := by
  have hsecs := remaining.secs_le
  have hguard := Duration.fromSecs_saturatingAdd_one_lt_iff
    (Saturating.mul (reserveSecsPerCommand c) (budgetFor c chains admitted scope).commandSlots)
    remaining
  have hrequired : (budgetFor c chains admitted scope).required = .fromSecs
      (Saturating.mul (reserveSecsPerCommand c)
        (budgetFor c chains admitted scope).commandSlots) := rfl
  unfold fits admissionGuard
  rw [decide_eq_true_eq,hrequired,hguard]
  unfold Affords Saturating.mul
  omega

theorem admittedCosts_sublist {a b : List ℕ} (h : ∀ i, a.getD i 0 ≤ b.getD i 0) :
    (admittedCosts chains a).Sublist (admittedCosts chains b) := by
  unfold admittedCosts
  generalize chains.zipIdx = rows
  induction rows with
  | nil => exact List.Sublist.slnil
  | cons row rows ih =>
    rw [List.flatMap_cons,List.flatMap_cons]
    exact (List.take_sublist_take_left (h row.2)).append ih

theorem foldr_max_le {ι : Type*} (l : List ι) {f g : ι → ℕ} (h : ∀ i ∈ l, f i ≤ g i) :
    (l.map f).foldr max 0 ≤ (l.map g).foldr max 0 := by
  induction l with
  | nil => exact le_rfl
  | cons i l ih =>
    have hi := h i (by simp)
    have hrest := ih fun j hj => h j (by simp [hj])
    simp only [List.map_cons,List.foldr_cons]
    omega

theorem applyRounds_mono {a b : List ℕ} (h : ∀ i, a.getD i 0 ≤ b.getD i 0) :
    applyRounds chains a ≤ applyRounds chains b := by
  apply Saturating.sum_map_mono
  intro batch _
  apply foldr_max_le
  intro row _
  exact Saturating.sum_map_take_mono _ _ (h _)

/-- The reserve never shrinks when a prefix grows or reconciliation is added. -/
theorem budgetFor_commandSlots_mono {a b : List ℕ} (h : ∀ i, a.getD i 0 ≤ b.getD i 0)
    (scope : ReserveScope) :
    (budgetFor c chains a .boundedPrefix).commandSlots ≤
      (budgetFor c chains b scope).commandSlots := by
  have hcontrol : Saturating.sum ((admittedCosts chains a).map MemberCost.controlSlots) ≤
      Saturating.sum ((admittedCosts chains b).map MemberCost.controlSlots) := by
    apply Saturating.sum_mono
    apply List.Sublist.sum_le_sum
    · exact (admittedCosts_sublist h).map _
    · intro _ _
      exact Nat.zero_le _
  unfold budgetFor
  apply Saturating.add_mono _ le_rfl
  apply Saturating.add_mono _ (Nat.zero_le _)
  exact Saturating.add_mono hcontrol (applyRounds_mono h)

theorem fits_of_le {a b : List ℕ} (h : ∀ i, a.getD i 0 ≤ b.getD i 0) (scope : ReserveScope)
    (hb : fits remaining (budgetFor c chains b scope) = true) :
    fits remaining (budgetFor c chains a .boundedPrefix) = true := by
  rw [fits_iff_affords] at hb ⊢
  exact hb.mono (budgetFor_commandSlots_mono h scope)

theorem boundedPrefix_monotone :
    RoundRobin.Monotone (fun admitted => budgetFor c chains admitted .boundedPrefix)
      (fits remaining) :=
  fun _ _ h => fits_of_le h .boundedPrefix

theorem growPrefix_invariant (c : CaravanConfig) (chains : List ChainCost) (remaining : Duration) :
    RoundRobin.Invariant (fun admitted => budgetFor c chains admitted .boundedPrefix)
      (fits remaining) (completePrefix chains) (growPrefix c chains remaining) :=
  RoundRobin.fill_invariant boundedPrefix_monotone

/-- A grown chain is complete or its next member exceeds the remaining time. -/
theorem growPrefix_maximal (c : CaravanConfig) {i : ℕ} (hi : i < (completePrefix chains).length) :
    (growPrefix c chains remaining).counts.getD i 0 = (completePrefix chains).getD i 0 ∨
      fits remaining (budgetFor c chains
        (RoundRobin.extend (growPrefix c chains remaining).counts i) .boundedPrefix) = false :=
  RoundRobin.fill_maximal boundedPrefix_monotone hi

end Budget
end Cara
