import Cara.Github.StackPrefixPlan
import Cara.Github.StackWrite

/-! Recovery of a Stack whose provider rows lag behind its accepted members: every raw row stays as it
is, and the accepted members that the rows lack are appended behind them. -/
namespace Cara
namespace Github

open Prog (send attempt mapError ofResult refuseIf forEach)

section Target

structure RecoveryScan where
  seen : List PrNumber := []
  activePrefix : ℕ := 0
deriving DecidableEq

def recoveryRow (accepted : StackTopology) (scan : RecoveryScan) (row : StackEntryGeneration × ℕ) :
    Except StackMutationError RecoveryScan :=
  let entry := row.1
  if entry.position ≠ row.2 ∨ entry.pr ∈ scan.seen then
    .error (invalidPlan "github_stack_recovery_rows_invalid"
      "raw positions and PR identities must be unique and ordered")
  else if entry.pullRequestState = .open then
    match accepted.entries[scan.activePrefix]? with
    | none => .error (invalidPlan "github_stack_recovery_prefix_invalid"
        "provider has extra open members")
    | some expected =>
        if entry.pr ≠ expected.pr ∨ entry.head ≠ expected.head ∨ entry.base ≠ expected.base ∨
            entry.draft ∨ entry.mergedAt.isSome then
          .error (invalidPlan "github_stack_recovery_prefix_invalid"
            "open provider rows differ from the exact accepted prefix")
        else .ok ⟨entry.pr::scan.seen,scan.activePrefix + 1⟩
  else if accepted.entries.any fun member => decide (member.pr = entry.pr) then
    .error (invalidPlan "github_stack_recovery_history_intersects"
      "retained history intersects active accepted membership")
  else .ok { scan with seen := entry.pr::scan.seen }

structure SuffixScan where
  target : StackTopology
  seen : List PrNumber
deriving DecidableEq

def appendAccepted (scan : SuffixScan) (entry : StackEntryGeneration) :
    Except StackMutationError SuffixScan :=
  let position := scan.target.entries.length
  if entry.pullRequestState ≠ .open ∨ entry.pr ∈ scan.seen then
    .error (invalidPlan "github_stack_recovery_suffix_invalid"
      "suffix must contain only distinct accepted open members")
  else if Saturating.maxU32 < position then
    .error (invalidPlan "github_stack_recovery_too_many_rows" "Stack row position exceeds u32")
  else .ok {
    target := { scan.target with entries := scan.target.entries ++ [{ entry with position := position }] }
    seen := entry.pr::scan.seen }

def recoverySuffixTarget (stack : StackGeneration) (repository : RepositoryId)
    (accepted : StackTopology) : Except StackMutationError StackTopology := do
  validateTopology repository accepted 2
  Guard.refuse (accepted.entries.any fun entry =>
      decide (entry.pullRequestState ≠ .open) || entry.draft || entry.mergedAt.isSome)
    (invalidPlan "github_stack_recovery_members_ineligible"
      "every accepted recovery member must be open, non-draft, and unmerged")
  Guard.refuse (!stack.isOpen || decide (stack.topology.base ≠ accepted.base))
    (invalidPlan "github_stack_recovery_base_drift" "recovery requires the exact open Stack base")
  let scan ← stack.topology.entries.zipIdx.foldlM (recoveryRow accepted) {}
  Guard.refuse (decide (scan.activePrefix = 0 ∨ accepted.entries.length ≤ scan.activePrefix))
    (invalidPlan "github_stack_recovery_suffix_missing"
      "recovery requires a nonempty exact prefix and missing accepted suffix")
  let extended ← (accepted.entries.drop scan.activePrefix).foldlM appendAccepted
    ⟨stack.topology,scan.seen⟩
  return extended.target

end Target

section Rows

def openRows (rows : List StackEntryGeneration) : List StackEntryGeneration :=
  rows.filter fun row => decide (row.pullRequestState = .open)

def StackEntryGeneration.identity (entry : StackEntryGeneration) :
    PrNumber × BranchSnapshot × BranchSnapshot := (entry.pr,entry.head,entry.base)

def Contiguous (rows : List StackEntryGeneration) : Prop :=
  ∀ (i : ℕ) (row : StackEntryGeneration),rows[i]? = some row → row.position = i

/-- The rows hold exactly the first accepted members, whatever history lies between them. -/
structure RowsScanned (accepted : StackTopology) (rows : List StackEntryGeneration)
    (scan : RecoveryScan) : Prop where
  contiguous : Contiguous rows
  nodup : (rows.map (·.pr)).Nodup
  seen : ∀ pr,pr ∈ scan.seen ↔ pr ∈ rows.map (·.pr)
  openRows : (openRows rows).map (·.identity) = (accepted.entries.take scan.activePrefix).map (·.identity)
  bounded : scan.activePrefix ≤ accepted.entries.length

variable {accepted : StackTopology} {rows : List StackEntryGeneration} {scan : RecoveryScan}
  {row : StackEntryGeneration}

theorem rowsScanned_nil : RowsScanned accepted [] {} where
  contiguous i row h := by cases h
  nodup := List.nodup_nil
  seen pr := by simp
  openRows := rfl
  bounded := Nat.zero_le _

theorem contiguous_snoc (h : Contiguous rows) (hrow : row.position = rows.length) :
    Contiguous (rows ++ [row]) := by
  intro i other hother
  rcases Nat.lt_or_ge i rows.length with hi | hi
  · rw [List.getElem?_append_left hi] at hother
    exact h i other hother
  · rw [List.getElem?_append_right hi,List.getElem?_singleton] at hother
    split at hother
    case isTrue hzero =>
      rw [← Option.some.inj hother]
      omega
    case isFalse => cases hother

theorem openRows_snoc (rows : List StackEntryGeneration) (row : StackEntryGeneration) :
    openRows (rows ++ [row]) =
      openRows rows ++ (if row.pullRequestState = .open then [row] else []) := by
  unfold openRows
  rw [List.filter_append,List.filter_singleton]
  by_cases hopen : row.pullRequestState = .open <;> simp [hopen]

namespace RowsScanned

theorem snoc (h : RowsScanned accepted rows scan) (hposition : row.position = rows.length)
    (hfresh : row.pr ∉ scan.seen) {activePrefix : ℕ} (hbounded : activePrefix ≤ accepted.entries.length)
    (hopen : (Github.openRows (rows ++ [row])).map (·.identity) =
      (accepted.entries.take activePrefix).map (·.identity)) :
    RowsScanned accepted (rows ++ [row]) ⟨row.pr::scan.seen,activePrefix⟩ where
  contiguous := contiguous_snoc h.contiguous hposition
  nodup := by
    rw [List.map_append,List.nodup_append]
    refine ⟨h.nodup,List.nodup_singleton _,?_⟩
    intro pr hpr other hother heq
    rw [List.map_singleton,List.mem_singleton] at hother
    exact hfresh ((h.seen row.pr).mpr (hother ▸ heq ▸ hpr))
  seen pr := by
    rw [List.mem_cons,h.seen,List.map_append,List.mem_append,List.map_singleton,List.mem_singleton]
    exact or_comm
  openRows := hopen
  bounded := hbounded

theorem snoc_member (h : RowsScanned accepted rows scan) {member : StackEntryGeneration}
    (hmember : accepted.entries[scan.activePrefix]? = some member)
    (hposition : row.position = rows.length) (hfresh : row.pr ∉ scan.seen)
    (hopen : row.pullRequestState = .open) (hidentity : row.identity = member.identity) :
    RowsScanned accepted (rows ++ [row]) ⟨row.pr::scan.seen,scan.activePrefix + 1⟩ := by
  obtain ⟨hlt,hget⟩ := List.getElem?_eq_some_iff.mp hmember
  apply h.snoc hposition hfresh hlt
  rw [openRows_snoc,if_pos hopen,List.map_append,h.openRows,List.map_singleton,hidentity,
    List.take_add_one,hmember,List.map_append]
  rfl

theorem snoc_history (h : RowsScanned accepted rows scan) (hposition : row.position = rows.length)
    (hfresh : row.pr ∉ scan.seen) (hclosed : row.pullRequestState ≠ .open) :
    RowsScanned accepted (rows ++ [row]) { scan with seen := row.pr::scan.seen } := by
  apply h.snoc hposition hfresh h.bounded
  rw [openRows_snoc,if_neg hclosed,List.append_nil,h.openRows]

end RowsScanned

theorem recoveryRow_scanned {scan' : RecoveryScan} (h : RowsScanned accepted rows scan)
    (hrow : recoveryRow accepted scan (row,rows.length) = .ok scan') :
    RowsScanned accepted (rows ++ [row]) scan' := by
  unfold recoveryRow at hrow
  dsimp only at hrow
  split at hrow
  · cases hrow
  case isFalse hfresh =>
    obtain ⟨hposition,hnew⟩ := not_or.mp hfresh
    split at hrow
    case isTrue hopen =>
      cases hmember : accepted.entries[scan.activePrefix]? with
      | none =>
        rw [hmember] at hrow
        cases hrow
      | some member =>
        rw [hmember] at hrow
        dsimp only at hrow
        split at hrow
        · cases hrow
        case isFalse hsame =>
          simp only [not_or,not_not] at hsame
          cases hrow
          apply h.snoc_member hmember (not_not.mp hposition) hnew hopen
          unfold StackEntryGeneration.identity
          rw [hsame.1,hsame.2.1,hsame.2.2.1]
    case isFalse hclosed =>
      split at hrow
      · cases hrow
      · cases hrow
        exact h.snoc_history (not_not.mp hposition) hnew hclosed

theorem rows_scanned {rest : List StackEntryGeneration} {scan' : RecoveryScan}
    (h : RowsScanned accepted rows scan)
    (hrest : (rest.zipIdx rows.length).foldlM (recoveryRow accepted) scan = .ok scan') :
    RowsScanned accepted (rows ++ rest) scan' := by
  induction rest generalizing rows scan with
  | nil =>
    cases hrest
    rwa [List.append_nil]
  | cons row rest ih =>
    rw [List.zipIdx_cons,List.foldlM_cons] at hrest
    obtain ⟨next,hnext,hrest⟩ := Guard.bind_eq_ok.mp hrest
    have hsnoc := ih (recoveryRow_scanned h hnext) (by
      rw [List.length_append,List.length_singleton]
      exact hrest)
    rwa [List.append_assoc] at hsnoc

/-- Appending what is left of the accepted members takes the scan to their end. -/
theorem suffix_scanned {suffix : SuffixScan} {members : List StackEntryGeneration} {extended : SuffixScan}
    {activePrefix : ℕ} (hextended : members.foldlM appendAccepted suffix = .ok extended)
    (h : RowsScanned accepted suffix.target.entries ⟨suffix.seen,activePrefix⟩)
    (hmembers : accepted.entries.drop activePrefix = members) :
    RowsScanned accepted extended.target.entries ⟨extended.seen,accepted.entries.length⟩ ∧
      suffix.target.entries <+: extended.target.entries ∧ extended.target.base = suffix.target.base := by
  induction members generalizing suffix activePrefix with
  | nil =>
    cases hextended
    have hend : accepted.entries.length = activePrefix :=
      le_antisymm (List.drop_eq_nil_iff.mp hmembers) h.bounded
    rw [hend]
    exact ⟨h,List.prefix_rfl,rfl⟩
  | cons member members ih =>
    rw [List.foldlM_cons] at hextended
    obtain ⟨next,hnext,hrest⟩ := Guard.bind_eq_ok.mp hextended
    have hmember : accepted.entries[activePrefix]? = some member := by
      rw [← List.head?_drop,hmembers]
      rfl
    have htail : accepted.entries.drop (activePrefix + 1) = members := by
      rw [← List.tail_drop,hmembers]
      rfl
    unfold appendAccepted at hnext
    dsimp only at hnext
    split at hnext
    · cases hnext
    case isFalse hfresh =>
      obtain ⟨hopen,hnew⟩ := not_or.mp hfresh
      split at hnext
      · cases hnext
      · cases hnext
        have hsnoc : RowsScanned accepted
            (suffix.target.entries ++ [{ member with position := suffix.target.entries.length }])
            ⟨member.pr::suffix.seen,activePrefix + 1⟩ :=
          h.snoc_member hmember rfl hnew (not_not.mp hopen) rfl
        obtain ⟨hscanned,hextends,hbase⟩ := ih hrest hsnoc htail
        exact ⟨hscanned,(List.prefix_append _ _).trans hextends,hbase⟩

end Rows

section Recovered

variable {repository : RepositoryId} {accepted target : StackTopology} {stack : StackGeneration}

/-- A target keeps the raw rows and completes the accepted members behind them. -/
structure Recovers (accepted : StackTopology) (raw target : List StackEntryGeneration) : Prop where
  retained : raw <+: target
  contiguous : Contiguous target
  nodup : (target.map (·.pr)).Nodup
  complete : (openRows target).map (·.identity) = accepted.entries.map (·.identity)
  lagging : ∃ size,0 < size ∧ size < accepted.entries.length ∧
    (openRows raw).map (·.identity) = (accepted.entries.take size).map (·.identity)

theorem Recovers.of_target (h : recoverySuffixTarget stack repository accepted = .ok target) :
    Recovers accepted stack.topology.entries target.entries := by
  unfold recoverySuffixTarget at h
  obtain ⟨_,h⟩ := Guard.unit_bind_eq_ok.mp h
  obtain ⟨_,h⟩ := (Guard.refuse_bind_eq_ok _ _ _ _).mp h
  obtain ⟨_,h⟩ := (Guard.refuse_bind_eq_ok _ _ _ _).mp h
  obtain ⟨scan,hscan,h⟩ := Guard.bind_eq_ok.mp h
  obtain ⟨hstrict,h⟩ := (Guard.refuse_bind_eq_ok _ _ _ _).mp h
  obtain ⟨extended,hextended,htarget⟩ := Guard.bind_eq_ok.mp h
  cases htarget
  have hraw : RowsScanned accepted stack.topology.entries scan := rows_scanned rowsScanned_nil hscan
  obtain ⟨hscanned,hextends,_⟩ := suffix_scanned hextended hraw rfl
  obtain ⟨hpos,hlt⟩ := not_or.mp (of_decide_eq_false hstrict)
  refine ⟨hextends,hscanned.contiguous,hscanned.nodup,?_,scan.activePrefix,by omega,by omega,hraw.openRows⟩
  rw [hscanned.openRows,List.take_length]

theorem no_target_of_complete (h : (openRows stack.topology.entries).map (·.identity) =
    accepted.entries.map (·.identity)) :
    ∃ error,recoverySuffixTarget stack repository accepted = .error error := by
  cases htarget : recoverySuffixTarget stack repository accepted with
  | error error => exact ⟨error,rfl⟩
  | ok target =>
    obtain ⟨size,_,hlt,hopen⟩ := (Recovers.of_target htarget).lagging
    have hlength := congrArg List.length (h.symm.trans hopen)
    rw [List.length_map,List.length_map,List.length_take] at hlength
    omega

/-- A target appends exactly the missing members, and the Stack that holds it is refused another one. -/
theorem recovery_appends_once (h : recoverySuffixTarget stack repository accepted = .ok target) :
    Recovers accepted stack.topology.entries target.entries ∧
      ∃ error,recoverySuffixTarget { stack with topology := target } repository accepted = .error error :=
  ⟨.of_target h,no_target_of_complete (Recovers.of_target h).complete⟩

end Recovered

section Example

private def laggingRepository : RepositoryId := ⟨"octo","repo"⟩

private def laggingBranch (name : String) : BranchSnapshot := ⟨laggingRepository,name,name ++ "-oid"⟩

private def laggingRow (position : ℕ) (pr : PrNumber) (base head : String)
    (state : PullRequestState := .open) : StackEntryGeneration where
  position := position
  pr := pr
  stackState := "open"
  pullRequestState := state
  draft := false
  base := laggingBranch base
  head := laggingBranch head

/-- The second of two accepted members is missing, and a closed row lies behind the first. -/
private def laggingStack : StackGeneration where
  id := 1
  number := 7
  nodeId := "S_7"
  isOpen := true
  createdAt := "2026-01-01T00:00:00Z"
  topology := ⟨laggingBranch "main",[laggingRow 0 1 "main" "a",laggingRow 1 9 "a" "old" .closed]⟩

private def laggingMembers : StackTopology :=
  ⟨laggingBranch "main",[laggingRow 0 1 "main" "a",laggingRow 1 2 "a" "b"]⟩

private def laggingTarget : StackTopology :=
  ⟨laggingBranch "main",laggingStack.topology.entries ++ [laggingRow 2 2 "a" "b"]⟩

theorem recovery_appends_once_lagging :
    Recovers laggingMembers laggingStack.topology.entries laggingTarget.entries ∧
      ∃ error,recoverySuffixTarget { laggingStack with topology := laggingTarget } laggingRepository
        laggingMembers = .error error :=
  recovery_appends_once (by decide)

end Example

end Github
end Cara
