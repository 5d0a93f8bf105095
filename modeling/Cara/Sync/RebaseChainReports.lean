import Cara.Sync.RebaseChains
import Mathlib.Algebra.Order.Ring.Nat

/-! What a later tick is told of a chain whose first members were pushed: the heads as they are on
the remote, and for every base either its current revision or the one before the rewrite. -/
namespace Cara
namespace Sync

open PhysicalRebase

/-- Every member is based on the branch of the one before it, and no branch serves twice. -/
structure LinearChain (defaultBranch : BranchSnapshot) (members : List PullRequestSnapshot) : Prop where
  linked : members.IsChain fun parent child => child.base.name = parent.head.name
  branches : (members.map (·.head.name)).Nodup
  default : ∀ c ∈ members,c.head.name ≠ defaultBranch.name
  root : ∀ root ∈ members.head?,∀ c ∈ members,c.head.name ≠ root.base.name

/-- A member as it was first discovered with the same one as it is discovered later. -/
abbrev Discovered := PullRequestSnapshot × PullRequestSnapshot

section Reports

variable (defaultBranch : BranchSnapshot)

def currentBase (parent : Option Discovered) (first : PullRequestSnapshot) : CommitOid :=
  match parent with
  | none => if first.base.name = defaultBranch.name then defaultBranch.oid else first.base.oid
  | some (_,now) => now.head.oid

/-- The revision from before the rewrite of the base branch; without a rewrite the earlier report. -/
def earlierBase (parent : Option Discovered) (first : PullRequestSnapshot) : CommitOid :=
  match parent with
  | none => first.base.oid
  | some (before,now) => if now.head.oid = before.head.oid then first.base.oid else before.head.oid

structure SameMember (branches : Branches) (parent : Option Discovered)
    (first now : PullRequestSnapshot) : Prop where
  crossRepository : now.crossRepository = first.crossRepository
  headRepository : now.head.repository = first.head.repository
  headName : now.head.name = first.head.name
  head : branches first.head.name = some now.head.oid
  baseRepository : now.base.repository = first.base.repository
  baseName : now.base.name = first.base.name
  base : now.base.oid = currentBase defaultBranch parent first ∨ now.base.oid = earlierBase parent first

inductive Resumed (branches : Branches) :
    Option Discovered → List PullRequestSnapshot → List PullRequestSnapshot → Prop
  | nil {parent : Option Discovered} : Resumed branches parent [] []
  | cons {parent : Option Discovered} {first now : PullRequestSnapshot}
      {rest later : List PullRequestSnapshot} : SameMember defaultBranch branches parent first now →
      Resumed branches (some (first,now)) rest later →
      Resumed branches parent (first::rest) (now::later)

end Reports

/-- The repository that a later tick works in: exactly the first members were pushed, and all
objects of the plans are retained. -/
structure Continues (git : GitTools) (first second : Repository) (members : List Rewrite) (k : ℕ) : Prop where
  branches : second.branches = pushedPrefix first.branches members k
  pullHeads : second.pullHeads = first.pullHeads
  history : first.history.Extends second.history
  objects : ∀ m ∈ members,m.history.Extends second.history
  room : second.history.names.length + (members.map (·.replayed.length)).sum ≤ git.naming.room

/-- The later plan finds the pushed members done and replays the commits of the first plan for
every other one. -/
def Resumes (k : ℕ) (members later : List Rewrite) : Prop :=
  (∀ m ∈ later.take k,m.plan.alreadySatisfied = true) ∧
    (later.drop k).map (·.replayed) = (members.drop k).map (·.replayed)

theorem resumes_cons {k : ℕ} {m n : Rewrite} {members later : List Rewrite} :
    Resumes k (m::members) (n::later) ↔
      (if 0 < k then n.plan.alreadySatisfied = true else n.replayed = m.replayed) ∧
        Resumes (k-1) members later := by
  cases k with
  | zero => simp [Resumes]
  | succ k => simp [Resumes,and_assoc]

section Conditions

variable {owner : RepositoryId} {candidate : PullRequestSnapshot} {rangeSource : PlannedRangeBase}
  {newBase : PlannedBase} {workflowSource : BranchSnapshot}

structure Conditions (owner : RepositoryId) (candidate : PullRequestSnapshot)
    (rangeSource : PlannedRangeBase) (newBase : PlannedBase) (workflowSource : BranchSnapshot) : Prop where
  sameRepository : candidate.crossRepository = false
  head : candidate.head.repository = owner
  base : candidate.base.repository = owner
  range : rangeSource.branch.repository = owner
  boundary : rangeSource.branch.oid = candidate.base.oid
  target : newBase.branch.repository = owner
  source : workflowSource.repository = owner
  binding : historicalBinding owner candidate rangeSource newBase workflowSource = .ok ()
  branch : validateBranch candidate.head.name = .ok ()
  headOid : validateOid candidate.head.oid = .ok ()
  baseOid : validateOid candidate.base.oid = .ok ()
  targetOid : validateOid newBase.branch.oid = .ok ()
  sourceOid : validateOid workflowSource.oid = .ok ()

theorem preconditions_ok : preconditions owner candidate rangeSource newBase workflowSource = .ok () ↔
    Conditions owner candidate rangeSource newBase workflowSource := by
  unfold preconditions
  simp only [Guard.refuse_bind_eq_ok,decide_eq_false_iff_not,not_or,not_not,Bool.not_eq_true]
  rw [Guard.unit_bind_eq_ok,Guard.unit_bind_eq_ok,Guard.unit_bind_eq_ok,Guard.unit_bind_eq_ok,
    Guard.unit_bind_eq_ok]
  constructor
  · intro h
    obtain ⟨⟨h1,h2,h3,h4,h5,h6,h7⟩,h8,h9,h10,h11,h12,h13⟩ := h
    exact ⟨h1,h2,h3,h4,h5,h6,h7,h8,h9,h10,h11,h12,h13⟩
  · intro h
    exact ⟨⟨h.sameRepository,h.head,h.base,h.range,h.boundary,h.target,h.source⟩,h.binding,h.branch,
      h.headOid,h.baseOid,h.targetOid,h.sourceOid⟩

end Conditions

section Fetch

variable {repository : Repository} {h : CommitHistory} {c : PullRequestSnapshot}
  {workflowSource : BranchSnapshot}

theorem fetchExact_ok {snapshot : BranchSnapshot} : fetchExact repository snapshot = .ok () ↔
    repository.branches snapshot.name = some snapshot.oid := by
  simp [fetchExact]

theorem retainHistoricalTargetBase_ok {historical current : BranchSnapshot} :
    retainHistoricalTargetBase h historical current = .ok () ↔ historical.oid ∈ h.history current.oid := by
  simp only [retainHistoricalTargetBase,Guard.refuse_bind_eq_ok,Guard.refuse_eq_ok,
    decide_eq_false_iff_not,not_not]
  exact and_iff_right_of_imp CommitGraph.history_names

/-- A child's boundary is found where it is a part of the parent's present head. -/
theorem fetchObjects_child {parentHead target : BranchSnapshot} (hname : c.base.name = parentHead.name)
    (hsource : workflowSource.name ≠ parentHead.name)
    (hparent : repository.branches parentHead.name = some parentHead.oid)
    (hrecorded : parentHead.oid ∈ h.names) :
    fetchObjects repository h c (rangeBaseForRewrittenParent c parentHead) (.simulated target)
        workflowSource = .ok () ↔
      repository.branches c.head.name = some c.head.oid ∧ target.oid ∈ h.names ∧
      c.base.oid ∈ h.history parentHead.oid ∧
      repository.branches workflowSource.name = some workflowSource.oid := by
  have hrange : fetchRange repository h (rangeBaseForRewrittenParent c parentHead) = .ok () ↔
      c.base.oid ∈ h.history parentHead.oid := by
    unfold rangeBaseForRewrittenParent
    by_cases hsame : c.base.oid = parentHead.oid
    · have hself := CommitGraph.history_self hrecorded
      simp [hsame,fetchRange,fetchExact_ok,hname,hparent,hself]
    · simp only [hname,hsame,ne_eq,not_false_eq_true,and_self,if_true,fetchRange]
      rw [Guard.unit_bind_eq_ok,fetchExact_ok,retainHistoricalTargetBase_ok]
      exact and_iff_right hparent
  unfold fetchObjects
  rw [Guard.unit_bind_eq_ok,Guard.unit_bind_eq_ok,Guard.unit_bind_eq_ok,hrange,fetchExact_ok]
  simp [fetchNewBase,hname,hsource,fetchExact_ok]

def RootRange (repository : Repository) (h : CommitHistory) (defaultBranch : BranchSnapshot)
    (predecessor : Option PullRequestSnapshot) (c : PullRequestSnapshot) : Prop :=
  match predecessor with
  | some merged => repository.pullHeads merged.number = some c.base.oid
  | none => if c.base.name = defaultBranch.name then c.base.oid ∈ h.history defaultBranch.oid
      else repository.branches c.base.name = some c.base.oid

theorem mergedPredecessor_none {defaultBranch : String} {pullRequests : List PullRequestSnapshot}
    (hname : c.base.name = defaultBranch) : mergedPredecessor defaultBranch pullRequests c = none :=
  if_pos hname

theorem fetchObjects_root {defaultBranch : BranchSnapshot} {pullRequests : List PullRequestSnapshot}
    (hrecorded : defaultBranch.oid ∈ h.names) :
    fetchObjects repository h c (rangeSource defaultBranch pullRequests none c) (.remote defaultBranch)
        defaultBranch = .ok () ↔
      repository.branches c.head.name = some c.head.oid ∧
      repository.branches defaultBranch.name = some defaultBranch.oid ∧
      RootRange repository h defaultBranch (mergedPredecessor defaultBranch.name pullRequests c) c := by
  unfold fetchObjects
  rw [Guard.unit_bind_eq_ok,Guard.unit_bind_eq_ok,Guard.unit_bind_eq_ok,fetchExact_ok]
  refine and_congr Iff.rfl ?_
  have hself := CommitGraph.history_self hrecorded
  by_cases hname : c.base.name = defaultBranch.name
  · simp only [rangeSource,mergedPredecessor_none hname,rangeBaseForRemoteTarget,RootRange,hname,true_and,
      if_true]
    by_cases hsame : c.base.oid = defaultBranch.oid
    · simp [hsame,fetchNewBase,hname,fetchRange,fetchExact_ok,hself]
      exact fun _ => rfl
    · simp [hsame,Ne.symm hsame,fetchNewBase,hname,fetchRange,fetchExact_ok,
        retainHistoricalTargetBase_ok]
      tauto
  · cases hmerged : mergedPredecessor defaultBranch.name pullRequests c with
    | none =>
      simp [rangeSource,hmerged,rangeBaseForRemoteTarget,RootRange,hname,Ne.symm hname,fetchNewBase,
        fetchRange,fetchExact_ok]
      tauto
    | some merged =>
      simp [rangeSource,hmerged,RootRange,Ne.symm hname,fetchNewBase,fetchRange,fetchExact_ok,
        fetchExactPullRequestHead]
      tauto

end Fetch

end Sync
end Cara
