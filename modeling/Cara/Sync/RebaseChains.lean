import Cara.PhysicalReplay

/-! The rewrite of a whole chain: every member is planned on the planned head of the member before
it, and the admitted members are then pushed one after another. -/
namespace Cara
namespace Sync

open PhysicalRebase

/-- The one merged member whose branch is still the base of the chain's head. -/
def mergedPredecessor (defaultBranch : String) (pullRequests : List PullRequestSnapshot)
    (head : PullRequestSnapshot) : Option PullRequestSnapshot :=
  if head.base.name = defaultBranch then none
  else match pullRequests.filter fun candidate => decide (candidate.state = .merged) &&
      candidate.hasLabel "caravan" && decide (candidate.head.name = head.base.name) with
    | [predecessor] => some predecessor
    | _ => none

section Plan

variable (git : GitTools) (owner : RepositoryId) (defaultBranch : BranchSnapshot)
  (pullRequests : List PullRequestSnapshot) (flattenRoot : Bool) (repository : Repository)

/-- The root's boundary comes from the default branch or the merged member before it, a child's
from its parent as it is discovered. -/
def rangeSource (parent : Option PullRequestSnapshot) (candidate : PullRequestSnapshot) : PlannedRangeBase :=
  match parent with
  | none => match mergedPredecessor defaultBranch.name pullRequests candidate with
    | none => rangeBaseForRemoteTarget candidate defaultBranch
    | some merged => .pullRequestHead merged.number candidate.base
  | some parent => rangeBaseForRewrittenParent candidate parent.head

def rewriteReason : Option PullRequestSnapshot → BranchRewriteReason
  | none => .currentDefaultAdvanced
  | some parent => .parentAdvanced parent.number

def prepareMember (history : CommitHistory) (parent : Option PullRequestSnapshot) (target : PlannedBase)
    (candidate : PullRequestSnapshot) : Except RebaseError Rewrite :=
  prepareCandidate git repository history candidate
    (rangeSource defaultBranch pullRequests parent candidate) target defaultBranch owner
    (rewriteReason parent) (parent.isNone && flattenRoot)

/-- The planned head of a member is the base of the next. -/
def plannedTarget (candidate : PullRequestSnapshot) (rewrite : Rewrite) : PlannedBase :=
  .simulated ⟨owner,candidate.head.name,rewrite.plan.newHeadOid⟩

def prepareMembers : CommitHistory → Option PullRequestSnapshot → PlannedBase →
    List PullRequestSnapshot → Except RebaseError (List Rewrite)
  | _,_,_,[] => .ok []
  | history,parent,target,candidate::rest => do
      let prepared ← prepareMember git owner defaultBranch pullRequests flattenRoot repository history
        parent target candidate
      let members ← prepareMembers prepared.history (some candidate) (plannedTarget owner candidate prepared)
        rest
      return prepared::members

def preparePhysicalChain (members : List PullRequestSnapshot) : Except RebaseError (List Rewrite) :=
  prepareMembers git owner defaultBranch pullRequests flattenRoot repository repository.history none
    (.remote defaultBranch) members

end Plan

section Apply

abbrev Branches := String → Option CommitOid

/-- The branch of a rewritten member gets its planned head. -/
def pushed (branches : Branches) (rewrite : Rewrite) : Branches :=
  if rewrite.plan.alreadySatisfied then branches
  else Function.update branches rewrite.plan.branch (some rewrite.plan.newHeadOid)

/-- The branches after exactly the first members were pushed. -/
def pushedPrefix (branches : Branches) (members : List Rewrite) (k : ℕ) : Branches :=
  (members.take k).foldl pushed branches

/-- The answer of one exact push. A failed one may have moved the branch before its answer was
lost. -/
inductive PushAnswer where
  | receipt
  | failed (moved : Bool)

/-- The pushes of the admitted members in order, up to the first failure: the members with a
receipt, the failed one and the branches that stay behind. -/
def applyPreparedChain (answer : Rewrite → PushAnswer) :
    Branches → List Rewrite → List Rewrite × Option Rewrite × Branches
  | branches,[] => ([],none,branches)
  | branches,prepared::rest => match answer prepared with
    | .receipt =>
        let (receipts,failure,after) := applyPreparedChain answer (pushed branches prepared) rest
        (prepared::receipts,failure,after)
    | .failed moved => ([],some prepared,if moved then pushed branches prepared else branches)

/-- Wherever the pushes stop, the branches are those of a pushed prefix, which holds every member
with a receipt and at most one more. -/
theorem applyPreparedChain_prefix (answer : Rewrite → PushAnswer) (branches : Branches)
    (members : List Rewrite) : ∃ k ≤ members.length,
      (applyPreparedChain answer branches members).2.2 = pushedPrefix branches members k ∧
      ∃ receipts,receipts ≤ k ∧ k ≤ receipts + 1 ∧
        (applyPreparedChain answer branches members).1 = members.take receipts := by
  induction members generalizing branches with
  | nil => exact ⟨0,le_rfl,rfl,0,le_rfl,by omega,rfl⟩
  | cons prepared rest ih =>
    unfold applyPreparedChain
    cases answer prepared with
    | receipt =>
      obtain ⟨k,hk,hafter,receipts,hle,hge,hreceipts⟩ := ih (pushed branches prepared)
      refine ⟨k + 1,Nat.succ_le_succ hk,hafter,receipts + 1,by omega,by omega,?_⟩
      exact congrArg (prepared::·) hreceipts
    | failed moved => cases moved with
      | true => exact ⟨1,by simp,rfl,0,by omega,by omega,rfl⟩
      | false => exact ⟨0,by simp,rfl,0,by omega,by omega,rfl⟩

end Apply

end Sync
end Cara
