import Cara.Lib.AtomicRefs
import Cara.Lib.Guard
import Cara.Lib.Text
import Cara.Model

/-! Plans for the physical rewrite of member branches: the lower boundary of a member's own
commits, the base they move onto, and the exact lease under which the branch is replaced. -/
namespace Cara
namespace PhysicalRebase

abbrev RebaseError := AppError (List (String × String))

def decision (code message : String) (details : List (String × String)) : RebaseError where
  category := .validation
  code := code
  message := message
  details := some details

inductive BranchRewriteReason where
  | unspecified
  | currentDefaultAdvanced
  | parentAdvanced (parentPr : PrNumber)
  | joinedCaravan (parentPr : PrNumber)
  | parentEvicted (parentPr : PrNumber)
  | caravanReshaped
  | reviewedRepair (operationId : String)
deriving DecidableEq

inductive PlannedBase where
  | remote (branch : BranchSnapshot)
  | simulated (branch : BranchSnapshot)
deriving DecidableEq

namespace PlannedBase

def branch : PlannedBase → BranchSnapshot
  | remote branch | simulated branch => branch

def isSimulated : PlannedBase → Bool
  | remote _ => false
  | simulated _ => true

end PlannedBase

/-- Where the boundary of the candidate's own commits is read from. A historical boundary is
an older generation of the branch whose current one it names. -/
inductive PlannedRangeBase where
  | remoteBranch (branch : BranchSnapshot)
  | historicalTargetBranch (branch current : BranchSnapshot)
  | historicalParentBranch (branch current : BranchSnapshot)
  | historicalSourceBranch (branch current : BranchSnapshot)
  | pullRequestHead (pr : PrNumber) (branch : BranchSnapshot)
deriving DecidableEq

def PlannedRangeBase.branch : PlannedRangeBase → BranchSnapshot
  | remoteBranch branch | historicalTargetBranch branch _ | historicalParentBranch branch _
  | historicalSourceBranch branch _ | pullRequestHead _ branch => branch

section Ranges

variable (candidate : PullRequestSnapshot)

def rangeBaseForRemoteTarget (target : BranchSnapshot) : PlannedRangeBase :=
  if candidate.base.name = target.name ∧ candidate.base.oid ≠ target.oid then
    .historicalTargetBranch candidate.base target
  else .remoteBranch candidate.base

/-- The provider's base revision may lag the parent head that this batch rewrites. -/
def rangeBaseForRewrittenParent (currentParent : BranchSnapshot) : PlannedRangeBase :=
  if candidate.base.name = currentParent.name ∧ candidate.base.oid ≠ currentParent.oid then
    .historicalParentBranch candidate.base currentParent
  else .remoteBranch candidate.base

end Ranges

section Preconditions

variable (repository : RepositoryId)

/-- The current parent is the target itself or the branch that this batch rewrites to it. -/
def historicalParentLeaseMatches (current target : BranchSnapshot) (newBase : PlannedBase) : Bool :=
  decide (current.repository = repository) && decide (target.repository = repository) &&
    (decide (current = target) || (decide (current.name = target.name) && newBase.isSimulated))

def validateBranch (branch : String) : Except RebaseError Unit :=
  Guard.refuse (decide (branch = "") || Text.startsWith branch "-" ||
      branch.toList.any fun c => decide (c = '\n' ∨ c = '\r' ∨ c.toNat = 0))
    (decision "rebase_branch_invalid" "candidate head branch is not safe to pass to Git"
      [("branch",branch)])

def isAsciiHexDigit (c : Char) : Bool :=
  c.isDigit || decide ('a' ≤ c ∧ c ≤ 'f') || decide ('A' ≤ c ∧ c ≤ 'F')

def validateOid (oid : CommitOid) : Except RebaseError Unit :=
  Guard.refuse (!(decide (oid.utf8ByteSize = 40 ∨ oid.utf8ByteSize = 64) && oid.toList.all isAsciiHexDigit))
    (decision "rebase_oid_invalid" "provider returned an invalid full object ID" [("oid",oid)])

/-- A historical boundary is bound to the current generation that it was read beside. -/
def historicalBinding (candidate : PullRequestSnapshot) (rangeSource : PlannedRangeBase)
    (newBase : PlannedBase) (workflowSource : BranchSnapshot) : Except RebaseError Unit :=
  match rangeSource with
  | .historicalTargetBranch _ current =>
      Guard.refuse (decide (current ≠ newBase.branch ∨ current.repository ≠ repository))
        (decision "rebase_historical_target_mismatch"
          "historical target range must bind the exact current remote target generation"
          [("pr",toString candidate.number),("historical_target",current.oid),
            ("target",newBase.branch.oid),("resumable","true")])
  | .historicalParentBranch branch current =>
      Guard.refuse (!historicalParentLeaseMatches repository current newBase.branch newBase)
        (decision "rebase_historical_parent_mismatch" ("historical child range must bind the exact " ++
            "current parent branch selected for same-batch rewrite")
          [("pr",toString candidate.number),("range_boundary",branch.oid),
            ("historical_parent",current.oid),("target",newBase.branch.oid),("resumable","true")])
  | .historicalSourceBranch _ current =>
      Guard.refuse (decide (current ≠ workflowSource ∨ current.repository ≠ repository))
        (decision "rebase_historical_source_mismatch"
          "historical source range must bind the exact current configured-default generation"
          [("pr",toString candidate.number),("historical_source",current.oid),
            ("workflow_source",workflowSource.oid),("resumable","true")])
  | .remoteBranch _ | .pullRequestHead .. => .ok ()

/-- What is checked of a candidate before any object is read. -/
def preconditions (candidate : PullRequestSnapshot) (rangeSource : PlannedRangeBase)
    (newBase : PlannedBase) (workflowSource : BranchSnapshot) : Except RebaseError Unit := do
  Guard.refuse (decide (candidate.crossRepository = true ∨ candidate.head.repository ≠ repository ∨
      candidate.base.repository ≠ repository ∨ rangeSource.branch.repository ≠ repository ∨
      rangeSource.branch.oid ≠ candidate.base.oid ∨ newBase.branch.repository ≠ repository ∨
      workflowSource.repository ≠ repository))
    (decision "rebase_repository_not_owned" ("cumulative rebase requires candidate, old base, and " ++
        "new base branches in the owned base repository")
      [("pr",toString candidate.number),("resumable","true")])
  historicalBinding repository candidate rangeSource newBase workflowSource
  validateBranch candidate.head.name
  validateOid candidate.head.oid
  validateOid candidate.base.oid
  validateOid newBase.branch.oid
  validateOid workflowSource.oid

end Preconditions

structure Lease where
  branch : String
  expected : CommitOid
deriving DecidableEq

structure PreparedFacts where
  rangeBase : CommitOid
  newHead : CommitOid
  newTree : CommitOid
  commitCount : ℕ
  ciTriggerWorkflows : List String := []
deriving DecidableEq

structure RebasePlan where
  pr : PrNumber
  branch : String
  oldHeadOid : CommitOid
  oldBaseOid : CommitOid
  rangeSource : PlannedRangeBase
  newBase : PlannedBase
  newHeadOid : CommitOid
  newTreeOid : CommitOid
  commitCount : ℕ
  ciTriggerWorkflows : List String
  lease : Lease
  alreadySatisfied : Bool
  rewriteReason : BranchRewriteReason
deriving DecidableEq

def planOf (candidate : PullRequestSnapshot) (rangeSource : PlannedRangeBase) (newBase : PlannedBase)
    (reason : BranchRewriteReason) (facts : PreparedFacts) : RebasePlan where
  pr := candidate.number
  branch := candidate.head.name
  oldHeadOid := candidate.head.oid
  oldBaseOid := facts.rangeBase
  rangeSource := rangeSource
  newBase := newBase
  newHeadOid := facts.newHead
  newTreeOid := facts.newTree
  commitCount := facts.commitCount
  ciTriggerWorkflows := facts.ciTriggerWorkflows
  lease := ⟨candidate.head.name,candidate.head.oid⟩
  alreadySatisfied := decide (facts.newHead = candidate.head.oid)
  rewriteReason := reason

structure PreparedRebase where
  plan : RebasePlan
  repositoryPath : String
deriving DecidableEq

structure RebaseReceipt where
  pr : PrNumber
  branch : String
  oldHeadOid : CommitOid
  newHeadOid : CommitOid
  oldBaseOid : CommitOid
  newBaseBranch : String
  newBaseOid : CommitOid
  newTreeOid : CommitOid
  commitCount : ℕ
  ciTriggerWorkflows : List String
  lease : Lease
  alreadySatisfied : Bool
  rewriteReason : BranchRewriteReason
deriving DecidableEq

def receiptFromPlan (plan : RebasePlan) : RebaseReceipt where
  pr := plan.pr
  branch := plan.branch
  oldHeadOid := plan.oldHeadOid
  newHeadOid := plan.newHeadOid
  oldBaseOid := plan.oldBaseOid
  newBaseBranch := plan.newBase.branch.name
  newBaseOid := plan.newBase.branch.oid
  newTreeOid := plan.newTreeOid
  commitCount := plan.commitCount
  ciTriggerWorkflows := plan.ciTriggerWorkflows
  lease := plan.lease
  alreadySatisfied := plan.alreadySatisfied
  rewriteReason := plan.rewriteReason

def plannedBranch (prepared : PreparedRebase) (oid : CommitOid) : BranchSnapshot :=
  ⟨prepared.plan.newBase.branch.repository,prepared.plan.branch,oid⟩

def oldHead (prepared : PreparedRebase) : BranchSnapshot := plannedBranch prepared prepared.plan.oldHeadOid

def newHead (prepared : PreparedRebase) : BranchSnapshot := plannedBranch prepared prepared.plan.newHeadOid

structure AtomicRebaseReceipt where
  atomic : Bool
  receipts : List RebaseReceipt
  oldHeads : List BranchSnapshot
  newHeads : List BranchSnapshot
  recoveredAmbiguousSuccess : Bool
deriving DecidableEq

structure AtomicRollbackReceipt where
  atomic : Bool
  restoredHeads : List BranchSnapshot
  replacedHeads : List BranchSnapshot
deriving DecidableEq

inductive AtomicRemoteState where
  | allOld
  | allNew
  | mixed
deriving DecidableEq

abbrev HeadMove := AtomicRefs.Move String CommitOid

/-- The move of one prepared branch under its own lease. -/
def headMove (prepared : PreparedRebase) : HeadMove :=
  ⟨prepared.plan.branch,prepared.plan.lease.expected,prepared.plan.newHeadOid⟩

def rollbackMove (prepared : PreparedRebase) : HeadMove :=
  ⟨prepared.plan.branch,prepared.plan.newHeadOid,prepared.plan.oldHeadOid⟩

def changed (prepared : List PreparedRebase) : List PreparedRebase :=
  prepared.filter fun item => !item.plan.alreadySatisfied

end PhysicalRebase
end Cara
