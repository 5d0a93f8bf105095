import Mathlib.Data.Finset.Basic
import Mathlib.Data.String.Basic

/-! Domain model shared by discovery, graph, mutation and sync. These types carry
facts and receipts; policy lives in the consuming operations. A `BTreeMap` of the
source is an extensional ordered map, a `BTreeSet` of labels a finite set. -/
namespace Cara

-- The two instances a sorted list of texts is built with.
instance stringLeTrans : IsTrans String (· ≤ ·) := ⟨fun _ _ _ => le_trans⟩

instance stringLeAntisymm : Std.Antisymm (α := String) (· ≤ ·) := ⟨fun _ _ => le_antisymm⟩

abbrev PrNumber := ℕ

/-- Exact Git object identity, kept as the provider's full string. -/
abbrev CommitOid := String

structure RepositoryId where
  owner : String
  name : String
deriving DecidableEq, Repr

def RepositoryId.slug (r : RepositoryId) : String := r.owner ++ "/" ++ r.name

structure BranchSnapshot where
  repository : RepositoryId
  name : String
  oid : CommitOid
deriving DecidableEq

inductive PullRequestState where
  | open
  | closed
  | merged
deriving DecidableEq

inductive MergeMethod where
  | squash
deriving DecidableEq

structure AutoMergeState where
  enabled : Bool
  mergeMethod : Option MergeMethod := none
  actor : Option String := none
deriving DecidableEq

namespace AutoMergeState

/-- Mutation policy guards enabled and method; the actor is observability only. -/
instance : BEq AutoMergeState :=
  ⟨fun a b => decide (a.enabled = b.enabled ∧ a.mergeMethod = b.mergeMethod)⟩

def disabled : AutoMergeState := { enabled := false }

def squash : AutoMergeState := { enabled := true, mergeMethod := some .squash }

end AutoMergeState

inductive CheckState where
  | expected
  | queued
  | inProgress
  | success
  | failure
  | neutral
  | skipped
  | cancelled
  | timedOut
  | actionRequired
  | unknown
deriving DecidableEq

structure CheckSnapshot where
  name : String := ""
  state : CheckState := .unknown
  providerState : Option String := none
  detailsUrl : Option String := none
  providerKind : Option String := none
  workflowName : Option String := none
  appId : Option ℕ := none
  checkSuiteId : Option ℕ := none
  headOid : Option CommitOid := none
  startedAt : Option String := none
  completedAt : Option String := none
  superseded : Bool := false
deriving DecidableEq

inductive ErrorCategory where
  | configError
  | executionFailure
  | missingPermission
  | serializationError
  | targetNotFound
  | timeout
  | validation
deriving DecidableEq

structure AppError (δ : Type) where
  category : ErrorCategory
  code : String
  message : String
  details : Option δ := none
deriving DecidableEq

structure PullRequestSnapshot where
  number : PrNumber
  title : String := ""
  url : String := ""
  state : PullRequestState
  draft : Bool := false
  head : BranchSnapshot
  base : BranchSnapshot
  crossRepository : Bool := false
  labels : Finset String := ∅
  autoMerge : AutoMergeState
  checks : List CheckSnapshot := []
  createdAt : Option String := none
  mergedAt : Option String := none
  updatedAt : Option String := none
  mergeStateStatus : Option String := none
deriving DecidableEq

namespace PullRequestSnapshot

def hasLabel (p : PullRequestSnapshot) (label : String) : Bool := decide (label ∈ p.labels)

def isActiveCaravanMember (p : PullRequestSnapshot) : Bool :=
  decide (p.state = .open) && p.hasLabel "caravan" && !p.hasLabel "caravan-evicted"

/-- Landed work, including forges that report `CLOSED` together with `mergedAt`. -/
def isMerged (p : PullRequestSnapshot) : Bool :=
  decide (p.state = .merged) || p.mergedAt.isSome

end PullRequestSnapshot

/-- Generation metadata parsed from the bounded provider body fields. The source head is
the immutable agent generation before any physical rewrite of the provider branch. -/
structure CacophonyGenerationProvenance where
  generation : String
  agent : String
  sourceHead : CommitOid
  beadIds : Finset String := ∅
  stackBase : String
  stackState : String
deriving DecidableEq

structure PullRequestGenerationFact where
  pr : PrNumber
  providerHead : CommitOid
  createdAt : Option String := none
  provenance : Option CacophonyGenerationProvenance := none
  metadataError : Option String := none
  supersedes : Finset PrNumber := ∅
deriving DecidableEq

structure RepositorySnapshot where
  repository : RepositoryId
  defaultBranch : BranchSnapshot
  currentBranch : Option String := none
  currentPr : Option PrNumber := none
  pullRequests : List PullRequestSnapshot := []
  generationFacts : List PullRequestGenerationFact := []
  observedAt : Option String := none
deriving DecidableEq

structure Caravan where
  id : PrNumber
  members : List PrNumber
  parked : Bool := false
deriving DecidableEq

namespace Caravan

def new (members : List PrNumber) : Option Caravan :=
  members.head?.map fun id => ⟨id,members,false⟩

def head (c : Caravan) : Option PrNumber := c.members.head?

def tail (c : Caravan) : Option PrNumber := c.members.getLast?

def position (c : Caravan) (number : PrNumber) : Option ℕ :=
  c.members.findIdx? fun member => decide (member = number)

end Caravan

inductive HeadMergeActor where
  | caravan
  | github
deriving DecidableEq

namespace HeadMergeActor

/-- The backward-compatible default: an upgrade alone never changes the merge actor. -/
instance : Inhabited HeadMergeActor := ⟨.github⟩

def isGithub (a : HeadMergeActor) : Bool := decide (a = .github)

end HeadMergeActor

inductive GraphProblemKind where
  | missingHead
  | multipleHeads
  | branching
  | cycle
  | danglingBase
  | activeAndEvicted
  | duplicateMember
  | forkOnlyPredecessor
  | autoMergeInvariant
  | incompatible
  | candidateIncompatible
  | reusedBranchProvenance
  | supersededGeneration
  | dissolvedMember
  | ambiguousGeneration
  | invalidGenerationMetadata
  | unknown
deriving DecidableEq

namespace GraphProblemKind

/-- Whether the problem describes the fleet rather than one unadmitted pull request
or a dissolution that has already happened. -/
def blocksFleet : GraphProblemKind → Bool
  | candidateIncompatible | dissolvedMember => false
  | _ => true

def isHistorical : GraphProblemKind → Bool
  | dissolvedMember => true
  | _ => false

def isCandidateScoped (k : GraphProblemKind) : Bool := !k.blocksFleet && !k.isHistorical

end GraphProblemKind

structure GraphProblem where
  kind : GraphProblemKind
  prs : List PrNumber := []
  message : String
deriving DecidableEq

structure CaravanHistory where
  mergedMembersObserved : ℕ := 0
  earliestMergedAt : Option String := none
  latestMergedAt : Option String := none
  unlabelledMergedRows : ℕ := 0
deriving DecidableEq

structure CaravanFleet where
  repository : RepositoryId
  defaultBranch : BranchSnapshot
  caravans : List Caravan := []
  unqueued : List PrNumber := []
  problems : List GraphProblem := []
  history : CaravanHistory := {}
deriving DecidableEq

namespace CaravanFleet

def caravan (f : CaravanFleet) (id : PrNumber) : Option Caravan :=
  f.caravans.find? fun c => decide (c.id = id)

def containing (f : CaravanFleet) (number : PrNumber) : Option Caravan :=
  f.caravans.find? fun c => decide (number ∈ c.members)

end CaravanFleet

inductive CompatibilityOutcome where
  | clean
  | conflict
  | unknown
deriving DecidableEq

structure CompatibilityReport where
  candidate : BranchSnapshot
  target : BranchSnapshot
  outcome : CompatibilityOutcome
  diagnostic : Option String := none
deriving DecidableEq

/-- Cumulative-tree evidence for landing one candidate on one target: the merge result is
the validated head tree, and the target generation is contained by the candidate. -/
structure CumulativeTreeProof where
  candidate : BranchSnapshot
  target : BranchSnapshot
  candidateTree : CommitOid := ""
  mergeResultTree : CommitOid := ""
  identical : Bool
  targetReachableFromCandidate : Bool := false
deriving DecidableEq

def CumulativeTreeProof.reason (proof : CumulativeTreeProof) : String :=
  let merge := "merging " ++ proof.candidate.name ++ "@" ++ proof.candidate.oid ++ " into " ++
    proof.target.name ++ "@" ++ proof.target.oid
  if proof.identical then
    merge ++ " yields the exact already-validated head tree " ++ proof.candidateTree
  else merge ++ " yields tree " ++ proof.mergeResultTree ++
    " instead of the already-validated head tree " ++ proof.candidateTree

inductive MutationKind where
  | createPullRequest
  | setBase
  | addLabel
  | removeLabel
  | setLabels
  | forceIntentTransaction
  | comment
  | enableAutoMerge
  | disableAutoMerge
  | rebaseBranch
  | rerunChecks
  | requestCheckSuite
  | squashMerge
  | nativeStackLand
  | checkout
deriving DecidableEq

inductive MutationStepState where
  | completed
  | alreadySatisfied
deriving DecidableEq

structure MutationStep where
  kind : MutationKind
  state : MutationStepState
  pr : Option PrNumber := none
  summary : String
deriving DecidableEq

structure OperationReceipt where
  operationId : String
  operation : String
  completedSteps : List MutationStep := []
  changed : Bool := false
deriving DecidableEq

end Cara
