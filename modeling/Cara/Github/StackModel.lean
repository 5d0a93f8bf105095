import Cara.Model
import Cara.Lib.Text
import Cara.Lib.Prog
import Cara.Lib.Sealing

/-! Provider commands and records of GitHub's native Stack adapter: topologies and exact
generations, asynchronous merges, branch-lock rulesets and landing checkpoints. -/
namespace Cara
namespace Github

structure CommandOutput where
  code : Option ℤ
  stdout : String := ""
  stderr : String := ""
deriving DecidableEq

def CommandOutput.isSuccess (o : CommandOutput) : Bool := decide (o.code = some 0)

structure CommandRunError where
  diagnostic : String
deriving DecidableEq

abbrev Response := Except CommandRunError CommandOutput

inductive Command where
  | gitRef (repository : RepositoryId) (branch : String)
  | pullRequest (repository : RepositoryId) (number : PrNumber)
  | mergeCommit (repository : RepositoryId) (number : PrNumber)
  | compareCommits (repository : RepositoryId) (base head : CommitOid)
  | nativeStackList (repository : RepositoryId) (page : ℕ)
  | nativeStackRead (repository : RepositoryId) (number : ℕ)
  | nativeStackCreate (repository : RepositoryId) (pullRequests : List PrNumber)
  | nativeStackAdd (repository : RepositoryId) (number : ℕ) (pullRequests : List PrNumber)
  | nativeStackUnstack (repository : RepositoryId) (number : ℕ)
  | listRulesets (repository : RepositoryId)
  | readRuleset (repository : RepositoryId) (id : ℕ)
  | createRuleset (repository : RepositoryId) (name : String) (refs : List String)
  | deleteRuleset (repository : RepositoryId) (id : ℕ)
  | nativeStackMergeSubmit (repository : RepositoryId) (pr : PrNumber) (sha : CommitOid)
      (mergeMethod mergeAction : String)
  | nativeStackMergePoll (repository : RepositoryId) (pr : PrNumber) (uuid : String)
deriving DecidableEq, Repr

/-- Reads of provider state; the poll of a submitted merge is not one of them. -/
def Command.isRead : Command → Bool
  | .gitRef .. | .pullRequest .. | .mergeCommit .. | .compareCommits .. => true
  | .nativeStackList .. | .nativeStackRead .. | .listRulesets .. | .readRuleset .. => true
  | _ => false

inductive DiscoveryError where
  | runner (error : CommandRunError)
  | commandFailed (command : Command) (code : Option ℤ) (stderr : String)
  | invalidJson (command : Command) (message : String)
  | invalidRepositorySlug (slug : String)
  | missingHeadRepository (pr : PrNumber)
deriving DecidableEq

inductive MutationError where
  | provider (error : DiscoveryError)
deriving DecidableEq

inductive StackReadError where
  | unavailable (diagnostic : String)
  | runner (error : CommandRunError)
  | commandFailed (code : Option ℤ) (diagnostic : String)
  | invalidJson (message : String)
deriving DecidableEq

structure StackPullRequestHead where
  refName : String
  sha : CommitOid
deriving DecidableEq

structure StackPullRequest where
  number : PrNumber
  state : String
  draft : Bool
  mergedAt : Option String := none
  head : StackPullRequestHead
deriving DecidableEq

structure StackSnapshot where
  id : ℕ
  number : ℕ
  nodeId : String
  baseRef : String
  isOpen : Bool
  createdAt : String
  pullRequests : List StackPullRequest := []
deriving DecidableEq

structure StackInventory where
  snapshots : List StackSnapshot
  truncated : Bool
deriving DecidableEq

structure StackEntryGeneration where
  position : ℕ
  pr : PrNumber
  stackState : String
  pullRequestState : PullRequestState
  draft : Bool
  mergedAt : Option String := none
  base : BranchSnapshot
  head : BranchSnapshot
deriving DecidableEq

structure StackTopology where
  base : BranchSnapshot
  entries : List StackEntryGeneration
deriving DecidableEq

structure StackGeneration where
  id : ℕ
  number : ℕ
  nodeId : String
  isOpen : Bool
  createdAt : String
  topology : StackTopology
deriving DecidableEq

structure StackCreatePlan where
  operationId : String
  actor : String
  desired : StackTopology
deriving DecidableEq

structure StackAddPlan where
  operationId : String
  actor : String
  before : StackGeneration
  desired : StackTopology
deriving DecidableEq

structure StackUnstackPlan where
  operationId : String
  actor : String
  before : StackGeneration
  allowedStaleTailBase : Option PrNumber := none
  desiredAfter : Option StackTopology := none
deriving DecidableEq

inductive StackMutationOperation where
  | create
  | add
  | unstack
deriving DecidableEq

def StackMutationOperation.debug : StackMutationOperation → String
  | .create => "Create"
  | .add => "Add"
  | .unstack => "Unstack"

inductive StackMutationDisposition where
  | completed
  | recoveredAfterAmbiguousResponse
  | alreadySatisfied
deriving DecidableEq

structure StackRequestIdentity where
  method : String
  path : String
  orderedPullRequests : List PrNumber := []
  githubRequestId : Option String := none
deriving DecidableEq

structure StackMutationReceipt where
  schemaVersion : ℕ
  operationId : String
  operation : StackMutationOperation
  repository : RepositoryId
  actor : String
  disposition : StackMutationDisposition
  request : StackRequestIdentity
  before : Option StackGeneration := none
  after : Option StackGeneration := none
  providerOutput : Option String := none
  evidenceHash : String := ""
deriving DecidableEq

inductive StackMutationError where
  | invalidPlan (code message : String)
  | unavailable (diagnostic : String)
  | capabilityUnknown (diagnostic : String)
  | provider (error : MutationError)
  | inventoryTruncated
  | inconsistentProviderState (diagnostic : String)
  | staleGeneration (expected : StackTopology) (actual : Option StackGeneration)
      (changedFields : List String)
  | ambiguousResponse (operation : StackMutationOperation) (diagnostic : String)
      (rediscoveryDiagnostic : Option String) (observed : Option StackGeneration)
  | postconditionFailed (operation : StackMutationOperation) (expected : Option StackTopology)
      (actual : Option StackGeneration)
deriving DecidableEq

structure PullRequestFacts where
  number : PrNumber
  state : PullRequestState
  draft : Bool
  base : BranchSnapshot
  head : BranchSnapshot
  mergedAt : Option String
  crossRepository : Bool := false
  labels : List String := []
  autoMergeEnabled : Bool := false
deriving DecidableEq

structure PullRequestJson where
  number : PrNumber
  state : PullRequestState
  isDraft : Bool
  headRefName : String
  headRefOid : String
  headRepositoryNameWithOwner : Option String
  headRepositoryName : Option String
  headRepositoryOwner : Option String
  isCrossRepository : Bool
  baseRefName : String
  baseRefOid : String
  mergedAt : Option String
  labels : List String := []
  autoMergeRequested : Bool := false
deriving DecidableEq

structure StackAsyncMergePlan where
  operationId : String
  actor : String
  before : StackGeneration
  selected : List StackEntryGeneration
deriving DecidableEq

structure StackMergeRequestIdentity where
  method : String
  path : String
  selectedTop : PrNumber
  selectedTopSha : CommitOid
  orderedPullRequests : List PrNumber
  orderedHeads : List CommitOid
  githubRequestId : Option String := none
deriving DecidableEq

structure StackMergeCheckpoint where
  schemaVersion : ℕ
  repository : RepositoryId
  plan : StackAsyncMergePlan
  request : StackMergeRequestIdentity
  uuid : String
  initialProviderStatus : String
  evidenceHash : String := ""
deriving DecidableEq

inductive StackMergeStatus where
  | submitted
  | pending
  | enqueued
  | merged
  | failed
  | indeterminate
deriving DecidableEq

structure StackMergePullRequestObservation where
  pr : PrNumber
  state : PullRequestState
  draft : Bool
  base : BranchSnapshot
  head : BranchSnapshot
  mergedAt : Option String := none
  /-- Exact provider squash commit of a merged member. -/
  mergeCommit : Option CommitOid := none
deriving DecidableEq

inductive StackMergeCommitEvidence where
  | missing
  | completeUnordered
  | completeOrdered
deriving DecidableEq

structure StackMergeObservation where
  defaultBranch : BranchSnapshot
  selected : List StackMergePullRequestObservation
  remaining : List StackMergePullRequestObservation
  stackAfter : Option StackGeneration
  selectedMerged : ℕ
  selectedCommitEvidence : StackMergeCommitEvidence
  selectedHeadsExact : Bool
  changedSelectedHeads : List PrNumber
  remainingOrderExact : Bool
deriving DecidableEq

structure StackMergeReceipt where
  schemaVersion : ℕ
  repository : RepositoryId
  plan : StackAsyncMergePlan
  request : StackMergeRequestIdentity
  checkpoint : Option StackMergeCheckpoint := none
  status : StackMergeStatus
  providerStatus : Option String := none
  providerMessage : Option String := none
  providerSha : Option CommitOid := none
  observation : Option StackMergeObservation := none
  evidenceHash : String := ""
deriving DecidableEq

structure StackBranchLockPlan where
  operationId : String
  actor : String
  stackNumber : ℕ
  selected : List StackEntryGeneration
deriving DecidableEq

structure StackBranchLockGeneration where
  id : ℕ
  nodeId : String
  name : String
  repository : RepositoryId
  source : String
  sourceType : String
  target : String
  enforcement : String
  selectedPullRequests : List PrNumber
  selectedRefs : List String
  currentUserCanBypass : String
  createdAt : String
  updatedAt : String
deriving DecidableEq

inductive StackBranchLockOperation where
  | acquire
  | release
deriving DecidableEq

def StackBranchLockOperation.debug : StackBranchLockOperation → String
  | .acquire => "Acquire"
  | .release => "Release"

inductive StackBranchLockDisposition where
  | completed
  | recoveredAfterAmbiguousResponse
  | alreadySatisfied
deriving DecidableEq

structure StackBranchLockReceipt where
  schemaVersion : ℕ
  operationId : String
  actor : String
  repository : RepositoryId
  operation : StackBranchLockOperation
  disposition : StackBranchLockDisposition
  requestMethod : String
  requestPath : String
  githubRequestId : Option String := none
  lock : Option StackBranchLockGeneration := none
  evidenceHash : String := ""
deriving DecidableEq

inductive StackBranchLockError where
  | invalidPlan (code message : String)
  | provider (error : MutationError)
  | inventoryTruncated
  | nameCollision (name : String)
  | staleLock (expected : StackBranchLockGeneration) (actual : Option StackBranchLockGeneration)
  | ambiguousResponse (operation : StackBranchLockOperation) (diagnostic : String)
      (rediscoveryDiagnostic : Option String)
  | postconditionFailed (operation : StackBranchLockOperation)
deriving DecidableEq

structure RulesetSummary where
  id : ℕ
  name : String
deriving DecidableEq

structure RulesetResponse where
  id : ℕ
  nodeId : String
  name : String
  target : String
  sourceType : String
  source : String
  enforcement : String
  includeRefs : List String
  excludeRefs : List String
  ruleKinds : List String
  bypassActors : List String
  currentUserCanBypass : String
  createdAt : String
  updatedAt : String
deriving DecidableEq

structure StackLockedMergeCheckpoint where
  schemaVersion : ℕ
  repository : RepositoryId
  merge : StackMergeCheckpoint
  branchLock : StackBranchLockGeneration
  evidenceHash : String := ""
deriving DecidableEq

structure StackLockedMergeReceipt where
  schemaVersion : ℕ
  merge : StackMergeReceipt
  branchLock : StackBranchLockGeneration
  branchLockVerified : Bool
  checkpoint : Option StackLockedMergeCheckpoint := none
  evidenceHash : String := ""
deriving DecidableEq

inductive StackMergeError where
  | invalidPlan (code message : String)
  | staleGeneration (expected : StackGeneration) (actual : Option StackGeneration)
  | invalidCheckpoint (diagnostic : String)
  | stack (error : StackMutationError)
  | lock (error : StackBranchLockError)
  | provider (error : MutationError)
deriving DecidableEq

inductive StackLandPhase where
  | planned
  | locked
  | submitting
  | submitted
  | terminal
  | released
deriving DecidableEq

def StackLandPhase.rank : StackLandPhase → ℕ
  | .planned => 0
  | .locked => 1
  | .submitting => 2
  | .submitted => 3
  | .terminal => 4
  | .released => 5

structure StackLandCheckpoint where
  schemaVersion : ℕ
  repository : RepositoryId
  plan : StackAsyncMergePlan
  phase : StackLandPhase
  providerAtomic : Bool := false
  branchLock : Option StackBranchLockGeneration := none
  merge : Option StackLockedMergeCheckpoint := none
  terminalStatus : Option StackMergeStatus := none
  terminalReceipt : Option StackLockedMergeReceipt := none
  lockRelease : Option StackBranchLockReceipt := none
  convergenceObservations : ℕ := 0
  convergenceLastProblem : Option String := none
  evidenceHash : String := ""
deriving DecidableEq

inductive StackLandError where
  | invalidCheckpoint (diagnostic : String)
  | outOfOrder (expected : String) (actual : StackLandPhase)
  | lock (error : StackBranchLockError)
  | merge (error : StackMergeError)
deriving DecidableEq

structure AsyncMergeBody where
  field : String → Option String
  details : String → Option String

/-- The serialization library at this boundary: rendering of a command in diagnostics,
decoding of provider documents and the byte encoding of sealed records. -/
structure Wire where
  display : Command → String
  gitRef : String → Except String CommitOid
  pullRequest : String → Except String PullRequestJson
  mergeCommit : String → Except String (Option CommitOid)
  comparison : String → Except String String
  stack : String → Except String StackSnapshot
  stackList : String → Except String (List StackSnapshot)
  ruleset : String → Except String RulesetResponse
  rulesets : String → Except String (List RulesetSummary)
  asyncMerge : String → Except String AsyncMergeBody
  lockIdentity : RepositoryId × String × ℕ → List UInt8
  mutationReceipt : StackMutationReceipt → List UInt8
  mergeCheckpoint : StackMergeCheckpoint → List UInt8
  mergeReceipt : StackMergeReceipt → List UInt8
  lockReceipt : StackBranchLockReceipt → List UInt8
  lockedMergeCheckpoint : StackLockedMergeCheckpoint → List UInt8
  lockedMergeReceipt : StackLockedMergeReceipt → List UInt8
  landCheckpoint : StackLandCheckpoint → List UInt8

structure Documents where
  gitRefs : List (String × CommitOid) := []
  pullRequests : List (String × PullRequestJson) := []
  mergeCommits : List (String × Option CommitOid) := []
  comparisons : List (String × String) := []
  snapshots : List (String × StackSnapshot) := []
  stackLists : List (String × List StackSnapshot) := []
  rulesets : List (String × RulesetResponse) := []
  rulesetLists : List (String × List RulesetSummary) := []
  asyncMerges : List (String × AsyncMergeBody) := []

def lookupDocument {α : Type} (rows : List (String × α)) (text : String) : Except String α :=
  match rows.lookup text with
  | some value => .ok value
  | none => .error "expected value at line 1 column 1"

def asciiBytes (text : String) : List UInt8 := text.toList.map fun c => UInt8.ofNat c.toNat

/-- The wire that decodes these documents and no others. A sealed record is represented by
its operation identity, the lock identity by its exact JSON. -/
def Documents.wire (d : Documents) : Wire where
  display command := (repr command).pretty
  gitRef := lookupDocument d.gitRefs
  pullRequest := lookupDocument d.pullRequests
  mergeCommit := lookupDocument d.mergeCommits
  comparison := lookupDocument d.comparisons
  stack := lookupDocument d.snapshots
  stackList := lookupDocument d.stackLists
  ruleset := lookupDocument d.rulesets
  rulesets := lookupDocument d.rulesetLists
  asyncMerge := lookupDocument d.asyncMerges
  lockIdentity identity := asciiBytes ("[\x7b\"owner\":\"" ++ identity.1.owner ++ "\",\"name\":\"" ++
    identity.1.name ++ "\"\x7d,\"" ++ identity.2.1 ++ "\"," ++ toString identity.2.2 ++ "]")
  mutationReceipt r := asciiBytes r.operationId
  mergeCheckpoint c := asciiBytes c.plan.operationId
  mergeReceipt r := asciiBytes r.plan.operationId
  lockReceipt r := asciiBytes r.operationId
  lockedMergeCheckpoint c := asciiBytes c.merge.plan.operationId
  lockedMergeReceipt r := asciiBytes r.merge.plan.operationId
  landCheckpoint c := asciiBytes c.plan.operationId

end Github
end Cara
