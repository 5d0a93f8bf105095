import Cara.Sync.Provider
import Cara.Sync.StackPolicy

/-! Progress of one sync tick: the provider facts it last saw, the steps it took and the
evidence it gathered, with the provider calls that every policy shares. -/
namespace Cara
namespace Sync

open Github (StackLandCheckpoint StackMergeBlocker)
open RequiredRuns (RequiredContextsRead HeadRunLineage RequiredRunsAssessment RequiredRunsInput
  RequiredRunsStatus)

/-- Check-only drift leaves the identity that authorizes a mutation unchanged. -/
def mutationIdentityEq (a b : PullRequestPrecondition) : Bool :=
  decide (a.number = b.number ∧ a.state = b.state ∧ a.mergedAt = b.mergedAt ∧
    a.headOid = b.headOid ∧ a.baseRef = b.baseRef ∧ a.baseOid = b.baseOid ∧ a.labels = b.labels) &&
  a.autoMerge == b.autoMerge

def changedPreconditionFields (expected actual : PullRequestPrecondition) : List String :=
  (if expected.number = actual.number then [] else ["number"]) ++
  (if expected.state = actual.state then [] else ["state"]) ++
  (if expected.mergedAt = actual.mergedAt then [] else ["merged_at"]) ++
  (if expected.headOid = actual.headOid then [] else ["head_oid"]) ++
  (if expected.baseRef = actual.baseRef then [] else ["base_ref"]) ++
  (if expected.baseOid = actual.baseOid then [] else ["base_oid"]) ++
  (if expected.labels = actual.labels then [] else ["labels"]) ++
  (if expected.autoMerge == actual.autoMerge then [] else ["auto_merge"])

theorem changedPreconditionFields_self (e : PullRequestPrecondition) :
    changedPreconditionFields e e = [] := by
  have hauto : (e.autoMerge == e.autoMerge) = true := by
    simp [BEq.beq]
  simp [changedPreconditionFields,hauto]

/-- Without a changed field the head and the labels are the expected ones. -/
theorem eq_of_changedPreconditionFields {expected actual : PullRequestPrecondition}
    (h : (!(changedPreconditionFields expected actual).isEmpty) = false) :
    expected.number = actual.number ∧ expected.headOid = actual.headOid ∧ expected.labels = actual.labels := by
  simp only [changedPreconditionFields,Bool.not_eq_false',List.isEmpty_iff,List.append_eq_nil_iff,
    ite_eq_left_iff,List.cons_ne_nil,imp_false,not_not] at h
  obtain ⟨⟨⟨⟨⟨⟨⟨hnumber,_⟩,_⟩,hhead⟩,_⟩,_⟩,hlabels⟩,_⟩ := h
  exact ⟨hnumber,hhead,hlabels⟩

inductive RootMergeBlock where
  | checksNotPassing
  | requiredRunsNotSatisfied
  | notOpen
  | notConflictFreeWithDefault
  | alreadyMerged
  | cumulativeTreeUnproven
  | cumulativeTreeChanged
  | mergeBudgetReached
deriving DecidableEq

def RootMergeBlock.reason : RootMergeBlock → String
  | .checksNotPassing => "exact current root head has no complete successful check set yet"
  | .requiredRunsNotSatisfied =>
      "required contexts for the root's exact current base are not satisfied yet"
  | .notOpen => "caravan root is not an open, non-draft pull request"
  | .notConflictFreeWithDefault =>
      "exact root head is not proven conflict-free with the exact default branch"
  | .alreadyMerged => "caravan root is already merged; the next tick advances the root"
  | .cumulativeTreeUnproven => "no exact cumulative-tree proof for this root generation; " ++
      "the squash is not shown to land the already-validated tree"
  | .cumulativeTreeChanged => "the default branch gained content this generation never " ++
      "validated; the caravan must revalidate before landing"
  | .mergeBudgetReached => "bounded caravan-owned merges per tick reached; the next tick " ++
      "continues from fresh provider facts"

inductive CiDisposition where
  | passing
  | waiting
  | failed
  | forced
deriving DecidableEq

structure CiObservation where
  pr : PrNumber
  disposition : CiDisposition
  checks : List CheckSnapshot := []
  generationLineage : Option HeadRunLineage := none
deriving DecidableEq

structure RequiredRunsReceipt where
  pr : PrNumber
  caravanId : PrNumber
  assessment : RequiredRunsAssessment
deriving DecidableEq

structure NativeStackWait where
  stackNumber : ℕ
  caravanId : PrNumber
  blockingPr : PrNumber
  blockers : List StackMergeBlocker
  deferredMembers : List PrNumber
deriving DecidableEq

structure HeadAdvancement where
  mergedPredecessor : PrNumber
  newHead : PrNumber
deriving DecidableEq

structure RootMergeReceipt where
  pr : PrNumber
  caravanId : PrNumber
  defaultBefore : BranchSnapshot
  defaultAfter : BranchSnapshot
  mergeCommit : Option CommitOid
  cumulativeTree : CumulativeTreeProof
  remainingMembers : List PrNumber
  confirmationReads : ℕ
deriving DecidableEq

structure SyncProgress where
  operationId : String
  repository : RepositoryId
  defaultBranch : String
  steps : List MutationStep := []
  providerReceipts : List GitHubMutationReceipt := []
  rootMerge : List RootMergeReceipt := []
  rootAutoMerge : List (PrNumber × CommitOid) := []
  nativeStackLand : List StackLandCheckpoint := []
  nativeStackWaits : List NativeStackWait := []
  headMergeActor : HeadMergeActor
  externalAutoMergePolicy : ExternalAutoMergePolicy
  maxRootMerges : ℕ
  nativeStack : Option Config.CaravanConfig := none
  requiredRuns : List RequiredRunsReceipt := []
  requiredContexts : List (String × RequiredContextsRead) := []
  requiredRunsGraceSecs : ℕ
  requiredRunsRetriggerEnabled : Bool := true
  headAdvancements : List HeadAdvancement := []
  ci : List CiObservation := []
  current : PullRequestMap
  mergeCandidates : List MergeCandidateIdentity := []
  mutationLimit : ℕ

abbrev SyncM (α : Type) := Prog.Stateful SyncRequest SyncAnswer SyncError SyncProgress α

def defaultMissingRequiredRunsGraceSecs : ℕ := 300

def SyncProgress.new (status : StatusOutput) (operationId : String) (mutationLimit : ℕ) :
    SyncProgress where
  operationId := operationId
  repository := status.repository
  defaultBranch := status.defaultBranch
  headMergeActor := status.headMergeActor
  externalAutoMergePolicy := status.externalAutoMergePolicy
  maxRootMerges := max status.maxRootMergesPerTick 1
  requiredRunsGraceSecs := defaultMissingRequiredRunsGraceSecs
  current := status.analysis.pullRequests
  mergeCandidates := status.mergeCandidates
  mutationLimit := mutationLimit

namespace SyncProgress

/-- The candidate discovered last for a number is the one kept. -/
def mergeCandidate (p : SyncProgress) (pr : PrNumber) : Option MergeCandidateIdentity :=
  p.mergeCandidates.reverse.find? fun candidate => decide (candidate.pr = pr)

def push (p : SyncProgress) (step : MutationStep) : SyncProgress := { p with steps := p.steps ++ [step] }

def see (p : SyncProgress) (number : PrNumber) (snapshot : PullRequestSnapshot) : SyncProgress :=
  { p with current := p.current.insert number snapshot }

def already (p : SyncProgress) (kind : MutationKind) (number : PrNumber) (summary : String) :
    SyncProgress :=
  p.push { kind := kind,state := .alreadySatisfied,pr := some number,summary := summary }

def record (p : SyncProgress) (receipt : GitHubMutationReceipt) (summary : String) : SyncProgress :=
  { (p.see receipt.after.number receipt.after).push {
      kind := receipt.kind
      state := .completed
      pr := some receipt.after.number
      summary := summary } with
    providerReceipts := p.providerReceipts ++ [receipt] }

def completedMutationCount (p : SyncProgress) : ℕ :=
  (p.steps.filter fun step => decide (step.state = .completed)).length

def pushRequiredRuns (p : SyncProgress) (caravanId : PrNumber) (assessment : RequiredRunsAssessment) :
    SyncProgress :=
  { p with requiredRuns := (p.requiredRuns.filter fun r => decide (r.pr ≠ assessment.pr)) ++
      [⟨assessment.pr,caravanId,assessment⟩] }

/-- The latest coverage receipt is green, complete and bound to the current generation. -/
def nativeMemberRequiredReady (p : SyncProgress) (pr : PrNumber) : Bool :=
  (p.requiredRuns.reverse.find? fun receipt => decide (receipt.pr = pr)).any fun receipt =>
    ((p.current[pr]?).any fun current => decide (current.head = receipt.assessment.head ∧
      current.base = receipt.assessment.base)) &&
    (receipt.assessment.requiredPolicy.any fun policy =>
      policy.complete && decide (policy.branch = p.defaultBranch)) &&
    decide (receipt.assessment.status = .satisfied ∨ receipt.assessment.status = .notRequired)

end SyncProgress

section Calls

/-- Facts of a member; sync never asks for one it does not have. -/
def currentOf (number : PrNumber) : SyncM PullRequestSnapshot := do
  match (← get).current[number]? with
  | some snapshot => return snapshot
  | none => StateT.lift Prog.crashed

def preconditionOf (number : PrNumber) : SyncM PullRequestPrecondition := do
  return .ofSnapshot (← currentOf number)

def ensureMutationCapacity (reserve : ℕ) : SyncM Unit := do
  let p ← get
  if p.completedMutationCount + reserve ≤ p.mutationLimit then return ()
  else throw {
    category := .executionFailure
    code := "sync_mutation_budget_exhausted"
    message := "the sync mutation budget is exhausted (" ++ toString p.completedMutationCount ++ "/" ++
      toString p.mutationLimit ++ " used; " ++ toString reserve ++ " required)" }

def ask {α : Type} (request : SyncRequest) (affectedPr : Option PrNumber)
    (value : SyncAnswer → Option α) : SyncM α :=
  StateT.lift (call request (mutationError · affectedPr) value)

def SyncAnswer.pullRequest? : SyncAnswer → Option PullRequestSnapshot
  | .pullRequest snapshot => some snapshot
  | _ => none

def SyncAnswer.receipt? : SyncAnswer → Option GitHubMutationReceipt
  | .receipt value => some value
  | _ => none

def SyncAnswer.oid? : SyncAnswer → Option CommitOid
  | .oid value => some value
  | _ => none

def SyncAnswer.relation? : SyncAnswer → Option Generation.CommitRelation
  | .relation value => some value
  | _ => none

def SyncAnswer.contexts? : SyncAnswer → Option RequiredContextsRead
  | .contexts value => some value
  | _ => none

def SyncAnswer.lineage? : SyncAnswer → Option HeadRunLineage
  | .lineage value => some value
  | _ => none

def SyncAnswer.clock? : SyncAnswer → Option ℕ
  | .clock value => some value
  | _ => none

def SyncAnswer.checkpoint? : SyncAnswer → Option StackLandCheckpoint
  | .checkpoint value => some value
  | _ => none

def SyncAnswer.done? : SyncAnswer → Option Unit
  | .done => some ()
  | _ => none

variable (repository : RepositoryId)

def refetchPullRequest (number : PrNumber) : SyncM PullRequestSnapshot :=
  ask (.refetchPullRequest repository number) (some number) SyncAnswer.pullRequest?

/-- A fresh read that accepts check-only drift and refuses every other change. -/
def refetchCiSnapshot (number : PrNumber) : SyncM PullRequestSnapshot := do
  let expected ← preconditionOf number
  let observed ← refetchPullRequest repository number
  let actual := PullRequestPrecondition.ofSnapshot observed
  if mutationIdentityEq actual expected then
    modify (·.see number observed)
    return observed
  else throw (mutationError (.stalePrecondition expected actual ["ci_refetch_mutation_identity"])
    (some number))

def branchRequiredContexts (branch : String) (affectedPr : Option PrNumber) :
    SyncM RequiredContextsRead := do
  let read ← ask (.branchRequiredContexts repository branch) affectedPr SyncAnswer.contexts?
  return read.normalized

/-- The later of the commit date and the provider's update time of the head. -/
def headPublishedAt (current : PullRequestSnapshot) (lineage : Option HeadRunLineage) :
    Option String :=
  match lineage.bind (·.headCommittedAt),current.updatedAt with
  | some committed,some updated =>
      match RequiredRuns.rfc3339ToUnixSecs committed,RequiredRuns.rfc3339ToUnixSecs updated with
      | some left,some right => some (if left < right then updated else committed)
      | some _,none => some committed
      | none,some _ => some updated
      | none,none => none
  | some committed,none => some committed
  | none,updated => updated

def assessWithLineage (current : PullRequestSnapshot) (contexts : RequiredContextsRead)
    (lineage : Option HeadRunLineage) : SyncM RequiredRunsAssessment := do
  let nowUnix ← ask .nowUnix none SyncAnswer.clock?
  return RequiredRuns.assess {
    pr := current.number
    head := current.head
    base := current.base
    contexts := contexts
    lineage := lineage
    checks := current.checks
    headPublishedAt := headPublishedAt current lineage
    clock := ⟨nowUnix,(← get).requiredRunsGraceSecs⟩ }

/-- Some required context has no reporting row on the exact head. -/
def contextAbsent (current : PullRequestSnapshot) (contexts : RequiredContextsRead) : Bool :=
  contexts.normalized.checks.any fun required =>
    !(latestChecksPerIdentity current.checks).1.any fun check =>
      required.matchesRow check current.head.oid && decide (check.state ≠ .expected)

/-- Assess one member, reading head lineage only when it can change the answer. -/
def assessRequiredRuns (current : PullRequestSnapshot) (contexts : RequiredContextsRead) :
    SyncM RequiredRunsAssessment := do
  let observed := ((← get).ci.reverse.find? fun item => decide (item.pr = current.number)).bind
    (·.generationLineage)
  if contextAbsent current contexts ∧ contexts.complete ∧ contexts.contexts ≠ [] then
    match observed with
    | some lineage => assessWithLineage current contexts (some lineage)
    | none => do
        let lineage ← ask (.headRunLineage repository (.ofSnapshot current)) (some current.number)
          SyncAnswer.lineage?
        assessWithLineage current contexts (some lineage)
  else assessWithLineage current contexts observed

def isGreen (status : RequiredRunsStatus) : Bool :=
  decide (status = .satisfied ∨ status = .notRequired)

def recordMergeWait (number : PrNumber) (block : RootMergeBlock) (detail : Option String) :
    SyncM Unit :=
  modify (·.already .squashMerge number
    (detail.elim block.reason fun detail => block.reason ++ ": " ++ detail))

/-- The provider reports that the marked comment was there before. -/
def commentExisted (receipt : GitHubMutationReceipt) : Bool :=
  receipt.providerOutput.any fun output => Text.startsWith output "existing GitHub comment"

def ensureOperationComment (number : PrNumber) (operation marker body : String) : SyncM Unit := do
  ensureMutationCapacity 1
  let expected ← preconditionOf number
  let receipt ← StateT.lift (call (.ensureMarkedComment repository expected marker body)
    (fun error => {
      category := .executionFailure
      code := "github_operation_comment_failed"
      message := operation ++ " audit comment failed before the irreversible transition: " ++
        error.display }) SyncAnswer.receipt?)
  if commentExisted receipt then modify fun p =>
    (p.already .comment number (operation ++ " audit comment already present")).see number receipt.after
  else modify (·.record receipt ("posted durable " ++ operation ++ " audit comment"))

end Calls

end Sync
end Cara
