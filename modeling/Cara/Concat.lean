import Cara.Journal
import Cara.Lib.Fnv
import Cara.PhysicalRebase
import Cara.Sync.Progress

/-! Concatenation of two live caravans: a reviewed plan, one atomic rewrite of every source
branch, one base edit that commits the membership, and the rollback of both systems. -/
namespace Cara
namespace Concat

open PhysicalRebase (PlannedBase PlannedRangeBase PreparedFacts PreparedRebase RebasePlan
  RebaseError AtomicRebaseReceipt AtomicRollbackReceipt AtomicRemoteState HeadMove Lease)
open Sync (MutationError GitHubMutationReceipt)
open Journal (CaravanEvent HookDelivery LogInput LogOutput)

structure ConcatInput where
  sourceHeadPr : PrNumber
  targetTailPr : PrNumber
  actor : String
  reason : String
deriving DecidableEq

structure ConcatMemberPlan where
  pr : PrNumber
  branch : String
  oldHeadOid : CommitOid
  oldBase : BranchSnapshot
  targetPr : PrNumber
  targetBranch : String
  targetHeadOid : CommitOid
  requiresRewrite : Bool
deriving DecidableEq

structure ConcatPlan where
  schemaVersion : ℕ
  repository : RepositoryId
  sourceCaravan : PrNumber
  targetCaravan : PrNumber
  sourceMembers : List PrNumber
  targetMembers : List PrNumber
  oldOrdering : List (List PrNumber)
  newOrdering : List PrNumber
  members : List ConcatMemberPlan
  actor : String
  reason : String
  planHash : String
  rollbackHeads : List BranchSnapshot
deriving DecidableEq

structure ConcatExecuteInput where
  intent : ConcatInput
  expectedPlanHash : String
deriving DecidableEq

structure LiveStatus extends StatusOutput

inductive ConcatDetails where
  | fields (entries : List (String × String))
  | problems (problems : List GraphProblem)
  | parked (source target : Caravan)
  | cycle (caravan : PrNumber) (members : List PrNumber)
  | held (caravan : PrNumber) (pause : Pause.PauseStatus)
  | incompatible (compatibility : CompatibilityReport) (mutated : Bool)
  | missing (source missingPr : PrNumber)
  | fork (pr : PrNumber)
  | stale (expectedPlanHash : String) (actualPlan : ConcatPlan) (mutated : Bool)
  | atomic (oldHeads newHeads : List BranchSnapshot) (source : Option ConcatDetails)
      (safeNextAction : Option String)
  | provider (plan : ConcatPlan) (mutated : Bool)
  | topology (fleet : CaravanFleet)
  | rolledBack (plan : ConcatPlan) (rollback : AtomicRollbackReceipt) (source : Option ConcatDetails)
      (mutated resumable : Bool)
  | rollbackFailed (plan : ConcatPlan) (source rollback : Option ConcatDetails) (mutated : Bool)
      (safeNextAction : String)
  | baseStuck (plan : ConcatPlan) (membership : GitHubMutationReceipt) (source : Option ConcatDetails)
      (rollbackError : String) (mutated : Bool) (safeNextAction : String)
  | restored (plan : ConcatPlan) (membership membershipRollback : GitHubMutationReceipt)
      (physicalRollback : AtomicRollbackReceipt) (source : Option ConcatDetails) (mutated resumable : Bool)
  | headsStuck (plan : ConcatPlan) (membership membershipRollback : GitHubMutationReceipt)
      (source rollback : Option ConcatDetails) (mutated : Bool) (safeNextAction : String)
  | event (event : String) (rollback : String)

abbrev ConcatError := AppError ConcatDetails

/-- What the details say of writes; most errors say nothing. -/
def ConcatDetails.mutated : ConcatDetails → Option Bool
  | .fields entries => (entries.lookup "mutated").map fun value => decide (value = "true")
  | .incompatible _ mutated | .stale _ _ mutated | .provider _ mutated | .rolledBack _ _ _ mutated _
  | .rollbackFailed _ _ _ mutated _ | .baseStuck _ _ _ _ mutated _ | .restored _ _ _ _ _ mutated _
  | .headsStuck _ _ _ _ _ mutated _ => some mutated
  | _ => none

def mutated (error : ConcatError) : Option Bool := error.details.bind ConcatDetails.mutated

def validation (code message : String) : ConcatError :=
  { category := .validation,code := code,message := message }

def structured (category : ErrorCategory) (code message : String) (details : ConcatDetails) : ConcatError :=
  ⟨category,code,message,some details⟩

def ofFields (error : RebaseError) : ConcatError :=
  ⟨error.category,error.code,error.message,error.details.map .fields⟩

def display (error : ConcatError) : String := error.code ++ ": " ++ error.message

structure ConcatEvidence where
  fleet : Option CaravanFleet := none
  reason : Option String := none
  plan : Option (Except String ConcatPlan) := none
  physical : Option (Except String AtomicRebaseReceipt) := none
  membership : Option (Except String GitHubMutationReceipt) := none
  receipt : Option (Except String OperationReceipt) := none
  resultingOrdering : Option (Except String (List PrNumber)) := none

abbrev ConcatEvent := CaravanEvent ConcatEvidence

structure ConcatOutput where
  idempotent : Bool
  plan : ConcatPlan
  physical : AtomicRebaseReceipt
  membership : GitHubMutationReceipt
  resultingOrdering : List PrNumber
  receipt : OperationReceipt
  events : List ConcatEvent := []
  hookDeliveries : List HookDelivery := []

structure HookFailure where
  category : ErrorCategory
  code : String
  message : String
  event : String
  rollback : String
deriving DecidableEq

inductive Request where
  | journal (input : LogInput)
  | acquireWriter (operation : String)
  | status
  | fetchBranches (branches : List BranchSnapshot)
  | compatibility (candidate target : BranchSnapshot)
  | prepareCandidate (candidate : PullRequestSnapshot) (rangeSource : PlannedRangeBase)
      (newBase : PlannedBase) (workflowSource : BranchSnapshot)
  | retainedHead (prepared : PreparedRebase)
  | remoteHead (branch : String)
  | retainRange (rangeSource : PlannedRangeBase)
  | pushDryRun (lease : Lease)
  | push (moves : List HeadMove)
  | refetch (repository : RepositoryId) (number : PrNumber)
  | editBase (repository : RepositoryId) (number : PrNumber) (base : String)
  | newOperation
  | newEvent
  | dispatch (event : ConcatEvent)

inductive Answer where
  | done (result : Except ConcatError Unit)
  | log (result : Except ConcatError (LogOutput ConcatEvidence))
  | status (result : Except ConcatError LiveStatus)
  | report (result : Except ConcatError CompatibilityReport)
  | prepared (result : Except ConcatError PreparedFacts)
  | head (result : Except ConcatError CommitOid)
  | advertised (result : Except ConcatError (Option CommitOid))
  | pullRequest (result : Except MutationError PullRequestSnapshot)
  | edited (result : Except MutationError (Option String))
  | identity (id timestamp : String)
  | delivered (result : Except HookFailure (List HookDelivery))

abbrev Io := Prog.Fallible Request Answer ConcatError

abbrev ProviderIo := Prog.Fallible Request Answer MutationError

section Calls

def done : Answer → Option (Except ConcatError Unit)
  | .done result => some result
  | _ => none

def acquireWriter (operation : String) : Io Unit := Prog.query (.acquireWriter operation) done

def fetchBranches (branches : List BranchSnapshot) : Io Unit := Prog.query (.fetchBranches branches) done

def retainRange (rangeSource : PlannedRangeBase) : Io Unit := Prog.query (.retainRange rangeSource) done

def pushDryRun (lease : Lease) : Io Unit := Prog.query (.pushDryRun lease) done

def push (moves : List HeadMove) : Io Unit := Prog.query (.push moves) done

def journal (input : LogInput) : Io (LogOutput ConcatEvidence) :=
  Prog.query (.journal input) fun answer => match answer with
    | .log result => some result
    | _ => none

def readStatus : Io LiveStatus :=
  Prog.query .status fun answer => match answer with
    | .status result => some result
    | _ => none

def compatibility (candidate target : BranchSnapshot) : Io CompatibilityReport :=
  Prog.query (.compatibility candidate target) fun answer => match answer with
    | .report result => some result
    | _ => none

def retainedHead (prepared : PreparedRebase) : Io CommitOid :=
  Prog.query (.retainedHead prepared) fun answer => match answer with
    | .head result => some result
    | _ => none

/-- The advertised head of a branch, which an absent branch does not have. -/
def remoteHead (branch : String) : Io (Option CommitOid) :=
  Prog.query (.remoteHead branch) fun answer => match answer with
    | .advertised result => some result
    | _ => none

def refetch (repository : RepositoryId) (number : PrNumber) : ProviderIo PullRequestSnapshot :=
  Prog.query (.refetch repository number) fun answer => match answer with
    | .pullRequest result => some result
    | _ => none

def editBase (repository : RepositoryId) (number : PrNumber) (base : String) :
    ProviderIo (Option String) :=
  Prog.query (.editBase repository number base) fun answer => match answer with
    | .edited result => some result
    | _ => none

def identity (request : Request) : Io (String × String) :=
  Prog.query request fun answer => match answer with
    | .identity id timestamp => some (.ok (id,timestamp))
    | _ => none

def hookFailed (failure : HookFailure) : ConcatError :=
  ⟨failure.category,failure.code,failure.message,some (.event failure.event failure.rollback)⟩

def dispatch (event : ConcatEvent) : Io (List HookDelivery) :=
  Prog.query (.dispatch event) fun answer => match answer with
    | .delivered result => some (result.mapError hookFailed)
    | _ => none

def required {α : Type} (value : Option α) (error : ConcatError) : Except ConcatError α :=
  match value with
  | some a => .ok a
  | none => .error error

def expect {α : Type} : Option α → Io α
  | some a => pure a
  | none => Prog.crashed

end Calls

section Plan

structure ConcatWire where
  planJson : ConcatPlan → List UInt8

def boundedText (maxLength : ℕ) (value : String) : Bool :=
  !Text.isBlank value && decide (value.utf8ByteSize ≤ maxLength) && Text.isTrimmed value &&
    !value.toList.any Text.isControl

def validateIntent (input : ConcatInput) : Except ConcatError Unit := do
  Guard.refuse (!boundedText 256 input.actor) (validation "concat_actor_required"
    "concat requires a bounded non-empty audited actor without surrounding whitespace")
  Guard.refuse (!boundedText 512 input.reason) (validation "concat_reason_required"
    "concat requires a bounded non-empty rationale without surrounding whitespace")

variable (w : ConcatWire) (status : LiveStatus)

def effectivePause (caravan : Caravan) : Option Pause.PauseStatus :=
  status.pauses.find? fun pause =>
    pause.state.isEffective && decide (pause.record.caravanHead = caravan.id)

def refuseHeld (caravan : Caravan) : Except ConcatError Unit :=
  match effectivePause status caravan with
  | some pause => .error (structured .validation "concat_caravan_held"
      "concat refuses an intentionally held source or target caravan" (.held caravan.id pause))
  | none => .ok ()

def selectCaravans (input : ConcatInput) : Except ConcatError (Caravan × Caravan) := do
  Guard.refuse (!status.healthy) (structured .validation "concat_fleet_unhealthy"
    "concat requires a healthy complete fleet snapshot" (.problems status.analysis.fleet.problems))
  let source ← required (status.analysis.fleet.caravans.find? fun c => decide (c.id = input.sourceHeadPr))
    (validation "concat_source_head_not_found"
      ("PR #" ++ toString input.sourceHeadPr ++ " is not a current caravan head"))
  let target ← required
    (status.analysis.fleet.caravans.find? fun c => decide (c.tail = some input.targetTailPr))
    (validation "concat_target_tail_not_found"
      ("PR #" ++ toString input.targetTailPr ++ " is not a current caravan tail"))
  Guard.refuse (source.parked || target.parked) (structured .validation "concat_caravan_parked"
    "concat refuses parked caravans until current CI reactivates them" (.parked source target))
  Guard.refuse (decide (source.id = target.id)) (structured .validation "concat_cycle_refused"
    "source and target name the same caravan; concatenation would create a cycle"
    (.cycle source.id source.members))
  refuseHeld status source
  refuseHeld status target
  return (source,target)

def foreignTo (repository : RepositoryId) (p : PullRequestSnapshot) : Bool :=
  p.crossRepository || decide (p.head.repository ≠ repository)

def forkMessage : String := "concat supports only same-repository owned caravan branches"

/-- The pull requests of the source root and of the target tail. -/
def endpoints (input : ConcatInput) : Except ConcatError (PullRequestSnapshot × PullRequestSnapshot) := do
  let target ← required status.analysis.pullRequests[input.targetTailPr]?
    (validation "concat_target_incomplete" "target tail facts are missing")
  let source ← required status.analysis.pullRequests[input.sourceHeadPr]?
    (validation "concat_source_incomplete" "source root facts are missing")
  Guard.refuse (foreignTo status.repository source || foreignTo status.repository target)
    (validation "concat_fork_refused" forkMessage)
  return (source,target)

def memberPlan (number : PrNumber) (candidate predecessor : PullRequestSnapshot) : ConcatMemberPlan where
  pr := number
  branch := candidate.head.name
  oldHeadOid := candidate.head.oid
  oldBase := candidate.base
  targetPr := predecessor.number
  targetBranch := predecessor.head.name
  targetHeadOid := predecessor.head.oid
  requiresRewrite := true

/-- Every source member behind its new predecessor, with the head to restore. -/
def memberPlans (source : PrNumber) : PullRequestSnapshot → List PrNumber →
    Except ConcatError (List (ConcatMemberPlan × BranchSnapshot))
  | _,[] => .ok []
  | predecessor,number::rest => do
      let candidate ← required status.analysis.pullRequests[number]?
        (structured .validation "concat_source_incomplete" "source caravan member facts are missing"
          (.missing source number))
      Guard.refuse (foreignTo status.repository candidate)
        (structured .validation "concat_fork_refused" forkMessage (.fork number))
      let plans ← memberPlans source candidate rest
      return (memberPlan number candidate predecessor,candidate.head)::plans

def unsealedPlan (input : ConcatInput) (source target : Caravan)
    (members : List (ConcatMemberPlan × BranchSnapshot)) : ConcatPlan where
  schemaVersion := 1
  repository := status.repository
  sourceCaravan := source.id
  targetCaravan := target.id
  sourceMembers := source.members
  targetMembers := target.members
  oldOrdering := [target.members,source.members]
  newOrdering := target.members ++ source.members
  members := members.map Prod.fst
  actor := input.actor
  reason := input.reason
  planHash := ""
  rollbackHeads := members.map Prod.snd

def sealPlan (plan : ConcatPlan) : ConcatPlan := { plan with planHash := Fnv.fnv1a64 (w.planJson plan) }

def planFromStatus (input : ConcatInput) : Io ConcatPlan := do
  Prog.ofResult (validateIntent input)
  let caravans ← Prog.ofResult (selectCaravans status input)
  let ends ← Prog.ofResult (endpoints status input)
  fetchBranches [ends.1.head,ends.2.head]
  let report ← compatibility ends.1.head ends.2.head
  Prog.refuseIf (decide (report.outcome ≠ .clean)) (structured .validation "concat_incompatible"
    "source root is not mechanically compatible with the exact target tail" (.incompatible report false))
  let members ← Prog.ofResult (memberPlans status caravans.1.id ends.2 caravans.1.members)
  return sealPlan w (unsealedPlan status input caravans.1 caravans.2 members)

end Plan

end Concat
end Cara
