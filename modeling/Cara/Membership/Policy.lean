import Cara.CheckAnalysis

/-! Membership shape, target resolution and the eligibility that gates a membership mutation. -/
namespace Cara
namespace Membership

open Check

def activeLabel : String := "caravan"

def evictedLabel : String := "caravan-evicted"

def forceLabel : String := "caravan-force"

def skippedLabel : String := "caravan-join-skipped"

inductive MembershipOperation where
  | new
  | renew
  | join
  | rejoin
deriving DecidableEq

namespace MembershipOperation

def name : MembershipOperation → String
  | new => "new"
  | renew => "renew"
  | join => "join"
  | rejoin => "rejoin"

def isJoin : MembershipOperation → Bool
  | join | rejoin => true
  | new | renew => false

def isRenewal : MembershipOperation → Bool
  | renew | rejoin => true
  | new | join => false

end MembershipOperation

structure MembershipRequest where
  operation : MembershipOperation
  createPr : Bool := false
  tailPr : Option PrNumber := none
  headPr : Option PrNumber := none
  reason : Option String := none
  priorityLabel : Option String := none
  agentPriorityLabels : List String := []
deriving DecidableEq

def MembershipRequest.namesTarget (request : MembershipRequest) : Bool :=
  request.tailPr.isSome || request.headPr.isSome

structure JoinTarget where
  caravan : Caravan
  tail : PullRequestSnapshot
deriving DecidableEq

variable {δ : Type}

section Target

variable (status : StatusOutput) (request : MembershipRequest)

def noJoinTarget : CheckFailure δ :=
  invalid "caravan_tail_not_found" ("there is no active unheld caravan to join; use \x60cara new\x60 " ++
    "or resume an existing caravan") .plain

def joinCaravan : CheckResult δ Caravan :=
  match request.headPr,request.tailPr with
  | some head,_ => (status.analysis.fleet.caravan head).elim (.error (headNotFound head)) .ok
  | none,some tail => (caravanOfTail status tail).elim (.error (tailNotFound tail)) .ok
  | none,none => (firstAvailableJoinCaravan status).elim (.error noJoinTarget) .ok

def resolveJoinTarget : CheckResult δ JoinTarget := do
  let caravan ← joinCaravan status request
  let tail ← expectMember status "tail" caravan.tail
  return ⟨caravan,tail.2⟩

/-- The target of a join; the other operations have none. -/
def requestTarget : CheckResult δ (Option JoinTarget) :=
  if request.operation.isJoin then (resolveJoinTarget status request).map some else .ok none

end Target

section Shape

def shape (code message : String) : CheckFailure δ := invalid code message .plain

def validateOperationShape (candidate : PullRequestSnapshot) (request : MembershipRequest)
    (desiredBase : String) : CheckResult δ Unit := do
  let active := candidate.hasLabel activeLabel
  let evicted := candidate.hasLabel evictedLabel
  Guard.refuse (decide (candidate.state ≠ .open)) (shape "current_pr_not_open"
    ("PR #" ++ toString candidate.number ++ " is not open"))
  Guard.refuse candidate.draft (shape "current_pr_is_draft"
    ("PR #" ++ toString candidate.number ++ " is a draft"))
  Guard.refuse candidate.crossRepository (shape "fork_only_head"
    "Caravan v1 requires the PR head branch in the base repository")
  Guard.refuse (!request.operation.isRenewal && evicted) (shape "current_pr_is_evicted"
    "the current PR is evicted; use renew or rejoin")
  Guard.refuse (request.operation.isRenewal && !evicted && !active) (shape "current_pr_not_evicted"
    "renew and rejoin require an evicted PR")
  Guard.refuse (active && decide (candidate.base.name ≠ desiredBase)) (shape "active_pr_wrong_target"
    ("active PR #" ++ toString candidate.number ++ " targets \x60" ++ candidate.base.name ++
      "\x60 instead of \x60" ++ desiredBase ++ "\x60"))

end Shape

section Eligibility

variable (status : StatusOutput) (candidate : PullRequestSnapshot) (request : MembershipRequest)
  (target : Option JoinTarget) (checker : CompatibilityChecker δ)

/-- Its own missing arming is what a resumed admission repairs. -/
def isOwnAutoMerge (problem : GraphProblem) : Bool :=
  decide (problem.kind = .autoMergeInvariant ∧ problem.prs = [candidate.number])

/-- A candidate with the label is resumed, not admitted again. -/
def resumeEligibility : CheckResult δ CheckOutput :=
  match status.analysis.fleet.problems.find? fun problem => !isOwnAutoMerge candidate problem with
  | some problem => .error (invalid "invalid_graph"
      "cannot resume membership while unrelated graph problems remain" (.problem problem))
  | none => .ok {
      mode := if request.operation.isJoin then .joinTail else .newCaravan
      currentPr := candidate.number
      candidate := candidate
      headRepositoryOwner := candidate.head.repository.owner
      mergeCandidate := mergeCandidateOf status candidate.number
      enrolled := true
      canonicalCandidate := decide (status.admission.nextCandidate = some candidate.number)
      admissionIntent := Admission.evaluate status.admission status.analysis candidate
        (target.map (·.caravan)) .checkedOut
      nextAction := if request.operation.isJoin then .join else .new
      caravanId := some (target.elim candidate.number (·.caravan.id))
      targetPr := target.bind (·.caravan.tail)
      eligible := true
      compatibility := status.analysis.compatibility
      problems := []
      initialization := status.initialization }

/-- The candidate as the operation will have left its own labels, without the gate that a
caller has proven. -/
def virtualCandidate (provenDeferredGateContext : Option String) (pull : PullRequestSnapshot) :
    PullRequestSnapshot :=
  let relabelled := if request.operation.isRenewal then
      { pull with labels := (pull.labels.erase evictedLabel).erase forceLabel }
    else pull
  provenDeferredGateContext.elim relabelled fun context => { relabelled with
    checks := relabelled.checks.filter fun check => decide (check.name ≠ context) }

def virtualStatus (provenDeferredGateContext : Option String) : CheckResult δ StatusOutput :=
  match status.analysis.pullRequests[candidate.number]? with
  | none => .error (.panic "current candidate is present")
  | some pull => .ok { status with analysis := { status.analysis with
      pullRequests := status.analysis.pullRequests.insert candidate.number
        (virtualCandidate request provenDeferredGateContext pull) } }

def preflightEligibility (provenDeferredGateContext : Option String) : CheckResult δ CheckOutput := do
  carried .generation
    (Generation.requireAdmissible status.admission.generationIntegrity candidate.number)
  if candidate.hasLabel activeLabel then resumeEligibility status candidate request target
  else
    let virtual ← virtualStatus status candidate request provenDeferredGateContext
    checkRequestedActionAnalysis virtual checker { tailPr := target.bind (·.caravan.tail) }

end Eligibility

end Membership
end Cara
