import Cara.Eligibility
import Cara.GraphCompatibility
import Cara.Status

/-! What `check` says of one pull request: a member is checked with its caravan, any other is
proven for a new caravan or for one exact tail. Mutation preflights ask the same function for
the action that was requested and for no other. -/
namespace Cara
namespace Check

open Admission (AdmissionIntentDecision AdmissionSelection)

section Outputs

structure CheckInput where
  pr : Option PrNumber := none
  tailPr : Option PrNumber := none
  headPr : Option PrNumber := none
deriving DecidableEq

inductive CheckMode where
  | activeCaravan
  | newCaravan
  | joinTail
deriving DecidableEq

inductive CandidateNextAction where
  | new
  | join
  | repair
  | wait
  | reject
deriving DecidableEq

inductive AdmissionCompatibilityAuthorization where
  | providerIdentity (identity : MergeCandidateIdentity)
  | exactGitProof (staleIdentity : MergeCandidateIdentity) (compatibility : CompatibilityReport)
deriving DecidableEq

structure CheckOutput where
  mode : CheckMode
  currentPr : PrNumber
  candidate : PullRequestSnapshot
  headRepositoryOwner : String
  mergeCandidate : Option MergeCandidateIdentity
  admissionCompatibilityAuthorization : Option AdmissionCompatibilityAuthorization := none
  enrolled : Bool
  canonicalCandidate : Bool
  admissionNote : Option String := none
  admissionIntent : AdmissionIntentDecision
  nextAction : CandidateNextAction
  caravanId : Option PrNumber
  targetPr : Option PrNumber := none
  eligible : Bool
  compatibility : List CompatibilityReport
  problems : List GraphProblem
  initialization : InitializationStatus
deriving DecidableEq

inductive CheckDetail (δ : Type) where
  | plain
  | initialization (details : Option (List (String × String)))
  | checker (details : Option δ)
  | targetParked (caravanId : PrNumber) (headPr : Option PrNumber)
  | candidateTails (tails : List PrNumber)
  | rejected (output : CheckOutput)
  | generation (details : Option Generation.AdmissibilityDetails)
  | problem (problem : GraphProblem)

inductive CheckFailure (δ : Type) where
  | error (e : AppError (CheckDetail δ))
  | panic (message : String)

abbrev CheckResult (δ α : Type) := Except (CheckFailure δ) α

end Outputs

variable {δ : Type}

def invalid (code message : String) (details : CheckDetail δ) : CheckFailure δ :=
  .error ⟨.validation,code,message,some details⟩

/-- The result of a callee with its details as the caller's. -/
def carried {ε α : Type} (details : Option ε → CheckDetail δ) (r : Except (AppError ε) α) :
    CheckResult δ α :=
  r.mapError fun e => .error ⟨e.category,e.code,e.message,some (details e.details)⟩

section Targets

variable (status : StatusOutput)

def isHeld (c : Caravan) : Bool :=
  status.pauses.any fun pause =>
    pause.state.isEffective && decide (pause.record.caravanHead = c.id)

def firstAvailableJoinCaravan : Option Caravan :=
  status.analysis.fleet.caravans.find? fun c => !c.parked && !isHeld status c

def activeCaravans : List Caravan := status.analysis.fleet.caravans.filter fun c => !c.parked

def requireActive (c : Caravan) : CheckResult δ Caravan :=
  if c.parked then .error (invalid "caravan_target_parked" ("caravan #" ++ toString c.id ++
    " is parked for repair and cannot accept new members") (.targetParked c.id c.head))
  else .ok c

def headNotFound (head : PrNumber) : CheckFailure δ :=
  invalid "caravan_head_not_found" ("PR #" ++ toString head ++ " is not a current caravan head") .plain

def tailNotFound (tail : PrNumber) : CheckFailure δ :=
  invalid "caravan_tail_not_found" ("PR #" ++ toString tail ++ " is not a current caravan tail") .plain

def caravanOfTail (tail : PrNumber) : Option Caravan :=
  status.analysis.fleet.caravans.find? fun c => decide (c.tail = some tail)

def resolveTargetCaravan (input : CheckInput) : CheckResult δ Caravan :=
  match input.headPr,input.tailPr with
  | some head,_ => match status.analysis.fleet.caravan head with
      | none => .error (headNotFound head)
      | some c => requireActive c
  | none,some tail => match caravanOfTail status tail with
      | none => .error (tailNotFound tail)
      | some c => requireActive c
  | none,none => match activeCaravans status with
      | [c] => .ok c
      | [] => .error (invalid "caravan_tail_not_found" ("there is no active caravan to join; " ++
          "use \x60cara new\x60 while parked caravans await repair") .plain)
      | caravans => .error (invalid "ambiguous_caravan_tail"
          "multiple active caravan tails exist; pass --tail-pr or --head-pr"
          (.candidateTails (caravans.filterMap (·.tail))))

end Targets

section Reports

variable (status : StatusOutput) (checker : CompatibilityChecker δ)

structure Recorded where
  report : CompatibilityReport
  problem : Option GraphProblem := none
deriving DecidableEq

def recordReport (candidate target : BranchSnapshot) (prs : List PrNumber) (message : String) :
    CheckResult δ Recorded := do
  let report ← carried .checker (checker.check candidate target)
  if report.outcome = .clean then return ⟨report,none⟩
  carried .checker (checker.squashEquivalence report.candidate report.target)
  return ⟨report,some ⟨.incompatible,prs,message⟩⟩

def expectMember (role : String) (member : Option PrNumber) :
    CheckResult δ (PrNumber × PullRequestSnapshot) :=
  match member with
  | none => .error (.panic "caravans are non-empty")
  | some number => match status.analysis.pullRequests[number]? with
      | none => .error (.panic ("derived " ++ role ++ " has a snapshot"))
      | some pull => .ok (number,pull)

/-- The candidate after the tail of a caravan, and the head of it after the candidate. -/
def checkBeside (pull : PullRequestSnapshot) (c : Caravan) : CheckResult δ (List Recorded) := do
  let head ← expectMember status "head" c.head
  let tail ← expectMember status "tail" c.tail
  let after ← recordReport checker pull.head tail.2.head [pull.number,tail.1]
    "candidate head cannot attach after an existing caravan tail"
  let before ← recordReport checker head.2.head pull.head [head.1,pull.number]
    "existing caravan head cannot attach after the candidate tail"
  return [after,before]

def checkNew (pull : PullRequestSnapshot) : CheckResult δ (List Recorded) := do
  let root ← recordReport checker pull.head status.analysis.fleet.defaultBranch [pull.number]
    "candidate new head does not merge cleanly into the default branch"
  let beside ← (activeCaravans status).mapM (checkBeside status checker pull)
  return root::beside.flatten

def checkOtherHead (number : PrNumber) (pull : PullRequestSnapshot) (c : Caravan) :
    CheckResult δ Recorded := do
  let head ← expectMember status "head" c.head
  recordReport checker head.2.head pull.head [head.1,number]
    "another caravan head cannot attach after the proposed new tail"

def checkJoin (number : PrNumber) (pull : PullRequestSnapshot) (target : Caravan)
    (tail : PrNumber × PullRequestSnapshot) : CheckResult δ (List Recorded) := do
  let after ← recordReport checker pull.head tail.2.head [tail.1,number]
    "candidate does not merge cleanly after the selected tail"
  let others ← ((activeCaravans status).filter fun c => decide (c.id ≠ target.id)).mapM
    (checkOtherHead status checker number pull)
  return after::others

end Reports

section Authorization

variable (status : StatusOutput)

/-- The value of the first field of a text with this name. -/
def fieldOf (name : String) (text : String) : Option (List Char) :=
  ((text.toList.splitBy fun a b => !isAsciiSpace a && !isAsciiSpace b).find? fun field =>
    name.toList.isPrefixOf field).map fun field => field.drop name.toList.length
where
  isAsciiSpace (c : Char) : Bool :=
    decide (c = ' ' ∨ c = '\t' ∨ c = '\n' ∨ c.toNat = 12 ∨ c = '\r')

def exactGitDiagnostic (diagnostic : String) (repository : RepositoryId) : Bool :=
  Text.contains diagnostic ("repository=" ++ repository.slug) &&
  Text.contains diagnostic "object_source=exact_remote_refs" &&
  Text.contains diagnostic "objects_present=true" &&
  Text.contains diagnostic "shallow=false" &&
  Text.contains diagnostic "filter=none" &&
  ((fieldOf "merge_base=" diagnostic).any fun base => !base.isEmpty) &&
  ((fieldOf "merge_tree=" diagnostic).any fun tree => !tree.isEmpty)

/-- The provider identity describes this candidate on the current default branch. -/
def isExactGeneration (candidate : PullRequestSnapshot) (target : BranchSnapshot)
    (identity : MergeCandidateIdentity) (comparedBase : BranchSnapshot)
    (synthetic : SyntheticMergeCandidate) : Bool :=
  decide (identity.pr = candidate.number ∧ identity.base = candidate.base ∧
    identity.head = candidate.head ∧ comparedBase = status.analysis.fleet.defaultBranch ∧
    candidate.head.repository = status.repository ∧ candidate.base.repository = status.repository ∧
    target.repository = status.repository ∧ synthetic.parents.length = 2 ∧
    synthetic.parents[1]? = some candidate.head.oid)

def isExactProof (candidate : PullRequestSnapshot) (target : BranchSnapshot)
    (report : CompatibilityReport) : Bool :=
  decide (report.candidate = candidate.head ∧ report.target = target ∧ report.outcome = .clean) &&
  report.diagnostic.any fun text => exactGitDiagnostic text candidate.head.repository

def nativeAdmissionAuthorization (candidate : PullRequestSnapshot) (target : BranchSnapshot)
    (identity : Option MergeCandidateIdentity) (reports : List CompatibilityReport) :
    Option AdmissionCompatibilityAuthorization := do
  if status.stackBackend.configured ≠ .github ∨ status.rebaseOnJoin then none
  let identity ← identity
  let comparedBase ← identity.comparedBase
  let synthetic ← identity.synthetic
  if !isExactGeneration status candidate target identity comparedBase synthetic then none
  if identity.freshness = .fresh ∧ !identity.staleBase ∧ !identity.staleHead ∧
      synthetic.parents[0]? = some comparedBase.oid then
    return .providerIdentity identity
  if identity.freshness ≠ .staleBase ∨ !identity.staleBase ∨ identity.staleHead then none
  let proof ← reports.find? (isExactProof candidate target)
  return .exactGitProof identity proof

def nativeNewAuthorization (candidate : PullRequestSnapshot)
    (identity : Option MergeCandidateIdentity) (reports : List CompatibilityReport) :
    Option AdmissionCompatibilityAuthorization :=
  if !status.analysis.fleet.caravans.isEmpty then none
  else nativeAdmissionAuthorization status candidate status.analysis.fleet.defaultBranch identity reports

def nativeJoinAuthorization (candidate tail : PullRequestSnapshot)
    (identity : Option MergeCandidateIdentity) (reports : List CompatibilityReport) :
    Option AdmissionCompatibilityAuthorization :=
  if tail.head.repository ≠ status.repository ∨ tail.base.repository ≠ status.repository then none
  else nativeAdmissionAuthorization status candidate tail.head identity reports

end Authorization

section Conclude

variable (status : StatusOutput)

def admissionSelection (remote : Bool) : AdmissionSelection :=
  if remote then .explicit else .checkedOut

/-- An attachment that cleared the order is still refused by its exact preflight. -/
def recordPreflight (decision : AdmissionIntentDecision) (preflightClean : Bool) :
    AdmissionIntentDecision :=
  if !preflightClean && decide (decision.outcome = .explicitAheadOfUnjoined) then { decision with
    outcome := .blockedByPreflight
    reason := "explicit " ++ decision.intent.name ++ " intent cleared canonical order, but exact " ++
      "preflight rejected the attach; " ++ decision.reason }
  else decision

def eligibleOrError (output : CheckOutput) (returnRejectionReceipt : Bool) : CheckResult δ CheckOutput :=
  if output.eligible || returnRejectionReceipt then .ok output
  else .error (invalid "check_failed" "the requested Caravan operation is not currently valid"
    (.rejected output))

/-- The problems that a check of this pull request starts from. -/
def seedProblems (number : PrNumber) : List GraphProblem :=
  status.analysis.fleet.problems.filter fun problem =>
    status.analysis.problemBlocksActiveFleet problem || decide (number ∈ problem.prs)

def isStale (identity : Option MergeCandidateIdentity) : Bool :=
  identity.any fun identity => decide (identity.freshness ≠ .fresh)

def mergeCandidateOf (number : PrNumber) : Option MergeCandidateIdentity :=
  status.mergeCandidates.find? fun identity => decide (identity.pr = number)

def staleMessage : String :=
  "provider merge-candidate identity is stale or incomplete; wait for the current generation"

def checkEnrolled (input : CheckInput) (number : PrNumber) (pull : PullRequestSnapshot) (c : Caravan) :
    CheckResult δ CheckOutput :=
  let remote := input.pr.isSome
  let explicitJoin := input.tailPr.isSome || input.headPr.isSome
  let mergeCandidate := mergeCandidateOf status number
  let stale := isStale mergeCandidate
  let problems := seedProblems status number ++
    (if explicitJoin then [⟨.unknown,[number],"candidate is already enrolled in caravan #" ++
      toString c.id⟩] else []) ++
    (if stale then [⟨.unknown,[number],staleMessage⟩] else [])
  let eligible := status.healthy && problems.isEmpty
  let intent := Admission.evaluate status.admission status.analysis pull none (admissionSelection remote)
  if explicitJoin && !remote then .error (invalid "active_pr_cannot_join" ("PR #" ++ toString number ++
    " is already in caravan #" ++ toString c.id) .plain)
  else eligibleOrError {
    mode := .activeCaravan
    currentPr := number
    candidate := pull
    headRepositoryOwner := pull.head.repository.owner
    mergeCandidate := mergeCandidate
    enrolled := true
    canonicalCandidate := decide (status.admission.nextCandidate = some number)
    admissionIntent := recordPreflight intent eligible
    nextAction := if explicitJoin then .reject else if stale || eligible then .wait else .repair
    caravanId := some c.id
    eligible := eligible
    compatibility := status.analysis.compatibility
    problems := problems
    initialization := status.initialization } remote

structure CandidateActionContext where
  eligible : Bool
  join : Bool
  waitForDraftReadiness : Bool
  orderAdmits : Bool
  rejected : Bool
  stale : Bool

def candidateAction (candidate : PullRequestSnapshot) (context : CandidateActionContext) :
    CandidateNextAction :=
  if candidate.draft && context.waitForDraftReadiness then .wait
  else if !context.orderAdmits then .reject
  else if candidate.draft || context.stale then .wait
  else if context.rejected then .reject
  else if context.eligible then (if context.join then .join else .new)
  else if candidate.state ≠ .open ∨ candidate.crossRepository ∨ candidate.hasLabel "caravan-evicted" then
    .reject
  else .repair

/-- A mechanical conflict of members of active caravans only. -/
def isExistingEdge (candidate : PrNumber) (problem : GraphProblem) : Bool :=
  decide (problem.kind = .incompatible) && !problem.prs.isEmpty && decide (candidate ∉ problem.prs) &&
  problem.prs.all fun pr => (status.analysis.fleet.containing pr).any fun c => !c.parked

def admissionBlockerNote (candidate : PrNumber) (problems : List GraphProblem)
    (orderingNote : Option String) : Option String :=
  let blocked := (problems.filter (isExistingEdge status candidate)).flatMap (·.prs)
  if blocked.isEmpty then orderingNote
  else
    let note := "blocked_by_existing_fleet: active mechanical conflict at PRs " ++
      ", ".intercalate ((blocked.toFinset.sort (· ≤ ·)).map toString) ++ "; " ++
      (if problems.all (isExistingEdge status candidate) then
        "this evidence does not identify a source defect in the candidate"
      else "candidate or global problems also remain and must be reviewed separately") ++
      ". Existing owners and the configured actor retain repair authority; " ++
      "no independent-new bypass is enabled"
    some (orderingNote.elim note fun order => order ++ "; " ++ note)

def admissionRejection (number : PrNumber) : Option Admission.RejectedAdmissionCandidate :=
  status.admission.rejected.find? fun row => decide (row.pr = number)

/-- What is wrong with a candidate whatever it is attached to. -/
def candidateProblems (number : PrNumber) (pull : PullRequestSnapshot) : List GraphProblem :=
  seedProblems status number ++
  Admission.validateCandidateWithPolicy pull status.admissionGate status.analysis.requiredPolicy ++
  (admissionRejection status number).toList.map fun row => ⟨.unknown,[number],row.reason⟩

/-- The canonical order stands against an explicit remote request. -/
def orderRefuses (remote : Bool) (number : PrNumber) (intent : AdmissionIntentDecision) : Bool :=
  remote && decide (status.admission.nextCandidate ≠ some number) && !intent.orderPermitsAdmission

def orderRefusal (number : PrNumber) (intent : AdmissionIntentDecision) : GraphProblem :=
  ⟨.unknown,[number],status.admission.nextCandidate.elim
    ("candidate is not selectable because no canonical admission attempt exists; " ++ intent.reason)
    fun first => "explicit admission intent fails closed on PR #" ++ toString first ++ "; " ++
      intent.reason⟩

def orderProblems (remote : Bool) (number : PrNumber) (intent : AdmissionIntentDecision) :
    List GraphProblem :=
  if orderRefuses status remote number intent then [orderRefusal status number intent] else []

def orderingNote (remote : Bool) (number : PrNumber) (intent : AdmissionIntentDecision) :
    Option String :=
  if remote && decide (status.admission.nextCandidate ≠ some number) then
    some ("explicit " ++ intent.intent.name ++ " admission intent for PR #" ++ toString number ++ "; " ++
      status.admission.nextCandidate.elim "no automatic priority/FIFO attempt exists" (fun first =>
        "automatic priority/FIFO order would have selected PR #" ++ toString first ++ " first") ++ "; " ++
      intent.reason)
  else none

structure Attachment where
  recorded : List Recorded
  authorization : Option AdmissionCompatibilityAuthorization
  targetPr : Option PrNumber

def attachment (checker : CompatibilityChecker δ) (number : PrNumber) (pull : PullRequestSnapshot)
    (target : Option Caravan) : CheckResult δ Attachment :=
  let identity := mergeCandidateOf status number
  match target with
  | none => do
      let recorded ← if pull.crossRepository then .ok [] else checkNew status checker pull
      return ⟨recorded,nativeNewAuthorization status pull identity (recorded.map (·.report)),none⟩
  | some c => do
      let tail ← expectMember status "tail" c.tail
      let recorded ← if pull.crossRepository then .ok [] else checkJoin status checker number pull c tail
      return ⟨recorded,nativeJoinAuthorization status pull tail.2 identity (recorded.map (·.report)),
        some tail.1⟩

/-- A stale provider identity that no exact authority replaces; a physical rewrite refreshes it. -/
def staleBlocks (number : PrNumber) (authorization : Option AdmissionCompatibilityAuthorization) : Bool :=
  isStale (mergeCandidateOf status number) && !status.rebaseOnJoin && authorization.isNone

def attachmentProblems (number : PrNumber) (a : Attachment) : List GraphProblem :=
  a.recorded.filterMap (·.problem) ++
  if staleBlocks status number a.authorization then [⟨.unknown,[number],staleMessage⟩] else []

def conclude (remote : Bool) (number : PrNumber) (pull : PullRequestSnapshot) (target : Option Caravan)
    (a : Attachment) : CheckResult δ CheckOutput :=
  let intent := Admission.evaluate status.admission status.analysis pull target (admissionSelection remote)
  let canonical := decide (status.admission.nextCandidate = some number)
  let problems := candidateProblems status number pull ++ orderProblems status remote number intent ++
    attachmentProblems status number a
  let eligible := problems.isEmpty
  eligibleOrError {
    mode := if target.isSome then .joinTail else .newCaravan
    currentPr := number
    candidate := pull
    headRepositoryOwner := pull.head.repository.owner
    mergeCandidate := mergeCandidateOf status number
    admissionCompatibilityAuthorization := a.authorization
    enrolled := false
    canonicalCandidate := canonical
    admissionNote := admissionBlockerNote status number problems (orderingNote status remote number intent)
    admissionIntent := recordPreflight intent eligible
    nextAction := candidateAction pull {
      eligible := eligible
      join := target.isSome
      waitForDraftReadiness := remote && status.admission.nextCandidate.isNone
      orderAdmits := canonical || intent.orderPermitsAdmission
      rejected := (admissionRejection status number).isSome
      stale := staleBlocks status number a.authorization }
    caravanId := some (target.elim number (·.id))
    targetPr := a.targetPr
    eligible := eligible
    compatibility := a.recorded.map (·.report)
    problems := problems
    initialization := status.initialization } remote

end Conclude

section Analysis

variable (status : StatusOutput) (checker : CompatibilityChecker δ)

def explicitTarget (input : CheckInput) : CheckResult δ (Option Caravan) :=
  if input.tailPr.isSome || input.headPr.isSome then (resolveTargetCaravan status input).map some
  else .ok none

def checkUnenrolled (input : CheckInput) (number : PrNumber) (pull : PullRequestSnapshot) :
    CheckResult δ CheckOutput := do
  let target ← explicitTarget status input
  let proven ← attachment status checker number pull target
  conclude status input.pr.isSome number pull target proven

def requireReady : CheckResult δ Unit := carried .initialization status.initialization.requireReady

def subject (input : CheckInput) : CheckResult δ (PrNumber × PullRequestSnapshot) :=
  match input.pr.or status.currentPr with
  | none => .error (invalid "current_pr_not_found" ("the selected remote PR was not found and the " ++
      "current branch has no unique open GitHub pull request") .plain)
  | some number => match status.analysis.pullRequests[number]? with
      | none => .error (invalid "current_pr_missing_from_snapshot" ("PR #" ++ toString number ++
          " was not included in discovery") .plain)
      | some pull => .ok (number,pull)

/-- `recommend` proves the attachment that a targetless check recommends. -/
def checkAnalysisWithRecommendation (recommend : Caravan → CheckResult δ (Option CheckOutput))
    (input : CheckInput) : CheckResult δ CheckOutput := do
  requireReady status
  let found ← subject status input
  match status.analysis.fleet.containing found.1 with
  | some c => checkEnrolled status input found.1 found.2 c
  | none =>
      let implicit := if input.tailPr.isSome || input.headPr.isSome then none
        else firstAvailableJoinCaravan status
      match ← implicit.elim (.ok none) recommend with
      | some output => .ok output
      | none => checkUnenrolled status checker input found.1 found.2

def checkRequestedActionAnalysis (input : CheckInput) : CheckResult δ CheckOutput :=
  checkAnalysisWithRecommendation status checker (fun _ => .ok none) input

end Analysis

end Check
end Cara
