import Cara.Membership.Execution

/-! One new, renew, join or rejoin without a caller-reviewed binding: preflights that only read,
the pull request that it may create, and the envelope of edits that is rolled back when one of
them fails. -/
namespace Cara
namespace Membership

open Check
open Prog
open Sync (GitHubMutationReceipt MutationError)

variable {δ : Type}

abbrev PolicyError := AppError (List (String × String))

structure RebaseReceipt where
  pr : PrNumber
  newHeadOid : CommitOid
  newBaseBranch : String
  newBaseOid : CommitOid
deriving DecidableEq

/-- What an operation is given beside the request. `capacityRefusal` is the batch policy and
`rereads` what is read again between eligibility and the first edit: the generations of the
candidate, a native candidate, the join target and the policy file. -/
structure Surroundings (δ : Type) where
  checker : CompatibilityChecker δ
  operationId : String
  expectedRebase : Option RebaseReceipt := none
  requireAutoAdmissionSkip : Bool := false
  provenDeferredGateContext : Option String := none
  capacityRefusal : StatusOutput → PrNumber → JoinTarget → Option PolicyError
  rereads : StatusOutput → PullRequestSnapshot → CheckOutput → Option JoinTarget →
    Fallible ProviderRequest ProviderAnswer PolicyError Unit

structure MembershipOutput where
  receipt : OperationReceipt
  providerReceipts : List GitHubMutationReceipt
  pullRequest : PullRequestSnapshot
  caravanId : PrNumber
  coexistingCaravans : List PrNumber
  admissionIntent : Admission.AdmissionIntentDecision
  admissionCompatibilityAuthorization : Option AdmissionCompatibilityAuthorization
deriving DecidableEq

section Preflight

variable (status : StatusOutput) (request : MembershipRequest) (around : Surroundings δ)

def refusal (code message : String) : MembershipFailure δ := .error ⟨.validation,code,message,none⟩

def ofCheck {α : Type} (r : CheckResult δ α) : MembershipIo δ α :=
  ofResult (r.mapError fun failure => match failure with
    | .error e => .error ⟨e.category,e.code,e.message,e.details.map .check⟩
    | .panic message => .panic message)

def ofPolicy (e : PolicyError) : MembershipFailure δ :=
  .error ⟨e.category,e.code,e.message,some (.fields e.details)⟩

def preflightCall {α : Type} (receipts : List GitHubMutationReceipt) (call : ProviderIo α) :
    MembershipIo δ α :=
  Prog.mapError (fun e => .error (mutationError e around.operationId [] receipts)) call

def missingLabels (code message : String) (labels : List String) : MembershipFailure δ :=
  .error ⟨.validation,code,message,some (.missingLabels status.repository labels)⟩

def requiredLabels : List String :=
  [activeLabel,evictedLabel,forceLabel] ++ if around.requireAutoAdmissionSkip then [skippedLabel] else []

/-- Only a head that the provider merges needs the repository setting. -/
def autoMergeAllowed : MembershipIo δ Bool :=
  if status.headMergeActor.isGithub then preflightCall around [] (ask .repositoryAllowsAutoMerge flagOf)
  else pure true

def preflightRepository : MembershipIo δ Unit := do
  let labels ← preflightCall around [] (ask .repositoryLabels labelsOf)
  let missing := (requiredLabels around).filter fun label => decide (label ∉ labels)
  refuseIf (!missing.isEmpty) (missingLabels status "required_labels_missing"
    "Caravan's operational labels must exist before the first mutation" missing)
  let unranked := request.agentPriorityLabels.filter fun label => decide (label ∉ labels)
  refuseIf (!unranked.isEmpty) (missingLabels status "required_priority_labels_missing"
    "configured priority labels must exist before mutation" unranked)
  if request.operation.isJoin then pure ()
  else do
    let allowed ← autoMergeAllowed status around
    refuseIf (!allowed) (refusal "auto_merge_not_enabled"
      "repository settings must allow squash auto-merge before creating a caravan head")
    let isProtected ← preflightCall around [] (ask (.branchIsProtected status.defaultBranch) flagOf)
    refuseIf (!isProtected) (refusal "default_branch_not_protected"
      "the default branch must have a protection requirement before enabling auto-merge")

def desiredPriorityLabel : Option String := request.priorityLabel.map Text.trimmed

def validateRequest : Except (MembershipFailure δ) Unit := do
  Guard.refuse (request.reason.any Text.isBlank) (refusal "membership_reason_empty"
    "--reason must contain a non-empty rationale when supplied")
  Guard.refuse (request.tailPr.isSome && request.headPr.isSome) (refusal "ambiguous_target"
    "--tail-pr and --head-pr are mutually exclusive")

def validatePriorityLabel : Except (MembershipFailure δ) Unit :=
  match desiredPriorityLabel request with
  | none => .ok ()
  | some label => Guard.refuse (label.isEmpty || decide (label ∉ request.agentPriorityLabels))
      (refusal "priority_label_not_configured" ("priority label \x60" ++ label ++
        "\x60 is not an exact configured agent_priority_labels entry"))

/-- The candidate and what it attaches to are still those of the rewrite. -/
def isPostRebaseTarget (target : Option JoinTarget) (rebase : RebaseReceipt) : Bool :=
  let live := status.analysis.fleet.defaultBranch
  decide (status.currentPr = some rebase.pr) &&
  ((status.analysis.pullRequests[rebase.pr]?).any fun p => decide (p.head.oid = rebase.newHeadOid)) &&
  if request.operation.isJoin then target.any fun t =>
    decide (t.tail.head.name = rebase.newBaseBranch ∧ t.tail.head.oid = rebase.newBaseOid)
  else target.isNone && (status.analysis.fleet.containing rebase.pr).isNone &&
    decide (status.defaultBranch = rebase.newBaseBranch ∧ live.name = rebase.newBaseBranch ∧
      live.oid = rebase.newBaseOid)

def postRebaseMoved : MembershipFailure δ :=
  if request.operation.isJoin then refusal "join_target_moved_after_rebase"
    "candidate or live caravan tail changed after physical preflight; refusing admission"
  else refusal "new_target_moved_after_rebase" ("candidate, default branch, or membership topology " ++
    "changed after physical preflight; refusing new caravan admission")

/-- Batch capacity of the target, unless the candidate is in it already. -/
def capacityOf (target : Option JoinTarget) : Option PolicyError :=
  target.bind fun t =>
    if status.currentPr.any fun candidate => (status.analysis.fleet.containing t.tail.number).any fun c =>
        decide (candidate ∈ c.members) then none
    else around.capacityRefusal status (status.currentPr.getD 0) t

def refuseCapacity (target : Option JoinTarget) : Except (MembershipFailure δ) Unit :=
  match capacityOf status around target with
  | none => .ok ()
  | some e => .error (ofPolicy e)

def desiredBase (target : Option JoinTarget) : String :=
  target.elim status.defaultBranch (·.tail.head.name)

/-- Everything that is decided before a pull request may be created. -/
def preflightRequest : MembershipIo δ (Option JoinTarget) := do
  ofResult (validateRequest request)
  ofCheck (requireReady status)
  preflightRepository status request around
  ofResult (validatePriorityLabel request)
  let target ← ofCheck (requestTarget status request)
  refuseIf (around.expectedRebase.any fun rebase => !isPostRebaseTarget status request target rebase)
    (postRebaseMoved request)
  ofResult (refuseCapacity status around target)
  return target

end Preflight

section Candidate

variable (status : StatusOutput) (request : MembershipRequest) (around : Surroundings δ)

/-- The status in which the operation has a current pull request, and the receipt of one that it
created for that. -/
def discoverOrCreate (base : String) : MembershipIo δ (StatusOutput × List GitHubMutationReceipt) := do
  if status.currentPr.isSome then return (status,[])
  refuseIf (!request.createPr) (refusal "current_pr_not_found"
    "the current branch has no open PR; pass --create-pr to create one non-interactively")
  match status.currentBranch with
  | none => throw (refusal "current_branch_not_found" "--create-pr requires a named current branch")
  | some branch => do
      let receipt ← preflightCall around [] (createPullRequest branch base)
      let created := receipt.after
      return ({ status with
        currentPr := some created.number
        analysis := { status.analysis with
          pullRequests := status.analysis.pullRequests.insert created.number created } },[receipt])

def candidateOf : Except (MembershipFailure δ) PullRequestSnapshot :=
  match status.currentPr with
  | none => .error (.panic "created or discovered current PR")
  | some number => match status.analysis.pullRequests[number]? with
      | none => .error (refusal "current_pr_missing_from_snapshot" ("PR #" ++ toString number ++
          " was not included in discovery"))
      | some candidate => .ok candidate

def preflightCandidate (target : Option JoinTarget) (candidate : PullRequestSnapshot) :
    MembershipIo δ CheckOutput := do
  ofCheck (validateOperationShape candidate request (desiredBase status target))
  let eligibility ← ofCheck (preflightEligibility status candidate request target around.checker
    around.provenDeferredGateContext)
  Prog.mapError ofPolicy (around.rereads status candidate eligibility target)
  return eligibility

end Candidate

section Audit

variable (status : StatusOutput) (request : MembershipRequest)

def orderDebug : Admission.AdmissionOrderOutcome → String
  | .canonical => "Canonical"
  | .explicitAheadOfUnjoined => "ExplicitAheadOfUnjoined"
  | .blockedByOrder => "BlockedByOrder"
  | .blockedByPreflight => "BlockedByPreflight"
  | .alreadyEnrolled => "AlreadyEnrolled"
  | .ownerSelected => "OwnerSelected"

def selectionName : Admission.AdmissionSelection → String
  | .automatic => "automatic"
  | .explicit => "explicit"
  | .checkedOut => "checked_out"

def priorityBasis (number : PrNumber) : String :=
  match desiredPriorityLabel request with
  | none => (status.admission.candidates.find? fun row => decide (row.pr = number)).elim
      "FIFO (oldest eligible PR first); no explicit agent priority" (·.reason)
  | some label => "explicit configured agent priority label \x60" ++ label ++ "\x60 (rank " ++
      toString (request.agentPriorityLabels.idxOf label + 1) ++ ", 1 highest)"

def admissionPriorityBasis (number : PrNumber) (decision : Admission.AdmissionIntentDecision) : String :=
  priorityBasis status request number ++ "; selection=" ++ selectionName decision.selection ++
    " intent=" ++ decision.intent.name ++ " order=" ++ orderDebug decision.outcome ++ " " ++ decision.reason

def generatedReason : String :=
  if request.operation.isJoin then
    if request.namesTarget then "admitted after the explicitly selected caravan target"
    else "admitted to the first active, unparked, unheld caravan in canonical root PR order"
  else if request.operation.isRenewal then "evicted PR passed renewed queue eligibility"
  else "eligible PR admitted as a new caravan"

def outcomeDebug : CompatibilityOutcome → String
  | .clean => "Clean"
  | .conflict => "Conflict"
  | .unknown => "Unknown"

def compatibilityText (eligibility : CheckOutput) : String :=
  let evidence := if eligibility.compatibility.isEmpty then
      "no new chain edge; repository and graph preflight passed"
    else "; ".intercalate (eligibility.compatibility.map fun report =>
      report.candidate.name ++ "@" ++ report.candidate.oid ++ " -> " ++ report.target.name ++ "@" ++
        report.target.oid ++ " = " ++ outcomeDebug report.outcome)
  match eligibility.admissionCompatibilityAuthorization with
  | none => evidence
  | some (.providerIdentity _) => "authority=provider_identity; " ++ evidence
  | some (.exactGitProof _ _) => "authority=exact_git_proof; " ++ evidence

def squashText : String :=
  if request.operation.isJoin then "compatibility check was clean; non-head auto-merge is disabled"
  else if status.headMergeActor.isGithub then
    "compatibility check was clean; GitHub squash auto-merge is enabled on the head"
  else "compatibility check was clean; Cara owns direct squash and provider autoMergeRequest remains " ++
    "disabled on the root"

def membershipAudit (before : PullRequestSnapshot) (eligibility : CheckOutput)
    (after : PullRequestSnapshot) : ControlLabelAudit where
  operation := request.operation.name
  marker := controlLabelMarker request.operation.name after.number after.head.oid before.labels after.labels
  beforeLabels := before.labels
  afterLabels := after.labels
  actor := "authenticated GitHub actor invoked through cara CLI/JSON/MCP"
  reason := request.reason.elim (generatedReason request) Text.trimmed
  reasonSource := request.reason.elim "deterministic Caravan policy" fun _ => "explicit --reason input"
  compatibilityEvidence := compatibilityText eligibility
  cleanSquashEvidence := squashText status request
  admissionPriorityBasis := admissionPriorityBasis status request
    (status.currentPr.getD before.number) eligibility.admissionIntent

end Audit

section Envelope

variable (status : StatusOutput) (request : MembershipRequest)

/-- Whether somebody else than the provider merges the pull request. -/
def keepsDisarmed : Bool := request.operation.isJoin || !status.headMergeActor.isGithub

def envelopeSteps (base : String) : List (ExecutionState → EnvelopeIo δ ExecutionState) :=
  [ensureBase base,ensureLabelAbsent skippedLabel] ++
  (request.agentPriorityLabels.filter fun label =>
    decide (some label ≠ desiredPriorityLabel request)).map ensureLabelAbsent ++
  (desiredPriorityLabel request).toList.map ensureLabelPresent ++
  (if request.operation.isRenewal then [ensureLabelAbsent evictedLabel] else []) ++
  [ensureLabelPresent activeLabel,
    if keepsDisarmed status request then ensureAutoMergeDisabled else ensureSquashAutoMerge]

def envelope (candidate : PullRequestSnapshot) (eligibility : CheckOutput) (base : String)
    (s : ExecutionState) : EnvelopeIo δ ExecutionState := do
  let s ← inSequence (envelopeSteps status request base) s
  ensureControlLabelComment (membershipAudit status request candidate eligibility s.current) s

def rolledBack (source : AppError (MembershipDetail δ)) (receipts rollback : List GitHubMutationReceipt) :
    AppError (MembershipDetail δ) :=
  ⟨.executionFailure,"membership_envelope_rolled_back",("membership mutation failed and every " ++
    "completed base/label/auto-merge step was rolled back"),some (.rolledBack source.code receipts rollback
      ("rediscover and rerun \x60cara " ++ request.operation.name ++ "\x60"))⟩

def rollbackIndeterminate (source : AppError (MembershipDetail δ)) (receipts : List GitHubMutationReceipt)
    (error : MutationError) : AppError (MembershipDetail δ) :=
  ⟨.executionFailure,"membership_envelope_rollback_indeterminate",
    "membership mutation failed and exact rollback could not be proven",
    some (.indeterminate source.code receipts error.display)⟩

def executeEnvelope (candidate : PullRequestSnapshot) (eligibility : CheckOutput) (base : String)
    (s : ExecutionState) : MembershipIo δ ExecutionState := do
  match ← attempt (envelope status request candidate eligibility base s) with
  | .ok s => return s
  | .error (s,source) =>
      match ← attempt (rollbackMembershipEnvelope s) with
      | .ok rollback => throw (.error (rolledBack request source s.providerReceipts rollback))
      | .error e => throw (.error (rollbackIndeterminate source s.providerReceipts e))

def createdState (around : Surroundings δ) (candidate : PullRequestSnapshot)
    (receipts : List GitHubMutationReceipt) : ExecutionState where
  operationId := around.operationId
  operation := request.operation
  steps := receipts.map fun receipt =>
    ⟨receipt.kind,.completed,some receipt.after.number,"created pull request non-interactively"⟩
  providerReceipts := receipts
  current := candidate

def membershipOutput (target : Option JoinTarget) (eligibility : CheckOutput) (s : ExecutionState) :
    MembershipOutput :=
  let caravanId := target.elim s.current.number (·.caravan.id)
  { receipt := s.operationReceipt
    providerReceipts := s.providerReceipts
    pullRequest := s.current
    caravanId := caravanId
    coexistingCaravans := if request.operation.isJoin then []
      else (status.analysis.fleet.caravans.map (·.id)).filter fun id => decide (id ≠ caravanId)
    admissionIntent := eligibility.admissionIntent
    admissionCompatibilityAuthorization := eligibility.admissionCompatibilityAuthorization }

/-- The operation on the pull request that was found or created. -/
def executeCandidate (around : Surroundings δ) (target : Option JoinTarget) (base : String)
    (receipts : List GitHubMutationReceipt) : MembershipIo δ MembershipOutput := do
  let candidate ← ofResult (candidateOf status)
  let eligibility ← preflightCandidate status request around target candidate
  let s ← executeEnvelope status request candidate eligibility base
    (createdState request around candidate receipts)
  return membershipOutput status request target eligibility s

def execute (around : Surroundings δ) : MembershipIo δ MembershipOutput := do
  let target ← preflightRequest status request around
  let found ← discoverOrCreate status request around (desiredBase status target)
  executeCandidate found.1 request around target (desiredBase status target) found.2

end Envelope

end Membership
end Cara
