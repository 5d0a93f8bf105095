import Cara.Lib.Fnv
import Cara.Lib.Guard
import Cara.Lib.Stateful
import Cara.Pause
import Cara.RequiredRuns
import Cara.Sync.Provider
import Cara.Sync.StackPolicy

/-! Exact-generation recovery from terminal-red parking. The scheduler's parked label is
removed after a reviewed authority was proven on fresh facts; a pending authorization and a
final receipt, both kept under the identity of the request, carry it over interruptions. -/
namespace Cara
namespace Unpark

open Prog
open RequiredRuns (RequiredContextsRead RequiredContextCoverage RequiredRunsAssessment
  RequiredRunsRecovery RequiredRunsStatus)
open Sync (GitHubMutationReceipt MutationError)

def parkedLabel : String := "caravan-parked"

def maxText : ℕ := 2000

structure UnparkInput where
  repository : String
  pr : PrNumber
  head : String
  baseRef : String
  base : String
  membershipGeneration : String
  parkingFingerprint : String
  providerState : String
  actor : String
  reason : String
deriving DecidableEq

structure Prepared where
  receiptId : String
  pull : PullRequestSnapshot
  membershipGeneration : String
  evidenceFingerprint : String
  authoritativeChecks : List CheckSnapshot
  supersededChecks : List CheckSnapshot
  requiredContextRead : Option RequiredContextsRead := none
  requiredRuns : Option RequiredRunsAssessment := none
deriving DecidableEq

structure UnparkOutput where
  schemaVersion : ℕ
  receiptId : String
  repository : RepositoryId
  pr : PrNumber
  head : String
  baseRef : String
  base : String
  membershipGeneration : String
  parkingFingerprint : String
  evidenceFingerprint : String
  actor : String
  reason : String
  oldState : String
  newState : String
  oldLabels : Finset String
  newLabels : Finset String
  authoritativeChecks : List CheckSnapshot
  supersededChecks : List CheckSnapshot
  requiredContextRead : Option RequiredContextsRead
  requiredRuns : Option RequiredRunsAssessment
  mutated : Bool
  receipt : OperationReceipt
  providerReceipts : List GitHubMutationReceipt
  next : String
deriving DecidableEq

inductive UnparkDetail where
  | plain
  | initialization (details : Option (List (String × String)))
  | refusal (repository : RepositoryId) (pr : PrNumber) (expectedHead expectedBase : String)
  | ci (pr : PrNumber) (head : String) (requiredRuns : RequiredRunsAssessment)
  | provider (pr : PrNumber) (head : String) (mutated : Bool)
  | postcondition (pr : PrNumber) (head : String) (receipt : GitHubMutationReceipt)
deriving DecidableEq

abbrev UnparkError := AppError UnparkDetail

def validation (code message : String) : UnparkError := ⟨.validation,code,message,some .plain⟩

section Requests

inductive UnparkRequest where
  | acquireWriterOperation
  | loadReceipt
  | status
  | parkingProvenance (pr : PrNumber)
  | loadPending
  | branchRequiredContexts (branch : String)
  | clock
  | operationId
  | verifyPreconditionWithChecks (expected : PullRequestPrecondition)
  | writePending (prepared : Prepared)
  | checkpoint (phase : String) (evidence : String)
  | removeLabel (expected : PullRequestPrecondition) (label : String)
  | writeReceipt (output : UnparkOutput)
  | removePending
deriving DecidableEq

inductive UnparkAnswer where
  | done
  | receipt (receipt : Option UnparkOutput)
  | pending (pending : Option Prepared)
  | status (status : StatusOutput)
  | fingerprint (fingerprint : Option String)
  | contexts (read : RequiredContextsRead)
  | time (nowUnix : ℕ)
  | identity (id : String)
  | pull (pull : PullRequestSnapshot)
  | mutated (receipt : GitHubMutationReceipt)
  | refused (error : UnparkError)
  | provider (error : MutationError)

abbrev UnparkIo (α : Type) := Fallible UnparkRequest UnparkAnswer UnparkError α

/-- A request that is done or refused with an error of its own. -/
def doneOf : UnparkAnswer → Option (Except UnparkError Unit)
  | .done => some (.ok ())
  | .refused e => some (.error e)
  | _ => none

def receiptOf : UnparkAnswer → Option (Except UnparkError (Option UnparkOutput))
  | .receipt r => some (.ok r)
  | .refused e => some (.error e)
  | _ => none

def pendingOf : UnparkAnswer → Option (Except UnparkError (Option Prepared))
  | .pending p => some (.ok p)
  | .refused e => some (.error e)
  | _ => none

def statusOf : UnparkAnswer → Option (Except UnparkError StatusOutput)
  | .status s => some (.ok s)
  | .refused e => some (.error e)
  | _ => none

def provenanceMissing : UnparkError := validation "unpark_parking_provenance_not_found"
  "no durable engine-owned caravan_parked event matches this PR"

/-- The fingerprint of the latest parking event of this pull request. -/
def fingerprintOf : UnparkAnswer → Option (Except UnparkError String)
  | .fingerprint (some f) => some (.ok f)
  | .fingerprint none => some (.error provenanceMissing)
  | .refused e => some (.error e)
  | _ => none

def requiredContextsError (input : UnparkInput) (providerMutated : Bool) (e : MutationError) :
    UnparkError where
  category := .executionFailure
  code := "unpark_required_contexts_failed"
  message := "could not revalidate protection-declared required contexts: " ++ e.display
  details := some (.provider input.pr input.head providerMutated)

def contextsOf (input : UnparkInput) (providerMutated : Bool) :
    UnparkAnswer → Option (Except UnparkError RequiredContextsRead)
  | .contexts r => some (.ok r)
  | .provider e => some (.error (requiredContextsError input providerMutated e))
  | _ => none

def timeOf : UnparkAnswer → Option (Except UnparkError ℕ)
  | .time n => some (.ok n)
  | _ => none

def identityOf : UnparkAnswer → Option (Except UnparkError String)
  | .identity id => some (.ok id)
  | _ => none

def providerPreflightError (input : UnparkInput) (e : MutationError) : UnparkError :=
  let stale := match e with
    | .stalePrecondition _ _ _ => true
    | _ => false
  { category := if stale then .validation else .executionFailure
    code := if stale then "unpark_provider_preflight_drift" else "unpark_provider_preflight_failed"
    message := "check-sensitive provider preflight failed: " ++ e.display
    details := some (.provider input.pr input.head false) }

def verifiedOf (input : UnparkInput) : UnparkAnswer → Option (Except UnparkError PullRequestSnapshot)
  | .pull p => some (.ok p)
  | .provider e => some (.error (providerPreflightError input e))
  | _ => none

def providerError (input : UnparkInput) (e : MutationError) : UnparkError where
  category := .executionFailure
  code := "unpark_provider_mutation_failed"
  message := e.display
  details := some (.provider input.pr input.head false)

def mutatedOf (input : UnparkInput) : UnparkAnswer → Option (Except UnparkError GitHubMutationReceipt)
  | .mutated r => some (.ok r)
  | .provider e => some (.error (providerError input e))
  | _ => none

end Requests

section Validate

def isHexOid (oid : String) : Bool :=
  decide (oid.utf8ByteSize = 40) && oid.toList.all Pause.isHexDigit

def isFingerprint (value : String) : Bool :=
  Text.startsWith value "fnv1a64:" && (let hex := value.toList.drop 8
    decide (hex.length = 16) && hex.all Pause.isHexDigit)

def refuseText (name value : String) : Except UnparkError Unit :=
  Guard.refuse (Text.isBlank value || decide (maxText < value.utf8ByteSize))
    (validation "unpark_input_invalid" (name ++ " must contain 1..=2000 bytes"))

def validateInput (input : UnparkInput) : Except UnparkError Unit := do
  Guard.refuse (decide (input.pr = 0)) (validation "unpark_pr_invalid" "--pr must be non-zero")
  Guard.refuse (!isHexOid input.head) (validation "unpark_head_invalid"
    "--head must be one exact 40-character hexadecimal OID")
  Guard.refuse (!isHexOid input.base) (validation "unpark_base_invalid"
    "--base must be one exact 40-character hexadecimal OID")
  Guard.refuse (Text.isBlank input.baseRef || decide (maxText < input.baseRef.utf8ByteSize))
    (validation "unpark_base_ref_invalid" "--base-ref must name the exact current provider base branch")
  Guard.refuse (Text.splitOnce ['/'] input.repository.toList).isNone
    (validation "unpark_repository_invalid" "--repository must be exact owner/name")
  Guard.refuse (decide (input.providerState ≠ "open_parked")) (validation "unpark_provider_state_invalid"
    "--provider-state must be exactly open_parked")
  refuseText "membership generation" input.membershipGeneration
  refuseText "parking fingerprint" input.parkingFingerprint
  refuseText "actor" input.actor
  refuseText "reason" input.reason
  Guard.refuse (!isFingerprint input.membershipGeneration) (validation "unpark_fingerprint_invalid"
    "membership generation must be exact fnv1a64: plus 16 hexadecimal digits")
  Guard.refuse (!isFingerprint input.parkingFingerprint) (validation "unpark_fingerprint_invalid"
    "parking fingerprint must be exact fnv1a64: plus 16 hexadecimal digits")

end Validate

section Prepare

structure MembershipEvidence where
  schemaVersion : ℕ := 1
  repository : RepositoryId
  caravanId : PrNumber
  defaultBranch : BranchSnapshot
  members : List (PrNumber × BranchSnapshot × BranchSnapshot)
deriving DecidableEq

structure StableRequiredRunsEvidence where
  pr : PrNumber
  head : BranchSnapshot
  base : BranchSnapshot
  status : RequiredRunsStatus
  requiredContexts : List String
  requiredPolicy : Option RequiredContextsRead
  coverage : List RequiredContextCoverage
  missingContexts : List String
  observedCheckSuites : ℕ
  observedRuns : ℕ
  staleHeadRuns : ℕ
  providerReadsComplete : Bool
  recovery : RequiredRunsRecovery
deriving DecidableEq

def stableRequiredRunsEvidence (a : RequiredRunsAssessment) : StableRequiredRunsEvidence where
  pr := a.pr
  head := a.head
  base := a.base
  status := a.status
  requiredContexts := a.requiredContexts
  requiredPolicy := a.requiredPolicy
  coverage := a.coverage
  missingContexts := a.missingContexts
  observedCheckSuites := a.observedCheckSuites
  observedRuns := a.observedRuns
  staleHeadRuns := a.staleHeadRuns
  providerReadsComplete := a.providerReadsComplete
  recovery := a.recovery

structure UnparkEvidence where
  schemaVersion : ℕ := 1
  repository : RepositoryId
  pr : PrNumber
  head : BranchSnapshot
  base : BranchSnapshot
  labels : Finset String
  membershipGeneration : String
  parkingFingerprint : String
  authoritativeChecks : List CheckSnapshot
  supersededChecks : List CheckSnapshot
  requiredContextRead : RequiredContextsRead
  requiredRuns : StableRequiredRunsEvidence
deriving DecidableEq

structure UnparkEncoding where
  membership : MembershipEvidence → List UInt8
  evidence : UnparkEvidence → List UInt8

variable (encoding : UnparkEncoding) (input : UnparkInput)

def refusal (code message : String) (status : StatusOutput) : UnparkError :=
  ⟨.validation,code,message,some (.refusal status.repository input.pr input.head input.base)⟩

def isPaused (status : StatusOutput) : Bool :=
  status.pauses.any fun pause =>
    decide (pause.record.caravanHead = input.pr) && Sync.PauseState.isEffective pause.state

/-- Heads and bases of the members, all of which must have been discovered. -/
def membershipEvidence (status : StatusOutput) (c : Caravan) :
    Except UnparkError MembershipEvidence := do
  let members ← c.members.mapM fun number =>
    match status.analysis.pullRequests[number]? with
    | some pull => .ok (number,pull.head,pull.base)
    | none => .error (validation "unpark_membership_incomplete"
        ("fresh membership is missing PR #" ++ toString number))
  return {
    repository := status.repository
    caravanId := c.id
    defaultBranch := status.analysis.fleet.defaultBranch
    members := members }

def membershipGeneration (status : StatusOutput) (c : Caravan) : Except UnparkError String := do
  let evidence ← membershipEvidence status c
  return Fnv.fnv1a64 (encoding.membership evidence)

def requiredRuns (pull : PullRequestSnapshot) (contexts : RequiredContextsRead)
    (authoritativeChecks : List CheckSnapshot) (nowUnix : ℕ) : RequiredRunsAssessment :=
  RequiredRuns.assess {
    pr := pull.number
    head := pull.head
    base := pull.base
    contexts := contexts
    checks := authoritativeChecks
    headPublishedAt := pull.updatedAt
    clock := ⟨nowUnix,0⟩ }

def isGreen (a : RequiredRunsAssessment) : Bool :=
  decide (a.status = .satisfied ∨ a.status = .notRequired)

def redCode (a : RequiredRunsAssessment) : String :=
  if a.status = .failing ∨ a.status = .cancelledSuperseded ∨ a.status = .pending then
    "unpark_ci_not_green"
  else "unpark_required_checks_not_green"

def found {α : Type} (value : Option α) (error : UnparkError) : Except UnparkError α :=
  match value with
  | none => .error error
  | some a => .ok a

/-- The open, enrolled and parked pull request of the reviewed generation. -/
def reviewedPull (status : StatusOutput) : Except UnparkError PullRequestSnapshot := do
  Guard.refuse (decide (status.repository.slug ≠ input.repository)) (refusal input
    "unpark_repository_drift" "fresh provider repository differs from reviewed authority" status)
  let pull ← found (status.analysis.pullRequests[input.pr]?) (refusal input "unpark_pr_not_found"
    "parked PR is absent from fresh provider discovery" status)
  Guard.refuse (decide (pull.state ≠ .open)) (refusal input "unpark_pr_not_open"
    "parked PR is no longer open" status)
  Guard.refuse (decide (pull.head.oid ≠ input.head ∨ pull.base.name ≠ input.baseRef ∨
      pull.base.oid ≠ input.base)) (refusal input "unpark_generation_drift"
    "provider head or base differs from reviewed generation" status)
  Guard.refuse (!pull.hasLabel "caravan" || pull.hasLabel "caravan-evicted") (refusal input
    "unpark_membership_ineligible" "PR must remain enrolled and not evicted" status)
  Guard.refuse (!pull.hasLabel parkedLabel) (refusal input "unpark_parking_label_missing"
    "expected caravan-parked provider state is absent" status)
  return pull

/-- The membership generation of the one caravan headed by the pull request. -/
def reviewedGeneration (status : StatusOutput) : Except UnparkError String := do
  Guard.refuse (isPaused input status) (refusal input "unpark_explicit_pause_present"
    "an active explicit pause or recovery fence blocks engine-owned unpark" status)
  let c ← found (status.analysis.fleet.caravan input.pr) (refusal input "unpark_membership_missing"
    "PR is not exactly one current Caravan head" status)
  Guard.refuse (decide ((status.analysis.fleet.caravans.filter fun c =>
      decide (input.pr ∈ c.members)).length ≠ 1)) (refusal input "unpark_membership_ambiguous"
    "PR must be enrolled exactly once" status)
  let generation ← membershipGeneration encoding status c
  Guard.refuse (decide (generation ≠ input.membershipGeneration)) (refusal input
    "unpark_membership_drift" "Caravan membership generation differs from reviewed authority" status)
  return generation

def prepare (status : StatusOutput) (parkedFingerprint : String) (contexts : RequiredContextsRead)
    (nowUnix : ℕ) (receiptId : String) : Except UnparkError Prepared := do
  let pull ← reviewedPull input status
  let generation ← reviewedGeneration encoding input status
  Guard.refuse (decide (parkedFingerprint ≠ input.parkingFingerprint)) (refusal input
    "unpark_parking_provenance_drift" "durable parking provenance differs from reviewed authority"
    status)
  let checks := latestChecksPerIdentity pull.checks
  let runs := requiredRuns pull contexts checks.1 nowUnix
  Guard.refuse (!isGreen runs) ⟨.validation,redCode runs,
    "protection-declared required checks are not proven green on the exact parked generation",
    some (.ci input.pr input.head runs)⟩
  return {
    receiptId := receiptId
    pull := pull
    membershipGeneration := generation
    evidenceFingerprint := Fnv.fnv1a64 (encoding.evidence {
      repository := status.repository
      pr := input.pr
      head := pull.head
      base := pull.base
      labels := pull.labels
      membershipGeneration := generation
      parkingFingerprint := parkedFingerprint
      authoritativeChecks := checks.1
      supersededChecks := checks.2
      requiredContextRead := contexts
      requiredRuns := stableRequiredRunsEvidence runs })
    authoritativeChecks := checks.1
    supersededChecks := checks.2
    requiredContextRead := some contexts
    requiredRuns := some runs }

def postcondition (code message : String) (receipt : GitHubMutationReceipt) : UnparkError :=
  ⟨.executionFailure,code,message,some (.postcondition input.pr input.head receipt)⟩

/-- Whether the generation moved, or is still parked, after the transition. -/
def drifted (initial final : StatusOutput) (prepared : Prepared) (current : PullRequestSnapshot)
    (finalGeneration : String) : Bool :=
  decide (final.repository ≠ initial.repository) || decide (current.state ≠ .open) ||
    decide (current.head.oid ≠ input.head) || decide (current.base.name ≠ input.baseRef) ||
    decide (current.base.oid ≠ input.base) || !current.hasLabel "caravan" ||
    current.hasLabel "caravan-evicted" || current.hasLabel parkedLabel ||
    decide (finalGeneration ≠ prepared.membershipGeneration) || isPaused input final

/-- Prove the postcondition on facts rediscovered after the transition. -/
def finish (initial final : StatusOutput) (prepared : Prepared) (receipt : GitHubMutationReceipt)
    (contexts : RequiredContextsRead) (nowUnix : ℕ) (next : String) :
    Except UnparkError UnparkOutput := do
  let current ← found (final.analysis.pullRequests[input.pr]?) (postcondition input
    "unpark_postcondition_pr_missing" "PR disappeared after parking transition" receipt)
  let c ← found (final.analysis.fleet.caravan input.pr) (postcondition input
    "unpark_postcondition_membership_missing" "Caravan topology changed after parking transition"
    receipt)
  let finalGeneration ← membershipGeneration encoding final c
  Guard.refuse (drifted input initial final prepared current finalGeneration) (postcondition input
    "unpark_postcondition_drift" "provider or fleet facts drifted after parking transition" receipt)
  let runs := requiredRuns current contexts (latestChecksPerIdentity current.checks).1 nowUnix
  Guard.refuse (decide (prepared.requiredContextRead ≠ some contexts) || !isGreen runs)
    (postcondition input "unpark_postcondition_required_checks_drift"
      "protection-declared required checks drifted after parking transition" receipt)
  return {
    schemaVersion := 1
    receiptId := prepared.receiptId
    repository := initial.repository
    pr := input.pr
    head := input.head
    baseRef := input.baseRef
    base := input.base
    membershipGeneration := prepared.membershipGeneration
    parkingFingerprint := input.parkingFingerprint
    evidenceFingerprint := prepared.evidenceFingerprint
    actor := input.actor
    reason := input.reason
    oldState := "open_parked"
    newState := "open_enrolled"
    oldLabels := prepared.pull.labels
    newLabels := current.labels
    authoritativeChecks := prepared.authoritativeChecks
    supersededChecks := prepared.supersededChecks
    requiredContextRead := prepared.requiredContextRead
    requiredRuns := prepared.requiredRuns
    mutated := true
    receipt := {
      operationId := prepared.receiptId
      operation := "unpark"
      completedSteps := [⟨.removeLabel,.completed,some input.pr,
        "removed only engine-owned terminal-red parking state"⟩]
      changed := true }
    providerReceipts := [receipt]
    next := next }

end Prepare

section Operation

variable (encoding : UnparkEncoding) (input : UnparkInput)

def landingBranch (status : StatusOutput) : String := status.analysis.fleet.defaultBranch.name

/-- The landing policy, complete only when it was read for the landing branch. -/
def landingPolicy (status : StatusOutput) (read : RequiredContextsRead) : RequiredContextsRead :=
  let policy := read.normalized
  { policy with complete := policy.complete && decide (policy.branch = landingBranch status) }

def readRequiredContexts (status : StatusOutput) (providerMutated : Bool) :
    UnparkIo RequiredContextsRead := do
  let read ← query (.branchRequiredContexts (landingBranch status)) (contextsOf input providerMutated)
  return landingPolicy status read

def prepareWithProvider (status : StatusOutput) (parkedFingerprint : String) : UnparkIo Prepared := do
  let required ← readRequiredContexts input status false
  let nowUnix ← query .clock timeOf
  let receiptId ← query .operationId identityOf
  let prepared ← ofResult (prepare encoding input status parkedFingerprint required nowUnix receiptId)
  let _ ← query (.verifyPreconditionWithChecks (.ofSnapshot prepared.pull)) (verifiedOf input)
  return prepared

def nextAction : String :=
  "run `cara status`, then `cara sync --all`; Caravan membership was preserved"

/-- Prove the postcondition and keep its receipt in place of the pending authorization. -/
def converge (initial final : StatusOutput) (prepared : Prepared) (receipt : GitHubMutationReceipt) :
    UnparkIo UnparkOutput := do
  let required ← readRequiredContexts input final true
  let nowUnix ← query .clock timeOf
  let output ← ofResult (finish encoding input initial final prepared receipt required nowUnix nextAction)
  query (.writeReceipt output) doneOf
  query .removePending doneOf
  return output

def recoveredReceipt (prepared : Prepared) (after : PullRequestSnapshot) : GitHubMutationReceipt where
  kind := .removeLabel
  before := some prepared.pull
  after := after
  providerOutput := some
    "recovered durable unpark authorization after interrupted provider mutation"

def transition (initial : StatusOutput) (prepared : Prepared) : UnparkIo UnparkOutput := do
  query (.checkpoint "unpark_provider_mutation_in_flight" prepared.evidenceFingerprint) doneOf
  let receipt ← query (.removeLabel (.ofSnapshot prepared.pull) parkedLabel) (mutatedOf input)
  let final ← query .status statusOf
  let output ← converge encoding input initial final prepared receipt
  query (.checkpoint "unpark_converged" output.evidenceFingerprint) doneOf
  return output

def authorityDrift (status : StatusOutput) : UnparkError :=
  refusal input "unpark_pending_authority_drift"
    "fresh evidence differs from the durable pre-mutation authorization" status

def authorize (initial : StatusOutput) (parkedFingerprint : String) :
    Option Prepared → UnparkIo UnparkOutput
  | some prepared =>
      match (initial.analysis.pullRequests[input.pr]?).filter fun p => !p.hasLabel parkedLabel with
      | some after =>
          converge encoding input initial initial prepared (recoveredReceipt prepared after)
      | none => do
          let fresh ← prepareWithProvider encoding input initial parkedFingerprint
          refuseIf (decide (fresh.evidenceFingerprint ≠ prepared.evidenceFingerprint))
            (authorityDrift input initial)
          transition encoding input initial prepared
  | none => do
      let prepared ← prepareWithProvider encoding input initial parkedFingerprint
      query (.writePending prepared) doneOf
      transition encoding input initial prepared

def requireReady (status : StatusOutput) : Except UnparkError Unit :=
  status.initialization.requireReady.mapError fun e =>
    ⟨e.category,e.code,e.message,some (.initialization e.details)⟩

def unparkFresh : UnparkIo UnparkOutput := do
  let initial ← query .status statusOf
  ofResult (requireReady initial)
  let parkedFingerprint ← query (.parkingProvenance input.pr) fingerprintOf
  let pending ← query .loadPending pendingOf
  authorize encoding input initial parkedFingerprint pending

def unpark : UnparkIo UnparkOutput := do
  ofResult (validateInput input)
  query .acquireWriterOperation doneOf
  match ← query .loadReceipt receiptOf with
  | some receipt => return receipt
  | none => unparkFresh encoding input

end Operation

end Unpark
end Cara
