import Cara.Lib.Guard
import Cara.Lib.Saturating
import Cara.Lib.Text
import Cara.Status

/-! Recovery handoff and its bounded attempt ledger. A request is recorded once for an exact
generation; an external host reports what it attempted, and the ledger counts the attempts,
schedules the next retry and escalates an exhausted request. -/
namespace Cara
namespace Recovery
open Std

abbrev RecoveryError := AppError (List (String × String))

def schemaVersion : ℕ := 1

def maxInputBytes : ℕ := 256 * 1024

def maxAttempts : ℕ := 10

def maxBackoffSecs : ℕ := 3600

def invalid (code message : String) : RecoveryError where
  category := .validation
  code := code
  message := message
  details := some [("mutated","false")]

inductive RecoveryDisposition where
  | retryTransient
  | externalDecision
  | operatorAction
deriving DecidableEq

inductive RecoveryAllowedAction where
  | rediscover
  | retrySync
  | awaitCi
  | ownerRepair (pr : PrNumber) (expectedHead : CommitOid)
  | operatorDecision (code : String)
  | exactPlan (operation operationId planHash : String) (ownerPr : PrNumber)
deriving DecidableEq

namespace RecoveryAllowedAction

def isExactPlan : RecoveryAllowedAction → Bool
  | exactPlan .. => true
  | _ => false

end RecoveryAllowedAction

structure GitHubRateLimit where
  cost : ℕ
  remaining : ℕ
  resetAt : String
deriving DecidableEq

structure GitHubApiTelemetry where
  authenticated : Option Bool := none
  authSource : Option String := none
  githubAppSlug : Option String := none
  githubAppInstallationId : Option ℕ := none
  githubAppTokenExpiresUnixSecs : Option ℕ := none
  githubAppGitTransport : Option String := none
  githubAppGitRepository : Option String := none
  githubAppRefusalStage : Option String := none
  githubAppRefusalCategory : Option String := none
  calls : ℕ := 0
  graphqlCalls : ℕ := 0
  restCalls : ℕ := 0
  ghCliCalls : ℕ := 0
  cacheHits : ℕ := 0
  cacheAgeMs : Option ℕ := none
  rateLimit : Option GitHubRateLimit := none
deriving DecidableEq

structure RecoveryRequest where
  requestId : String
  repository : RepositoryId
  pr : Option PrNumber
  head : Option CommitOid
  base : Option CommitOid
  main : CommitOid
  stackRootPr : Option PrNumber
  checkGeneration : String
  configFingerprint : String
  policyFingerprint : String
  wakeClass : String
  disposition : RecoveryDisposition
  decisionFingerprint : String
  diagnosticCodes : List String
  links : List String
  allowedActions : List RecoveryAllowedAction
  maxAttempts : ℕ
  initialBackoffSecs : ℕ
  observedUnixMs : ℕ
  providerApi : GitHubApiTelemetry := {}
deriving DecidableEq

inductive RecoveryAttemptOutcome where
  | acknowledged
  | transientFailure
  | refused
  | terminalFailure
  | success
deriving DecidableEq

structure RecoveryAttemptReceipt where
  schemaVersion : ℕ
  requestId : String
  repository : RepositoryId
  pr : Option PrNumber
  head : Option CommitOid
  main : CommitOid
  decisionFingerprint : String
  outcome : RecoveryAttemptOutcome
  operationReceipt : Option String
  landedCommit : Option CommitOid
  providerMainVerified : Bool
  observedUnixMs : ℕ
deriving DecidableEq

structure RecoveryAttemptRecord where
  attempt : ℕ
  outcome : RecoveryAttemptOutcome
  operationReceipt : Option String
  landedCommit : Option CommitOid
  providerMainVerified : Bool
  observedUnixMs : ℕ
  nextRetryUnixMs : Option ℕ
deriving DecidableEq

structure RecoveryEscalation where
  kind : String
  requestId : String
  exactPlan : Option RecoveryAllowedAction
  emittedUnixMs : ℕ
deriving DecidableEq

structure RecoveryLedgerEntry where
  request : RecoveryRequest
  attempts : List RecoveryAttemptRecord := []
  escalation : Option RecoveryEscalation := none
  completed : Bool := false
deriving DecidableEq

structure RecoveryLedger where
  schemaVersion : ℕ := Recovery.schemaVersion
  entries : ExtTreeMap String RecoveryLedgerEntry := ∅

structure LedgerCodec where
  request : RecoveryRequest → String
  receipt : RecoveryAttemptReceipt → String
  ledger : RecoveryLedger → String
  fileBytes : RecoveryLedger → ℕ

section Checks

def validateBounds (maxAttempts backoff : ℕ) : Except RecoveryError Unit :=
  if 1 ≤ maxAttempts ∧ maxAttempts ≤ Recovery.maxAttempts ∧ 1 ≤ backoff ∧ backoff ≤ maxBackoffSecs then
    .ok ()
  else .error (invalid "recovery_retry_policy_invalid"
    "retry bounds exceed max_attempts=10 or backoff=3600s")

def secretMarkers : List String :=
  ["ghp_","ghs_","github_pat_","authorization:","begin private key","ignore previous instructions",
    "system prompt"]

def rejectSecrets (rendered : String) : Except RecoveryError Unit :=
  let lowered := String.ofList (rendered.toList.map Char.toLower)
  if secretMarkers.any (Text.contains lowered) then
    .error (invalid "recovery_secret_or_instruction_rejected"
      "recovery state contains secret/prompt-injection sentinel")
  else .ok ()

def safeReceipt (value : String) : Bool :=
  decide (value ≠ "" ∧ value.utf8ByteSize ≤ 256) &&
    value.toList.all fun c => c.isAlphanum || decide (c ∈ ['_','-','.',':','/'])

def validateReceiptGeneration (request : RecoveryRequest) (receipt : RecoveryAttemptReceipt) :
    Except RecoveryError Unit :=
  if receipt.schemaVersion ≠ schemaVersion ∨ receipt.repository ≠ request.repository ∨
      receipt.pr ≠ request.pr ∨ receipt.head ≠ request.head ∨ receipt.main ≠ request.main ∨
      receipt.decisionFingerprint ≠ request.decisionFingerprint then
    .error (invalid "recovery_attempt_generation_mismatch"
      "attempt receipt does not match exact request generation/fingerprint")
  else if receipt.operationReceipt.any fun value => !safeReceipt value then
    .error (invalid "recovery_attempt_receipt_invalid" "operation receipt contains unsafe characters")
  else .ok ()

def unverified (message : String) : RecoveryError := invalid "recovery_success_unverified" message

/-- Success needs a fresh status in which the pull request is merged and its commit is the
head of the default branch. -/
def verifySuccess (context : Option (Except RecoveryError StatusOutput)) (request : RecoveryRequest)
    (receipt : RecoveryAttemptReceipt) : Except RecoveryError Unit := do
  Guard.refuse (!receipt.providerMainVerified)
    (unverified "success requires a fresh provider/main reread")
  let pr ← request.pr.elim
    (.error (unverified "terminal success requires one exact PR generation")) .ok
  let landedCommit ← receipt.landedCommit.elim
    (.error (unverified "terminal success requires the exact landed commit")) .ok
  let context ← context.elim
    (.error (unverified "terminal success requires repository context for provider/main reread")) .ok
  let status ← context
  let pull ← (status.analysis.pullRequests[pr]?).elim
    (.error (unverified "fresh provider status does not contain the exact PR")) .ok
  Guard.refuse (decide (status.repository ≠ request.repository ∨ pull.state ≠ .merged ∨
      status.analysis.fleet.defaultBranch.oid ≠ landedCommit))
    (unverified "fresh provider status does not prove the exact merged PR/commit")

end Checks

section Attempts

/-- An operation receipt is counted once for each outcome. -/
def isDuplicate (entry : RecoveryLedgerEntry) (receipt : RecoveryAttemptReceipt) : Bool :=
  entry.attempts.any fun attempt => decide (attempt.outcome = receipt.outcome ∧
    attempt.operationReceipt = receipt.operationReceipt) && receipt.operationReceipt.isSome

def escalation (request : RecoveryRequest) (now : ℕ) : RecoveryEscalation :=
  let exactPlan := request.allowedActions.find? (·.isExactPlan)
  { kind := if exactPlan.isSome then "exact_plan_owner_request" else "operator_escalation"
    requestId := request.requestId
    exactPlan := exactPlan
    emittedUnixMs := now }

def nextRetryMs (request : RecoveryRequest) (attempt observed : ℕ) : ℕ :=
  let shift := min (attempt - 1) 20
  let seconds := min (Saturating.mul request.initialBackoffSecs (2 ^ shift)) maxBackoffSecs
  Saturating.add observed (Saturating.mul seconds 1000)

def attemptsExhausted : RecoveryError :=
  invalid "recovery_attempts_exhausted" "transient retry budget is exhausted for this exact generation"

/-- The number of the next attempt, as a saturating counter of 32 bits. -/
def nextAttempt (entry : RecoveryLedgerEntry) : ℕ :=
  min (min entry.attempts.length Saturating.maxU32 + 1) Saturating.maxU32

def isRetryable (request : RecoveryRequest) (outcome : RecoveryAttemptOutcome) : Bool :=
  decide (outcome = .transientFailure ∧ request.disposition = .retryTransient)

def appendAttempt (entry : RecoveryLedgerEntry) (receipt : RecoveryAttemptReceipt) :
    Except RecoveryError RecoveryLedgerEntry :=
  let retryable := isRetryable entry.request receipt.outcome
  if retryable = true ∧ entry.request.maxAttempts ≤ entry.attempts.length then
    .error attemptsExhausted
  else
    let attempt := nextAttempt entry
    let exhausted := retryable && decide (entry.request.maxAttempts ≤ attempt)
    .ok { entry with
      attempts := entry.attempts ++ [{
        attempt := attempt
        outcome := receipt.outcome
        operationReceipt := receipt.operationReceipt
        landedCommit := receipt.landedCommit
        providerMainVerified := receipt.providerMainVerified
        observedUnixMs := receipt.observedUnixMs
        nextRetryUnixMs := if retryable && !exhausted then
          some (nextRetryMs entry.request attempt receipt.observedUnixMs) else none }]
      escalation := if exhausted && entry.escalation.isNone then
        some (escalation entry.request receipt.observedUnixMs) else entry.escalation
      completed := decide (receipt.outcome = .success) }

end Attempts

section Operations

variable (codec : LedgerCodec)

structure AttemptCall where
  receipt : Except RecoveryError RecoveryAttemptReceipt
  loadFault : Option RecoveryError := none
  context : Option (Except RecoveryError StatusOutput) := none
  persistFault : Option RecoveryError := none

def fault (error : Option RecoveryError) : Except RecoveryError Unit := error.elim (.ok ()) .error

def loadLedger (loadFault : Option RecoveryError) (ledger : RecoveryLedger) :
    Except RecoveryError RecoveryLedger := do
  fault loadFault
  Guard.refuse (decide (maxInputBytes < codec.fileBytes ledger))
    (invalid "recovery_ledger_invalid" "input exceeds bounded 256 KiB")
  Guard.refuse (decide (ledger.schemaVersion ≠ schemaVersion))
    (invalid "recovery_ledger_version_unsupported" "ledger schema version unsupported")
  return ledger

/-- The whole ledger is renamed over the old one, or the old one stays. -/
def persistLedger (persistFault : Option RecoveryError) (ledger : RecoveryLedger) :
    Except RecoveryError RecoveryLedger := do
  rejectSecrets (codec.ledger ledger)
  fault persistFault
  return ledger

def requestUnknown : RecoveryError :=
  invalid "recovery_request_unknown" "request ID is not in ledger"

/-- The receipt of a call and the entry it is about, once every check has passed. -/
def admitReceipt (call : AttemptCall) (ledger : RecoveryLedger) :
    Except RecoveryError (RecoveryAttemptReceipt × RecoveryLedgerEntry) := do
  let receipt ← call.receipt
  rejectSecrets (codec.receipt receipt)
  let ledger ← loadLedger codec call.loadFault ledger
  let entry ← (ledger.entries[receipt.requestId]?).elim (.error requestUnknown) .ok
  validateReceiptGeneration entry.request receipt
  (if receipt.outcome = .success then verifySuccess call.context entry.request receipt else .ok ())
  return (receipt,entry)

structure RecoveryAttemptOutput where
  entry : RecoveryLedgerEntry
  duplicate : Bool
deriving DecidableEq

def recordAttempt (call : AttemptCall) (ledger : RecoveryLedger) :
    Except RecoveryError (RecoveryAttemptOutput × RecoveryLedger) := do
  let (receipt,entry) ← admitReceipt codec call ledger
  if isDuplicate entry receipt then return (⟨entry,true⟩,ledger)
  else
    let next ← appendAttempt entry receipt
    let ledger ← persistLedger codec call.persistFault
      { ledger with entries := ledger.entries.insert receipt.requestId next }
    return (⟨next,false⟩,ledger)

/-- A request is recorded once; the same identity with other facts is refused. -/
def recordRequest (loadFault persistFault : Option RecoveryError) (request : RecoveryRequest)
    (ledger : RecoveryLedger) : Except RecoveryError (Bool × RecoveryLedger) := do
  validateBounds request.maxAttempts request.initialBackoffSecs
  rejectSecrets (codec.request request)
  let ledger ← loadLedger codec loadFault ledger
  match ledger.entries[request.requestId]? with
  | some existing =>
      if existing.request ≠ request then
        throw (invalid "recovery_request_generation_collision"
          "request ID exists with different exact generation")
      else return (false,ledger)
  | none =>
      let ledger ← persistLedger codec persistFault
        { ledger with entries := ledger.entries.insert request.requestId { request := request } }
      return (true,ledger)

/-- What a call leaves on disk: a refused one leaves the ledger as it was. -/
def afterCall (ledger : RecoveryLedger) (call : AttemptCall) : RecoveryLedger :=
  match recordAttempt codec call ledger with
  | .ok r => r.2
  | .error _ => ledger

def afterCalls (ledger : RecoveryLedger) (calls : List AttemptCall) : RecoveryLedger :=
  calls.foldl (afterCall codec) ledger

end Operations

end Recovery
end Cara
