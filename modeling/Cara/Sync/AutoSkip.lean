import Cara.Checks
import Cara.Lib.Fnv
import Cara.Lib.Hex
import Cara.Sync.Progress

/-! Automatic admission skips: the receipt comment, the label that it explains, and the
revalidation that removes the label again. -/
namespace Cara
namespace Sync

open RequiredRuns (RequiredRunsAssessment RequiredRunsStatus)

def autoAdmissionSkipLabel : String := "caravan-join-skipped"

def autoAdmissionSkipPrefix : String := "<!-- caravan-auto-join-skip-receipt:"

def autoAdmissionHeuristicVersion : String := "priority_fifo_greedy_v2_deferred_evidence"

def maxAutoAdmissionCommentBytes : ℕ := 60 * 1024

structure AutoAdmissionTailGeneration where
  caravanId : PrNumber
  tailPr : PrNumber
  branch : String
  headOid : CommitOid
  held : Bool
  batchFull : Bool
deriving DecidableEq

inductive AutoAdmissionRefusalKind where
  | compatibility
  | terminalCi
  | requiredRuns
deriving DecidableEq

def AutoAdmissionRefusalKind.code : AutoAdmissionRefusalKind → String
  | .compatibility => "compatibility"
  | .terminalCi => "terminal_ci"
  | .requiredRuns => "required_runs"

structure AutoJoinSkipReceipt where
  schemaVersion : ℕ
  repository : RepositoryId
  candidatePr : PrNumber
  candidateHead : BranchSnapshot
  candidateBase : BranchSnapshot
  defaultBranch : BranchSnapshot
  testedTails : List AutoAdmissionTailGeneration
  configFingerprint : String
  heuristicVersion : String
  refusalKind : AutoAdmissionRefusalKind := .compatibility
  candidateCi : Option CiObservation := none
  requiredRuns : Option RequiredRunsAssessment := none
  compatibilityReasons : List String
  actor : String
  observedUnixSecs : ℕ
  evidenceHash : String
deriving DecidableEq

structure SkipWire where
  receiptJson : AutoJoinSkipReceipt → List UInt8
  parseReceipt : List UInt8 → Option AutoJoinSkipReceipt
  configJson : Config.CaravanConfig → List UInt8

section Receipts

variable (w : SkipWire)

namespace AutoJoinSkipReceipt

variable (receipt : AutoJoinSkipReceipt)

def materialHash : String := Fnv.fnv1a64 (w.receiptJson { receipt with evidenceHash := "" })

def finalizeHash : AutoJoinSkipReceipt := { receipt with evidenceHash := receipt.materialHash w }

def hashIsValid : Bool := decide (receipt.materialHash w = receipt.evidenceHash)

def marker : String :=
  String.ofList (autoAdmissionSkipPrefix.toList ++ Text.hexEncode (w.receiptJson receipt) ++ " -->".toList)

def refusalText : String := match receipt.refusalKind with
  | .compatibility => "was not mechanically eligible for any deterministic target"
  | .terminalCi => "has a current terminal CI verdict and was refused before membership"
  | .requiredRuns => "lacks required-run coverage and was refused before membership"

def commentText : String :=
  "\n### Cara automatic admission skip\n\nPR #" ++ toString receipt.candidatePr ++ " " ++
    receipt.refusalText ++ " under \x60" ++ receipt.heuristicVersion ++
    "\x60. This candidate-local refusal did not stop convergence of existing caravans. The evidence is " ++
    "bound to the exact candidate/default/tail/config and health generations and becomes stale " ++
    "automatically when any bound fact changes. Manual \x60cara new\x60, \x60join\x60, or " ++
    "\x60rejoin\x60 remains authoritative.\n\n- **Refusal:** \x60" ++ receipt.refusalKind.code ++
    "\x60\n- **Evidence:** \x60" ++ receipt.evidenceHash ++ "\x60\n- **Exact findings:** " ++
    toString receipt.compatibilityReasons.length ++ " (encoded in the receipt marker)\n"

def commentBody : String := String.ofList ((receipt.marker w).toList ++ receipt.commentText.toList)

def fromComment (body : String) : Option AutoJoinSkipReceipt := do
  let (_,remainder) ← Text.splitOnce autoAdmissionSkipPrefix.toList body.toList
  let (encoded,_) ← Text.splitOnce " -->".toList remainder
  let bytes ← Text.hexDecode encoded
  let receipt ← w.parseReceipt bytes
  if receipt.hashIsValid w then some receipt else none

end AutoJoinSkipReceipt

structure ForeignSkipCursor where
  schemaVersion : ℕ
  repository : RepositoryId
  pr : PrNumber
  headOid : CommitOid
  updatedAt : Option String
  configFingerprint : String
deriving DecidableEq

variable (config : Config.CaravanConfig) (status : StatusOutput)

def autoAdmissionConfigFingerprint : String := Fnv.fnv1a64 (w.configJson config)

def ForeignSkipCursor.matchesRow (cursor : ForeignSkipCursor) (repository : RepositoryId)
    (pull : PullRequestSnapshot) : Bool :=
  decide (cursor.schemaVersion = 1 ∧ cursor.repository = repository ∧ cursor.pr = pull.number ∧
    cursor.headOid = pull.head.oid ∧ cursor.updatedAt = pull.updatedAt ∧
    cursor.configFingerprint = autoAdmissionConfigFingerprint w config) &&
    pull.hasLabel autoAdmissionSkipLabel

def currentTailGenerationsBounded (batchBound : Option ℕ) : List AutoAdmissionTailGeneration :=
  (status.analysis.fleet.caravans.filter fun caravan => !caravan.parked).filterMap fun caravan => do
    let tailPr ← caravan.tail
    let tail ← status.analysis.pullRequests[tailPr]?
    return {
      caravanId := caravan.id
      tailPr := tailPr
      branch := tail.head.name
      headOid := tail.head.oid
      held := status.pauses.any fun pause =>
        pause.state.isEffective && decide (pause.record.caravanHead = caravan.id)
      batchFull := batchBound.any fun bound => decide (bound ≤ caravan.members.length) }

def checkFailed (check : CheckSnapshot) : Bool :=
  decide (check.state ∈ [.failure,.cancelled,.timedOut,.actionRequired,.unknown])

/-- Failure is decisive over pending, among the latest row of each identity. -/
def classifyChecks (checks : List CheckSnapshot) (forced : Bool) : CiDisposition :=
  let current := (latestChecksPerIdentity checks).1
  if forced then .forced
  else if current.any checkFailed then .failed
  else if current.isEmpty || current.any fun check => decide (check.state ∈ [.expected,.queued,.inProgress])
  then .waiting
  else .passing

def skipReceiptMatches (receipt : AutoJoinSkipReceipt) : Bool :=
  match status.analysis.pullRequests[receipt.candidatePr]? with
  | none => false
  | some candidate =>
      decide (receipt.schemaVersion = 1) && receipt.hashIsValid w &&
      decide (receipt.repository = status.repository ∧ receipt.candidateHead = candidate.head ∧
        receipt.candidateBase = candidate.base) &&
      (receipt.candidateCi.all fun observation =>
        decide (observation.checks = candidate.checks ∧
          observation.disposition = classifyChecks candidate.checks false)) &&
      decide (receipt.defaultBranch = status.analysis.fleet.defaultBranch ∧
        receipt.testedTails = currentTailGenerationsBounded status none ∧
        receipt.configFingerprint = autoAdmissionConfigFingerprint w config ∧
        receipt.heuristicVersion = autoAdmissionHeuristicVersion)

/-- The same policy and run generation, whatever time has passed and however it is worded. -/
def requiredRunsGenerationMatches (expected observed : RequiredRunsAssessment) : Bool :=
  decide ({ expected with headAgeSecs := none,graceElapsed := false,reason := "" } =
    { observed with headAgeSecs := none,graceElapsed := false,reason := "" }) &&
    (decide (expected.status = .failing) || decide (expected.graceElapsed = observed.graceElapsed))

end Receipts

section Calls

inductive Round where
  | stop
  | refuse (receipt : AutoJoinSkipReceipt)
  | enrol (candidate : PrNumber)

inductive SkipRequest where
  | overdue
  | githubBudgetSpent
  | loadCursor (pr : PrNumber)
  | removeCursor (pr : PrNumber)
  | writeCursor (pr : PrNumber) (cursor : ForeignSkipCursor)
  | commentBodies (pr : PrNumber)
  | observeRequiredRuns (pr : PrNumber)
  | ensureMarkedComment (expected : PullRequestPrecondition) (marker body : String)
  | addLabel (expected : PullRequestPrecondition) (label : String)
  | removeLabel (expected : PullRequestPrecondition) (label : String)
  | refreshStatus
  | nextRound (status : StatusOutput)
  | autoAdmit (candidate : PrNumber)

inductive SkipAnswer where
  | failed (error : MutationError)
  | refused (error : SyncError)
  | done
  | flag (value : Bool)
  | cursor (value : Option ForeignSkipCursor)
  | bodies (value : List String)
  | assessment (value : RequiredRunsAssessment)
  | receipt (value : GitHubMutationReceipt)
  | status (value : StatusOutput)
  | round (value : Round)
  | membership (steps : List MutationStep) (pullRequest : PullRequestSnapshot)

abbrev SkipM (α : Type) := Prog.Stateful SkipRequest SkipAnswer SyncError SyncProgress α

def skipCall {α : Type} (request : SkipRequest) (pr : Option PrNumber) (value : SkipAnswer → Option α) :
    SkipM α :=
  StateT.lift (Prog.query request fun answer => match answer with
    | .failed error => some (.error (mutationError error pr))
    | .refused error => some (.error error)
    | answer => (value answer).map .ok)

def SkipAnswer.flag? : SkipAnswer → Option Bool
  | .flag value => some value
  | _ => none

def SkipAnswer.cursor? : SkipAnswer → Option (Option ForeignSkipCursor)
  | .cursor value => some value
  | _ => none

def SkipAnswer.done? : SkipAnswer → Option Unit
  | .done => some ()
  | _ => none

def SkipAnswer.bodies? : SkipAnswer → Option (List String)
  | .bodies value => some value
  | _ => none

def SkipAnswer.assessment? : SkipAnswer → Option RequiredRunsAssessment
  | .assessment value => some value
  | _ => none

def SkipAnswer.receipt? : SkipAnswer → Option GitHubMutationReceipt
  | .receipt value => some value
  | _ => none

def SkipAnswer.status? : SkipAnswer → Option StatusOutput
  | .status value => some value
  | _ => none

def SkipAnswer.round? : SkipAnswer → Option Round
  | .round value => some value
  | _ => none

def SkipAnswer.membership? : SkipAnswer → Option (List MutationStep × PullRequestSnapshot)
  | .membership steps pullRequest => some (steps,pullRequest)
  | _ => none

def crashedSkip {α : Type} : SkipM α := StateT.lift Prog.crashed

/-- Facts of a tracked pull request; sync never asks for one it does not have. -/
def trackedPrecondition (pr : PrNumber) : SkipM PullRequestPrecondition := do
  match (← get).current[pr]? with
  | some snapshot => return .ofSnapshot snapshot
  | none => crashedSkip

def recordMarkedComment (receipt : GitHubMutationReceipt) (pr : PrNumber) (summary : String) :
    SkipM Unit :=
  if commentExisted receipt then
    modify fun p => (p.already .comment pr "marked comment already present").see pr receipt.after
  else modify (·.record receipt summary)

def refreshStatus : SkipM StatusOutput := do
  let status ← skipCall .refreshStatus none SkipAnswer.status?
  modify fun p => { p with current := status.analysis.pullRequests,mergeCandidates := status.mergeCandidates }
  return status

def hasMutationCapacity (p : SyncProgress) (reserve : ℕ) : Bool :=
  decide (p.completedMutationCount + reserve ≤ p.mutationLimit)

end Calls

section Revalidation

variable (w : SkipWire) (config : Config.CaravanConfig)

inductive AutoAdmissionContinuation where
  | complete
  | deadlineExhausted
  | githubRequestBudgetExhausted
  | mutationBudgetExhausted
deriving DecidableEq

structure AutoAdmissionOutput where
  continuation : AutoAdmissionContinuation := .complete
  skips : List AutoJoinSkipReceipt := []
  skipCursorHits : ℕ := 0
  skipCursorWrites : ℕ := 0

/-- The same human label was seen before; a cursor of another generation is dropped. -/
def cursorHit (status : StatusOutput) (pr : PrNumber) (candidate : PullRequestSnapshot) : SkipM Bool := do
  match ← skipCall (.loadCursor pr) none SkipAnswer.cursor? with
  | none => return false
  | some cursor =>
      if cursor.matchesRow w config status.repository candidate then
        modify (·.already .removeLabel pr "reused immutable foreign-skip cursor without rereading comments")
        return true
      skipCall (.removeCursor pr) none SkipAnswer.done?
      return false

def providerStateUnknown : SyncError where
  category := .executionFailure
  code := "auto_admission_provider_state_unknown"
  message := "automatic admission required-run evidence is incomplete, so candidate-local isolation " ++
    "is unsafe"

/-- Whether the retained receipt still explains the label. -/
def skipExact (status : StatusOutput) (pr : PrNumber) (retained : Option AutoJoinSkipReceipt) :
    SkipM Bool := do
  match retained with
  | none => return false
  | some receipt =>
      if !skipReceiptMatches w config status receipt then return false
      match receipt.requiredRuns with
      | none => return true
      | some expected =>
          let observed ← skipCall (.observeRequiredRuns pr) (some pr) SkipAnswer.assessment?
          if observed.status = .unknownProviderState then throw providerStateUnknown
          return requiredRunsGenerationMatches expected observed

def invalidationMarker (pr : PrNumber) (head : CommitOid) (hash : String) : String :=
  "<!-- caravan-auto-join-skip-invalidated:" ++ toString pr ++ ":" ++ head ++ ":" ++ hash ++ " -->"

def invalidationBody (marker hash : String) : String :=
  marker ++ "\n### Cara automatic admission skip invalidated\n\nThe prior skip evidence \x60" ++ hash ++
    "\x60 no longer matches the candidate, default, tail, config, or heuristic generation. The " ++
    "candidate is eligible for a fresh bounded retry.\n"

/-- Announce that the receipt is stale and take its label away. -/
def removeStaleSkip (pr : PrNumber) (candidate : PullRequestSnapshot) (receipt : AutoJoinSkipReceipt) :
    SkipM StatusOutput := do
  let marker := invalidationMarker pr candidate.head.oid receipt.evidenceHash
  let comment ← skipCall (.ensureMarkedComment (.ofSnapshot candidate) marker
    (invalidationBody marker receipt.evidenceHash)) (some pr) SkipAnswer.receipt?
  recordMarkedComment comment pr "posted stale-skip invalidation authorization"
  let removed ← skipCall (.removeLabel (← trackedPrecondition pr) autoAdmissionSkipLabel) (some pr)
    SkipAnswer.receipt?
  modify (·.record removed "removed stale generation-bound automatic admission skip")
  refreshStatus

/-- One skipped row: the status to go on with, unless the mutation budget is spent. -/
def revalidateRow (status : StatusOutput) (pr : PrNumber) (candidate : PullRequestSnapshot)
    (out : AutoAdmissionOutput) : SkipM (Option StatusOutput × AutoAdmissionOutput) := do
  let bodies ← skipCall (.commentBodies pr) (some pr) SkipAnswer.bodies?
  let retained := bodies.reverse.findSome? (AutoJoinSkipReceipt.fromComment w)
  if ← skipExact w config status pr retained then
    modify (·.already .comment pr "generation-bound automatic admission skip remains exact")
    return (some status,{ out with skips := out.skips ++ retained.toList })
  match retained with
  | none =>
      -- an absent receipt does not authorise the removal of a label
      skipCall (.writeCursor pr ⟨1,status.repository,pr,candidate.head.oid,candidate.updatedAt,
        autoAdmissionConfigFingerprint w config⟩) none SkipAnswer.done?
      modify (·.already .removeLabel pr
        "left a foreign admission skip alone: no Cara receipt, so the label is not ours to remove")
      return (some status,{ out with skipCursorWrites := out.skipCursorWrites + 1 })
  | some receipt =>
      if !hasMutationCapacity (← get) 2 then
        return (none,{ out with continuation := .mutationBudgetExhausted })
      let status ← removeStaleSkip pr candidate receipt
      return (some status,out)

def revalidateSkips : ℕ → StatusOutput → List PrNumber → AutoAdmissionOutput →
    SkipM (StatusOutput × AutoAdmissionOutput)
  | 0,_,_,_ => crashedSkip
  | turns + 1,status,validated,out => do
      if ← skipCall .overdue none SkipAnswer.flag? then
        return (status,{ out with continuation := .deadlineExhausted })
      if ← skipCall .githubBudgetSpent none SkipAnswer.flag? then
        return (status,{ out with continuation := .githubRequestBudgetExhausted })
      match status.admission.skipped.find? fun row => !validated.contains row.pr with
      | none => return (status,out)
      | some skipped =>
          match status.analysis.pullRequests[skipped.pr]? with
          | none => throw (validation "auto_admission_candidate_missing"
              ("skipped candidate #" ++ toString skipped.pr ++ " disappeared"))
          | some candidate =>
              if ← cursorHit w config status skipped.pr candidate then
                revalidateSkips turns status (skipped.pr::validated)
                  { out with skipCursorHits := out.skipCursorHits + 1 }
              else
                match ← revalidateRow w config status skipped.pr candidate out with
                | (none,out) => return (status,out)
                | (some status,out) => revalidateSkips turns status (skipped.pr::validated) out

end Revalidation

section Skips

variable (w : SkipWire)

def skipReceiptTooLarge : SyncError where
  category := .validation
  code := "auto_admission_skip_receipt_too_large"
  message := "the exact generation-bound skip receipt exceeds GitHub's bounded comment budget"

def candidateDisappeared (pr : PrNumber) : SyncError :=
  validation "auto_admission_candidate_missing" ("candidate #" ++ toString pr ++ " disappeared before skip")

/-- The receipt first, then its label: a label without a receipt could not be told from a hold. -/
def persistAutoSkip (receipt : AutoJoinSkipReceipt) : SkipM Bool := do
  let body := receipt.commentBody w
  if maxAutoAdmissionCommentBytes < body.utf8ByteSize then throw skipReceiptTooLarge
  if !((← get).current[receipt.candidatePr]?).isSome then throw (candidateDisappeared receipt.candidatePr)
  let comment ← skipCall (.ensureMarkedComment (← trackedPrecondition receipt.candidatePr)
    (receipt.marker w) body) (some receipt.candidatePr) SkipAnswer.receipt?
  recordMarkedComment comment receipt.candidatePr "posted durable automatic admission skip receipt"
  match (← get).current[receipt.candidatePr]? with
  | none => throw (candidateDisappeared receipt.candidatePr)
  | some candidate =>
      if candidate.hasLabel autoAdmissionSkipLabel then return !commentExisted comment
      let labelled ← skipCall (.addLabel (.ofSnapshot candidate) autoAdmissionSkipLabel)
        (some receipt.candidatePr) SkipAnswer.receipt?
      modify (·.record labelled "added generation-bound automatic admission skip")
      return true

/-- The admission loop: each round refuses a candidate, admits one, or ends the loop. -/
def admissionRounds : ℕ → StatusOutput → SkipM StatusOutput
  | 0,_ => crashedSkip
  | turns + 1,status => do
      match ← skipCall (.nextRound status) none SkipAnswer.round? with
      | .stop => return status
      | .refuse receipt =>
          let _ ← persistAutoSkip w (receipt.finalizeHash w)
          admissionRounds turns (← refreshStatus)
      | .enrol candidate =>
          let (steps,pullRequest) ← skipCall (.autoAdmit candidate) (some candidate) SkipAnswer.membership?
          modify fun p => { p with steps := p.steps ++ steps }.see pullRequest.number pullRequest
          admissionRounds turns (← refreshStatus)

/-- The automatic admission of one tick: old skips first, then new rounds. -/
def runAutoAdmission (config : Config.CaravanConfig) (turns : ℕ) (status : StatusOutput) :
    SkipM (StatusOutput × AutoAdmissionOutput) := do
  modify fun p => { p with current := status.analysis.pullRequests,mergeCandidates := status.mergeCandidates }
  let (status,out) ← revalidateSkips w config turns status [] {}
  if out.continuation = .complete then return (← admissionRounds w turns status,out)
  return (status,out)

end Skips

end Sync
end Cara
