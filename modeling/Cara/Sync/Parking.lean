import Cara.Config
import Cara.Github.RequiredPolicy
import Cara.GraphMembership
import Cara.Lib.JsonSorted
import Cara.PauseStorage
import Cara.Unpark

/-! Quarantine of terminal-red caravans. A caravan one of whose members is terminally red on a complete landing
policy is labelled parked, and the label is removed when every member is green; each transition is told in a
comment before the label is written. -/
namespace Cara
namespace Sync
namespace Parking

open Pause.Storage (checksValue textsValue numbersValue)
open RequiredRuns (RequiredCheck RequiredContextCoverage RequiredContextsRead RequiredContextState
  RequiredRunsAssessment RequiredRunsRecovery RequiredRunsStatus)
open JsonValue (optionalField)
open Unpark (parkedLabel)

section Verdict

/-- A verdict that no later report of the same run will change. -/
def isTerminal (state : CheckState) : Bool :=
  decide (state = .failure ∨ state = .cancelled ∨ state = .timedOut ∨ state = .actionRequired)

def isAwaited (state : CheckState) : Bool :=
  decide (state = .expected ∨ state = .queued ∨ state = .inProgress)

def hasState (checks : List CheckSnapshot) (state : CheckState) : Bool :=
  checks.any fun check => decide (check.state = state)

def parkingFailureClassification (checks : List CheckSnapshot) : String :=
  if hasState checks .failure then "source_or_infrastructure_failure"
  else if hasState checks .timedOut then "transport_or_timeout"
  else if hasState checks .cancelled then "cancellation"
  else if hasState checks .actionRequired then "action_required"
  else "unknown"

structure MemberVerdict where
  pr : PrNumber
  head : CommitOid
  checks : List CheckSnapshot
  terminal : List CheckSnapshot
  allChecks : List CheckSnapshot
  requiredRuns : RequiredRunsAssessment
  supersededChecks : List CheckSnapshot
  classification : String
deriving DecidableEq

structure ParkingFailure where
  pr : PrNumber
  head : CommitOid
  checks : List CheckSnapshot
  supersededChecks : List CheckSnapshot
  classification : String
deriving DecidableEq

variable (policy : RequiredContextsRead) (number : PrNumber) (pull : PullRequestSnapshot) (nowUnix : ℕ)

def memberRuns : RequiredRunsAssessment :=
  RequiredRuns.assess {
    pr := number
    head := pull.head
    base := pull.base
    contexts := policy
    checks := pull.checks
    headPublishedAt := pull.updatedAt
    clock := ⟨nowUnix,0⟩ }

def currentRequired : List CheckSnapshot :=
  (latestChecksPerIdentity pull.checks).1.filter fun check =>
    policy.checks.any fun required => required.matchesRow check pull.head.oid

def terminalRows : List CheckSnapshot :=
  (currentRequired policy pull).filter fun check => policy.complete && isTerminal check.state

def classification : String :=
  if !(terminalRows policy pull).isEmpty then parkingFailureClassification (currentRequired policy pull)
  else if Unpark.isGreen (memberRuns policy number pull nowUnix) then "green"
  else if (currentRequired policy pull).any fun check => isAwaited check.state then "pending"
  else "unknown"

def memberVerdict : MemberVerdict where
  pr := number
  head := pull.head.oid
  checks := currentRequired policy pull
  terminal := terminalRows policy pull
  allChecks := pull.checks
  requiredRuns := memberRuns policy number pull nowUnix
  supersededChecks := (latestChecksPerIdentity pull.checks).2
  classification := classification policy number pull nowUnix

def failuresOf (verdicts : List MemberVerdict) : List ParkingFailure :=
  (verdicts.filter fun verdict => !verdict.terminal.isEmpty).map fun verdict =>
    ⟨verdict.pr,verdict.head,verdict.terminal,verdict.supersededChecks,verdict.classification⟩

end Verdict

section Evidence

def branchValue (b : BranchSnapshot) : JsonValue :=
  .obj [("repository",.obj [("owner",.str b.repository.owner),("name",.str b.repository.name)]),
    ("name",.str b.name),("oid",.str b.oid)]

def requiredCheckValue (required : RequiredCheck) : JsonValue :=
  .obj (("context",.str required.context)::optionalField "app_id" required.appId .num)

def contextsReadValue (read : RequiredContextsRead) : JsonValue :=
  .obj [("branch",.str read.branch),("protected",.bool read.isProtected),("contexts",textsValue read.contexts),
    ("checks",.arr (read.checks.map requiredCheckValue)),("complete",.bool read.complete)]

def contextStateName : RequiredContextState → String
  | .passing => "passing"
  | .pending => "pending"
  | .failing => "failing"
  | .cancelledSuperseded => "cancelled_superseded"
  | .missing => "missing"
  | .unknown => "unknown"

def runsStatusName : RequiredRunsStatus → String
  | .notRequired => "not_required"
  | .satisfied => "satisfied"
  | .pending => "pending"
  | .failing => "failing"
  | .cancelledSuperseded => "cancelled_superseded"
  | .awaitingGrace => "awaiting_grace"
  | .missingRequiredRuns => "missing_required_runs"
  | .unknownProviderState => "unknown_provider_state"

def recoveryValue : RequiredRunsRecovery → JsonValue
  | .none => .obj [("kind",.str "none")]
  | .awaitGrace => .obj [("kind",.str "await_grace")]
  | .rerequestCheckSuite checkSuiteId =>
      .obj [("kind",.str "rerequest_check_suite"),("check_suite_id",.num checkSuiteId)]
  | .operatorAction => .obj [("kind",.str "operator_action")]

def coverageValue (coverage : RequiredContextCoverage) : JsonValue :=
  .obj (("context",.str coverage.context)::(optionalField "app_id" coverage.appId .num ++
    (("state",.str (contextStateName coverage.state))::
    ("reporting_checks",textsValue coverage.reportingChecks)::
    ("current_reporting_checks",textsValue coverage.currentReportingChecks)::
    optionalField "provider_state" coverage.providerState .str)))

def assessmentValue (a : RequiredRunsAssessment) : JsonValue :=
  .obj (("pr",.num a.pr)::("head",branchValue a.head)::("base",branchValue a.base)::
    ("status",.str (runsStatusName a.status))::("required_contexts",textsValue a.requiredContexts)::
    (optionalField "required_policy" a.requiredPolicy contextsReadValue ++
    (("coverage",.arr (a.coverage.map coverageValue))::("missing_contexts",textsValue a.missingContexts)::
    ("observed_check_suites",.num a.observedCheckSuites)::("observed_runs",.num a.observedRuns)::
    ("stale_head_runs",.num a.staleHeadRuns)::
    ("provider_reads_complete",.bool a.providerReadsComplete)::
    (optionalField "head_age_secs" a.headAgeSecs .num ++
    [("grace_secs",.num a.graceSecs),("grace_elapsed",.bool a.graceElapsed),
      ("recovery",recoveryValue a.recovery),("reason",.str a.reason)]))))

def caravanValue (c : Caravan) : JsonValue :=
  .obj [("id",.num c.id),("members",numbersValue c.members),("parked",.bool c.parked)]

def verdictValue (verdict : MemberVerdict) : JsonValue :=
  .obj [("pr",.num verdict.pr),("head",.str verdict.head),("checks",checksValue verdict.checks),
    ("all_checks",checksValue verdict.allChecks),("required_runs",assessmentValue verdict.requiredRuns),
    ("superseded_checks",checksValue verdict.supersededChecks),
    ("classification",.str verdict.classification)]

def failureValue (failure : ParkingFailure) : JsonValue :=
  .obj [("pr",.num failure.pr),("head",.str failure.head),("checks",checksValue failure.checks),
    ("superseded_checks",checksValue failure.supersededChecks),
    ("classification",.str failure.classification)]

structure ParkingEvidence where
  caravan : Caravan
  head : PullRequestSnapshot
  verdicts : List MemberVerdict
  requiredRuns : Option (List RequiredRunsAssessment)
deriving DecidableEq

namespace ParkingEvidence

variable (e : ParkingEvidence)

def failures : List ParkingFailure := failuresOf e.verdicts

def shouldPark : Bool := !e.failures.isEmpty

def value : JsonValue :=
  .obj [("caravan",caravanValue e.caravan),("failures",.arr (e.failures.map failureValue)),
    ("verdicts",.arr (e.verdicts.map verdictValue)),
    ("required_runs",(e.requiredRuns.map fun runs => JsonValue.arr (runs.map assessmentValue)).getD .null),
    ("head",branchValue e.head.head),("policy",.str "park")]

def fingerprint : String :=
  Fnv.fnv1a64 (Text.utf8Bytes (String.ofList (JsonValue.text none e.value.sorted)))

def transition : String := if e.shouldPark then "park" else "auto_unpark"

def marker : String :=
  "<!-- cara-terminal-red-transition:v1:" ++ e.transition ++ ":" ++ toString e.caravan.id ++ ":" ++
    e.head.head.oid ++ ":" ++ e.fingerprint ++ " -->"

def findings : List String :=
  let rows := e.failures.flatMap fun failure => failure.checks.map fun check =>
    "#" ++ toString failure.pr ++ " \x60" ++ check.name ++ "\x60=\x60" ++ Pause.checkStateName check.state ++
      "\x60"
  if rows.isEmpty then ["current terminal check evidence (encoded in the fingerprint)"] else rows.take 12

def comment : String :=
  let generation := "- **Exact generation:** PR #" ++ toString e.caravan.id ++ " at \x60" ++ e.head.head.oid ++
    "\x60\n"
  if e.shouldPark then e.marker ++ "\n### Cara parked this caravan\n\n" ++ generation ++
    "- **Why:** the newest current CI verdict is terminal: " ++ ", ".intercalate e.findings ++
    "\n- **Effect:** Cara preserved every PR, branch, base, and membership edge; disabled root " ++
    "auto-merge; and removed this caravan from active queue capacity. Nothing was closed or evicted.\n" ++
    "- **Automatic recovery:** normal \x60cara sync\x60 removes only \x60caravan-parked\x60 after the newest " ++
    "current checks for every member are fully green and every protection-required context is satisfied. " ++
    "Pending or incomplete evidence leaves it parked with zero writes.\n- **Evidence fingerprint:** \x60" ++
    e.fingerprint ++ "\x60\n"
  else e.marker ++ "\n### Cara automatically reactivated this caravan\n\n" ++ generation ++
    "- **Why:** the newest current CI verdict is fully green for every member and all " ++
    toString ((e.requiredRuns.map (·.length)).getD 0) ++
    " required-run assessment(s) are satisfied or not required.\n- **Effect:** Cara removed only " ++
    "\x60caravan-parked\x60; original membership, branches, bases, and FIFO age were preserved. Normal " ++
    "deterministic convergence may now merge the caravan.\n- **Evidence fingerprint:** \x60" ++
    e.fingerprint ++ "\x60\n"

end ParkingEvidence

end Evidence

section Reconcile

structure ParkingEvent where
  parked : Bool
  evidence : ParkingEvidence
  providerReceipts : List GitHubMutationReceipt

structure ParkingReconciliation where
  changed : Bool := false
  steps : List MutationStep := []
  providerReceipts : List GitHubMutationReceipt := []
  events : List ParkingEvent := []

inductive ParkingDetail where
  | mutation (caravan : Caravan) (failures : List ParkingFailure) (receipts : List GitHubMutationReceipt)
      (mutated resumable : Bool) (next : String)
  | comment (caravan : Caravan) (transition fingerprint : String) (labelMutated : Bool)
      (commentOutcome : String) (resumable : Bool) (dedupe next : String)
  | policy (expected actual : RequiredContextsRead) (receipts : List GitHubMutationReceipt)

abbrev ParkingError := AppError ParkingDetail

abbrev ParkingIo (α : Type) := Prog.Fallible SyncRequest SyncAnswer ParkingError α

def ask {α : Type} (request : SyncRequest) (onError : MutationError → ParkingError)
    (value : SyncAnswer → Option α) : ParkingIo α :=
  Prog.query request fun answer => match answer with
    | .failed error => some (.error (onError error))
    | answer => (value answer).map .ok

def receiptOf : SyncAnswer → Option GitHubMutationReceipt
  | .receipt receipt => some receipt
  | _ => none

def pullOf : SyncAnswer → Option PullRequestSnapshot
  | .pullRequest pull => some pull
  | _ => none

def parkingMutationError (caravan : Caravan) (failures : List ParkingFailure)
    (receipts : List GitHubMutationReceipt) (error : MutationError) : ParkingError where
  category := .executionFailure
  code := "terminal_red_parking_failed"
  message := "terminal-red parking transition failed: " ++ error.display
  details := some (.mutation caravan failures receipts (!receipts.isEmpty) true
    ("rediscover and rerun the same sync; the deterministic transition comment deduplicates and no " ++
      "unaudited label transition is authorized"))

def parkingCommentMutationError (e : ParkingEvidence) (error : MutationError) : ParkingError where
  category := .executionFailure
  code := "terminal_red_transition_comment_failed"
  message := "terminal-red " ++ e.transition ++ " audit comment failed before the label transition: " ++
    error.display
  details := some (.comment e.caravan e.transition e.fingerprint false "indeterminate" true
    "deterministic GitHub-visible cara-terminal-red-transition marker"
    "rediscover and rerun the same sync; never raw-edit the parking label")

def policyChanged (expected actual : RequiredContextsRead) (receipts : List GitHubMutationReceipt) :
    ParkingError where
  category := .validation
  code := "parking_required_policy_changed"
  message := "landing-target required-check policy changed before parking transition"
  details := some (.policy expected actual receipts)

variable (status : StatusOutput)

def target : String := status.analysis.fleet.defaultBranch.name

/-- The policy that was read; a failed read is an incomplete one. -/
def policyOf : SyncAnswer → Option (Except ParkingError RequiredContextsRead)
  | .contexts read => some (.ok read.normalized)
  | .failed _ => some (.ok (RequiredPolicy.incomplete (target status)).normalized)
  | _ => none

def readPolicy : ParkingIo RequiredContextsRead :=
  Prog.query (.branchRequiredContexts status.repository (target status)) (policyOf status)

/-- Complete only when it was read for the landing branch. -/
def landing (policy : RequiredContextsRead) : RequiredContextsRead :=
  { policy with complete := policy.complete && decide (policy.branch = target status) }

def clockOf : SyncAnswer → Option (Except ParkingError ℕ)
  | .clock now => some (.ok now)
  | _ => none

def nowUnix : ParkingIo ℕ := Prog.query .nowUnix clockOf

def memberVerdicts (policy : RequiredContextsRead) (members : List PrNumber) : ParkingIo (List MemberVerdict) :=
  Prog.forEach members fun number =>
    match status.analysis.pullRequests[number]? with
    | none => Prog.crashed
    | some pull => do
        let now ← nowUnix
        return memberVerdict policy number pull now

/-- The assessments of the members, when all of them are green. -/
def greenRuns (contexts : RequiredContextsRead) : List PrNumber → ParkingIo (Option (List RequiredRunsAssessment))
  | [] => pure (some [])
  | number::rest =>
      match status.analysis.pullRequests[number]? with
      | none => pure none
      | some pull => do
          let now ← nowUnix
          let assessment := memberRuns contexts pull.number pull now
          if Unpark.isGreen assessment then do
            let runs ← greenRuns contexts rest
            return runs.map (assessment::·)
          else pure none

def greenPolicyOf : SyncAnswer → Option (Except ParkingError (Option RequiredContextsRead))
  | .contexts read => some (.ok (some read.normalized))
  | .failed _ => some (.ok none)
  | _ => none

def parkingRequiredRunsGreen (c : Caravan) : ParkingIo (Option (List RequiredRunsAssessment)) := do
  match ← Prog.query (.branchRequiredContexts status.repository (target status)) greenPolicyOf with
  | none => return none
  | some contexts =>
      if !contexts.complete || decide (contexts.branch ≠ target status) then return none
      else greenRuns status contexts c.members

def holdParked (e : ParkingEvidence) (output : ParkingReconciliation) : ParkingIo ParkingReconciliation :=
  if e.head.autoMerge.enabled then do
    let receipt ← ask (.disableAutoMerge status.repository (.ofSnapshot e.head))
      (parkingMutationError e.caravan e.failures output.providerReceipts) receiptOf
    return { output with
      changed := true
      steps := output.steps ++ [⟨.disableAutoMerge,.completed,some e.caravan.id,
        "disabled auto-merge on parked caravan head"⟩]
      providerReceipts := output.providerReceipts ++ [receipt] }
  else pure output

def verifyWithChecks (e : ParkingEvidence) (pull : PullRequestSnapshot) (output : ParkingReconciliation) :
    ParkingIo PullRequestSnapshot :=
  ask (.verifyPullRequestWithChecks status.repository (.ofSnapshot pull))
    (parkingMutationError e.caravan e.failures output.providerReceipts) pullOf

def toldStep (e : ParkingEvidence) (receipt : GitHubMutationReceipt) : MutationStep where
  kind := .comment
  state := if receipt.providerOutput.any fun output => Text.startsWith output "existing GitHub comment" then
    .alreadySatisfied else .completed
  pr := some e.caravan.id
  summary := if e.shouldPark then "posted durable terminal-red parking audit"
    else "posted durable automatic-unpark audit"

def tell (e : ParkingEvidence) (output : ParkingReconciliation) : ParkingIo ParkingReconciliation := do
  let _ ← verifyWithChecks status e e.head output
  let receipt ← ask (.ensureMarkedComment status.repository (.ofSnapshot e.head) e.marker e.comment)
    (parkingCommentMutationError e) receiptOf
  return { output with
    steps := output.steps ++ [toldStep e receipt]
    providerReceipts := output.providerReceipts ++ [receipt] }

/-- The generation that was decided on, proved again behind the comment. -/
def prove (policy : RequiredContextsRead) (e : ParkingEvidence) (output : ParkingReconciliation) :
    ParkingIo Unit := do
  let _ ← verifyWithChecks status e e.head output
  let fresh ← readPolicy status
  Prog.refuseIf (decide (fresh ≠ policy) || !fresh.complete)
    (policyChanged policy fresh output.providerReceipts)
  let _ ← Prog.forEach e.caravan.members fun number =>
    match status.analysis.pullRequests[number]? with
    | none => Prog.crashed
    | some pull => verifyWithChecks status e pull output
  return ()

def writeLabel (e : ParkingEvidence) (output : ParkingReconciliation) : ParkingIo GitHubMutationReceipt :=
  ask (if e.shouldPark then .addLabel status.repository (.ofSnapshot e.head) parkedLabel
    else .removeLabel status.repository (.ofSnapshot e.head) parkedLabel)
    (parkingMutationError e.caravan e.failures output.providerReceipts) receiptOf

def labelled (e : ParkingEvidence) (receipt : GitHubMutationReceipt) (output : ParkingReconciliation) :
    ParkingReconciliation :=
  { output with
    changed := true
    steps := output.steps ++ [⟨if e.shouldPark then .addLabel else .removeLabel,.completed,some e.caravan.id,
      if e.shouldPark then "parked exact terminal-red caravan outside active capacity"
      else "reactivated parked caravan after the complete current verdict turned green"⟩]
    providerReceipts := output.providerReceipts ++ [receipt] }

def disarm (e : ParkingEvidence) (after : PullRequestSnapshot) (output : ParkingReconciliation) :
    ParkingIo ParkingReconciliation :=
  if e.shouldPark && after.autoMerge.enabled then do
    let receipt ← ask (.disableAutoMerge status.repository (.ofSnapshot after))
      (parkingMutationError e.caravan e.failures output.providerReceipts) receiptOf
    return { output with
      steps := output.steps ++ [⟨.disableAutoMerge,.completed,some e.caravan.id,
        "disabled auto-merge on newly parked caravan head"⟩]
      providerReceipts := output.providerReceipts ++ [receipt] }
  else pure output

/-- Audit, proof, label, auto-merge, event. The event has the receipts of this caravan. -/
def transit (policy : RequiredContextsRead) (e : ParkingEvidence) (output : ParkingReconciliation) :
    ParkingIo ParkingReconciliation := do
  let told ← tell status e output
  prove status policy e told
  let receipt ← writeLabel status e told
  let done ← disarm status e receipt.after (labelled e receipt told)
  return { done with
    events := done.events ++
      [⟨e.shouldPark,e,done.providerReceipts.drop output.providerReceipts.length⟩] }

/-- The evidence for a recovery, asked for only when a parked head can recover. -/
def recoveryRuns (c : Caravan) (head : PullRequestSnapshot) (verdicts : List MemberVerdict) :
    ParkingIo (Option (List RequiredRunsAssessment)) :=
  if head.hasLabel parkedLabel && (failuresOf verdicts).isEmpty &&
      verdicts.all fun verdict => Unpark.isGreen verdict.requiredRuns then
    parkingRequiredRunsGreen status c
  else pure none

/-- Terminal red parks, complete green evidence unparks, and anything else keeps the label. -/
def act (policy : RequiredContextsRead) (e : ParkingEvidence) (output : ParkingReconciliation) :
    ParkingIo ParkingReconciliation :=
  if e.head.hasLabel parkedLabel && e.requiredRuns.isNone then holdParked status e output
  else if !e.head.hasLabel parkedLabel && !e.shouldPark then pure output
  else transit status policy e output

def reconcileCaravan (policy : RequiredContextsRead) (c : Caravan) (output : ParkingReconciliation) :
    ParkingIo ParkingReconciliation := do
  let verdicts ← memberVerdicts status policy c.members
  match status.analysis.pullRequests[c.id]? with
  | none => Prog.crashed
  | some head => do
      let green ← recoveryRuns status c head verdicts
      act status policy ⟨c,head,verdicts,green⟩ output

def reconcileCaravans (policy : RequiredContextsRead) :
    List Caravan → ParkingReconciliation → ParkingIo ParkingReconciliation
  | [],output => pure output
  | c::rest,output => do
      let output ← reconcileCaravan status policy c output
      reconcileCaravans policy rest output

def reconcileTerminalRedParking (config : Config.CaravanConfig) : ParkingIo ParkingReconciliation :=
  if config.sync.terminalRed = .park then do
    let policy ← readPolicy status
    reconcileCaravans status (landing status policy) status.analysis.fleet.caravans {}
  else pure {}

end Reconcile

section Facts

variable (status : StatusOutput)

/-- Some member has a current row of a required check that is terminally red, on a complete policy. -/
def TerminalRed (policy : RequiredContextsRead) (c : Caravan) : Prop :=
  policy.complete = true ∧ ∃ number ∈ c.members,∃ pull,status.analysis.pullRequests[number]? = some pull ∧
    ∃ check ∈ (latestChecksPerIdentity pull.checks).1,
      (∃ required ∈ policy.checks,required.matchesRow check pull.head.oid = true) ∧
      (check.state = .failure ∨ check.state = .cancelled ∨ check.state = .timedOut ∨
        check.state = .actionRequired)

/-- Every member is satisfied or has nothing required of it, whatever the time. -/
def AllGreen (policy : RequiredContextsRead) (c : Caravan) : Prop :=
  ∀ number ∈ c.members,∃ pull,status.analysis.pullRequests[number]? = some pull ∧ ∀ nowUnix,
    (memberRuns policy number pull nowUnix).status = .satisfied ∨
      (memberRuns policy number pull nowUnix).status = .notRequired

variable {status} {policy : RequiredContextsRead} {number number' : PrNumber} {pull pull' : PullRequestSnapshot}
  {now now' : ℕ} {c : Caravan}

theorem isGreen_iff (a : RequiredRunsAssessment) :
    Unpark.isGreen a = true ↔ a.status = .satisfied ∨ a.status = .notRequired := decide_eq_true_iff

theorem stateFromChecks_ne_missing {rows : List CheckSnapshot} {state : RequiredContextState}
    {provider : Option String} (h : RequiredRuns.stateFromChecks rows = some (state,provider)) :
    state ≠ .missing := by
  unfold RequiredRuns.stateFromChecks at h
  dsimp only at h
  split at h
  · cases h
  · split at h
    · cases h
      simp
    · obtain ⟨hstate,_⟩ := Prod.mk.inj (Option.some_inj.mp h)
      rw [← hstate]
      repeat' split
      all_goals simp

theorem coverageOf_ne_missing {input : RequiredRuns.RequiredRunsInput} (h : input.lineage = none)
    (required : RequiredCheck) : (RequiredRuns.coverageOf input required).state ≠ .missing := by
  unfold RequiredRuns.coverageOf
  dsimp only
  rw [h]
  cases hstate : RequiredRuns.stateFromChecks (RequiredRuns.currentMatching input required) with
  | none => simp [RequiredRuns.stateFromLineage]
  | some classified => exact stateFromChecks_ne_missing hstate

theorem memberRuns_noMissing (input : RequiredRuns.RequiredRunsInput) (h : input.lineage = none)
    (required : List RequiredCheck) :
    RequiredRuns.hasState ((required.map (RequiredRuns.coverageOf input)).take RequiredRuns.maxReportedContexts)
      .missing = false := by
  unfold RequiredRuns.hasState
  rw [List.any_eq_false]
  intro item hitem
  obtain ⟨check,_,rfl⟩ := List.mem_map.mp (List.mem_of_mem_take hitem)
  simpa using coverageOf_ne_missing h check

theorem verdict_status {input input' : RequiredRuns.RequiredRunsInput} {coverage : List RequiredContextCoverage}
    (h : RequiredRuns.hasState coverage .missing = false)
    (hlineage : RequiredRuns.lineageComplete input = RequiredRuns.lineageComplete input') :
    (RequiredRuns.verdict input policy coverage).1 = (RequiredRuns.verdict input' policy coverage).1 := by
  unfold RequiredRuns.verdict
  rw [h,hlineage]
  split
  · rfl
  · rw [if_neg Bool.false_ne_true,if_neg Bool.false_ne_true]
    repeat' split
    all_goals rfl

theorem memberRuns_status (policy : RequiredContextsRead) (number number' : PrNumber)
    (pull : PullRequestSnapshot) (now now' : ℕ) :
    (memberRuns policy number pull now).status = (memberRuns policy number' pull now').status := by
  unfold memberRuns RequiredRuns.assess
  dsimp only
  split
  · rfl
  · exact verdict_status (memberRuns_noMissing _ rfl _) rfl

theorem isGreen_memberRuns (policy : RequiredContextsRead) (number number' : PrNumber)
    (pull : PullRequestSnapshot) (now now' : ℕ) :
    Unpark.isGreen (memberRuns policy number pull now) =
      Unpark.isGreen (memberRuns policy number' pull now') := by
  unfold Unpark.isGreen
  rw [memberRuns_status policy number number' pull now now']

/-- On facts that permit the one transition the other is not permitted. -/
theorem not_allGreen_of_terminalRed (h : TerminalRed status policy c) : ¬AllGreen status policy c := by
  obtain ⟨_,number,hnumber,pull,hpull,check,hcurrent,⟨required,hrequired,hmatches⟩,hstate⟩ := h
  intro hgreen
  obtain ⟨found,hfound,hstatus⟩ := hgreen number hnumber
  rw [hpull] at hfound
  cases hfound
  have hsound := RequiredRuns.assess_coverageSound {
    pr := number
    head := pull.head
    base := pull.base
    contexts := policy
    checks := pull.checks
    headPublishedAt := pull.updatedAt
    clock := ⟨0,0⟩ }
  rcases hstatus 0 with hsatisfied | hexempt
  · obtain ⟨_,_,hcovered⟩ := hsound.satisfied hsatisfied
    have hrow := (hcovered required (.inl hrequired)).2 check ⟨hcurrent,rfl⟩ hmatches
    rcases hstate with hstate | hstate | hstate | hstate <;> simp [hstate] at hrow
  · exact (hsound.notRequired hexempt).2 required (.inl hrequired)

end Facts

end Parking
end Sync
end Cara
