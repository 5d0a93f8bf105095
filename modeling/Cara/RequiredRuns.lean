import Cara.Checks
import Cara.Lib.Vec
import Mathlib.Data.List.Sort
import Mathlib.Data.List.Dedup

/-! Required-run coverage of one exact head. The landing policy is normalized, every
required check is classified from the current rows of the rollup or from the lineage of
the head, and the per-check states are folded into one verdict with its recovery. -/
namespace Cara
namespace RequiredRuns

def maxReportedContexts : ℕ := 32

structure RequiredCheck where
  context : String
  appId : Option ℕ := none
deriving DecidableEq

namespace RequiredCheck

/-- Same-named rows of a foreign App or a stale commit neither satisfy nor fail it. -/
def matchesRow (r : RequiredCheck) (check : CheckSnapshot) (head : CommitOid) : Bool :=
  decide (check.name = r.context) && decide (check.providerKind ≠ some "WorkflowRunLineage") &&
    check.headOid.all (fun oid => decide (oid = head)) &&
    r.appId.all fun app => decide (check.appId = some app ∧ check.headOid = some head)

/-- Order by context, then by App with the unbound requirement first. -/
def le (a b : RequiredCheck) : Prop :=
  a.context < b.context ∨ a.context = b.context ∧
    match a.appId,b.appId with
    | none,_ => True
    | some _,none => False
    | some x,some y => x ≤ y

instance : DecidableRel le := fun a b => by
  unfold le
  cases a.appId <;> cases b.appId <;> infer_instance

end RequiredCheck

structure RequiredContextsRead where
  branch : String
  isProtected : Bool
  contexts : List String := []
  checks : List RequiredCheck := []
  complete : Bool
deriving DecidableEq

namespace RequiredContextsRead

/-- Name-only contexts join the typed checks unless one of the same name refines them. -/
def refineChecks (checks : List RequiredCheck) (contexts : List String) : List RequiredCheck :=
  contexts.foldl (fun acc context =>
    if acc.any fun check => decide (check.context = context) then acc
    else acc ++ [⟨context,none⟩]) checks

/-- All requirements, ordered and without repetition, before the diagnostic bound. -/
def merged (read : RequiredContextsRead) : List RequiredCheck :=
  Vec.dedupAdjacent ((refineChecks read.checks read.contexts).insertionSort RequiredCheck.le)

def normalized (read : RequiredContextsRead) : RequiredContextsRead :=
  let checks := read.merged
  let contexts := Vec.dedupAdjacent ((checks.map (·.context)).insertionSort (· ≤ ·))
  let bounded := decide (checks.length ≤ maxReportedContexts) &&
    checks.all fun check => decide (check.context ≠ "" ∧ check.appId ≠ some 0)
  { read with
    checks := checks.take maxReportedContexts
    contexts := contexts.take maxReportedContexts
    complete := read.complete && bounded }

def requiredChecks (read : RequiredContextsRead) (checks : List CheckSnapshot) (head : CommitOid) :
    List CheckSnapshot :=
  (latestChecksPerIdentity checks).1.filter fun check =>
    read.normalized.checks.any fun required => required.matchesRow check head

end RequiredContextsRead

structure CheckSuiteLineage where
  id : ℕ
  headSha : String
  status : String
  conclusion : String
  appSlug : String := ""
  rerequestable : Bool
deriving DecidableEq

structure WorkflowRunLineage where
  runId : ℕ
  checkSuiteId : ℕ
  workflowName : String
  headSha : String
  status : String
  conclusion : String
  event : String
deriving DecidableEq

structure HeadRunLineage where
  headSha : String := ""
  checkSuites : List CheckSuiteLineage := []
  workflowRuns : List WorkflowRunLineage := []
  headCommittedAt : Option String := none
  complete : Bool := false
deriving DecidableEq

/-- Whether a status and conclusion pair is still expected to report. -/
def lineageIsLive (status conclusion : String) : Bool :=
  (["queued","in_progress","requested","waiting","pending","action_required"].any
    (Text.eqIgnoreAsciiCase status)) || decide (status = "" ∧ conclusion = "")

def lineageIsAbandoned (conclusion : String) : Bool :=
  ["cancelled","stale","skipped"].any (Text.eqIgnoreAsciiCase conclusion)

inductive RequiredContextState where
  | passing
  | pending
  | failing
  | cancelledSuperseded
  | missing
  | unknown
deriving DecidableEq

structure RequiredContextCoverage where
  context : String
  appId : Option ℕ := none
  state : RequiredContextState
  reportingChecks : List String := []
  currentReportingChecks : List String := []
  providerState : Option String := none
deriving DecidableEq

inductive RequiredRunsStatus where
  | notRequired
  | satisfied
  | pending
  | failing
  | cancelledSuperseded
  | awaitingGrace
  | missingRequiredRuns
  | unknownProviderState
deriving DecidableEq

inductive RequiredRunsRecovery where
  | none
  | awaitGrace
  | rerequestCheckSuite (checkSuiteId : ℕ)
  | operatorAction
deriving DecidableEq

structure RequiredRunsClock where
  nowUnix : ℕ
  graceSecs : ℕ
deriving DecidableEq

structure RequiredRunsInput where
  pr : PrNumber
  head : BranchSnapshot
  base : BranchSnapshot
  contexts : RequiredContextsRead
  lineage : Option HeadRunLineage := none
  checks : List CheckSnapshot
  headPublishedAt : Option String := none
  clock : RequiredRunsClock
deriving DecidableEq

structure RequiredRunsAssessment where
  pr : PrNumber
  head : BranchSnapshot
  base : BranchSnapshot
  status : RequiredRunsStatus
  requiredContexts : List String
  requiredPolicy : Option RequiredContextsRead
  coverage : List RequiredContextCoverage
  missingContexts : List String
  observedCheckSuites : ℕ
  observedRuns : ℕ
  staleHeadRuns : ℕ
  providerReadsComplete : Bool
  headAgeSecs : Option ℕ
  graceSecs : ℕ
  graceElapsed : Bool
  recovery : RequiredRunsRecovery
  reason : String
deriving DecidableEq

def isReporting (check : CheckSnapshot) : Bool := decide (check.state ≠ .expected)

/-- Classify the reporting rows of one required context; an expected row reports nothing. -/
def stateFromChecks (matching : List CheckSnapshot) :
    Option (RequiredContextState × Option String) :=
  let reporting := matching.filter isReporting
  let has (state : CheckState) := reporting.any fun check => decide (check.state = state)
  match reporting with
  | [] => none
  | first::_ =>
      match reporting.find? fun check => decide (check.state = .unknown) with
      | some unknown => some (.unknown,unknown.providerState)
      | none =>
          let state : RequiredContextState :=
            if has .failure || has .timedOut || has .actionRequired then .failing
            else if has .cancelled then .cancelledSuperseded
            else if has .queued || has .inProgress then .pending
            else .passing
          some (state,first.providerState)

/-- Whether a suite or a run of the exact head satisfies a predicate on its outcome. -/
def headOutcomeAny (lineage : HeadRunLineage) (headSha : String) (p : String → String → Bool) :
    Bool :=
  (lineage.checkSuites.any fun suite =>
    decide (suite.headSha = headSha) && p suite.status suite.conclusion) ||
  (lineage.workflowRuns.any fun run =>
    decide (run.headSha = headSha) && p run.status run.conclusion)

/-- Classify a context without reporting rows from the lineage of the head alone. -/
def stateFromLineage (lineage : Option HeadRunLineage) (headSha : String) :
    RequiredContextState :=
  match lineage with
  | none => .unknown
  | some lineage =>
      if headOutcomeAny lineage headSha lineageIsLive then .pending
      else if headOutcomeAny lineage headSha (fun _ conclusion => lineageIsAbandoned conclusion) then
        .cancelledSuperseded
      else .missing

def lineageCounts (lineage : Option HeadRunLineage) (headSha : String) : ℕ × ℕ × ℕ :=
  match lineage with
  | none => (0,0,0)
  | some lineage =>
      let suites := lineage.checkSuites.filter fun suite => decide (suite.headSha = headSha)
      let runs := lineage.workflowRuns.filter fun run => decide (run.headSha = headSha)
      (suites.length,runs.length,(lineage.checkSuites.length - suites.length) +
        (lineage.workflowRuns.length - runs.length))

/-- The only rerequestable suite of a complete lineage of the head, if it is unambiguous. -/
def rerequestableSuite (lineage : Option HeadRunLineage) (headSha : String) : Option ℕ := do
  let lineage ← lineage.filter fun l => l.complete && decide (l.headSha = headSha)
  match lineage.checkSuites.filter fun suite =>
      decide (suite.headSha = headSha) && suite.rerequestable with
  | [only] => some only.id
  | _ => none

/-- A complete lineage of the head retires a row whose run was replaced by a greater run of
the same workflow and App. -/
def supersededByExactLineage (check : CheckSnapshot) (lineage : Option HeadRunLineage)
    (head : String) : Bool :=
  ((lineage.filter fun l => l.complete && decide (l.headSha = head)).bind fun lineage => do
    let runId ← check.detailsUrl.bind CheckSnapshot.runIdOfUrl
    if ¬(lineage.workflowRuns.map (·.runId)).Nodup ∨ ¬(lineage.checkSuites.map (·.id)).Nodup then
      none
    else
      let old ← lineage.workflowRuns.find? fun run =>
        decide (run.runId = runId ∧ run.headSha = head ∧ run.workflowName ≠ "")
      let oldSuite ← lineage.checkSuites.find? fun suite =>
        decide (suite.id = old.checkSuiteId ∧ suite.headSha = head)
      if check.appId.isSome ∧ (check.checkSuiteId ≠ some oldSuite.id ∨ check.headOid ≠ some head) then
        none
      else some (lineage.workflowRuns.any fun new =>
        decide (old.runId < new.runId ∧ new.headSha = head ∧ new.workflowName = old.workflowName) &&
          lineage.checkSuites.any fun suite => decide (suite.id = new.checkSuiteId ∧
            suite.headSha = head ∧ suite.appSlug = oldSuite.appSlug))).getD false

def daysFromCivil (year month day : ℤ) : ℤ :=
  let year := if month ≤ 2 then year - 1 else year
  let era := (if 0 ≤ year then year else year - 399).tdiv 400
  let yearOfEra := year - era * 400
  let shiftedMonth := (month + 9).tmod 12
  let dayOfYear := (153 * shiftedMonth + 2).tdiv 5 + day - 1
  let dayOfEra := yearOfEra * 365 + yearOfEra.tdiv 4 - yearOfEra.tdiv 100 + dayOfYear
  era * 146097 + dayOfEra - 719468

/-- Signed seconds of the zone suffix that starts at `index`. -/
def zoneOffsetSecs (bytes : List UInt8) (index : ℕ) : Option ℤ :=
  match bytes[index]? with
  | some 90 | some 122 => some 0
  | some sign =>
      if sign = 43 ∨ sign = 45 then
        if bytes[index+3]? ≠ some 58 then none
        else do
          let hours ← Text.byteNumber bytes (index+1) (index+3)
          let minutes ← Text.byteNumber bytes (index+4) (index+6)
          if hours > 23 ∨ minutes > 59 then none
          else
            let magnitude : ℤ := hours * 3600 + minutes * 60
            some (if sign = 43 then magnitude else -magnitude)
      else none
  | none => none

/-- First byte after the seconds and an optional fraction. -/
def zoneIndex (bytes : List UInt8) : ℕ :=
  if bytes[19]? = some 46 then 20 + ((bytes.drop 20).takeWhile Text.isAsciiDigit).length else 19

/-- Unix seconds of a strict RFC 3339 timestamp; anything else is not guessed. -/
def rfc3339ToUnixSecs (value : String) : Option ℕ := do
  let bytes := Text.utf8Bytes value
  if bytes.length < 20 ∨ bytes[4]? ≠ some 45 ∨ bytes[7]? ≠ some 45 ∨ bytes[13]? ≠ some 58 ∨
      bytes[16]? ≠ some 58 ∨ (bytes[10]? ≠ some 84 ∧ bytes[10]? ≠ some 116) then none
  else
    let year ← Text.byteNumber bytes 0 4
    let month ← Text.byteNumber bytes 5 7
    let day ← Text.byteNumber bytes 8 10
    let hour ← Text.byteNumber bytes 11 13
    let minute ← Text.byteNumber bytes 14 16
    let second ← Text.byteNumber bytes 17 19
    if month < 1 ∨ 12 < month ∨ day < 1 ∨ 31 < day ∨ hour > 23 ∨ minute > 59 ∨ second > 60 then
      none
    else
      let offset ← zoneOffsetSecs bytes (zoneIndex bytes)
      let seconds : ℤ := daysFromCivil year month day * 86400 + hour * 3600 + minute * 60 + second
        - offset
      if seconds < 0 then none else some seconds.toNat

def currentMatching (input : RequiredRunsInput) (required : RequiredCheck) : List CheckSnapshot :=
  (latestChecksPerIdentity input.checks).1.filter fun check =>
    required.matchesRow check input.head.oid &&
      !supersededByExactLineage check input.lineage input.head.oid

def reportingNames (rows : List CheckSnapshot) : List String := (rows.filter isReporting).map (·.name)

/-- Coverage of one requirement. Only current rows vote; the full matching lineage is kept
for diagnostics. -/
def coverageOf (input : RequiredRunsInput) (required : RequiredCheck) : RequiredContextCoverage :=
  let matching := input.checks.filter fun check => required.matchesRow check input.head.oid
  let current := currentMatching input required
  let classified := (stateFromChecks current).getD (stateFromLineage input.lineage input.head.oid,none)
  { context := required.context
    appId := required.appId
    state := classified.1
    reportingChecks := reportingNames matching
    currentReportingChecks := reportingNames current
    providerState := classified.2 }

def headAgeSecs (input : RequiredRunsInput) : Option ℕ :=
  ((input.headPublishedAt.or (input.lineage.bind (·.headCommittedAt))).bind rfc3339ToUnixSecs).map
    fun published => input.clock.nowUnix - published

def graceElapsed (input : RequiredRunsInput) : Bool :=
  (headAgeSecs input).any fun age => decide (input.clock.graceSecs ≤ age)

def lineageComplete (input : RequiredRunsInput) : Bool := input.lineage.all (·.complete)

private def headText (input : RequiredRunsInput) : String :=
  "PR #" ++ toString input.pr ++ " head " ++ input.head.oid

def missingVerdict (input : RequiredRunsInput) (missing : List String) :
    RequiredRunsStatus × String :=
  let names := String.intercalate ", " missing
  match headAgeSecs input with
  | none => (.unknownProviderState,headText input ++ " has no reporting run for " ++ names ++
      " but the provider served no head timestamp, so the bounded grace period cannot be evaluated")
  | some age =>
      if graceElapsed input then
        let counts := lineageCounts input.lineage input.head.oid
        (.missingRequiredRuns,headText input ++
          " has zero reporting run or check-suite lineage for required " ++ names ++ " after " ++
          toString age ++ "s (grace " ++ toString input.clock.graceSecs ++ "s); " ++
          toString counts.1 ++ " suites and " ++ toString counts.2.1 ++
          " runs exist on this exact head")
      else
        (.awaitingGrace,headText input ++ " has no reporting run for " ++ names ++
          " yet, still inside the bounded " ++ toString input.clock.graceSecs ++ "s grace period")

def hasState (coverage : List RequiredContextCoverage) (state : RequiredContextState) : Bool :=
  coverage.any fun item => decide (item.state = state)

/-- Whole-head verdict: incomplete evidence first, then missing, failing, cancelled and
pending contexts. -/
def verdict (input : RequiredRunsInput) (policy : RequiredContextsRead)
    (coverage : List RequiredContextCoverage) : RequiredRunsStatus × String :=
  if hasState coverage .unknown || !(policy.complete && lineageComplete input) then
    (.unknownProviderState,"provider evidence for " ++ headText input ++
      " is incomplete (protection_read_complete=" ++ toString input.contexts.complete ++
      ", lineage_read_complete=" ++ toString (lineageComplete input) ++
      "); nothing may be declared missing from a partial read")
  else if hasState coverage .missing then
    missingVerdict input ((coverage.filter fun item => decide (item.state = .missing)).map
      (·.context))
  else if hasState coverage .failing then
    (.failing,headText input ++
      " has an honest required-context failure owned by CI decision policy")
  else if hasState coverage .cancelledSuperseded then
    (.cancelledSuperseded,headText input ++ " has only cancelled or superseded lineage for a " ++
      "required context, which never reports a verdict")
  else if hasState coverage .pending then
    (.pending,headText input ++ " has a reporting run for every required context and at least " ++
      "one is still running")
  else
    (.satisfied,headText input ++ " has a passing reporting run for every required context")

def recoveryFor (status : RequiredRunsStatus) (input : RequiredRunsInput) : RequiredRunsRecovery :=
  match status with
  | .missingRequiredRuns | .cancelledSuperseded =>
      match rerequestableSuite input.lineage input.head.oid with
      | some checkSuiteId => .rerequestCheckSuite checkSuiteId
      | none => .operatorAction
  | .awaitingGrace => .awaitGrace
  | _ => .none

/-- Assess required-run coverage for one pull request against one exact head. -/
def assess (input : RequiredRunsInput) : RequiredRunsAssessment :=
  let policy := input.contexts.normalized
  let counts := lineageCounts input.lineage input.head.oid
  if policy.checks = [] ∧ policy.complete then
    { pr := input.pr
      head := input.head
      base := input.base
      status := .notRequired
      requiredContexts := []
      requiredPolicy := some policy
      coverage := []
      missingContexts := []
      observedCheckSuites := counts.1
      observedRuns := counts.2.1
      staleHeadRuns := counts.2.2
      providerReadsComplete := true
      headAgeSecs := headAgeSecs input
      graceSecs := input.clock.graceSecs
      graceElapsed := graceElapsed input
      recovery := .none
      reason := "landing branch `" ++ policy.branch ++ "` declares no required status check; " ++
        "required-run coverage cannot stall this head" }
  else
    let coverage := (policy.checks.map (coverageOf input)).take maxReportedContexts
    let (status,reason) := verdict input policy coverage
    { pr := input.pr
      head := input.head
      base := input.base
      status
      requiredContexts := policy.contexts
      requiredPolicy := some policy
      coverage
      missingContexts := (coverage.filter fun item => decide (item.state = .missing)).map (·.context)
      observedCheckSuites := counts.1
      observedRuns := counts.2.1
      staleHeadRuns := counts.2.2
      providerReadsComplete := policy.complete && lineageComplete input
      headAgeSecs := headAgeSecs input
      graceSecs := input.clock.graceSecs
      graceElapsed := graceElapsed input
      recovery := recoveryFor status input
      reason }

/-- A requirement of the landing policy as it was read: a typed check, or a context name
that no typed check refines. -/
def Required (read : RequiredContextsRead) (required : RequiredCheck) : Prop :=
  required ∈ read.checks ∨ ∃ name ∈ read.contexts,
    (∀ check ∈ read.checks, check.context ≠ name) ∧ required = ⟨name,none⟩

theorem mem_refineChecks {checks : List RequiredCheck} {contexts : List String}
    {required : RequiredCheck} :
    required ∈ RequiredContextsRead.refineChecks checks contexts ↔
      required ∈ checks ∨ ∃ name ∈ contexts, (∀ check ∈ checks, check.context ≠ name) ∧
        required = ⟨name,none⟩ := by
  induction contexts generalizing checks with
  | nil => simp [RequiredContextsRead.refineChecks]
  | cons context contexts ih =>
    have hstep : RequiredContextsRead.refineChecks checks (context::contexts) =
        RequiredContextsRead.refineChecks
          (if checks.any fun check => decide (check.context = context) then checks
            else checks ++ [⟨context,none⟩]) contexts := rfl
    rw [hstep,ih]
    by_cases hany : ∃ check ∈ checks, check.context = context
    · have htrue : (checks.any fun check => decide (check.context = context)) = true := by
        simpa using hany
      obtain ⟨check,hcheck,hname⟩ := hany
      rw [htrue]
      simp only [if_true,List.mem_cons]
      constructor
      · intro h
        rcases h with h | ⟨name,hmem,hfresh,heq⟩
        · exact .inl h
        · exact .inr ⟨name,.inr hmem,hfresh,heq⟩
      · intro h
        rcases h with h | ⟨name,hmem | hmem,hfresh,heq⟩
        · exact .inl h
        · exact absurd (hname.trans hmem.symm) (hfresh check hcheck)
        · exact .inr ⟨name,hmem,hfresh,heq⟩
    · have hfalse : (checks.any fun check => decide (check.context = context)) = false := by
        simpa using hany
      have hnew : ∀ check ∈ checks, check.context ≠ context := by
        intro check hcheck heq
        exact hany ⟨check,hcheck,heq⟩
      rw [hfalse]
      simp only [Bool.false_eq_true,if_false,List.mem_append,List.mem_cons,List.not_mem_nil,or_false]
      constructor
      · intro h
        rcases h with (h | h) | ⟨name,hmem,hfresh,heq⟩
        · exact .inl h
        · exact .inr ⟨context,.inl rfl,hnew,h⟩
        · exact .inr ⟨name,.inr hmem,fun check hcheck => hfresh check (.inl hcheck),heq⟩
      · intro h
        rcases h with h | ⟨name,hmem,hfresh,heq⟩
        · exact .inl (.inl h)
        · by_cases hname : name = context
          · exact .inl (.inr (hname ▸ heq))
          · have hmem' : name ∈ contexts := hmem.resolve_left hname
            refine .inr ⟨name,hmem',?_,heq⟩
            intro check hcheck
            rcases hcheck with hcheck | hcheck
            · exact hfresh check hcheck
            · rw [hcheck]
              exact Ne.symm hname

/-- Sorting and removing repetitions keep exactly the requirements that were read. -/
theorem mem_merged_iff (read : RequiredContextsRead) (required : RequiredCheck) :
    required ∈ read.merged ↔ Required read required := by
  unfold RequiredContextsRead.merged
  rw [Vec.mem_dedupAdjacent,List.mem_insertionSort,mem_refineChecks,Required]

theorem normalized_complete {read : RequiredContextsRead} (h : read.normalized.complete = true) :
    read.complete = true ∧ read.normalized.checks = read.merged := by
  simp only [RequiredContextsRead.normalized,Bool.and_eq_true,decide_eq_true_eq] at h
  exact ⟨h.1,List.take_of_length_le h.2.1⟩

/-- A passing context has a reporting row, and all its reporting rows are benign. -/
theorem stateFromChecks_passing {rows : List CheckSnapshot} {provider : Option String}
    (h : stateFromChecks rows = some (.passing,provider)) :
    (∃ check ∈ rows, check.state = .success ∨ check.state = .neutral ∨ check.state = .skipped) ∧
      ∀ check ∈ rows, check.state = .expected ∨ check.state = .success ∨ check.state = .neutral ∨
        check.state = .skipped := by
  unfold stateFromChecks at h
  cases hreporting : rows.filter isReporting with
  | nil => simp [hreporting] at h
  | cons first rest =>
    simp only [hreporting] at h
    split at h
    · simp at h
    next hunknown =>
      have hbenign : ∀ check ∈ first::rest, check.state = .success ∨ check.state = .neutral ∨
          check.state = .skipped := by
        intro check hcheck
        have hnot := List.find?_eq_none.mp hunknown check hcheck
        have hreports : isReporting check = true :=
          (List.mem_filter.mp (hreporting ▸ hcheck)).2
        have hclean : ∀ state : CheckState, ((first::rest).any fun check =>
            decide (check.state = state)) = false → check.state ≠ state := by
          intro state hany heq
          have hmem : ((first::rest).any fun check => decide (check.state = state)) = true :=
            List.any_eq_true.mpr ⟨check,hcheck,decide_eq_true heq⟩
          simp [hany] at hmem
        simp only [Option.some.injEq,Prod.mk.injEq] at h
        obtain ⟨hstate,-⟩ := h
        split at hstate
        · simp at hstate
        next hfailing =>
          split at hstate
          · simp at hstate
          next hcancelled =>
            split at hstate
            · simp at hstate
            next hpending =>
              simp only [Bool.not_eq_true,Bool.or_eq_false_iff] at hfailing hcancelled hpending
              have hf := hclean _ hfailing.1.1
              have ht := hclean _ hfailing.1.2
              have ha := hclean _ hfailing.2
              have hc := hclean _ hcancelled
              have hq := hclean _ hpending.1
              have hp := hclean _ hpending.2
              simp only [isReporting,decide_eq_true_eq] at hreports hnot
              cases hs : check.state <;> simp_all
      constructor
      · have hfirst : first ∈ rows.filter isReporting := by simp [hreporting]
        exact ⟨first,(List.mem_filter.mp hfirst).1,hbenign first List.mem_cons_self⟩
      · intro check hcheck
        by_cases hexpected : check.state = .expected
        · exact .inl hexpected
        · right
          apply hbenign
          rw [← hreporting]
          exact List.mem_filter.mpr ⟨hcheck,by simp [isReporting,hexpected]⟩

theorem stateFromLineage_ne_passing (lineage : Option HeadRunLineage) (headSha : String) :
    stateFromLineage lineage headSha ≠ .passing := by
  unfold stateFromLineage
  split
  · simp
  · split
    · simp
    · split <;> simp

/-- The row is retired neither by the rollup nor by the lineage of the exact head. -/
def CurrentRow (input : RequiredRunsInput) (check : CheckSnapshot) : Prop :=
  check ∈ (latestChecksPerIdentity input.checks).1 ∧
    supersededByExactLineage check input.lineage input.head.oid = false

def Benign (state : CheckState) : Prop := state = .success ∨ state = .neutral ∨ state = .skipped

/-- A merge-authorising verdict covers the whole policy with benign current rows, and an
exempting verdict comes from a complete policy without requirements. -/
structure CoverageSound (input : RequiredRunsInput) : Prop where
  satisfied : (assess input).status = .satisfied →
    input.contexts.complete = true ∧
    (∀ lineage, input.lineage = some lineage → lineage.complete = true) ∧
    ∀ required, Required input.contexts required →
      (∃ check, CurrentRow input check ∧ required.matchesRow check input.head.oid = true ∧
        Benign check.state) ∧
      ∀ check, CurrentRow input check → required.matchesRow check input.head.oid = true →
        check.state ∉ [.failure,.timedOut,.actionRequired,.cancelled,.queued,.inProgress,.unknown]
  notRequired : (assess input).status = .notRequired →
    input.contexts.complete = true ∧ ∀ required, ¬Required input.contexts required

theorem mem_currentMatching_iff {input : RequiredRunsInput} {required : RequiredCheck}
    {check : CheckSnapshot} :
    check ∈ currentMatching input required ↔
      CurrentRow input check ∧ required.matchesRow check input.head.oid = true := by
  simp only [currentMatching,List.mem_filter,Bool.and_eq_true,Bool.not_eq_true',CurrentRow]
  tauto

theorem missingVerdict_ne (input : RequiredRunsInput) (missing : List String) :
    (missingVerdict input missing).1 ≠ .satisfied ∧
      (missingVerdict input missing).1 ≠ .notRequired := by
  unfold missingVerdict
  cases headAgeSecs input with
  | none => simp
  | some age =>
    simp only
    split <;> simp

/-- The satisfied branch is reached only past every other state of the ladder. -/
theorem verdict_satisfied {input : RequiredRunsInput} {policy : RequiredContextsRead}
    {coverage : List RequiredContextCoverage}
    (h : (verdict input policy coverage).1 = .satisfied) :
    policy.complete = true ∧ lineageComplete input = true ∧
      ∀ item ∈ coverage, item.state = .passing := by
  unfold verdict at h
  split at h
  · simp at h
  next hunknown =>
    split at h
    · exact absurd h (missingVerdict_ne _ _).1
    next hmissing =>
      split at h
      · simp at h
      next hfailing =>
        split at h
        · simp at h
        next hcancelled =>
          split at h
          · simp at h
          next hpending =>
            rw [Bool.or_eq_true,not_or] at hunknown
            have hreads : policy.complete = true ∧ lineageComplete input = true := by
              simpa using hunknown.2
            refine ⟨hreads.1,hreads.2,?_⟩
            intro item hitem
            have hstate : ∀ state, ¬hasState coverage state = true → item.state ≠ state := by
              intro state hany heq
              exact hany (List.any_eq_true.mpr ⟨item,hitem,decide_eq_true heq⟩)
            have h1 := hstate _ hunknown.1
            have h2 := hstate _ hmissing
            have h3 := hstate _ hfailing
            have h4 := hstate _ hcancelled
            have h5 := hstate _ hpending
            cases hs : item.state <;> simp_all

theorem verdict_ne_notRequired (input : RequiredRunsInput) (policy : RequiredContextsRead)
    (coverage : List RequiredContextCoverage) :
    (verdict input policy coverage).1 ≠ .notRequired := by
  unfold verdict
  split
  · simp
  · split
    · exact (missingVerdict_ne _ _).2
    · split
      · simp
      · split
        · simp
        · split <;> simp

theorem coverageOf_passing {input : RequiredRunsInput} {required : RequiredCheck}
    (h : (coverageOf input required).state = .passing) :
    ∃ provider, stateFromChecks (currentMatching input required) = some (.passing,provider) := by
  unfold coverageOf at h
  simp only at h
  cases hstate : stateFromChecks (currentMatching input required) with
  | none =>
    rw [hstate] at h
    exact absurd h (stateFromLineage_ne_passing _ _)
  | some classified =>
    rw [hstate] at h
    exact ⟨classified.2,by rw [← h]; rfl⟩

theorem assess_coverageSound (input : RequiredRunsInput) : CoverageSound input := by
  by_cases hempty : input.contexts.normalized.checks = [] ∧ input.contexts.normalized.complete = true
  · have hassess : (assess input).status = .notRequired := by
      unfold assess
      rw [if_pos hempty]
    obtain ⟨hcomplete,hchecks⟩ := normalized_complete hempty.2
    constructor
    · intro h
      rw [hassess] at h
      simp at h
    · intro _
      refine ⟨hcomplete,?_⟩
      intro required hrequired
      rw [← mem_merged_iff,← hchecks,hempty.1] at hrequired
      simp at hrequired
  · have hassess : (assess input).status = (verdict input input.contexts.normalized
        ((input.contexts.normalized.checks.map (coverageOf input)).take maxReportedContexts)).1 := by
      unfold assess
      rw [if_neg hempty]
    constructor
    · intro h
      rw [hassess] at h
      obtain ⟨hpolicy,hlineage,hpassing⟩ := verdict_satisfied h
      obtain ⟨hcomplete,hchecks⟩ := normalized_complete hpolicy
      refine ⟨hcomplete,?_,?_⟩
      · intro lineage hl
        simpa [lineageComplete,hl] using hlineage
      · intro required hrequired
        have hlen : (input.contexts.normalized.checks.map (coverageOf input)).length ≤
            maxReportedContexts := by
          simp only [List.length_map,RequiredContextsRead.normalized,List.length_take]
          omega
        have hmem : coverageOf input required ∈
            (input.contexts.normalized.checks.map (coverageOf input)).take maxReportedContexts := by
          rw [List.take_of_length_le hlen,hchecks]
          exact List.mem_map_of_mem ((mem_merged_iff _ _).mpr hrequired)
        obtain ⟨provider,hstate⟩ := coverageOf_passing (hpassing _ hmem)
        obtain ⟨⟨check,hcheck,hbenign⟩,hall⟩ := stateFromChecks_passing hstate
        refine ⟨⟨check,(mem_currentMatching_iff.mp hcheck).1,(mem_currentMatching_iff.mp hcheck).2,
          hbenign⟩,?_⟩
        intro other hcurrent hmatches
        have hother := hall other (mem_currentMatching_iff.mpr ⟨hcurrent,hmatches⟩)
        rcases hother with h | h | h | h <;> simp [h]
    · intro h
      rw [hassess] at h
      exact absurd h (verdict_ne_notRequired _ _ _)

/-- One required context with a successful row on the exact head. -/
def greenInput : RequiredRunsInput where
  pr := 7
  head := ⟨⟨"o","r"⟩,"feature","abc"⟩
  base := ⟨⟨"o","r"⟩,"main","def"⟩
  contexts := { branch := "main", isProtected := true, contexts := ["ci"], complete := true }
  checks := [{ name := "ci", state := .success }]
  clock := ⟨1000,60⟩

theorem assess_coverageSound_green :
    (assess greenInput).status = .satisfied ∧ Required greenInput.contexts ⟨"ci",none⟩ ∧
      ∃ check, CurrentRow greenInput check ∧ Benign check.state := by
  have hstatus : (assess greenInput).status = .satisfied := by decide +kernel
  have hrequired : Required greenInput.contexts ⟨"ci",none⟩ :=
    .inr ⟨"ci",by simp [greenInput],by simp [greenInput],rfl⟩
  obtain ⟨⟨check,hcurrent,-,hbenign⟩,-⟩ :=
    ((assess_coverageSound greenInput).satisfied hstatus).2.2 _ hrequired
  exact ⟨hstatus,hrequired,check,hcurrent,hbenign⟩

end RequiredRuns
end Cara
