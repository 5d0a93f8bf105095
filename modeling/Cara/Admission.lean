import Cara.Config
import Cara.Generation
import Cara.Graph
import Mathlib.Data.Finset.Sort
import Mathlib.Data.Prod.Lex
import Mathlib.Data.String.Lemmas

/-! Admission of unqueued pull requests. Every row is classified as a candidate, skipped or
rejected; explicit priority and FIFO elect the canonical attempt, and an owner's intent is
judged against that order. -/
namespace Cara
namespace Admission

open Generation (GenerationIntegrityStatus GenerationDisposition)
open Config (CiAdmissionGateConfig)
open RequiredRuns (RequiredContextsRead)

structure AdmissionCandidate where
  pr : PrNumber
  priorityLabel : Option String := none
  priorityRank : Option ℕ := none
  createdAt : Option String := none
  reason : String
deriving DecidableEq

/-- A row the queue advances past. -/
abbrev SkippedAdmissionCandidate := AdmissionCandidate

structure RejectedAdmissionCandidate where
  pr : PrNumber
  priorityRank : Option ℕ := none
  createdAt : Option String := none
  blocksOrder : Bool := true
  reason : String
deriving DecidableEq

structure AdmissionStatus where
  priorityLabels : List String
  generationIntegrity : GenerationIntegrityStatus
  candidates : List AdmissionCandidate
  skipped : List SkippedAdmissionCandidate
  rejected : List RejectedAdmissionCandidate
  nextCandidate : Option PrNumber := none
deriving DecidableEq

section Order

/-- Rank, missing creation time, creation time and number, compared in this order. -/
abbrev AdmissionKey := ℕ ×ₗ Bool ×ₗ String ×ₗ PrNumber

/-- The canonical sort key; an absent rank sorts after every configured one. -/
def key (priorityRank : Option ℕ) (createdAt : Option String) (pr : PrNumber) (unranked : ℕ) :
    AdmissionKey :=
  toLex (priorityRank.getD unranked,toLex (createdAt.isNone,toLex (createdAt.getD "",pr)))

def keyPr (k : AdmissionKey) : PrNumber := (ofLex (ofLex (ofLex k).2).2).2

def AdmissionCandidate.key (unranked : ℕ) (c : AdmissionCandidate) : AdmissionKey :=
  Admission.key c.priorityRank c.createdAt c.pr unranked

def RejectedAdmissionCandidate.key (unranked : ℕ) (c : RejectedAdmissionCandidate) : AdmissionKey :=
  Admission.key c.priorityRank c.createdAt c.pr unranked

def sortByKey {α : Type} (rowKey : α → AdmissionKey) (rows : List α) : List α :=
  rows.insertionSort fun a b => rowKey a ≤ rowKey b

end Order

section Dependencies

def maxDependencyDepth : ℕ := 64

/-- The first open pull request, in number order, whose head is the branch. -/
def openParent (analysis : GraphAnalysis) (candidate : PullRequestSnapshot) (branch : String) :
    Option PullRequestSnapshot :=
  (Graph.rowsOf analysis.pullRequests).find? fun p =>
    decide (p.state = .open) && !p.crossRepository &&
    decide (p.head.repository = candidate.base.repository) && decide (p.head.name = branch) &&
    decide (p.number ≠ candidate.number)

/-- The base chain from a branch, ended by the depth, a missing parent or a repetition. -/
def dependencyWalk (analysis : GraphAnalysis) (candidate : PullRequestSnapshot) :
    ℕ → String → Finset PrNumber → Finset PrNumber
  | 0,_,found => found
  | depth + 1,branch,found =>
      match openParent analysis candidate branch with
      | none => found
      | some parent =>
          if parent.number ∈ found then found
          else dependencyWalk analysis candidate depth parent.base.name (insert parent.number found)

def dependencyPrs (analysis : GraphAnalysis) (candidate : PullRequestSnapshot) : List PrNumber :=
  (dependencyWalk analysis candidate maxDependencyDepth candidate.base.name ∅).sort (· ≤ ·)

end Dependencies

section Checks

/-- The rows that count for eligibility: the required ones once the policy is complete. -/
def requiredCheckSnapshot (pull : PullRequestSnapshot) (policy : Option RequiredContextsRead) :
    PullRequestSnapshot :=
  match policy.filter (·.complete) with
  | some policy => { pull with checks := policy.requiredChecks pull.checks pull.head.oid }
  | none => pull

def isFailing (check : CheckSnapshot) : Bool :=
  decide (check.state = .failure ∨ check.state = .cancelled ∨ check.state = .timedOut ∨
    check.state = .actionRequired)

def hasFailingCheck (pull : PullRequestSnapshot) : Bool :=
  (latestChecksPerIdentity pull.checks).1.any isFailing

/-- Only the deferred gate context fails, on a candidate that is not yet a member. -/
def candidateMayHaveDeferredGate (pull : PullRequestSnapshot) (gate : CiAdmissionGateConfig) : Bool :=
  let failures := (latestChecksPerIdentity pull.checks).1.filter isFailing
  !pull.hasLabel gate.memberLabel && !failures.isEmpty &&
    failures.all fun check => decide (check.name = gate.context ∧ check.state = .failure)

end Checks

section Priority

/-- The rank of a configured label; a repeated label keeps its last rank. -/
def rankOf (priorityLabels : List String) (label : String) : Option ℕ :=
  (priorityLabels.zipIdx.reverse.find? fun entry => decide (entry.1 = label)).map (·.2)

def priorityNamespace (p : PullRequestSnapshot) : List String :=
  (p.labels.sort (· ≤ ·)).filter fun label => Text.startsWith label "caravan-priority:"

def configuredLabels (priorityLabels : List String) (p : PullRequestSnapshot) :
    List (String × ℕ) :=
  (priorityNamespace p).filterMap fun label =>
    (rankOf priorityLabels label).map fun rank => (label,rank)

def invalidLabels (priorityLabels : List String) (p : PullRequestSnapshot) : List String :=
  (priorityNamespace p).filter fun label => (rankOf priorityLabels label).isNone

/-- The rank of a row with exactly one configured label. -/
def soleRank (configured : List (String × ℕ)) : Option ℕ :=
  match configured with
  | [entry] => some (entry.2 + 1)
  | _ => none

def firstRank (configured : List (String × ℕ)) : Option ℕ := configured.head?.map fun e => e.2 + 1

def firstLabel (configured : List (String × ℕ)) : Option String := configured.head?.map (·.1)

end Priority

section Resolve

variable (analysis : GraphAnalysis) (priorityLabels : List String)
  (generation : GenerationIntegrityStatus) (gate : Option CiAdmissionGateConfig)

/-- Why a row is no admission attempt, and whether it blocks the order. -/
def rejection (number : PrNumber) (p : PullRequestSnapshot) : Option (String × Bool) :=
  let configured := configuredLabels priorityLabels p
  let invalid := invalidLabels priorityLabels p
  match (generation.finding number).filter fun f => decide (f.disposition ≠ .currentGeneration) with
  | some finding => some ("fail closed: " ++ finding.reason,false)
  | none =>
      if !invalid.isEmpty then
        some ("fail closed: unknown priority label(s): " ++ ", ".intercalate invalid,true)
      else if 1 < configured.length then
        some ("fail closed: conflicting priority labels: " ++
          ", ".intercalate (configured.map (·.1)),true)
      else if p.draft then
        some ("not an admission attempt: draft PR must be marked ready first",false)
      else if p.crossRepository then
        some ("not an admission attempt: fork-only PR cannot be admitted to a caravan",false)
      else if p.autoMerge.enabled then
        some ("not an admission attempt: candidate already has externally enabled auto-merge",false)
      else none

def unjoinedParentDependencies : Finset PrNumber :=
  (analysis.fleet.unqueued.flatMap fun n =>
    (analysis.pullRequests[n]?).elim [] (dependencyPrs analysis)).toFinset

/-- The policy was read only in part, or a required provider state is unknown. -/
def policyUnknown (p : PullRequestSnapshot) : Bool :=
  analysis.requiredPolicy.any fun policy => !policy.complete ||
    (requiredCheckSnapshot p analysis.requiredPolicy).checks.any fun check =>
      decide (check.state = .unknown)

/-- A required check fails that neither force nor a deferred gate excuses. -/
def blockedByFailure (p : PullRequestSnapshot) : Bool :=
  let ciCandidate := requiredCheckSnapshot p analysis.requiredPolicy
  !p.hasLabel "caravan-force" && hasFailingCheck ciCandidate &&
    !gate.any (candidateMayHaveDeferredGate ciCandidate)

def provenIncompatible (number : PrNumber) : Bool :=
  analysis.fleet.problems.any fun problem =>
    problem.kind.isCandidateScoped && decide (number ∈ problem.prs)

inductive Verdict where
  | candidate (row : AdmissionCandidate)
  | skipped (row : SkippedAdmissionCandidate)
  | rejected (row : RejectedAdmissionCandidate)
deriving DecidableEq

def failingRootReason : String := "candidate has a failing required check and unjoined " ++
  "descendants depend on its base chain; descendants cannot be admitted or retargeted past an " ++
  "unjoined ancestor"

def policyUnknownReason : String :=
  "effective landing-target required-check policy or a required provider state is unknown"

def fifoReason (number : PrNumber) (createdAt : Option String) : String :=
  createdAt.elim ("provider created_at missing; deterministic PR number #" ++ toString number ++
    " fallback") fun created => "immutable provider created_at " ++ created ++ ", PR number #" ++
      toString number ++ " tie-break"

def candidateReason (number : PrNumber) (createdAt : Option String)
    (configured : List (String × ℕ)) : String :=
  configured.head?.elim ("no explicit agent priority; FIFO by " ++ fifoReason number createdAt ++
    "; selection only, check/new preflight required") fun entry =>
    "explicit agent priority `" ++ entry.1 ++ "` (rank " ++ toString (entry.2 + 1) ++ "); FIFO by " ++
      fifoReason number createdAt ++ " within this priority; selection only, check/new preflight " ++
      "required"

def classify (number : PrNumber) (p : PullRequestSnapshot) : Verdict :=
  let configured := configuredLabels priorityLabels p
  let skip (reason : String) : Verdict := .skipped {
    pr := number
    priorityLabel := firstLabel configured
    priorityRank := firstRank configured
    createdAt := p.createdAt
    reason := reason }
  match rejection priorityLabels generation number p with
  | some (reason,blocksOrder) => .rejected {
      pr := number
      priorityRank := soleRank configured
      createdAt := p.createdAt
      blocksOrder := blocksOrder
      reason := reason }
  | none =>
      if policyUnknown analysis p then .rejected {
        pr := number
        priorityRank := firstRank configured
        createdAt := p.createdAt
        reason := policyUnknownReason }
      else if blockedByFailure analysis gate p then
        if number ∈ unjoinedParentDependencies analysis then .rejected {
          pr := number
          priorityRank := soleRank configured
          createdAt := p.createdAt
          reason := failingRootReason }
        else skip ("candidate has a failing required check; queueing behind red only guarantees " ++
          "a later rebase, so the queue advances until it is fixed")
      else if p.hasLabel "caravan-join-skipped" then
        skip ("carries the automatic skip label; Cara removes it only where it can prove it " ++
          "wrote it, so a label with no receipt stays skipped until removed by hand")
      else if provenIncompatible analysis number then
        skip ("proven mechanically incompatible with the exact current default branch; the owner " ++
          "must reconcile it, and no rerun changes that")
      else .candidate {
        pr := number
        priorityLabel := firstLabel configured
        priorityRank := firstRank configured
        createdAt := p.createdAt
        reason := candidateReason number p.createdAt configured }

/-- One verdict for each unqueued row that has a snapshot. -/
def verdicts : List Verdict :=
  analysis.fleet.unqueued.filterMap fun number => (analysis.pullRequests[number]?).map
    (classify analysis priorityLabels generation gate number)

def candidateRow? : Verdict → Option AdmissionCandidate
  | .candidate row => some row
  | _ => none

def skippedRow? : Verdict → Option SkippedAdmissionCandidate
  | .skipped row => some row
  | _ => none

def rejectedRow? : Verdict → Option RejectedAdmissionCandidate
  | .rejected row => some row
  | _ => none

/-- Failing roots are told apart by the beginning of their reason. -/
def blockedRoots (rejected : List RejectedAdmissionCandidate) : List PrNumber :=
  (rejected.filter fun row => row.blocksOrder && Text.startsWith row.reason
    "candidate has a failing required check and unjoined descendants").map (·.pr)

def blockedBy (roots : List PrNumber) (row : AdmissionCandidate) : List PrNumber :=
  ((analysis.pullRequests[row.pr]?).elim [] (dependencyPrs analysis)).filter fun dependency =>
    decide (dependency ∈ roots)

def preservedBehind (roots : List PrNumber) (row : AdmissionCandidate) : SkippedAdmissionCandidate :=
  { row with reason := "preserved behind temporarily blocked dependency domain rooted at " ++
      ",".intercalate ((blockedBy analysis roots row).map fun pr => "#" ++ toString pr) ++
      "; unrelated ready candidates may proceed without bypassing or retargeting this chain" }

/-- Candidates outside every blocked root's dependency domain. -/
def independent (roots : List PrNumber) (rows : List AdmissionCandidate) : List AdmissionCandidate :=
  rows.filter fun row => (blockedBy analysis roots row).isEmpty

def preserved (roots : List PrNumber) (rows : List AdmissionCandidate) :
    List SkippedAdmissionCandidate :=
  (rows.filter fun row => !(blockedBy analysis roots row).isEmpty).map (preservedBehind analysis roots)

/-- The rows that compete for the canonical attempt. A failing root competes only when no
candidate remains. -/
def ballots (unranked : ℕ) (candidates : List AdmissionCandidate)
    (rejected : List RejectedAdmissionCandidate) (roots : List PrNumber) : List AdmissionKey :=
  candidates.map (·.key unranked) ++ (rejected.filter fun row =>
    row.blocksOrder && (candidates.isEmpty || !decide (row.pr ∈ roots))).map (·.key unranked)

def resolveAdmissionWithGenerationAndGate : AdmissionStatus :=
  let rows := verdicts analysis priorityLabels generation gate
  let unranked := priorityLabels.length + 1
  let rejected := rows.filterMap rejectedRow?
  let roots := blockedRoots rejected
  let candidates := sortByKey (·.key unranked) (independent analysis roots (rows.filterMap candidateRow?))
  let skipped := sortByKey (·.key unranked) (rows.filterMap skippedRow? ++
    preserved analysis roots (rows.filterMap candidateRow?))
  let rejected := sortByKey (·.key unranked) rejected
  { priorityLabels := priorityLabels
    generationIntegrity := generation
    candidates := candidates
    skipped := skipped
    rejected := rejected
    nextCandidate := (ballots unranked candidates rejected roots).min?.map keyPr }

end Resolve

section Intent

inductive AdmissionIntent where
  | new
  | join
deriving DecidableEq

def AdmissionIntent.name : AdmissionIntent → String
  | new => "new"
  | join => "join"

inductive AdmissionSelection where
  | automatic
  | explicit
  | checkedOut
deriving DecidableEq

def AdmissionSelection.relaxesOrder : AdmissionSelection → Bool
  | explicit | checkedOut => true
  | automatic => false

inductive OrderedRowDisposition where
  | bypassedUnjoined
  | blockedJoined
  | blockedDependency
  | blockedRankIndeterminate
  | blockedAutomaticOrder
deriving DecidableEq

def OrderedRowDisposition.debug : OrderedRowDisposition → String
  | bypassedUnjoined => "BypassedUnjoined"
  | blockedJoined => "BlockedJoined"
  | blockedDependency => "BlockedDependency"
  | blockedRankIndeterminate => "BlockedRankIndeterminate"
  | blockedAutomaticOrder => "BlockedAutomaticOrder"

def OrderedRowDisposition.bypassed (d : OrderedRowDisposition) : Bool :=
  decide (d = .bypassedUnjoined)

structure OrderedRow where
  pr : PrNumber
  disposition : OrderedRowDisposition
  joined : Bool
  reason : String
deriving DecidableEq

inductive AdmissionOrderOutcome where
  | canonical
  | explicitAheadOfUnjoined
  | blockedByOrder
  | blockedByPreflight
  | alreadyEnrolled
  | ownerSelected
deriving DecidableEq

structure AdmissionIntentDecision where
  intent : AdmissionIntent
  selection : AdmissionSelection
  outcome : AdmissionOrderOutcome := .blockedByOrder
  candidatePr : PrNumber
  canonicalCandidatePr : Option PrNumber
  targetCaravan : Option PrNumber
  targetTail : Option PrNumber
  orderedRowsAhead : List OrderedRow := []
  bypassedUnjoinedPrs : List PrNumber := []
  blockingPrs : List PrNumber := []
  dependencyPrs : List PrNumber
  reason : String := ""
deriving DecidableEq

def AdmissionIntentDecision.orderPermitsAdmission (d : AdmissionIntentDecision) : Bool :=
  decide (d.outcome = .canonical ∨ d.outcome = .explicitAheadOfUnjoined ∨
    d.outcome = .alreadyEnrolled ∨ d.outcome = .ownerSelected)

variable (admission : AdmissionStatus) (analysis : GraphAnalysis)

def isJoined (pr : PrNumber) : Bool := (analysis.fleet.containing pr).isSome

/-- How a row ahead that no other rule blocks is treated. -/
def dispositionOf (dependencies : List PrNumber) (pr : PrNumber)
    (otherwise : OrderedRowDisposition) : OrderedRowDisposition :=
  if isJoined analysis pr then .blockedJoined
  else if pr ∈ dependencies then .blockedDependency
  else otherwise

def candidatesAhead (dependencies : List PrNumber) (row : AdmissionCandidate)
    (selection : AdmissionSelection) (unranked : ℕ) : List OrderedRow :=
  (admission.candidates.filter fun other => decide (other.pr ≠ row.pr) &&
    decide (other.key unranked < row.key unranked)).map fun other => {
      pr := other.pr
      disposition := dispositionOf analysis dependencies other.pr
        (if selection.relaxesOrder then .bypassedUnjoined else .blockedAutomaticOrder)
      joined := isJoined analysis other.pr
      reason := other.reason }

def rejectedAhead (dependencies : List PrNumber) (row : AdmissionCandidate) (unranked : ℕ) :
    List OrderedRow :=
  (admission.rejected.filter fun other => other.blocksOrder && decide (other.pr ≠ row.pr) &&
    decide (other.key unranked < row.key unranked)).map fun other => {
      pr := other.pr
      disposition := dispositionOf analysis dependencies other.pr .blockedRankIndeterminate
      joined := isJoined analysis other.pr
      reason := other.reason }

def prList (prs : List PrNumber) : String :=
  ", ".intercalate (prs.map fun pr => "#" ++ toString pr)

def blockingText (rows : List OrderedRow) : String :=
  ", ".intercalate ((rows.filter fun row => !row.disposition.bypassed).map fun row =>
    "#" ++ toString row.pr ++ " (" ++ row.disposition.debug ++ ")")

/-- The decision about an unenrolled row that is a candidate but not the canonical one. -/
def judge (decision : AdmissionIntentDecision) : AdmissionIntentDecision :=
  let intent := decision.intent.name
  let target := decision.targetCaravan.elim "forming a new caravan" fun id =>
    "to caravan #" ++ toString id
  let blocking := blockingText decision.orderedRowsAhead
  if !decision.selection.relaxesOrder then { decision with
    reason := decision.canonicalCandidatePr.elim
      "automatic admission is not selectable because no canonical attempt exists" fun canonical =>
        "priority/FIFO binds automatic selection for " ++ intent ++
          " intent; fail closed on canonical PR #" ++ toString canonical }
  else if decision.blockingPrs.isEmpty then { decision with
    outcome := .explicitAheadOfUnjoined
    reason := if decision.bypassedUnjoinedPrs.isEmpty then
        "explicit " ++ intent ++ " intent " ++ target ++ "; no earlier ordered row exists"
      else "explicit " ++ intent ++ " intent " ++ target ++ "; earlier row(s) " ++
        prList decision.bypassedUnjoinedPrs ++ " bypassed only because they are unrelated " ++
        "unjoined first-admission attempts and keep their canonical order" }
  else if decision.selection = .checkedOut then { decision with
    outcome := .ownerSelected
    reason := "owner is operating on this exact checked-out PR; canonical order is evidence only; " ++
      "a remote explicit " ++ intent ++ " request would fail closed on earlier row(s) " ++ blocking }
  else { decision with
    reason := "explicit " ++ intent ++ " intent " ++ target ++ " fails closed: earlier row(s) " ++
      blocking ++ " are not unrelated unjoined attempts" }

def notAnAttempt (candidate : PrNumber) : String :=
  (admission.rejected.find? fun row => decide (row.pr = candidate)).elim
    "candidate is not a current ordered admission attempt; explicit intent cannot relax canonical order"
    fun row => "candidate is not a current ordered admission attempt: " ++ row.reason

def evaluate (candidate : PullRequestSnapshot) (target : Option Caravan)
    (selection : AdmissionSelection) : AdmissionIntentDecision :=
  let unranked := admission.priorityLabels.length + 1
  let dependencies := dependencyPrs analysis candidate
  let intent := if target.isSome then AdmissionIntent.join else .new
  let decision : AdmissionIntentDecision := {
    intent := intent
    selection := selection
    candidatePr := candidate.number
    canonicalCandidatePr := admission.nextCandidate
    targetCaravan := target.map (·.id)
    targetTail := target.bind (·.tail)
    dependencyPrs := dependencies }
  if isJoined analysis candidate.number then { decision with
    outcome := .alreadyEnrolled
    reason := "candidate is already an active caravan member; admission ordering does not apply" }
  else if admission.nextCandidate = some candidate.number then { decision with
    outcome := .canonical
    reason := "candidate is the canonical first ordered " ++ intent.name ++ " admission attempt" }
  else match admission.candidates.find? fun row => decide (row.pr = candidate.number) with
    | none =>
        if selection = .checkedOut then { decision with
          outcome := .ownerSelected
          reason := "owner is operating on this exact checked-out PR; canonical order is evidence only" }
        else { decision with reason := notAnAttempt admission candidate.number }
    | some row =>
        let rows := (candidatesAhead admission analysis dependencies row selection unranked ++
          rejectedAhead admission analysis dependencies row unranked).insertionSort
            fun a b => a.pr ≤ b.pr
        judge { decision with
          orderedRowsAhead := rows
          bypassedUnjoinedPrs := (rows.filter (·.disposition.bypassed)).map (·.pr)
          blockingPrs := (rows.filter fun r => !r.disposition.bypassed).map (·.pr) }

end Intent

end Admission
end Cara
