import Cara.Sync.CiGenerations

/-! Classification of failed workflow runs and the infrastructure reruns that follow from it. -/
namespace Cara
namespace Sync

open RequiredRuns (RequiredContextsRead)

section Diagnostics

structure WorkflowStepFailureDiagnostic where
  name : String
  status : String
  conclusion : String
deriving DecidableEq

structure SelectedRefLineageReceipt where
  expectedHead : CommitOid
  expectedBase : CommitOid
  parents : List CommitOid := []
deriving DecidableEq

structure DeferredAdmissionReceipt where
  pr : PrNumber
  headOid : CommitOid
  baseOid : CommitOid
deriving DecidableEq

structure WorkflowJobFailureDiagnostic where
  name : String
  status : String
  conclusion : String
  failedSteps : List WorkflowStepFailureDiagnostic := []
  stepsTruncated : Bool := false
  selectedLineage : Option SelectedRefLineageReceipt := none
  deferredAdmission : Option DeferredAdmissionReceipt := none
deriving DecidableEq

structure WorkflowRunPullRequestAssociation where
  pr : PrNumber
  headOid : Option CommitOid := none
  baseOid : Option CommitOid := none
deriving DecidableEq

structure WorkflowRunFailureDiagnostic where
  runId : ℕ
  attempt : ℕ
  event : String
  status : String
  conclusion : String
  headSha : CommitOid
  expectedPr : PrNumber
  expectedHeadOid : CommitOid
  expectedBaseOid : CommitOid
  pullRequests : List WorkflowRunPullRequestAssociation := []
  failedJobs : List WorkflowJobFailureDiagnostic := []
  jobsTotal : ℕ
  jobsTruncated : Bool := false
deriving DecidableEq

inductive WorkflowRunGeneration where
  | current
  | staleHead
  | staleBase
  | staleHeadAndBase
  | missingAssociation
deriving DecidableEq

inductive WorkflowFailureClass where
  | staleGeneration
  | retryableInfrastructure
  | sourceOrTestFailure
  | deferredAdmission
  | cancelled
  | unknown
deriving DecidableEq

inductive WorkflowFailureAction where
  | freshCandidateTrigger
  | rerunFailedJobs
  | repairSource
  | waitOrInspect
deriving DecidableEq

structure ClassifiedWorkflowRunFailure where
  diagnostic : WorkflowRunFailureDiagnostic
  generation : WorkflowRunGeneration
  classification : WorkflowFailureClass
  action : WorkflowFailureAction
deriving DecidableEq

end Diagnostics

section Classification

def isAdmissionStep (name : String) : Bool :=
  decide (name = "Defer unjoined PR or require protected CI" ∨
    name = "Defer unjoined PR or require every pinned gate")

variable (d : WorkflowRunFailureDiagnostic)

/-- The only failed job is the admission gate, and its receipt agrees with the generation of the run. -/
def provenDeferredJob : Option WorkflowJobFailureDiagnostic :=
  match d.failedJobs with
  | [job] =>
      match job.deferredAdmission,job.failedSteps with
      | some receipt,[step] =>
          if d.status = "completed" ∧ d.conclusion = "failure" ∧ d.event = "pull_request" ∧
              d.jobsTruncated = false ∧ 0 < d.jobsTotal ∧ job.stepsTruncated = false ∧
              job.status = "completed" ∧ job.conclusion = "failure" ∧ step.status = "completed" ∧
              step.conclusion = "failure" ∧ isAdmissionStep step.name = true ∧ receipt.pr = d.expectedPr ∧
              receipt.headOid = d.expectedHeadOid ∧ receipt.headOid = d.headSha ∧
              receipt.baseOid = d.expectedBaseOid ∧ d.pullRequests.all (fun association =>
                decide (association.pr = receipt.pr ∧ association.headOid = some receipt.headOid ∧
                  association.baseOid = some receipt.baseOid)) = true then some job
          else none
      | _,_ => none
  | _ => none

def staleness (staleHead staleBase : Bool) : WorkflowRunGeneration :=
  match staleHead,staleBase with
  | true,true => .staleHeadAndBase
  | true,false => .staleHead
  | false,true => .staleBase
  | false,false => .current

def workflowRunGeneration : WorkflowRunGeneration :=
  match d.pullRequests.find? fun association => decide (association.pr = d.expectedPr) with
  | none => .missingAssociation
  | some association => staleness (association.headOid.any fun oid => decide (oid ≠ d.expectedHeadOid))
      (association.baseOid.any fun oid => decide (oid ≠ d.expectedBaseOid))

/-- The generation of the run against the current candidate, and whether that candidate's own lineage is
unknown. The gate's receipt binds a run that has no association. -/
def candidateGeneration (candidate : Option MergeCandidateIdentity) : WorkflowRunGeneration × Bool :=
  let generation := if (provenDeferredJob d).isSome ∧ workflowRunGeneration d = .missingAssociation then .current
    else workflowRunGeneration d
  match candidate with
  | none => (generation,false)
  | some candidate =>
      if candidate.pr ≠ d.expectedPr then (.missingAssociation,false)
      else if candidate.staleHead ∨ candidate.staleBase then
        (staleness candidate.staleHead candidate.staleBase,false)
      else (generation,decide (candidate.freshness = .missing ∨ candidate.freshness = .unknown))

/-- The first lineage receipt of a failed job may still prove the generation stale. -/
def applySelectedLineageReceipt (generation : WorkflowRunGeneration) : WorkflowRunGeneration × Bool :=
  match d.failedJobs.findSome? (·.selectedLineage) with
  | none => (generation,false)
  | some receipt =>
      let staleBase := decide (receipt.parents[0]? ≠ some d.expectedBaseOid ∨
        receipt.expectedBase ≠ d.expectedBaseOid)
      let staleHead := decide (receipt.parents[1]? ≠ some d.expectedHeadOid ∨
        receipt.expectedHead ≠ d.expectedHeadOid)
      (if staleBase || staleHead then staleness staleHead staleBase else generation,true)

def asciiLower (text : String) : String := String.ofList (text.toList.map Char.toLower)

def failedLineageStep : Bool :=
  d.failedJobs.any fun job => job.failedSteps.any fun step =>
    Text.contains (asciiLower step.name) "lineage" || Text.contains (asciiLower step.name) "selected ref"

def completedFailure (status conclusion : String) : Bool :=
  Text.eqIgnoreAsciiCase status "completed" && Text.eqIgnoreAsciiCase conclusion "failure"

def hasCompletedFailingStep : Bool :=
  d.failedJobs.any fun job => completedFailure job.status job.conclusion &&
    job.failedSteps.any fun step => completedFailure step.status step.conclusion

def conclusionIsInfra (conclusion : String) : Bool :=
  ["timed_out","startup_failure","stale","action_required","cancelled","canceled"].any
    fun candidate => Text.eqIgnoreAsciiCase conclusion candidate

/-- A run that failed while no job did never ran the work it reports on. -/
def retryableInfrastructure : Bool :=
  if hasCompletedFailingStep d then false
  else if d.failedJobs.isEmpty && decide (d.jobsTotal ≠ 0) && !d.jobsTruncated then true
  else conclusionIsInfra d.conclusion || d.failedJobs.any fun job => conclusionIsInfra job.conclusion

def failureVerdict (generation : WorkflowRunGeneration) (lineageUnknown receiptPresent : Bool) :
    WorkflowFailureClass × WorkflowFailureAction :=
  if generation ≠ .current then (.staleGeneration,.freshCandidateTrigger)
  else if (provenDeferredJob d).isSome ∧ lineageUnknown = false then (.deferredAdmission,.waitOrInspect)
  else if failedLineageStep d = true ∧ receiptPresent = false then (.unknown,.freshCandidateTrigger)
  else if hasCompletedFailingStep d then (.sourceOrTestFailure,.repairSource)
  else if Text.eqIgnoreAsciiCase d.conclusion "cancelled" then (.cancelled,.freshCandidateTrigger)
  else if d.jobsTotal = 0 ∨ d.jobsTruncated = true ∨ d.failedJobs.any (·.stepsTruncated) = true then
    (.unknown,.waitOrInspect)
  else if retryableInfrastructure d then (.retryableInfrastructure,.rerunFailedJobs)
  else if d.failedJobs.isEmpty then (.unknown,.waitOrInspect)
  else (.sourceOrTestFailure,.repairSource)

def classifyWorkflowFailure (candidate : Option MergeCandidateIdentity) : ClassifiedWorkflowRunFailure :=
  let known := candidateGeneration d candidate
  let selected := applySelectedLineageReceipt d known.1
  let verdict := failureVerdict d selected.1 known.2 selected.2
  ⟨d,selected.1,verdict.1,verdict.2⟩

end Classification

section Recovery

/-- A source failure, or unknown evidence that may hide one, vetoes every rerun. -/
def infrastructureRecoveryRunIds (diagnostics : List ClassifiedWorkflowRunFailure) : List ℕ :=
  if diagnostics.any fun diagnostic => decide (diagnostic.classification = .sourceOrTestFailure ∨
      diagnostic.classification = .unknown) then []
  else (((diagnostics.filter fun diagnostic => decide (diagnostic.action = .rerunFailedJobs)).map
    (·.diagnostic.runId)).toFinset).sort (· ≤ ·)

structure WorkflowFailureDiagnostics where
  requestedRunIds : List ℕ
  runs : List WorkflowRunFailureDiagnostic
  runsTruncated : Bool
deriving DecidableEq

def maxDiagnosticRuns : ℕ := 10

variable {ε : Type}

/-- A run that answers under another identity is an error. -/
def provedRun (detail : ℕ → Except ε WorkflowRunFailureDiagnostic) (unproved : ε) (id : ℕ) :
    Except ε WorkflowRunFailureDiagnostic := do
  let run ← detail id
  if run.runId = 0 ∨ run.runId ≠ id ∨ run.attempt = 0 ∨ run.headSha = "" then .error unproved else .ok run

def diagnoseFailedRuns (detail : ℕ → Except ε WorkflowRunFailureDiagnostic) (unproved : ε) (runIds : List ℕ) :
    Except ε WorkflowFailureDiagnostics := do
  let requested := (runIds.toFinset).sort (· ≤ ·)
  let runs ← (requested.take maxDiagnosticRuns).mapM (provedRun detail unproved)
  return ⟨requested,runs,decide (maxDiagnosticRuns < requested.length)⟩

structure CiReads (ε : Type) where
  current : PullRequestSnapshot
  policy : RequiredContextsRead
  disposition : CiDisposition
  failedRuns : List WorkflowRunSnapshot
  detail : ℕ → Except ε WorkflowRunFailureDiagnostic
  unproved : ε
  candidate : Option MergeCandidateIdentity

namespace CiReads

variable (reads : CiReads ε)

def requiredChecks : List CheckSnapshot :=
  reads.policy.requiredChecks reads.current.checks reads.current.head.oid

/-- Failed runs are listed only for a failed or a forced verdict. -/
def listedRuns : List WorkflowRunSnapshot :=
  if reads.disposition = .failed ∨ reads.disposition = .forced then reads.failedRuns else []

def selectedRunIds : List ℕ := selectRerunnableRunIds reads.requiredChecks reads.listedRuns

/-- When not all of them were read, no run counts as read completely. -/
def failureDiagnostics : Except ε (List ClassifiedWorkflowRunFailure) :=
  if reads.selectedRunIds = [] then .ok []
  else do
    let response ← diagnoseFailedRuns reads.detail reads.unproved reads.selectedRunIds
    let runs := if response.runsTruncated then
        response.runs.map fun run => { run with jobsTruncated := true }
      else response.runs
    return runs.map fun run => classifyWorkflowFailure run reads.candidate

/-- The diagnostics and the runs to rerun of one observation. -/
def observeFailures : Except ε (List ClassifiedWorkflowRunFailure × List ℕ) := do
  let diagnostics ← reads.failureDiagnostics
  return (diagnostics,infrastructureRecoveryRunIds diagnostics)

end CiReads

end Recovery

section Laws

variable {d : WorkflowRunFailureDiagnostic} {candidate : Option MergeCandidateIdentity}

@[simp] theorem classified_diagnostic : (classifyWorkflowFailure d candidate).diagnostic = d := rfl

/-- A rerun is only proposed for a run whose failed jobs were all read. -/
theorem not_rerun_of_truncated (h : d.jobsTruncated = true) :
    (classifyWorkflowFailure d candidate).action ≠ .rerunFailedJobs := by
  show (failureVerdict d _ _ _).2 ≠ .rerunFailedJobs
  unfold failureVerdict
  split_ifs <;> simp_all

def ClassifiedWorkflowRunFailure.Vetoes (c : ClassifiedWorkflowRunFailure) : Prop :=
  c.classification = .sourceOrTestFailure ∨ c.classification = .unknown

theorem recovery_ne_nil_iff {diagnostics : List ClassifiedWorkflowRunFailure} :
    infrastructureRecoveryRunIds diagnostics ≠ [] ↔
      (∀ c ∈ diagnostics, ¬c.Vetoes) ∧ ∃ c ∈ diagnostics, c.action = .rerunFailedJobs := by
  unfold infrastructureRecoveryRunIds
  split
  · rename_i hveto
    obtain ⟨c,hc,hveto⟩ := List.any_eq_true.mp hveto
    simp only [ne_eq, not_true_eq_false, false_iff, not_and]
    intro hnone
    exact absurd (of_decide_eq_true hveto) (hnone c hc)
  · rename_i hveto
    have hnone : ∀ c ∈ diagnostics, ¬c.Vetoes := fun c hc hvetoes =>
      hveto (List.any_eq_true.mpr ⟨c,hc,decide_eq_true hvetoes⟩)
    constructor
    · intro h
      refine ⟨hnone,?_⟩
      obtain ⟨id,hid⟩ := List.exists_mem_of_ne_nil _ h
      rw [Finset.mem_sort,List.mem_toFinset] at hid
      obtain ⟨c,hc,_⟩ := List.mem_map.mp hid
      obtain ⟨hc,haction⟩ := List.mem_filter.mp hc
      exact ⟨c,hc,of_decide_eq_true haction⟩
    · intro h
      obtain ⟨_,c,hc,haction⟩ := h
      apply List.ne_nil_of_mem (a := c.diagnostic.runId)
      rw [Finset.mem_sort,List.mem_toFinset]
      exact List.mem_map_of_mem (List.mem_filter.mpr ⟨hc,decide_eq_true haction⟩)

theorem mem_selectRerunnableRunIds {checks : List CheckSnapshot} {runs : List WorkflowRunSnapshot} {id : ℕ} :
    id ∈ selectRerunnableRunIds checks runs ↔
      (∃ check ∈ checks, checkIsFailure check = true ∧ checkRunId check = some id) ∧
        id ∈ runs.map (·.databaseId) := by
  unfold selectRerunnableRunIds
  rw [Finset.mem_sort,List.mem_toFinset,List.mem_filter,List.mem_filterMap]
  constructor
  · rintro ⟨⟨check,hcheck,hid⟩,hlisted⟩
    obtain ⟨hcheck,hfail⟩ := List.mem_filter.mp hcheck
    exact ⟨⟨check,hcheck,hfail,hid⟩,of_decide_eq_true hlisted⟩
  · rintro ⟨⟨check,hcheck,hfail,hid⟩,hlisted⟩
    exact ⟨⟨check,List.mem_filter.mpr ⟨hcheck,hfail⟩,hid⟩,decide_eq_true hlisted⟩

theorem selectRerunnableRunIds_nodup (checks : List CheckSnapshot) (runs : List WorkflowRunSnapshot) :
    (selectRerunnableRunIds checks runs).Nodup :=
  Finset.sort_nodup _ _

end Laws

section Diagnosed

variable {ε : Type} {detail : ℕ → Except ε WorkflowRunFailureDiagnostic} {unproved : ε} {runIds : List ℕ}
  {response : WorkflowFailureDiagnostics}

theorem proved_eq_ok {id : ℕ} {run : WorkflowRunFailureDiagnostic}
    (h : provedRun detail unproved id = .ok run) : run.runId = id ∧ detail id = .ok run := by
  obtain ⟨found,hfound,h⟩ := Guard.bind_eq_ok.mp h
  split at h
  · cases h
  · rename_i hproved
    cases h
    exact ⟨not_not.mp fun hne => hproved (.inr (.inl hne)),hfound⟩

theorem requested_within {rows : List ℕ} (h : ¬maxDiagnosticRuns < rows.length) :
    rows.take maxDiagnosticRuns = rows :=
  List.take_of_length_le (not_lt.mp h)

/-- Within the bound, the evidence is that of every requested run. -/
theorem mem_diagnosed_iff (h : diagnoseFailedRuns detail unproved runIds = .ok response)
    (hwithin : response.runsTruncated = false) {d : WorkflowRunFailureDiagnostic} :
    d ∈ response.runs ↔ d.runId ∈ runIds ∧ detail d.runId = .ok d := by
  obtain ⟨runs,hruns,hresponse⟩ := Guard.bind_eq_ok.mp h
  cases hresponse
  rw [requested_within (of_decide_eq_false hwithin)] at hruns
  constructor
  · intro hd
    obtain ⟨id,hid,hrun⟩ := Guard.exists_of_mem_mapM hruns hd
    obtain ⟨rfl,hdetail⟩ := proved_eq_ok hrun
    exact ⟨List.mem_toFinset.mp ((Finset.mem_sort _).mp hid),hdetail⟩
  · intro hd
    obtain ⟨run,hrun,hok⟩ := Guard.mem_of_mapM_eq_ok hruns
      ((Finset.mem_sort _).mpr (List.mem_toFinset.mpr hd.1))
    have hsame := hd.2.symm.trans (proved_eq_ok hok).2
    cases hsame
    exact hrun

theorem detail_of_diagnosed (h : diagnoseFailedRuns detail unproved runIds = .ok response)
    (hwithin : response.runsTruncated = false) {id : ℕ} (hid : id ∈ runIds) :
    ∃ d,detail id = .ok d ∧ d.runId = id := by
  obtain ⟨runs,hruns,hresponse⟩ := Guard.bind_eq_ok.mp h
  cases hresponse
  rw [requested_within (of_decide_eq_false hwithin)] at hruns
  obtain ⟨run,_,hok⟩ := Guard.mem_of_mapM_eq_ok hruns ((Finset.mem_sort _).mpr (List.mem_toFinset.mpr hid))
  obtain ⟨hsame,hdetail⟩ := proved_eq_ok hok
  exact ⟨run,hdetail,hsame⟩

theorem truncated_of_diagnosed (h : diagnoseFailedRuns detail unproved runIds = .ok response)
    (hnodup : runIds.Nodup) : response.runsTruncated = decide (maxDiagnosticRuns < runIds.length) := by
  obtain ⟨runs,_,hresponse⟩ := Guard.bind_eq_ok.mp h
  cases hresponse
  show decide (maxDiagnosticRuns < (runIds.toFinset.sort (· ≤ ·)).length) = _
  rw [Finset.length_sort,List.toFinset_card_of_nodup hnodup]

end Diagnosed

namespace CiReads

variable {ε : Type} {reads : CiReads ε} {diagnostics : List ClassifiedWorkflowRunFailure} {rerunnable : List ℕ}

/-- The runs that the failing required rows name and the list contains are all read, and some of them call
for a rerun while none forbids it. -/
structure Recoverable (reads : CiReads ε) : Prop where
  within : reads.selectedRunIds.length ≤ maxDiagnosticRuns
  rerun : ∃ id ∈ reads.selectedRunIds,∃ d,reads.detail id = .ok d ∧
    (classifyWorkflowFailure d reads.candidate).action = .rerunFailedJobs
  unvetoed : ∀ id ∈ reads.selectedRunIds,∀ d,reads.detail id = .ok d →
    ¬(classifyWorkflowFailure d reads.candidate).Vetoes

/-- Every failing required row names a run of the failed list. -/
def Listed (reads : CiReads ε) : Prop :=
  ∀ check ∈ reads.requiredChecks,checkIsFailure check = true →
    ∃ id ∈ reads.failedRuns.map (·.databaseId),checkRunId check = some id

/-- Every failing required row is explained by a diagnostic of its own run, and no diagnostic forbids a
rerun. -/
def Explained (reads : CiReads ε) (diagnostics : List ClassifiedWorkflowRunFailure) : Prop :=
  (∀ check ∈ reads.requiredChecks,checkIsFailure check = true →
    ∃ c ∈ diagnostics,checkRunId check = some c.diagnostic.runId) ∧ ∀ c ∈ diagnostics,¬c.Vetoes

theorem mem_failureDiagnostics (h : reads.failureDiagnostics = .ok diagnostics)
    (hwithin : reads.selectedRunIds.length ≤ maxDiagnosticRuns) {c : ClassifiedWorkflowRunFailure} :
    c ∈ diagnostics ↔ ∃ d,d.runId ∈ reads.selectedRunIds ∧ reads.detail d.runId = .ok d ∧
      c = classifyWorkflowFailure d reads.candidate := by
  unfold failureDiagnostics at h
  split at h
  · rename_i hnone
    cases h
    simp [hnone]
  · obtain ⟨response,hresponse,h⟩ := Guard.bind_eq_ok.mp h
    have htruncated : response.runsTruncated = false := by
      rw [truncated_of_diagnosed hresponse (selectRerunnableRunIds_nodup _ _)]
      exact decide_eq_false (not_lt.mpr hwithin)
    simp only [htruncated,Bool.false_eq_true,if_false] at h
    cases h
    rw [List.mem_map]
    constructor
    · rintro ⟨d,hd,rfl⟩
      obtain ⟨hid,hdetail⟩ := (mem_diagnosed_iff hresponse htruncated).mp hd
      exact ⟨d,hid,hdetail,rfl⟩
    · rintro ⟨d,hid,hdetail,rfl⟩
      exact ⟨d,(mem_diagnosed_iff hresponse htruncated).mpr ⟨hid,hdetail⟩,rfl⟩

theorem within_of_rerun (h : reads.failureDiagnostics = .ok diagnostics) {c : ClassifiedWorkflowRunFailure}
    (hc : c ∈ diagnostics) (haction : c.action = .rerunFailedJobs) :
    reads.selectedRunIds.length ≤ maxDiagnosticRuns := by
  unfold failureDiagnostics at h
  split at h
  · cases h
    cases hc
  · obtain ⟨response,hresponse,h⟩ := Guard.bind_eq_ok.mp h
    by_contra hover
    have htruncated : response.runsTruncated = true := by
      rw [truncated_of_diagnosed hresponse (selectRerunnableRunIds_nodup _ _)]
      exact decide_eq_true (not_le.mp hover)
    simp only [htruncated,if_true] at h
    cases h
    obtain ⟨d,hd,rfl⟩ := List.mem_map.mp hc
    obtain ⟨run,_,rfl⟩ := List.mem_map.mp hd
    exact not_rerun_of_truncated rfl haction

theorem observeFailures_eq_ok (h : reads.observeFailures = .ok (diagnostics,rerunnable)) :
    reads.failureDiagnostics = .ok diagnostics ∧ rerunnable = infrastructureRecoveryRunIds diagnostics := by
  obtain ⟨found,hfound,h⟩ := Guard.bind_eq_ok.mp h
  cases h
  exact ⟨hfound,rfl⟩

theorem mem_selectedRunIds {id : ℕ} : id ∈ reads.selectedRunIds ↔
    (∃ check ∈ reads.requiredChecks,checkIsFailure check = true ∧ checkRunId check = some id) ∧
      id ∈ reads.listedRuns.map (·.databaseId) :=
  mem_selectRerunnableRunIds

theorem mem_failedRuns {id : ℕ} (h : id ∈ reads.listedRuns.map (·.databaseId)) :
    id ∈ reads.failedRuns.map (·.databaseId) := by
  unfold listedRuns at h
  split at h
  · exact h
  · cases h

theorem listedRuns_of_selected {id : ℕ} (h : id ∈ reads.selectedRunIds) : reads.listedRuns = reads.failedRuns := by
  have hmem := (mem_selectedRunIds.mp h).2
  unfold listedRuns at hmem ⊢
  split at hmem
  · rename_i hlisted
    rw [if_pos hlisted]
  · cases hmem

theorem detail_of_selected (h : reads.failureDiagnostics = .ok diagnostics)
    (hwithin : reads.selectedRunIds.length ≤ maxDiagnosticRuns) {id : ℕ} (hid : id ∈ reads.selectedRunIds) :
    ∃ d,reads.detail id = .ok d ∧ d.runId = id := by
  unfold failureDiagnostics at h
  split at h
  · rename_i hnone
    rw [hnone] at hid
    cases hid
  · obtain ⟨response,hresponse,_⟩ := Guard.bind_eq_ok.mp h
    apply detail_of_diagnosed hresponse _ hid
    rw [truncated_of_diagnosed hresponse (selectRerunnableRunIds_nodup _ _)]
    exact decide_eq_false (not_lt.mpr hwithin)

theorem classified_mem (h : reads.failureDiagnostics = .ok diagnostics)
    (hwithin : reads.selectedRunIds.length ≤ maxDiagnosticRuns) {id : ℕ} (hid : id ∈ reads.selectedRunIds)
    {d : WorkflowRunFailureDiagnostic} (hd : reads.detail id = .ok d) :
    classifyWorkflowFailure d reads.candidate ∈ diagnostics := by
  obtain ⟨found,hfound,hsame⟩ := detail_of_selected h hwithin hid
  cases hd.symm.trans hfound
  cases hsame
  exact (mem_failureDiagnostics h hwithin).mpr ⟨d,hid,hd,rfl⟩

theorem rerunnable_ne_nil_iff (h : reads.observeFailures = .ok (diagnostics,rerunnable)) :
    rerunnable ≠ [] ↔ reads.Recoverable := by
  obtain ⟨hread,rfl⟩ := observeFailures_eq_ok h
  rw [recovery_ne_nil_iff]
  constructor
  · rintro ⟨hveto,c,hc,haction⟩
    have hwithin := within_of_rerun hread hc haction
    refine ⟨hwithin,?_,fun id hid d hd => hveto _ (classified_mem hread hwithin hid hd)⟩
    obtain ⟨d,hid,hdetail,rfl⟩ := (mem_failureDiagnostics hread hwithin).mp hc
    exact ⟨d.runId,hid,d,hdetail,haction⟩
  · intro hrec
    constructor
    · intro c hc
      obtain ⟨d,hid,hdetail,rfl⟩ := (mem_failureDiagnostics hread hrec.within).mp hc
      exact hrec.unvetoed _ hid d hdetail
    · obtain ⟨id,hid,d,hdetail,haction⟩ := hrec.rerun
      exact ⟨_,classified_mem hread hrec.within hid hdetail,haction⟩

/-- A row that names no run of the failed list takes no part in the veto. -/
theorem reruns_explained_iff (h : reads.observeFailures = .ok (diagnostics,rerunnable)) :
    (rerunnable ≠ [] → reads.Explained diagnostics) ↔ (reads.Recoverable → reads.Listed) := by
  rw [rerunnable_ne_nil_iff h]
  obtain ⟨hread,_⟩ := observeFailures_eq_ok h
  constructor
  · intro hexplained hrec check hcheck hfailing
    obtain ⟨c,hc,hid⟩ := (hexplained hrec).1 check hcheck hfailing
    obtain ⟨d,hselected,_,rfl⟩ := (mem_failureDiagnostics hread hrec.within).mp hc
    exact ⟨d.runId,mem_failedRuns (mem_selectedRunIds.mp hselected).2,hid⟩
  · intro hlisted hrec
    constructor
    · intro check hcheck hfailing
      obtain ⟨id,hmem,hid⟩ := hlisted hrec check hcheck hfailing
      obtain ⟨other,hother,_⟩ := hrec.rerun
      rw [← listedRuns_of_selected hother] at hmem
      have hselected : id ∈ reads.selectedRunIds := mem_selectedRunIds.mpr ⟨⟨check,hcheck,hfailing,hid⟩,hmem⟩
      obtain ⟨d,hd,rfl⟩ := detail_of_selected hread hrec.within hselected
      exact ⟨_,classified_mem hread hrec.within hselected hd,hid⟩
    · intro c hc
      obtain ⟨d,hid,hdetail,rfl⟩ := (mem_failureDiagnostics hread hrec.within).mp hc
      exact hrec.unvetoed _ hid d hdetail

def withoutJobs (id : ℕ) : WorkflowRunFailureDiagnostic where
  runId := id
  attempt := 1
  event := "pull_request"
  status := "completed"
  conclusion := "failure"
  headSha := "aaaa"
  expectedPr := 4
  expectedHeadOid := "aaaa"
  expectedBaseOid := "bbbb"
  pullRequests := [⟨4,some "aaaa",some "bbbb"⟩]
  jobsTotal := 1

def external (url : String) : CheckSnapshot := { name := "external",state := .failure,detailsUrl := some url }

/-- A required build whose run 7 timed out, beside a required external status that failed. -/
def besideExternal (url : String) : CiReads String where
  current := {
    number := 4,state := .open,autoMerge := .disabled
    head := ⟨⟨"o","r"⟩,"feature","aaaa"⟩,base := ⟨⟨"o","r"⟩,"main","bbbb"⟩
    checks := [
      { name := "build",state := .timedOut,detailsUrl := some "https://github.com/o/r/actions/runs/7" },external url] }
  policy := { branch := "main",isProtected := true,contexts := ["build","external"],complete := true }
  disposition := .failed
  failedRuns := [⟨7⟩]
  detail := fun id => .ok (withoutJobs id)
  unproved := "run evidence"
  candidate := none

theorem reruns_explained_of_beside :
    ([7] ≠ [] → (besideExternal "https://ci.example/1").Explained [classifyWorkflowFailure (withoutJobs 7) none]) ↔
      ((besideExternal "https://ci.example/1").Recoverable → (besideExternal "https://ci.example/1").Listed) :=
  reruns_explained_iff (by decide +kernel)

/-- Run 7 is rerun although nothing was read about the external failure. -/
theorem reruns_beside_external :
    ¬∀ (reads : CiReads String) (diagnostics : List ClassifiedWorkflowRunFailure) (rerunnable : List ℕ),
      reads.observeFailures = .ok (diagnostics,rerunnable) → rerunnable ≠ [] → reads.Explained diagnostics := by
  intro h
  have hexplained := h (besideExternal "https://ci.example/1") [classifyWorkflowFailure (withoutJobs 7) none] [7]
    (by decide +kernel) (by decide)
  obtain ⟨c,_,hid⟩ := hexplained.1 (external "https://ci.example/1") (by decide +kernel) rfl
  have hnone : checkRunId (external "https://ci.example/1") = none := by decide +kernel
  rw [hnone] at hid
  cases hid

end CiReads

end Sync
end Cara
