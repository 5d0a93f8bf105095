import Cara.AdmissionOrder

/-! Candidate validation, the second ladder over the same facts: admission lists are built by
one, a mutation is preflighted by the other, and both must say the same of a pull request. -/
namespace Cara
namespace Admission

open Config (CiAdmissionGateConfig)
open Generation (GenerationIntegrityStatus)
open RequiredRuns (RequiredContextsRead)

section Validate

def hasCancelledCheck (pull : PullRequestSnapshot) : Bool :=
  (latestChecksPerIdentity pull.checks).1.any fun check => decide (check.state = .cancelled)

def redMessage (pull : PullRequestSnapshot) : String :=
  if hasCancelledCheck pull then "candidate PR has a cancelled check, so its failures may be " ++
    "consequences rather than verdicts; rerun the cancelled jobs before treating this as a code failure"
  else "candidate PR has a failing required check; fix it before admission rather than stacking " ++
    "work behind it"

/-- Whether an admission gate may account for every failing check. -/
def gateDeferred (pull : PullRequestSnapshot) (gate : Option CiAdmissionGateConfig) : Bool :=
  gate.any (candidateMayHaveDeferredGate pull)

/-- Each condition of the ladder with its message, on the projected snapshot. -/
def candidateConditions (pull : PullRequestSnapshot) (gate : Option CiAdmissionGateConfig)
    (policy : Option RequiredContextsRead) : List (Bool × String) :=
  [(policy.any fun policy => !policy.complete,
      "effective landing-target required-check policy is incomplete"),
    (policy.isSome && pull.checks.any fun check => decide (check.state = .unknown),
      "a required check has an unknown provider state"),
    (decide (pull.state ≠ .open),"candidate PR is not open"),
    (pull.draft,"candidate PR is still a draft"),
    (pull.hasLabel "caravan","candidate PR already has the caravan label"),
    (pull.hasLabel "caravan-evicted","candidate PR is evicted; use renew or rejoin"),
    (pull.autoMerge.enabled,"candidate PR already has auto-merge enabled"),
    (pull.crossRepository,"candidate PR uses a fork-only head branch"),
    (!pull.hasLabel "caravan-force" && hasFailingCheck pull && !gateDeferred pull gate,redMessage pull)]

/-- The problems of one candidate, one for each distinct message, in the order of the messages. -/
def validateCandidateWithPolicy (pull : PullRequestSnapshot) (gate : Option CiAdmissionGateConfig)
    (policy : Option RequiredContextsRead) : List GraphProblem :=
  let projected := requiredCheckSnapshot pull policy
  let messages := ((candidateConditions projected gate policy).filter (·.1)).map (·.2)
  (messages.toFinset.sort (· ≤ ·)).map fun message =>
    { kind := .unknown,prs := [projected.number],message := message }

variable {pull : PullRequestSnapshot} {gate : Option CiAdmissionGateConfig}
  {policy : Option RequiredContextsRead}

theorem validateCandidateWithPolicy_nil : validateCandidateWithPolicy pull gate policy = [] ↔
    ∀ condition ∈ candidateConditions (requiredCheckSnapshot pull policy) gate policy,
      condition.1 = false := by
  unfold validateCandidateWithPolicy
  rw [List.map_eq_nil_iff,List.eq_nil_iff_forall_not_mem]
  simp only [Finset.mem_sort,List.mem_toFinset,List.mem_map,List.mem_filter]
  constructor
  · intro h condition hcondition
    by_contra hbroken
    exact h condition.2 ⟨condition,⟨hcondition,by simpa using hbroken⟩,rfl⟩
  · intro h message hmessage
    obtain ⟨condition,⟨hmem,hbroken⟩,_⟩ := hmessage
    rw [h condition hmem] at hbroken
    cases hbroken

@[simp] theorem requiredCheckSnapshot_state : (requiredCheckSnapshot pull policy).state = pull.state := by
  unfold requiredCheckSnapshot
  split <;> rfl

@[simp] theorem requiredCheckSnapshot_draft : (requiredCheckSnapshot pull policy).draft = pull.draft := by
  unfold requiredCheckSnapshot
  split <;> rfl

@[simp] theorem requiredCheckSnapshot_labels :
    (requiredCheckSnapshot pull policy).labels = pull.labels := by
  unfold requiredCheckSnapshot
  split <;> rfl

@[simp] theorem requiredCheckSnapshot_autoMerge :
    (requiredCheckSnapshot pull policy).autoMerge = pull.autoMerge := by
  unfold requiredCheckSnapshot
  split <;> rfl

@[simp] theorem requiredCheckSnapshot_crossRepository :
    (requiredCheckSnapshot pull policy).crossRepository = pull.crossRepository := by
  unfold requiredCheckSnapshot
  split <;> rfl

@[simp] theorem requiredCheckSnapshot_hasLabel (label : String) :
    (requiredCheckSnapshot pull policy).hasLabel label = pull.hasLabel label := by
  unfold PullRequestSnapshot.hasLabel
  rw [requiredCheckSnapshot_labels]

end Validate

section Agreement

variable {analysis : GraphAnalysis} {priorityLabels : List String}
  {generation : GenerationIntegrityStatus} {gate : Option CiAdmissionGateConfig}

structure Unqueued (p : PullRequestSnapshot) : Prop where
  isOpen : p.state = .open
  undrafted : p.draft = false
  unlabelled : p.hasLabel "caravan" = false
  unevicted : p.hasLabel "caravan-evicted" = false

theorem unqueued_of_derived {snapshot : RepositorySnapshot} {actor : HeadMergeActor} {n : PrNumber}
    {p : PullRequestSnapshot} (hn : n ∈ (Graph.deriveForActor snapshot actor).fleet.unqueued)
    (hp : (Graph.deriveForActor snapshot actor).pullRequests[n]? = some p) : Unqueued p := by
  obtain ⟨q,hq,hnumber⟩ := List.mem_map.mp hn
  obtain ⟨hrow,hkept⟩ := List.mem_filter.mp hq
  obtain ⟨m,hm⟩ := Graph.mem_rowsOf_iff.mp hrow
  have hindexed := Graph.collectPullRequests_indexed snapshot.pullRequests
  have hsame : m = n := (hindexed m q hm).symm.trans hnumber
  have hpq : q = p := by
    rw [hsame] at hm
    exact Option.some_inj.mp (hm.symm.trans hp)
  rw [hpq] at hkept
  simp only [Bool.and_eq_true,decide_eq_true_eq,Bool.not_eq_true'] at hkept
  exact ⟨hkept.1.1.1,hkept.1.1.2,hkept.1.2,hkept.2⟩

theorem rejection_none {n : PrNumber} {p : PullRequestSnapshot}
    (h : rejection priorityLabels generation n p = none) :
    p.crossRepository = false ∧ p.autoMerge.enabled = false := by
  unfold rejection at h
  simp only at h
  split at h
  · cases h
  · split_ifs at h with _ _ _ hcross hauto
    exact ⟨by simpa using hcross,by simpa using hauto⟩

theorem policyUnknown_false {p : PullRequestSnapshot} (h : policyUnknown analysis p = false) :
    (analysis.requiredPolicy.any fun policy => !policy.complete) = false ∧
    (analysis.requiredPolicy.isSome && (requiredCheckSnapshot p analysis.requiredPolicy).checks.any
      fun check => decide (check.state = .unknown)) = false := by
  unfold policyUnknown at h
  cases hpolicy : analysis.requiredPolicy with
  | none => exact ⟨rfl,rfl⟩
  | some policy =>
    rw [hpolicy] at h
    simpa using h

theorem candidate_valid {n : PrNumber} {p : PullRequestSnapshot} (hunqueued : Unqueued p)
    {row : AdmissionCandidate}
    (h : classify analysis priorityLabels generation gate n p = .candidate row) :
    validateCandidateWithPolicy p gate analysis.requiredPolicy = [] := by
  unfold classify at h
  simp only at h
  split at h
  · cases h
  case h_2 hrejection =>
    split_ifs at h with hpolicy hfailure
    obtain ⟨hcross,hauto⟩ := rejection_none hrejection
    obtain ⟨hcomplete,hknown⟩ := policyUnknown_false (by simpa using hpolicy)
    have hgreen : (!p.hasLabel "caravan-force" &&
        hasFailingCheck (requiredCheckSnapshot p analysis.requiredPolicy) &&
        !gateDeferred (requiredCheckSnapshot p analysis.requiredPolicy) gate) = false := by
      simpa [blockedByFailure,gateDeferred] using hfailure
    rw [validateCandidateWithPolicy_nil]
    intro condition hcondition
    simp only [candidateConditions,requiredCheckSnapshot_hasLabel,requiredCheckSnapshot_state,
      requiredCheckSnapshot_draft,requiredCheckSnapshot_autoMerge,
      requiredCheckSnapshot_crossRepository,List.mem_cons,List.not_mem_nil,or_false] at hcondition
    rcases hcondition with rfl | rfl | rfl | rfl | rfl | rfl | rfl | rfl | rfl
    · exact hcomplete
    · exact hknown
    · exact decide_eq_false (not_not.mpr hunqueued.isOpen)
    · exact hunqueued.undrafted
    · exact hunqueued.unlabelled
    · exact hunqueued.unevicted
    · exact hauto
    · exact hcross
    · exact hgreen

theorem candidate_of_resolved {row : AdmissionCandidate}
    (h : row ∈ (resolveAdmissionWithGenerationAndGate analysis priorityLabels generation gate).candidates) :
    row.pr ∈ analysis.fleet.unqueued ∧ ∃ p,analysis.pullRequests[row.pr]? = some p ∧
      classify analysis priorityLabels generation gate row.pr p = .candidate row := by
  unfold resolveAdmissionWithGenerationAndGate at h
  have hkept := (List.mem_filter.mp (mem_sortByKey.mp h)).1
  obtain ⟨v,hv,hrow⟩ := List.mem_filterMap.mp hkept
  obtain ⟨n,hn,p,hp,hclassified⟩ := (mem_verdicts analysis priorityLabels generation gate).mp hv
  have hcandidate : v = .candidate row := by
    cases v <;> simp_all [candidateRow?]
  rw [hcandidate] at hclassified
  have hpr : row.pr = n := by
    rw [← classify_pr analysis priorityLabels generation gate n p,← hclassified]
    rfl
  rw [hpr]
  exact ⟨hn,p,hp,hclassified.symm⟩

structure EligibilityAgrees (analysis : GraphAnalysis) (gate : Option CiAdmissionGateConfig)
    (s : AdmissionStatus) : Prop where
  admitted : ∀ row ∈ s.candidates,∃ p,analysis.pullRequests[row.pr]? = some p ∧
    validateCandidateWithPolicy p gate analysis.requiredPolicy = []
  refused : ∀ n ∈ analysis.fleet.unqueued,∀ p,analysis.pullRequests[n]? = some p →
    validateCandidateWithPolicy p gate analysis.requiredPolicy ≠ [] →
    (n ∈ s.skipped.map (·.pr) ∨ n ∈ s.rejected.map (·.pr)) ∧
      (s.nextCandidate = some n → ∃ row ∈ s.rejected,row.pr = n ∧ row.blocksOrder = true)

theorem eligibility_agrees (snapshot : RepositorySnapshot) (actor : HeadMergeActor)
    (policy : Option RequiredContextsRead) (priorityLabels : List String)
    (generation : GenerationIntegrityStatus) (gate : Option CiAdmissionGateConfig) :
    let analysis := { Graph.deriveForActor snapshot actor with requiredPolicy := policy }
    EligibilityAgrees analysis gate
      (resolveAdmissionWithGenerationAndGate analysis priorityLabels generation gate) := by
  intro analysis
  have hadmitted : ∀ row ∈ (resolveAdmissionWithGenerationAndGate analysis priorityLabels generation
      gate).candidates,∃ p,analysis.pullRequests[row.pr]? = some p ∧
        validateCandidateWithPolicy p gate analysis.requiredPolicy = [] := by
    intro row hrow
    obtain ⟨hn,p,hp,hclassified⟩ := candidate_of_resolved hrow
    exact ⟨p,hp,candidate_valid (unqueued_of_derived hn hp) hclassified⟩
  have hunlisted : ∀ {n : PrNumber} {p : PullRequestSnapshot},analysis.pullRequests[n]? = some p →
      validateCandidateWithPolicy p gate analysis.requiredPolicy ≠ [] →
      ∀ row ∈ (resolveAdmissionWithGenerationAndGate analysis priorityLabels generation
        gate).candidates,row.pr ≠ n := by
    intro n p hp hproblem row hrow hpr
    obtain ⟨q,hq,hvalid⟩ := hadmitted row hrow
    rw [hpr,hp] at hq
    cases hq
    exact hproblem hvalid
  refine ⟨hadmitted,?_⟩
  intro n hn p hp hproblem
  have henumerated : Enumerated analysis :=
    ⟨(deriveForActor_enumerated snapshot actor).nodup,(deriveForActor_enumerated snapshot actor).present⟩
  constructor
  · have hlisted := (resolve_perm analysis priorityLabels generation gate henumerated).mem_iff.mpr hn
    rw [List.mem_append,List.mem_append] at hlisted
    obtain hcandidate | hother := hlisted
    · obtain ⟨row,hrow,hpr⟩ := List.mem_map.mp hcandidate
      exact absurd hpr (hunlisted hp hproblem row hrow)
    · exact hother
  · intro hnext
    obtain ⟨k,hleast,hk⟩ :=
      ((resolve_elects analysis priorityLabels generation gate).some_iff n).mp hnext
    cases hleast.1 with
    | @candidate row hrow => exact absurd hk (hunlisted hp hproblem row hrow)
    | @rejected row hrow hblocks _ => exact ⟨row,hrow,hk,hblocks⟩

end Agreement

end Admission
end Cara
