import Cara.AdmissionFront
import Cara.GraphCompatibility

/-! The proofs that stand behind the advertised front. They are collected in number order for the
leading unqueued rows, and the front is elected in canonical order. -/
namespace Cara
namespace Graph

section Reports

variable {δ : Type} {checker : CompatibilityChecker δ} {a b : GraphAnalysis}

def reportsOf (checker : CompatibilityChecker δ) : CompatibilityAnalysisTask → List CompatibilityReport
  | .fleet candidate target .. | .admissionCandidate candidate target _ =>
      match checker.check candidate target with
      | .ok report => [report]
      | .error _ => []
  | .cumulativeTree .. => []

def problemsOf (checker : CompatibilityChecker δ) : CompatibilityAnalysisTask → List GraphProblem
  | .fleet candidate target prs message =>
      match checker.check candidate target with
      | .ok report => reported .incompatible report prs message
      | .error _ => []
  | .admissionCandidate candidate target pr =>
      match checker.check candidate target with
      | .ok report => reported .candidateIncompatible report [pr]
          "leading admission candidate does not merge cleanly into the current default branch"
      | .error _ => []
  | .cumulativeTree .. => []

theorem recordCompatibility_records {report : CompatibilityReport} {prs : List PrNumber}
    {message : String} (h : (recordCompatibility checker a report prs message).2 = none) :
    (recordCompatibility checker a report prs message).1.compatibility = a.compatibility ++ [report] ∧
      (recordCompatibility checker a report prs message).1.fleet.problems =
        a.fleet.problems ++ reported .incompatible report prs message := by
  unfold recordCompatibility at h ⊢
  dsimp only at h ⊢
  split at h
  · cases h
  · exact ⟨rfl,rfl⟩

theorem execute_records (task : CompatibilityAnalysisTask) (h : (task.execute checker a).2 = none) :
    (task.execute checker a).1.compatibility = a.compatibility ++ reportsOf checker task ∧
      (task.execute checker a).1.fleet.problems = a.fleet.problems ++ problemsOf checker task := by
  cases task with
  | fleet candidate target prs message =>
    simp only [CompatibilityAnalysisTask.execute,reportsOf,problemsOf] at h ⊢
    cases hcheck : checker.check candidate target with
    | error e =>
      rw [hcheck] at h
      cases h
    | ok report =>
      rw [hcheck] at h
      exact recordCompatibility_records h
  | cumulativeTree candidate target =>
    simp only [CompatibilityAnalysisTask.execute,reportsOf,problemsOf,List.append_nil]
    cases checker.cumulativeTree candidate target <;> exact ⟨rfl,rfl⟩
  | admissionCandidate candidate target pr =>
    simp only [CompatibilityAnalysisTask.execute,reportsOf,problemsOf] at h ⊢
    cases hcheck : checker.check candidate target with
    | error e =>
      rw [hcheck] at h
      cases h
    | ok report => exact ⟨rfl,rfl⟩

variable {snapshot : RepositorySnapshot} {actor : HeadMergeActor}

theorem mem_compatibility (h : analyzeForActor checker snapshot actor = .ok b)
    {report : CompatibilityReport} : report ∈ b.compatibility ↔
      ∃ task ∈ compatibilityTasks snapshot (deriveForActor snapshot actor),
        report ∈ reportsOf checker task := by
  have hcollects := analyzeForActor_collects (f := GraphAnalysis.compatibility)
    (fun _ task htask => (execute_records task htask).1) h
  have hbare : (deriveForActor snapshot actor).compatibility = [] := rfl
  rw [hcollects,hbare,List.nil_append,List.mem_flatMap]

theorem mem_problems_of_task (h : analyzeForActor checker snapshot actor = .ok b)
    (problem : GraphProblem) {task : CompatibilityAnalysisTask}
    (htask : task ∈ compatibilityTasks snapshot (deriveForActor snapshot actor))
    (hproblem : problem ∈ problemsOf checker task) : problem ∈ b.fleet.problems := by
  have hcollects := analyzeForActor_collects (f := fun a => a.fleet.problems)
    (fun _ task htask => (execute_records task htask).2) h
  rw [hcollects]
  exact List.mem_append_right _ (List.mem_flatMap.mpr ⟨task,htask,hproblem⟩)

theorem check_ok_of_task {complete : Bool} {i : ℕ} {tasks : List CompatibilityAnalysisTask}
    {candidate target : BranchSnapshot} {pr : PrNumber}
    (h : runTasks checker none i tasks a = .ok (b,complete))
    (htask : .admissionCandidate candidate target pr ∈ tasks) :
    ∃ report,checker.check candidate target = .ok report := by
  induction tasks generalizing i a with
  | nil => cases htask
  | cons task rest ih =>
    simp only [runTasks,Option.any_none,Bool.false_eq_true,if_false,Option.isSome_none,
      Bool.false_and] at h
    rcases hexecute : task.execute checker a with ⟨next,error⟩
    rw [hexecute] at h
    cases error with
    | some e => cases h
    | none =>
      rcases List.mem_cons.mp htask with rfl | htask
      · simp only [CompatibilityAnalysisTask.execute] at hexecute
        cases hcheck : checker.check candidate target with
        | error e =>
          rw [hcheck] at hexecute
          cases hexecute
        | ok report => exact ⟨report,rfl⟩
      · exact ih h htask

theorem analyzeForActor_checked {candidate target : BranchSnapshot} {pr : PrNumber}
    (h : analyzeForActor checker snapshot actor = .ok b)
    (htask : .admissionCandidate candidate target pr ∈
      compatibilityTasks snapshot (deriveForActor snapshot actor)) :
    ∃ report,checker.check candidate target = .ok report := by
  obtain ⟨out,hout,-⟩ := Guard.bind_eq_ok.mp h
  simp only [analyzeForActorInternal,Option.any_none,Bool.false_eq_true,if_false,
    Option.isSome_none,Bool.false_and] at hout
  split at hout
  · cases hout
  · exact check_ok_of_task hout htask

end Reports

section Leading

variable {snapshot : RepositorySnapshot} {a : GraphAnalysis} {target head : BranchSnapshot}
  {n : PrNumber}

def unskipped (a : GraphAnalysis) (n : PrNumber) : Bool :=
  (a.pullRequests[n]?).any fun p => !p.hasLabel "caravan-join-skipped"

/-- The rows that compete for the front: the first by number that are not skipped. -/
def leadingRows (a : GraphAnalysis) : List PrNumber :=
  (a.fleet.unqueued.filter (unskipped a)).take leadingCandidateCompatibilityBound

theorem mem_candidateTasks {selected : ℕ} {numbers : List PrNumber} :
    .admissionCandidate head target n ∈ candidateTasks snapshot a selected numbers ↔
      target = snapshot.defaultBranch ∧
      n ∈ (numbers.filter (unskipped a)).take (leadingCandidateCompatibilityBound - selected) ∧
      ∃ p,a.pullRequests[n]? = some p ∧ p.head = head ∧ ¬ (p.crossRepository ∨ p.draft) := by
  induction numbers generalizing selected with
  | nil => simp [candidateTasks]
  | cons number rest ih =>
    rw [candidateTasks]
    cases hp : a.pullRequests[number]? with
    | none =>
      have hdrop : unskipped a number = false := by simp [unskipped,hp]
      simpa [List.filter_cons,hdrop] using ih
    | some candidate =>
      by_cases hskip : candidate.hasLabel "caravan-join-skipped" = true
      · have hdrop : unskipped a number = false := by simp [unskipped,hp,hskip]
        simpa [List.filter_cons,hdrop,hskip] using ih
      · have hkeep : unskipped a number = true := by simp [unskipped,hp,hskip]
        by_cases hfull : leadingCandidateCompatibilityBound ≤ selected
        · -- the bound is used up, and stays used up
          have hzero : leadingCandidateCompatibilityBound - selected = 0 := by omega
          have hrest := @ih selected
          rw [hzero,List.take_zero] at hrest ⊢
          simpa [hskip,hfull] using hrest
        · have hsucc : leadingCandidateCompatibilityBound - selected =
              leadingCandidateCompatibilityBound - (selected + 1) + 1 := by omega
          rw [List.filter_cons_of_pos hkeep,hsucc,List.take_succ_cons]
          simp only [hskip,hfull,if_false,Bool.false_eq_true]
          by_cases hout : candidate.crossRepository ∨ candidate.draft
          · rw [if_pos hout,ih]
            constructor
            · rintro ⟨htarget,hmem,hrow⟩
              exact ⟨htarget,List.mem_cons_of_mem _ hmem,hrow⟩
            · rintro ⟨htarget,hmem,p,hn,hhead,hin⟩
              rcases List.mem_cons.mp hmem with rfl | hmem
              · rw [hp,Option.some_inj] at hn
                exact absurd (hn ▸ hout) hin
              · exact ⟨htarget,hmem,p,hn,hhead,hin⟩
          · rw [if_neg hout,List.mem_cons,ih]
            constructor
            · rintro (htask | ⟨htarget,hmem,hrow⟩)
              · cases htask
                exact ⟨rfl,List.mem_cons_self,candidate,hp,rfl,hout⟩
              · exact ⟨htarget,List.mem_cons_of_mem _ hmem,hrow⟩
            · rintro ⟨htarget,hmem,p,hn,hhead,hin⟩
              rcases List.mem_cons.mp hmem with rfl | hmem
              · rw [hp,Option.some_inj] at hn
                subst hn hhead htarget
                exact .inl rfl
              · exact .inr ⟨htarget,hmem,p,hn,hhead,hin⟩

theorem caravanTasks_not_candidate (c : Caravan) :
    .admissionCandidate head target n ∉ caravanTasks snapshot a c := by
  intro h
  unfold caravanTasks at h
  split at h
  · cases h
  · rcases List.mem_append.mp h with h | h
    · simp at h
    · obtain ⟨pair,-,h⟩ := List.mem_filterMap.mp h
      obtain ⟨child,-,h⟩ := Option.bind_eq_some_iff.mp h
      obtain ⟨parent,-,h⟩ := Option.map_eq_some_iff.mp h
      cases h

theorem crossTasks_not_candidate : .admissionCandidate head target n ∉ crossTasks a := by
  intro h
  obtain ⟨entry,-,h⟩ := List.mem_flatMap.mp h
  obtain ⟨other,-,h⟩ := List.mem_filterMap.mp h
  split at h
  · cases h
  · obtain ⟨head,-,h⟩ := Option.bind_eq_some_iff.mp h
    obtain ⟨tail,-,h⟩ := Option.bind_eq_some_iff.mp h
    obtain ⟨branch,-,h⟩ := Option.bind_eq_some_iff.mp h
    obtain ⟨branch',-,h⟩ := Option.map_eq_some_iff.mp h
    cases h

theorem mem_compatibilityTasks_candidate :
    .admissionCandidate head target n ∈ compatibilityTasks snapshot a ↔
      target = snapshot.defaultBranch ∧ n ∈ leadingRows a ∧
      ∃ p,a.pullRequests[n]? = some p ∧ p.head = head ∧ ¬ (p.crossRepository ∨ p.draft) := by
  have hcaravans : .admissionCandidate head target n ∉
      a.fleet.caravans.flatMap (caravanTasks snapshot a) := by
    intro h
    obtain ⟨c,-,h⟩ := List.mem_flatMap.mp h
    exact caravanTasks_not_candidate c h
  rw [compatibilityTasks,List.mem_append,List.mem_append,mem_candidateTasks]
  simp only [hcaravans,crossTasks_not_candidate,false_or]
  rfl

end Leading

end Graph

namespace Admission

open Config (CiAdmissionGateConfig)
open Generation (GenerationIntegrityStatus)
open Cara.Graph (analyzeForActor deriveForActor compatibilityTasks reportsOf leadingRows)

section Elected

variable (analysis : GraphAnalysis) (priorityLabels : List String)
  (generation : GenerationIntegrityStatus) (gate : Option CiAdmissionGateConfig)

def ElectedCandidate (n : PrNumber) (p : PullRequestSnapshot) : Prop :=
  let s := resolveAdmissionWithGenerationAndGate analysis priorityLabels generation gate
  s.nextCandidate = some n ∧ n ∈ s.candidates.map (·.pr) ∧ analysis.pullRequests[n]? = some p

def CleanReport (report : CompatibilityReport) (head target : BranchSnapshot) : Prop :=
  report.outcome = .clean ∧ report.candidate = head ∧ report.target = target

/-- The front has a clean report against the default branch. -/
def FrontProven (snapshot : RepositorySnapshot) : Prop :=
  ∀ n p,ElectedCandidate analysis priorityLabels generation gate n p →
    ∃ report ∈ analysis.compatibility,CleanReport report p.head snapshot.defaultBranch

/-- The row is a leading one and the report on it names its revisions, or another planned check
reports them clean. -/
def Covered {δ : Type} (checker : CompatibilityChecker δ) (snapshot : RepositorySnapshot)
    (actor : HeadMergeActor) (n : PrNumber) (p : PullRequestSnapshot) : Prop :=
  (n ∈ leadingRows (deriveForActor snapshot actor) ∧
    ∀ report,checker.check p.head snapshot.defaultBranch = .ok report →
      report.candidate = p.head ∧ report.target = snapshot.defaultBranch) ∨
  ∃ task ∈ compatibilityTasks snapshot (deriveForActor snapshot actor),
    task ≠ .admissionCandidate p.head snapshot.defaultBranch n ∧
    ∃ report ∈ reportsOf checker task,CleanReport report p.head snapshot.defaultBranch

variable {analysis priorityLabels generation gate} {n : PrNumber} {p : PullRequestSnapshot}

theorem ElectedCandidate.ready (h : ElectedCandidate analysis priorityLabels generation gate n p) :
    ¬ (p.crossRepository ∨ p.draft) ∧ provenIncompatible analysis n = false := by
  obtain ⟨-,hmem,hp⟩ := h
  obtain ⟨row,hrow,hpr⟩ := List.mem_map.mp hmem
  rw [mem_candidates] at hrow
  obtain ⟨v,hv,hcandidate⟩ := List.mem_filterMap.mp (List.mem_filter.mp hrow).1
  obtain ⟨m,-,q,hq,rfl⟩ := (mem_verdicts analysis priorityLabels generation gate).mp hv
  have hm := classify_pr analysis priorityLabels generation gate m q
  unfold classify at hcandidate hm
  dsimp only at hcandidate hm
  split at hcandidate
  · cases hcandidate
  · next hrejection =>
    rw [hrejection] at hm
    split_ifs at hcandidate hm with hpolicy hfailure hroot hskip hproven
    all_goals try cases hcandidate
    change m = n at hpr
    subst hpr
    rw [hp,Option.some_inj] at hq
    subst hq
    refine ⟨?_,by simpa using hproven⟩
    unfold rejection at hrejection
    dsimp only at hrejection
    split at hrejection
    · cases hrejection
    · split_ifs at hrejection with hinvalid hconflict hdraft hfork
      rintro (h | h)
      · exact hfork h
      · exact hdraft h

variable {δ : Type} {checker : CompatibilityChecker δ} {snapshot : RepositorySnapshot}
  {actor : HeadMergeActor}

/-- The elected candidate is proven exactly if its row is covered. A leading row that does not
merge is skipped, so the report of an elected one is clean. -/
theorem electedCandidate_proven_iff (hanalysis : analyzeForActor checker snapshot actor = .ok analysis)
    (helected : ElectedCandidate analysis priorityLabels generation gate n p) :
    (∃ report ∈ analysis.compatibility,CleanReport report p.head snapshot.defaultBranch) ↔
      Covered checker snapshot actor n p := by
  obtain ⟨hin,hproven⟩ := helected.ready
  have hpulls : (deriveForActor snapshot actor).pullRequests[n]? = some p := by
    rw [← (Graph.analyzeForActor_kept hanalysis).pullRequests]
    exact helected.2.2
  have hown : .admissionCandidate p.head snapshot.defaultBranch n ∈
      compatibilityTasks snapshot (deriveForActor snapshot actor) ↔
      n ∈ leadingRows (deriveForActor snapshot actor) := by
    rw [Graph.mem_compatibilityTasks_candidate]
    exact ⟨fun h => h.2.1,fun h => ⟨rfl,h,p,hpulls,rfl,hin⟩⟩
  simp only [Graph.mem_compatibility hanalysis]
  constructor
  · rintro ⟨report,⟨task,htask,hreport⟩,hclean⟩
    by_cases hsame : task = .admissionCandidate p.head snapshot.defaultBranch n
    · subst hsame
      refine .inl ⟨hown.mp htask,?_⟩
      intro other hother
      simp only [reportsOf,hother,List.mem_singleton] at hreport
      subst hreport
      exact hclean.2
    · exact .inr ⟨task,htask,hsame,report,hreport,hclean⟩
  · rintro (⟨hleading,hnames⟩ | ⟨task,htask,-,report,hreport,hclean⟩)
    · have htask := hown.mpr hleading
      obtain ⟨report,hcheck⟩ := Graph.analyzeForActor_checked hanalysis htask
      refine ⟨report,⟨_,htask,by simp [reportsOf,hcheck]⟩,?_,hnames report hcheck⟩
      by_contra hunclean
      have hproblem := Graph.mem_problems_of_task hanalysis ⟨.candidateIncompatible,[n],
        "leading admission candidate does not merge cleanly into the current default branch"⟩ htask
        (by simp [Graph.problemsOf,hcheck,Graph.reported,hunclean])
      have hany : provenIncompatible analysis n = true := by
        apply List.any_eq_true.mpr
        refine ⟨_,hproblem,?_⟩
        simp [GraphProblemKind.isCandidateScoped,GraphProblemKind.blocksFleet,
          GraphProblemKind.isHistorical]
      rw [hproven] at hany
      cases hany
    · exact ⟨report,⟨task,htask,hreport⟩,hclean⟩

def agreeableChecker : CompatibilityChecker Unit where
  prepare _ := .ok ()
  check candidate target := .ok ⟨candidate,target,.clean,none⟩
  cumulativeTree _ _ := .ok none
  squashEquivalence _ _ := .ok ()

def prioritySnapshot : RepositorySnapshot :=
  let repository : RepositoryId := ⟨"o","r"⟩
  let branch (name : String) : BranchSnapshot := ⟨repository,name,name⟩
  let ready (number : PrNumber) (head : String) (labels : Finset String) : PullRequestSnapshot :=
    { number,state := .open,head := branch head,base := branch "m",labels,autoMerge := .disabled }
  { repository
    defaultBranch := branch "m"
    pullRequests := [ready 1 "a" ∅,ready 2 "b" ∅,ready 3 "c" ∅,ready 4 "d" {"caravan-priority:h"}] }

def priorityAnalysis : GraphAnalysis :=
  (analyzeForActor agreeableChecker prioritySnapshot .github).toOption.getD
    (deriveForActor prioritySnapshot .github)

theorem priorityAnalysis_eq :
    analyzeForActor agreeableChecker prioritySnapshot .github = .ok priorityAnalysis := by
  have hok : (analyzeForActor agreeableChecker prioritySnapshot .github).isOk = true := by
    decide +kernel
  unfold priorityAnalysis
  cases h : analyzeForActor agreeableChecker prioritySnapshot .github with
  | ok a => rfl
  | error e =>
    rw [h] at hok
    cases hok

/-- Without the label configured, the first row is elected and is a leading one. -/
theorem first_proven_iff : ∃ p,
    ElectedCandidate priorityAnalysis [] ⟨1,"",[],0,false⟩ none 1 p ∧
    ((∃ report ∈ priorityAnalysis.compatibility,
      CleanReport report p.head prioritySnapshot.defaultBranch) ↔
      Covered agreeableChecker prioritySnapshot .github 1 p) := by
  have helected : ElectedCandidate priorityAnalysis [] ⟨1,"",[],0,false⟩ none 1
      ((priorityAnalysis.pullRequests[1]?).get (by decide +kernel)) :=
    ⟨by decide +kernel,by decide +kernel,(Option.some_get _).symm⟩
  exact ⟨_,helected,electedCandidate_proven_iff priorityAnalysis_eq helected⟩

/-- With it, the fourth row is elected and nothing is proven about it. -/
theorem priority_unproven :
    ¬ FrontProven priorityAnalysis ["caravan-priority:h"] ⟨1,"",[],0,false⟩ none
      prioritySnapshot := by
  intro hproven
  have helected : ElectedCandidate priorityAnalysis ["caravan-priority:h"] ⟨1,"",[],0,false⟩ none 4
      ((priorityAnalysis.pullRequests[4]?).get (by decide +kernel)) :=
    ⟨by decide +kernel,by decide +kernel,(Option.some_get _).symm⟩
  obtain ⟨report,hmem,-,hcandidate,-⟩ := hproven _ _ helected
  revert report
  decide +kernel

end Elected

end Admission
end Cara
