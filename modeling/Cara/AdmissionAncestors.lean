import Cara.Eligibility
import Mathlib.Logic.Relation

/-! Base chains of admitted pull requests. Dependencies are compared only with the rows ahead in
canonical order, so an unjoined ancestor holds its descendants back only as such a row. -/
namespace Cara
namespace Admission

open Config (CiAdmissionGateConfig)
open Generation (GenerationIntegrityStatus)

section Chain

variable (analysis : GraphAnalysis)

/-- The child is based on the head branch of the open parent. -/
def BasedOn (child parent : PullRequestSnapshot) : Prop :=
  parent ∈ Graph.rowsOf analysis.pullRequests ∧ parent.state = .open ∧ parent.crossRepository = false ∧
    parent.head.repository = child.base.repository ∧ parent.head.name = child.base.name

/-- Another open pull request of no caravan, anywhere on the base chain. -/
def UnjoinedAncestor (candidate : PullRequestSnapshot) : Prop :=
  ∃ ancestor,Relation.TransGen (BasedOn analysis) candidate ancestor ∧
    ancestor.number ≠ candidate.number ∧ isJoined analysis ancestor.number = false

/-- Elected among the candidates, or let through on explicit selection. -/
def Passes (s : AdmissionStatus) (candidate : PullRequestSnapshot) : Prop :=
  (s.nextCandidate = some candidate.number ∧ candidate.number ∈ s.candidates.map (·.pr)) ∨
    ∃ target,(evaluate s analysis candidate target .explicit).outcome = .canonical ∨
      (evaluate s analysis candidate target .explicit).outcome = .explicitAheadOfUnjoined

def NoAncestorPassed (s : AdmissionStatus) : Prop :=
  ∀ candidate ∈ Graph.rowsOf analysis.pullRequests,Passes analysis s candidate →
    ¬ UnjoinedAncestor analysis candidate

end Chain

section Guard

variable (analysis : GraphAnalysis) (priorityLabels : List String)
  (generation : GenerationIntegrityStatus) (gate : Option CiAdmissionGateConfig)

/-- A row of the candidate verdict that depends on no failing root. -/
def Selectable (row : AdmissionCandidate) : Prop :=
  row.pr ∈ analysis.fleet.unqueued ∧ ∃ p,analysis.pullRequests[row.pr]? = some p ∧
    classify analysis priorityLabels generation gate row.pr p = .candidate row ∧
    ∀ d ∈ dependencyPrs analysis p,¬ FailingRoot analysis priorityLabels generation gate d

def Blocker (row : RejectedAdmissionCandidate) : Prop :=
  row.pr ∈ analysis.fleet.unqueued ∧ row.blocksOrder = true ∧
    ∃ p,analysis.pullRequests[row.pr]? = some p ∧
      classify analysis priorityLabels generation gate row.pr p = .rejected row

inductive Contends : AdmissionKey → Prop
  | selectable {row : AdmissionCandidate} : Selectable analysis priorityLabels generation gate row →
      Contends (row.key (priorityLabels.length + 1))
  | blocker {row : RejectedAdmissionCandidate} : Blocker analysis priorityLabels generation gate row →
      (∀ other,¬ Selectable analysis priorityLabels generation gate other) ∨
        ¬ FailingRoot analysis priorityLabels generation gate row.pr →
      Contends (row.key (priorityLabels.length + 1))

def First (n : PrNumber) : Prop :=
  ∃ k,IsLeast {k | Contends analysis priorityLabels generation gate k} k ∧ keyPr k = n

/-- A row ahead that explicit selection does not pass: a blocker, or a selectable row that is
joined or found among the dependencies. -/
def Barred (candidate : PullRequestSnapshot) (row : AdmissionCandidate) : Prop :=
  (∃ other,Selectable analysis priorityLabels generation gate other ∧ other.pr ≠ row.pr ∧
    other.key (priorityLabels.length + 1) < row.key (priorityLabels.length + 1) ∧
    (isJoined analysis other.pr = true ∨ other.pr ∈ dependencyPrs analysis candidate)) ∨
  ∃ other,Blocker analysis priorityLabels generation gate other ∧ other.pr ≠ row.pr ∧
    other.key (priorityLabels.length + 1) < row.key (priorityLabels.length + 1)

/-- Another row stands before the candidate's, and one that explicit selection does not pass. -/
structure HeldBack (candidate : PullRequestSnapshot) : Prop where
  unelected : ∀ row,Selectable analysis priorityLabels generation gate row → row.pr = candidate.number →
    ¬ First analysis priorityLabels generation gate candidate.number
  unpassed : isJoined analysis candidate.number = false →
    ¬ First analysis priorityLabels generation gate candidate.number ∧
    ∀ row,Selectable analysis priorityLabels generation gate row → row.pr = candidate.number →
      Barred analysis priorityLabels generation gate candidate row

theorem Selectable.unique {row row' : AdmissionCandidate}
    (h : Selectable analysis priorityLabels generation gate row)
    (h' : Selectable analysis priorityLabels generation gate row') (hpr : row.pr = row'.pr) : row = row' := by
  obtain ⟨_,p,hp,hrow,_⟩ := h
  obtain ⟨_,p',hp',hrow',_⟩ := h'
  rw [hpr] at hp hrow
  cases hp.symm.trans hp'
  cases hrow.symm.trans hrow'
  rfl

theorem blockedBy_iff (row : AdmissionCandidate) {p : PullRequestSnapshot}
    (hp : analysis.pullRequests[row.pr]? = some p) :
    (blockedBy analysis (blockedRoots ((verdicts analysis priorityLabels generation gate).filterMap
      rejectedRow?)) row).isEmpty = true ↔
    ∀ d ∈ dependencyPrs analysis p,¬ FailingRoot analysis priorityLabels generation gate d := by
  unfold blockedBy
  rw [hp,List.isEmpty_iff,List.filter_eq_nil_iff]
  simp only [Option.elim_some,decide_eq_true_eq,mem_blockedRoots]

theorem mem_candidates_iff (row : AdmissionCandidate) :
    row ∈ (resolveAdmissionWithGenerationAndGate analysis priorityLabels generation gate).candidates ↔
      Selectable analysis priorityLabels generation gate row := by
  constructor
  · intro h
    obtain ⟨hn,p,hp,hclassified⟩ := candidate_of_resolved h
    unfold resolveAdmissionWithGenerationAndGate at h
    have hindependent := (List.mem_filter.mp (mem_sortByKey.mp h)).2
    exact ⟨hn,p,hp,hclassified,(blockedBy_iff analysis priorityLabels generation gate row hp).mp hindependent⟩
  · intro h
    obtain ⟨hn,p,hp,hclassified,hindependent⟩ := h
    unfold resolveAdmissionWithGenerationAndGate
    apply mem_sortByKey.mpr
    apply List.mem_filter.mpr
    refine ⟨List.mem_filterMap.mpr ⟨.candidate row,?_,rfl⟩,
      (blockedBy_iff analysis priorityLabels generation gate row hp).mpr hindependent⟩
    exact (mem_verdicts ..).mpr ⟨row.pr,hn,p,hp,hclassified.symm⟩

theorem mem_rejected_iff (row : RejectedAdmissionCandidate) :
    (row ∈ (resolveAdmissionWithGenerationAndGate analysis priorityLabels generation gate).rejected ∧
      row.blocksOrder = true) ↔ Blocker analysis priorityLabels generation gate row := by
  unfold resolveAdmissionWithGenerationAndGate
  simp only [mem_sortByKey,List.mem_filterMap,mem_verdicts]
  constructor
  · intro h
    obtain ⟨⟨v,⟨n,hn,p,hp,hv⟩,hrow⟩,hblocks⟩ := h
    have hrejected : v = .rejected row := by
      cases v <;> simp_all [rejectedRow?]
    rw [hrejected] at hv
    have hpr : row.pr = n := by
      rw [← classify_pr analysis priorityLabels generation gate n p,← hv]
      rfl
    rw [← hpr] at hn hp hv
    exact ⟨hn,hblocks,p,hp,hv.symm⟩
  · intro h
    obtain ⟨hn,hblocks,p,hp,hclassified⟩ := h
    exact ⟨⟨.rejected row,⟨row.pr,hn,p,hp,hclassified.symm⟩,rfl⟩,hblocks⟩

theorem contends_iff (k : AdmissionKey) :
    Competes analysis priorityLabels generation gate
      (resolveAdmissionWithGenerationAndGate analysis priorityLabels generation gate)
      (priorityLabels.length + 1) k ↔ Contends analysis priorityLabels generation gate k := by
  have hnone : (resolveAdmissionWithGenerationAndGate analysis priorityLabels generation
      gate).candidates = [] ↔ ∀ other,¬ Selectable analysis priorityLabels generation gate other := by
    simp only [List.eq_nil_iff_forall_not_mem,mem_candidates_iff]
  constructor
  · intro h
    cases h with
    | candidate hrow => exact .selectable ((mem_candidates_iff ..).mp hrow)
    | rejected hrow hblocks hroot =>
      exact .blocker ((mem_rejected_iff ..).mp ⟨hrow,hblocks⟩) (hroot.imp_left hnone.mp)
  · intro h
    cases h with
    | selectable hrow => exact .candidate ((mem_candidates_iff ..).mpr hrow)
    | blocker hrow hroot =>
      obtain ⟨hmem,hblocks⟩ := (mem_rejected_iff ..).mpr hrow
      exact .rejected hmem hblocks (hroot.imp_left hnone.mpr)

theorem nextCandidate_iff (n : PrNumber) :
    (resolveAdmissionWithGenerationAndGate analysis priorityLabels generation gate).nextCandidate =
      some n ↔ First analysis priorityLabels generation gate n := by
  rw [(resolve_elects analysis priorityLabels generation gate).some_iff n]
  unfold First
  simp only [contends_iff]

theorem dispositionOf_bypassed (dependencies : List PrNumber) (pr : PrNumber)
    (otherwise : OrderedRowDisposition) :
    (dispositionOf analysis dependencies pr otherwise).bypassed = true ↔
      isJoined analysis pr = false ∧ pr ∉ dependencies ∧ otherwise = .bypassedUnjoined := by
  unfold dispositionOf
  split_ifs with hjoined hdependency
  · simp [hjoined,OrderedRowDisposition.bypassed]
  · simp [hdependency,OrderedRowDisposition.bypassed]
  · simp [hjoined,hdependency,OrderedRowDisposition.bypassed]

theorem rowsAhead_clear_iff (candidate : PullRequestSnapshot) (row : AdmissionCandidate) :
    ((rowsAhead (resolveAdmissionWithGenerationAndGate analysis priorityLabels generation gate) analysis
      candidate row .explicit).filter fun r => !r.disposition.bypassed).map (·.pr) = [] ↔
      ¬ Barred analysis priorityLabels generation gate candidate row := by
  rw [List.map_eq_nil_iff,List.filter_eq_nil_iff]
  unfold rowsAhead candidatesAhead rejectedAhead
  simp only [List.mem_insertionSort,List.mem_append,List.mem_map,List.mem_filter,Bool.and_eq_true,
    decide_eq_true_eq,Bool.not_eq_true',Bool.not_eq_false]
  constructor
  · intro hclear hbarred
    obtain ⟨other,hother,hne,hlt,hbars⟩ | ⟨other,hother,hne,hlt⟩ := hbarred
    · have hpassed := hclear _ (.inl ⟨other,⟨(mem_candidates_iff ..).mpr hother,hne,hlt⟩,rfl⟩)
      obtain ⟨hjoined,hapart,_⟩ := (dispositionOf_bypassed ..).mp hpassed
      obtain hbars | hbars := hbars
      · rw [hjoined] at hbars
        cases hbars
      · exact hapart hbars
    · obtain ⟨hmem,hblocks⟩ := (mem_rejected_iff ..).mpr hother
      have hpassed := hclear _ (.inr ⟨other,⟨hmem,⟨hblocks,hne⟩,hlt⟩,rfl⟩)
      obtain ⟨_,_,hother⟩ := (dispositionOf_bypassed ..).mp hpassed
      cases hother
  · intro hbarred r hr
    obtain ⟨other,⟨hother,hne,hlt⟩,rfl⟩ | ⟨other,⟨hother,⟨hblocks,hne⟩,hlt⟩,rfl⟩ := hr
    · have hselectable := (mem_candidates_iff analysis priorityLabels generation gate other).mp hother
      apply (dispositionOf_bypassed ..).mpr
      refine ⟨?_,?_,rfl⟩
      · by_contra hjoined
        exact hbarred (.inl ⟨other,hselectable,hne,hlt,.inl (by simpa using hjoined)⟩)
      · intro hdependency
        exact hbarred (.inl ⟨other,hselectable,hne,hlt,.inr hdependency⟩)
    · have hblocker := (mem_rejected_iff analysis priorityLabels generation gate other).mp ⟨hother,hblocks⟩
      exact absurd (.inr ⟨other,hblocker,hne,hlt⟩) hbarred

theorem judge_outcome {decision : AdmissionIntentDecision} (hselection : decision.selection = .explicit)
    (houtcome : decision.outcome = .blockedByOrder) :
    ((judge decision).outcome = .canonical ∨ (judge decision).outcome = .explicitAheadOfUnjoined) ↔
      decision.blockingPrs = [] := by
  unfold judge
  by_cases hblocking : decision.blockingPrs = []
  · simp [hselection,AdmissionSelection.relaxesOrder,hblocking]
  · simp [hselection,AdmissionSelection.relaxesOrder,hblocking,houtcome]

theorem evaluate_explicit_iff (candidate : PullRequestSnapshot) (target : Option Caravan) :
    let s := resolveAdmissionWithGenerationAndGate analysis priorityLabels generation gate
    ((evaluate s analysis candidate target .explicit).outcome = .canonical ∨
      (evaluate s analysis candidate target .explicit).outcome = .explicitAheadOfUnjoined) ↔
    isJoined analysis candidate.number = false ∧
      (First analysis priorityLabels generation gate candidate.number ∨
        ∃ row,Selectable analysis priorityLabels generation gate row ∧ row.pr = candidate.number ∧
          ¬ Barred analysis priorityLabels generation gate candidate row) := by
  intro s
  rw [← nextCandidate_iff]
  by_cases hjoined : isJoined analysis candidate.number = true
  · simp [evaluate,hjoined]
  by_cases hnext : s.nextCandidate = some candidate.number
  · simp [evaluate,hjoined,hnext,s]
  · have hfirst : (s.nextCandidate = some candidate.number ∨ ∃ row,
        Selectable analysis priorityLabels generation gate row ∧ row.pr = candidate.number ∧
          ¬ Barred analysis priorityLabels generation gate candidate row) ↔
        ∃ row,Selectable analysis priorityLabels generation gate row ∧ row.pr = candidate.number ∧
          ¬ Barred analysis priorityLabels generation gate candidate row :=
      or_iff_right hnext
    have hunjoined : isJoined analysis candidate.number = false := by simpa using hjoined
    rw [hfirst,and_iff_right hunjoined]
    unfold evaluate
    simp only [hunjoined,Bool.false_eq_true,if_false,if_neg hnext]
    cases hfind : s.candidates.find? fun row => decide (row.pr = candidate.number) with
    | none =>
      have hnone : ∀ row,Selectable analysis priorityLabels generation gate row →
          row.pr ≠ candidate.number := by
        intro row hrow hpr
        have hmissed := List.find?_eq_none.mp hfind row ((mem_candidates_iff ..).mpr hrow)
        simp [hpr] at hmissed
      constructor
      · simp
      · intro h
        obtain ⟨row,hrow,hpr,_⟩ := h
        exact absurd hpr (hnone row hrow)
    | some row =>
      have hrow : Selectable analysis priorityLabels generation gate row :=
        (mem_candidates_iff ..).mp (List.mem_of_find?_eq_some hfind)
      have hpr : row.pr = candidate.number := by simpa using List.find?_some hfind
      dsimp only
      rw [judge_outcome rfl rfl]
      refine (rowsAhead_clear_iff analysis priorityLabels generation gate candidate row).trans ?_
      constructor
      · exact fun hclear => ⟨row,hrow,hpr,hclear⟩
      · intro h
        obtain ⟨row',hrow',hpr',hclear⟩ := h
        rw [hrow.unique analysis priorityLabels generation gate hrow' (hpr.trans hpr'.symm)]
        exact hclear

theorem passes_iff (candidate : PullRequestSnapshot) :
    Passes analysis (resolveAdmissionWithGenerationAndGate analysis priorityLabels generation gate)
      candidate ↔ ¬ HeldBack analysis priorityLabels generation gate candidate := by
  have hselectable : candidate.number ∈ (resolveAdmissionWithGenerationAndGate analysis priorityLabels
      generation gate).candidates.map (·.pr) ↔
      ∃ row,Selectable analysis priorityLabels generation gate row ∧ row.pr = candidate.number := by
    simp only [List.mem_map,mem_candidates_iff]
  unfold Passes
  rw [nextCandidate_iff,hselectable]
  simp only [evaluate_explicit_iff analysis priorityLabels generation gate candidate]
  constructor
  · intro hpasses hheld
    obtain ⟨hfirst,row,hrow,hpr⟩ | ⟨_,hunjoined,hfirst | ⟨row,hrow,hpr,hclear⟩⟩ := hpasses
    · exact hheld.unelected row hrow hpr hfirst
    · exact (hheld.unpassed hunjoined).1 hfirst
    · exact hclear ((hheld.unpassed hunjoined).2 row hrow hpr)
  · intro hheld
    by_contra hstopped
    rw [not_or] at hstopped
    obtain ⟨hunelected,hunpassed⟩ := hstopped
    refine hheld ⟨fun row hrow hpr hfirst => hunelected ⟨hfirst,row,hrow,hpr⟩,fun hunjoined => ⟨?_,?_⟩⟩
    · exact fun hfirst => hunpassed ⟨none,hunjoined,.inl hfirst⟩
    · intro row hrow hpr
      by_contra hclear
      exact hunpassed ⟨none,hunjoined,.inr ⟨row,hrow,hpr,hclear⟩⟩

/-- No pull request is let past an unjoined ancestor exactly when each one that has such an
ancestor is held back by a row ahead. -/
theorem noAncestorPassed_iff :
    NoAncestorPassed analysis
      (resolveAdmissionWithGenerationAndGate analysis priorityLabels generation gate) ↔
    ∀ candidate ∈ Graph.rowsOf analysis.pullRequests,UnjoinedAncestor analysis candidate →
      HeldBack analysis priorityLabels generation gate candidate := by
  unfold NoAncestorPassed
  simp only [passes_iff]
  constructor
  · intro h candidate hrow hancestor
    by_contra hpasses
    exact h candidate hrow hpasses hancestor
  · exact fun h candidate hrow hpasses hancestor => hpasses (h candidate hrow hancestor)

end Guard

section Example

def exampleBranch (name : String) : BranchSnapshot := ⟨⟨"o","r"⟩,name,name⟩

def youngerParent : PullRequestSnapshot where
  number := 2
  state := .open
  head := exampleBranch "b"
  base := exampleBranch "m"
  createdAt := some "2026-01-02"
  autoMerge := .disabled

def olderChild : PullRequestSnapshot where
  number := 1
  state := .open
  head := exampleBranch "a"
  base := exampleBranch "b"
  createdAt := some "2026-01-01"
  autoMerge := .disabled

/-- A pull request older than the open one it is stacked on. -/
def stackedSnapshot : RepositorySnapshot where
  repository := ⟨"o","r"⟩
  defaultBranch := exampleBranch "m"
  pullRequests := [olderChild,youngerParent]

def noGeneration : GenerationIntegrityStatus := ⟨1,"",[],0,false⟩

/-- The child is elected first, past its unjoined parent. -/
theorem olderChild_passes :
    let analysis := Graph.deriveForActor stackedSnapshot .github
    ¬ NoAncestorPassed analysis
      (resolveAdmissionWithGenerationAndGate analysis [] noGeneration none) := by
  intro analysis h
  have hchild : analysis.pullRequests[olderChild.number]? = some olderChild := by decide +kernel
  have hparent : analysis.pullRequests[youngerParent.number]? = some youngerParent := by decide +kernel
  have hbased : BasedOn analysis olderChild youngerParent :=
    ⟨Graph.mem_rowsOf_iff.mpr ⟨_,hparent⟩,rfl,rfl,rfl,rfl⟩
  have hpasses : Passes analysis (resolveAdmissionWithGenerationAndGate analysis [] noGeneration none)
      olderChild := .inl (by decide +kernel)
  exact h olderChild (Graph.mem_rowsOf_iff.mpr ⟨_,hchild⟩) hpasses
    ⟨youngerParent,.single hbased,by decide,by decide +kernel⟩

end Example

end Admission
end Cara
