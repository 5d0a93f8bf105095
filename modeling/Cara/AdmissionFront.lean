import Cara.AdmissionOrder

/-! The front of the admission order: which row is elected when rows are rejected, and when a
row whose rank cannot be computed really holds up the rows behind it. -/
namespace Cara
namespace Admission

open Config (CiAdmissionGateConfig)
open Generation (GenerationIntegrityStatus)

section Front

variable (analysis : GraphAnalysis) (priorityLabels : List String)
  (generation : GenerationIntegrityStatus) (gate : Option CiAdmissionGateConfig)

/-- The rows that are classified as candidates and depend on no failing root. -/
def admissibleRows : List AdmissionCandidate :=
  let rows := verdicts analysis priorityLabels generation gate
  independent analysis (blockedRoots (rows.filterMap rejectedRow?)) (rows.filterMap candidateRow?)

def rejectedRows : List RejectedAdmissionCandidate :=
  (verdicts analysis priorityLabels generation gate).filterMap rejectedRow?

/-- A rejected row that blocks the order and is not a failing root. -/
def Holds (row : RejectedAdmissionCandidate) : Prop :=
  row ∈ rejectedRows analysis priorityLabels generation gate ∧ row.blocksOrder = true ∧
    ¬ FailingRoot analysis priorityLabels generation gate row.pr

/-- Unknown or conflicting priority labels leave the rank of the row open. -/
def Indeterminate (n : PrNumber) : Prop :=
  ∃ p,analysis.pullRequests[n]? = some p ∧
    ∃ reason,rejection priorityLabels generation n p = some (reason,true)

variable {analysis priorityLabels generation gate}

theorem mem_candidates {row : AdmissionCandidate} :
    row ∈ (resolveAdmissionWithGenerationAndGate analysis priorityLabels generation gate).candidates ↔
      row ∈ admissibleRows analysis priorityLabels generation gate := mem_sortByKey

theorem mem_rejected {row : RejectedAdmissionCandidate} :
    row ∈ (resolveAdmissionWithGenerationAndGate analysis priorityLabels generation gate).rejected ↔
      row ∈ rejectedRows analysis priorityLabels generation gate := mem_sortByKey

theorem candidate_ne_rejected {row : AdmissionCandidate} {other : RejectedAdmissionCandidate}
    (hrow : row ∈ admissibleRows analysis priorityLabels generation gate)
    (hother : other ∈ rejectedRows analysis priorityLabels generation gate) : row.pr ≠ other.pr := by
  intro hsame
  obtain ⟨v,hv,hcandidate⟩ := List.mem_filterMap.mp (List.mem_filter.mp hrow).1
  obtain ⟨v',hv',hrejected⟩ := List.mem_filterMap.mp hother
  obtain ⟨n,-,p,hp,rfl⟩ := (mem_verdicts analysis priorityLabels generation gate).mp hv
  obtain ⟨n',-,p',hp',rfl⟩ := (mem_verdicts analysis priorityLabels generation gate).mp hv'
  have hn := classify_pr analysis priorityLabels generation gate n p
  have hn' := classify_pr analysis priorityLabels generation gate n' p'
  cases hclass : classify analysis priorityLabels generation gate n p with
  | skipped r =>
    rw [hclass] at hcandidate
    cases hcandidate
  | rejected r =>
    rw [hclass] at hcandidate
    cases hcandidate
  | candidate r =>
    cases hclass' : classify analysis priorityLabels generation gate n' p' with
    | skipped r' =>
      rw [hclass'] at hrejected
      cases hrejected
    | candidate r' =>
      rw [hclass'] at hrejected
      cases hrejected
    | rejected r' =>
      rw [hclass] at hcandidate hn
      rw [hclass'] at hrejected hn'
      cases hcandidate
      cases hrejected
      have hnumber : n = n' := hn.symm.trans (hsame.trans hn')
      subst hnumber
      rw [hp,Option.some_inj] at hp'
      subst hp'
      rw [hclass] at hclass'
      cases hclass'

theorem candidates_nil_iff :
    (resolveAdmissionWithGenerationAndGate analysis priorityLabels generation gate).candidates = [] ↔
      admissibleRows analysis priorityLabels generation gate = [] := by
  simp only [List.eq_nil_iff_forall_not_mem,mem_candidates]

/-- The elected row: a candidate, or a rejected row that competes with the candidates. -/
theorem elected_cases {n : PrNumber}
    (h : (resolveAdmissionWithGenerationAndGate analysis priorityLabels generation
      gate).nextCandidate = some n) :
    (∃ row ∈ admissibleRows analysis priorityLabels generation gate,row.pr = n ∧
      ∀ held,Holds analysis priorityLabels generation gate held →
        row.key (priorityLabels.length + 1) < held.key (priorityLabels.length + 1)) ∨
    ∃ row ∈ rejectedRows analysis priorityLabels generation gate,row.blocksOrder = true ∧ row.pr = n ∧
      (admissibleRows analysis priorityLabels generation gate = [] ∨
        Holds analysis priorityLabels generation gate row) ∧
      (∀ c ∈ admissibleRows analysis priorityLabels generation gate,
        row.key (priorityLabels.length + 1) < c.key (priorityLabels.length + 1)) ∧
      ∀ other ∈ rejectedRows analysis priorityLabels generation gate,other.blocksOrder = true →
        (admissibleRows analysis priorityLabels generation gate = [] ∨
          Holds analysis priorityLabels generation gate other) →
        row.key (priorityLabels.length + 1) ≤ other.key (priorityLabels.length + 1) := by
  have helects := resolve_elects analysis priorityLabels generation gate
  obtain ⟨k,⟨hcompetes,hleast⟩,hk⟩ := (helects.some_iff n).mp h
  have hrejected (other : RejectedAdmissionCandidate)
      (hother : other ∈ rejectedRows analysis priorityLabels generation gate)
      (hblocks : other.blocksOrder = true)
      (hroot : admissibleRows analysis priorityLabels generation gate = [] ∨
        Holds analysis priorityLabels generation gate other) :
      k ≤ other.key (priorityLabels.length + 1) := by
    apply hleast
    exact .rejected (mem_rejected.mpr hother) hblocks
      (hroot.imp candidates_nil_iff.mpr fun hholds => hholds.2.2)
  cases hcompetes with
  | candidate hrow =>
    rename_i row
    rw [mem_candidates] at hrow
    refine .inl ⟨row,hrow,hk,?_⟩
    intro held hheld
    refine lt_of_le_of_ne (hrejected held hheld.1 hheld.2.1 (.inr hheld)) ?_
    intro hsame
    exact candidate_ne_rejected hrow hheld.1 (congrArg keyPr hsame)
  | rejected hrow hblocks hroot =>
    rename_i row
    rw [mem_rejected] at hrow
    refine .inr ⟨row,hrow,hblocks,hk,hroot.imp candidates_nil_iff.mp fun hroot => ⟨hrow,hblocks,hroot⟩,
      ?_,hrejected⟩
    intro c hc
    refine lt_of_le_of_ne (hleast (.candidate (mem_candidates.mpr hc))) ?_
    intro hsame
    exact candidate_ne_rejected hc hrow (congrArg keyPr hsame).symm

variable (analysis priorityLabels generation gate)

/-- Neither the election nor explicit intent passes a row whose rank is open. -/
def NeverPassed : Prop :=
  (∃ n ∈ analysis.fleet.unqueued,Indeterminate analysis priorityLabels generation n) →
    let s := resolveAdmissionWithGenerationAndGate analysis priorityLabels generation gate
    (∀ n,s.nextCandidate = some n → n ∉ s.candidates.map (·.pr)) ∧
      ∀ candidate target,
        (evaluate s analysis candidate target .explicit).outcome ≠ .explicitAheadOfUnjoined

/-- Nothing is admissible, or a held row sorts before everything that is. -/
def FrontHeld : Prop :=
  admissibleRows analysis priorityLabels generation gate = [] ∨
    ∃ held,Holds analysis priorityLabels generation gate held ∧
      ∀ c ∈ admissibleRows analysis priorityLabels generation gate,
        held.key (priorityLabels.length + 1) < c.key (priorityLabels.length + 1)

variable {analysis priorityLabels generation gate}

theorem rejectedAhead_blocks {s : AdmissionStatus} {dependencies : List PrNumber}
    {row : AdmissionCandidate} {unranked : ℕ} {r : OrderedRow}
    (hr : r ∈ rejectedAhead s analysis dependencies row unranked) : r.disposition.bypassed = false := by
  obtain ⟨other,-,rfl⟩ := List.mem_map.mp hr
  simp only [dispositionOf]
  split_ifs <;> rfl

theorem evaluate_held {s : AdmissionStatus} {candidate : PullRequestSnapshot} {target : Option Caravan}
    (hheld : ∀ row ∈ s.candidates,∃ other ∈ s.rejected,other.blocksOrder = true ∧
      other.pr ≠ row.pr ∧ other.key (s.priorityLabels.length + 1) <
        row.key (s.priorityLabels.length + 1)) :
    (evaluate s analysis candidate target .explicit).outcome ≠ .explicitAheadOfUnjoined := by
  unfold evaluate
  dsimp only
  split
  · simp
  · split
    · simp
    · split
      · simp
      · next row hfind =>
        obtain ⟨other,hother,hblocks,hne,hlt⟩ := hheld row (List.mem_of_find?_eq_some hfind)
        have hahead : ∃ r ∈ rejectedAhead s analysis (dependencyPrs analysis candidate) row
            (s.priorityLabels.length + 1),r.pr = other.pr :=
          ⟨_,List.mem_map_of_mem (List.mem_filter.mpr ⟨hother,by simp [hblocks,hne,hlt]⟩),rfl⟩
        obtain ⟨r,hr,-⟩ := hahead
        have hblocking : r.pr ∈ (((candidatesAhead s analysis (dependencyPrs analysis candidate) row
            .explicit (s.priorityLabels.length + 1) ++ rejectedAhead s analysis
            (dependencyPrs analysis candidate) row (s.priorityLabels.length + 1)).insertionSort
              fun a b => a.pr ≤ b.pr).filter fun r => !r.disposition.bypassed).map (·.pr) := by
          apply List.mem_map_of_mem
          rw [List.mem_filter,List.mem_insertionSort]
          exact ⟨List.mem_append_right _ hr,by simp [rejectedAhead_blocks hr]⟩
        unfold judge
        dsimp only
        rw [if_neg (by simp [AdmissionSelection.relaxesOrder]),if_neg (fun hempty => ?_),
          if_neg (by decide)]
        · simp
        · rw [List.isEmpty_iff] at hempty
          rw [hempty] at hblocking
          cases hblocking

/-- Rows of an open rank are never passed exactly if a held row is the front whenever there are
any. Their own provisional key need not be that row's. -/
theorem neverPassed_iff : NeverPassed analysis priorityLabels generation gate ↔
    ((∃ n ∈ analysis.fleet.unqueued,Indeterminate analysis priorityLabels generation n) →
      FrontHeld analysis priorityLabels generation gate) := by
  constructor
  · intro hnever hopen
    obtain ⟨hnext,-⟩ := hnever hopen
    by_cases hempty : admissibleRows analysis priorityLabels generation gate = []
    · exact .inl hempty
    · right
      have helects := resolve_elects analysis priorityLabels generation gate
      cases hresult : (resolveAdmissionWithGenerationAndGate analysis priorityLabels generation
          gate).nextCandidate with
      | none =>
        obtain ⟨row,hrow⟩ := List.exists_mem_of_ne_nil _ hempty
        exact absurd (.candidate (mem_candidates.mpr hrow)) (helects.none_iff.mp hresult _)
      | some n =>
        rcases elected_cases hresult with ⟨row,hrow,hpr,-⟩ | ⟨row,-,-,-,hholds,hbefore,-⟩
        · exact absurd (List.mem_map.mpr ⟨row,mem_candidates.mpr hrow,hpr⟩) (hnext n hresult)
        · exact ⟨row,hholds.resolve_left hempty,hbefore⟩
  · intro hfront hopen
    rcases hfront hopen with hempty | ⟨held,hheld,hbefore⟩
    · have hnil := candidates_nil_iff.mpr hempty
      refine ⟨fun n _ => by simp [hnil],fun candidate target => ?_⟩
      apply evaluate_held
      intro row hrow
      rw [hnil] at hrow
      cases hrow
    · constructor
      · intro n hn hmem
        obtain ⟨c,hc,hcn⟩ := List.mem_map.mp hmem
        rw [mem_candidates] at hc
        rcases elected_cases hn with ⟨row,hrow,-,hfirst⟩ | ⟨row,hrow,-,hpr,-⟩
        · exact lt_asymm (hfirst held hheld) (hbefore row hrow)
        · exact candidate_ne_rejected hc hrow (hcn.trans hpr.symm)
      · intro candidate target
        apply evaluate_held
        intro row hrow
        rw [mem_candidates] at hrow
        exact ⟨held,mem_rejected.mpr hheld.1,hheld.2.1,(candidate_ne_rejected hrow hheld.1).symm,
          hbefore row hrow⟩

/-- An unknown priority label, and a ready row of a smaller number: the ready row is elected. -/
theorem admissionSnapshot_passed :
    ¬ NeverPassed (Graph.deriveForActor admissionSnapshot .github) ["caravan-priority:h"]
      ⟨1,"",[],0,false⟩ none := by
  intro hnever
  have hopen : ∃ n ∈ (Graph.deriveForActor admissionSnapshot .github).fleet.unqueued,
      Indeterminate (Graph.deriveForActor admissionSnapshot .github) ["caravan-priority:h"]
        ⟨1,"",[],0,false⟩ n := by
    refine ⟨4,by decide +kernel,_,rfl,"fail closed: unknown priority label(s): caravan-priority:x",?_⟩
    decide +kernel
  exact (hnever hopen).1 3 (by decide +kernel) (by decide +kernel)

end Front

end Admission
end Cara
