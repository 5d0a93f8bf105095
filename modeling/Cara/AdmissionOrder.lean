import Cara.Admission
import Cara.GraphMembership

/-! The admission lists partition the unqueued rows and stand in canonical order, the next
candidate is the least competing row, and the judgement of intent follows the same order. -/
namespace Cara
namespace Admission

open Generation (GenerationIntegrityStatus)
open Config (CiAdmissionGateConfig)

section Sorting

variable {α : Type} {rowKey : α → AdmissionKey} {rows : List α}

theorem sortByKey_perm (rowKey : α → AdmissionKey) (rows : List α) :
    (sortByKey rowKey rows).Perm rows := List.perm_insertionSort _ rows

theorem mem_sortByKey {a : α} : a ∈ sortByKey rowKey rows ↔ a ∈ rows :=
  (sortByKey_perm rowKey rows).mem_iff

/-- Rows of different numbers never compare equal, so the order is strict. -/
theorem sortByKey_strict (h : ((sortByKey rowKey rows).map fun a => keyPr (rowKey a)).Nodup) :
    (sortByKey rowKey rows).Pairwise fun a b => rowKey a < rowKey b := by
  have hsorted : (sortByKey rowKey rows).Pairwise fun a b => rowKey a ≤ rowKey b :=
    List.pairwise_insertionSort (fun a b => rowKey a ≤ rowKey b) rows
  have hne : (sortByKey rowKey rows).Pairwise fun a b => keyPr (rowKey a) ≠ keyPr (rowKey b) :=
    List.pairwise_map.mp h
  apply (hsorted.and hne).imp
  rintro a b ⟨hle,hne⟩
  exact lt_of_le_of_ne hle fun heq => hne (congrArg keyPr heq)

@[simp] theorem keyPr_key (rank : Option ℕ) (createdAt : Option String) (pr : PrNumber)
    (unranked : ℕ) : keyPr (key rank createdAt pr unranked) = pr := rfl

@[simp] theorem keyPr_candidate (unranked : ℕ) (c : AdmissionCandidate) :
    keyPr (c.key unranked) = c.pr := rfl

@[simp] theorem keyPr_rejected (unranked : ℕ) (c : RejectedAdmissionCandidate) :
    keyPr (c.key unranked) = c.pr := rfl

end Sorting

section Resolution

variable (analysis : GraphAnalysis) (priorityLabels : List String)
  (generation : GenerationIntegrityStatus) (gate : Option CiAdmissionGateConfig)

def Verdict.pr : Verdict → PrNumber
  | .candidate row => row.pr
  | .skipped row => row.pr
  | .rejected row => row.pr

theorem classify_pr (number : PrNumber) (p : PullRequestSnapshot) :
    (classify analysis priorityLabels generation gate number p).pr = number := by
  unfold classify
  cases rejection priorityLabels generation number p with
  | some r => rfl
  | none =>
    simp only
    split_ifs <;> rfl

theorem verdicts_pr (h : ∀ n ∈ analysis.fleet.unqueued, n ∈ analysis.pullRequests) :
    (verdicts analysis priorityLabels generation gate).map (·.pr) = analysis.fleet.unqueued := by
  unfold verdicts
  generalize analysis.fleet.unqueued = unqueued at h ⊢
  induction unqueued with
  | nil => rfl
  | cons n rest ih =>
    have hn : (analysis.pullRequests[n]?).isSome = true :=
      Std.ExtTreeMap.isSome_getElem?_iff_mem.mpr (h n (by simp))
    obtain ⟨p,hp⟩ := Option.isSome_iff_exists.mp hn
    rw [List.filterMap_cons_some (by rw [hp]; rfl),List.map_cons,classify_pr,
      ih fun m hm => h m (by simp [hm])]

theorem rows_perm (rows : List Verdict) :
    ((rows.filterMap candidateRow?).map (·.pr) ++ ((rows.filterMap skippedRow?).map (·.pr) ++
      (rows.filterMap rejectedRow?).map (·.pr))).Perm (rows.map (·.pr)) := by
  induction rows with
  | nil => exact .refl _
  | cons v rows ih =>
    cases v with
    | candidate row => exact ih.cons row.pr
    | skipped row =>
      refine List.Perm.trans ?_ (ih.cons row.pr)
      exact List.perm_middle
    | rejected row =>
      refine List.Perm.trans ?_ (ih.cons row.pr)
      refine List.Perm.trans (List.Perm.append_left _ List.perm_middle) ?_
      exact List.perm_middle

/-- Redistribution moves rows between the first two lists and loses none. -/
theorem redistribution_perm (roots : List PrNumber) (rows : List AdmissionCandidate) :
    ((independent analysis roots rows).map (·.pr) ++ (preserved analysis roots rows).map (·.pr)).Perm
      (rows.map (·.pr)) := by
  have hpreserved : (preserved analysis roots rows).map (·.pr) =
      (rows.filter fun row => !(blockedBy analysis roots row).isEmpty).map (·.pr) := by
    unfold preserved
    rw [List.map_map]
    rfl
  rw [hpreserved,← List.map_append]
  exact (List.filter_append_perm _ rows).map _

theorem mem_verdicts {v : Verdict} :
    v ∈ verdicts analysis priorityLabels generation gate ↔ ∃ n ∈ analysis.fleet.unqueued, ∃ p,
      analysis.pullRequests[n]? = some p ∧
        v = classify analysis priorityLabels generation gate n p := by
  unfold verdicts
  rw [List.mem_filterMap]
  constructor
  · rintro ⟨n,hn,hv⟩
    obtain ⟨p,hp,hv⟩ := Option.map_eq_some_iff.mp hv
    exact ⟨n,hn,p,hp,hv.symm⟩
  · rintro ⟨n,hn,p,hp,hv⟩
    refine ⟨n,hn,?_⟩
    rw [hp,hv]
    rfl

/-- An attempt with a failing required check that another unqueued row is stacked on. -/
def FailingRoot (n : PrNumber) : Prop :=
  n ∈ analysis.fleet.unqueued ∧ ∃ p, analysis.pullRequests[n]? = some p ∧
    rejection priorityLabels generation n p = none ∧ policyUnknown analysis p = false ∧
    blockedByFailure analysis gate p = true ∧ n ∈ unjoinedParentDependencies analysis

theorem not_startsWith_of_head {s pat : String} {c d : Char} (hs : s.toList.head? = some c)
    (hpat : pat.toList.head? = some d) (hne : c ≠ d) : Text.startsWith s pat = false := by
  unfold Text.startsWith
  obtain ⟨rest,hs⟩ := List.head?_eq_some_iff.mp hs
  obtain ⟨pre,hpat⟩ := List.head?_eq_some_iff.mp hpat
  rw [hs,hpat]
  simp [List.isPrefixOf,hne.symm]

theorem head?_append {a b : String} {c : Char} (h : a.toList.head? = some c) :
    (a ++ b).toList.head? = some c := by
  rw [String.toList_append,List.head?_append,h]
  rfl

theorem rejection_reason {number : PrNumber} {p : PullRequestSnapshot} {reason : String}
    {blocksOrder : Bool}
    (h : rejection priorityLabels generation number p = some (reason,blocksOrder)) :
    Text.startsWith reason "candidate has a failing required check and unjoined descendants" =
      false := by
  have hother (c : Char) (hc : reason.toList.head? = some c) (hne : c ≠ 'c') :
      Text.startsWith reason "candidate has a failing required check and unjoined descendants" =
        false := not_startsWith_of_head hc (by decide) hne
  unfold rejection at h
  simp only at h
  split at h
  · cases h
    exact hother 'f' (head?_append (by decide)) (by decide)
  split_ifs at h
  · cases h
    exact hother 'f' (head?_append (by decide)) (by decide)
  · cases h
    exact hother 'f' (head?_append (by decide)) (by decide)
  · cases h
    exact hother 'n' (by decide) (by decide)
  · cases h
    exact hother 'n' (by decide) (by decide)
  · cases h
    exact hother 'n' (by decide) (by decide)

theorem startsWith_failingRootReason : Text.startsWith failingRootReason
    "candidate has a failing required check and unjoined descendants" = true := by
  decide +kernel

theorem not_startsWith_policyUnknownReason : Text.startsWith policyUnknownReason
    "candidate has a failing required check and unjoined descendants" = false := by
  decide

theorem mem_blockedRoots (n : PrNumber) :
    n ∈ blockedRoots ((verdicts analysis priorityLabels generation gate).filterMap rejectedRow?) ↔
      FailingRoot analysis priorityLabels generation gate n := by
  unfold blockedRoots
  simp only [List.mem_map,List.mem_filter,List.mem_filterMap,mem_verdicts,Bool.and_eq_true]
  constructor
  · rintro ⟨row,⟨⟨v,⟨m,hm,p,hp,hv⟩,hrow⟩,-,htext⟩,hpr⟩
    rw [hv] at hrow
    unfold classify at hrow
    simp only at hrow
    split at hrow
    case h_1 reason blocksOrder hrejection =>
      cases hrow
      rw [rejection_reason _ _ hrejection] at htext
      cases htext
    case h_2 hrejection =>
      split_ifs at hrow with hpolicy hfailure hroot
      all_goals try cases hrow
      · rw [not_startsWith_policyUnknownReason] at htext
        cases htext
      · cases hpr
        exact ⟨hm,p,hp,hrejection,by simpa using hpolicy,hfailure,hroot⟩
  · rintro ⟨hn,p,hp,hrejection,hpolicy,hfailure,hroot⟩
    let row : RejectedAdmissionCandidate := {
      pr := n
      priorityRank := soleRank (configuredLabels priorityLabels p)
      createdAt := p.createdAt
      reason := failingRootReason }
    have hverdict : classify analysis priorityLabels generation gate n p = .rejected row := by
      unfold classify
      simp [hrejection,hpolicy,hfailure,hroot,row]
    refine ⟨row,⟨⟨_,⟨n,hn,p,hp,rfl⟩,?_⟩,rfl,startsWith_failingRootReason⟩,rfl⟩
    rw [hverdict]
    rfl

structure Enumerated : Prop where
  nodup : analysis.fleet.unqueued.Nodup
  present : ∀ n ∈ analysis.fleet.unqueued,n ∈ analysis.pullRequests

theorem rowsOf_numbers {prs : PullRequestMap} (h : Graph.Indexed prs) :
    (Graph.rowsOf prs).map (·.number) = prs.keys := by
  rw [← Std.ExtTreeMap.map_fst_toList_eq_keys]
  unfold Graph.rowsOf
  rw [List.map_map]
  apply List.map_congr_left
  rintro ⟨n,p⟩ hmem
  exact h n p (Std.ExtTreeMap.mem_toList_iff_getElem?_eq_some.mp hmem)

theorem deriveForActor_enumerated (snapshot : RepositorySnapshot) (actor : HeadMergeActor) :
    Enumerated (Graph.deriveForActor snapshot actor) := by
  have hindexed := Graph.collectPullRequests_indexed snapshot.pullRequests
  have hnumbers := rowsOf_numbers hindexed
  have hsub : (Graph.unqueuedNumbers (Graph.collectPullRequests snapshot.pullRequests).1).Sublist
      (Graph.collectPullRequests snapshot.pullRequests).1.keys := by
    rw [← hnumbers]
    exact List.Sublist.map _ List.filter_sublist
  constructor
  · show (Graph.unqueuedNumbers _).Nodup
    exact hsub.nodup Std.ExtTreeMap.nodup_keys
  · intro n hn
    exact Std.ExtTreeMap.mem_keys.mp (hsub.subset hn)

/-- The rows of the three lists are, up to order, the unqueued numbers. -/
theorem resolve_perm (h : Enumerated analysis) :
    ((resolveAdmissionWithGenerationAndGate analysis priorityLabels generation gate).candidates.map
        (·.pr) ++
      ((resolveAdmissionWithGenerationAndGate analysis priorityLabels generation gate).skipped.map
        (·.pr) ++
      (resolveAdmissionWithGenerationAndGate analysis priorityLabels generation gate).rejected.map
        (·.pr))).Perm analysis.fleet.unqueued := by
  have hrows := rows_perm (verdicts analysis priorityLabels generation gate)
  rw [verdicts_pr analysis priorityLabels generation gate h.present] at hrows
  unfold resolveAdmissionWithGenerationAndGate
  simp only
  generalize (verdicts analysis priorityLabels generation gate).filterMap rejectedRow? = rejected
    at hrows ⊢
  generalize (verdicts analysis priorityLabels generation gate).filterMap candidateRow? = candidates
    at hrows ⊢
  generalize (verdicts analysis priorityLabels generation gate).filterMap skippedRow? = skipped
    at hrows ⊢
  refine List.Perm.trans ?_ hrows
  have hcandidates := (sortByKey_perm (·.key (priorityLabels.length + 1))
    (independent analysis (blockedRoots rejected) candidates)).map (·.pr)
  have hskipped := (sortByKey_perm (·.key (priorityLabels.length + 1))
    (skipped ++ preserved analysis (blockedRoots rejected) candidates)).map (·.pr)
  have hrejected := (sortByKey_perm (·.key (priorityLabels.length + 1)) rejected).map (·.pr)
  refine (hcandidates.append (hskipped.append hrejected)).trans ?_
  have hmoved := redistribution_perm analysis (blockedRoots rejected) candidates
  rw [List.map_append]
  -- The preserved rows move in front of the skipped ones, next to the independent rows.
  have hswap : (skipped.map (·.pr) ++
      (preserved analysis (blockedRoots rejected) candidates).map (·.pr) ++ rejected.map (·.pr)).Perm
      ((preserved analysis (blockedRoots rejected) candidates).map (·.pr) ++ skipped.map (·.pr) ++
        rejected.map (·.pr)) := List.perm_append_comm.append_right _
  refine (hswap.append_left _).trans ?_
  simp only [← List.append_assoc]
  exact (hmoved.append_right _).append_right _

def AdmissionStatus.listed (s : AdmissionStatus) (n : PrNumber) : ℕ :=
  (s.candidates.map (·.pr)).count n + (s.skipped.map (·.pr)).count n + (s.rejected.map (·.pr)).count n

theorem listed_eq (h : Enumerated analysis) (n : PrNumber) :
    (resolveAdmissionWithGenerationAndGate analysis priorityLabels generation gate).listed n =
      if n ∈ analysis.fleet.unqueued then 1 else 0 := by
  have hcount := (resolve_perm analysis priorityLabels generation gate h).count_eq n
  rw [List.count_append,List.count_append,← Nat.add_assoc] at hcount
  unfold AdmissionStatus.listed
  rw [hcount]
  split_ifs with hn
  · exact List.count_eq_one_of_mem h.nodup hn
  · exact List.count_eq_zero_of_not_mem hn

structure Sorted (s : AdmissionStatus) (unranked : ℕ) : Prop where
  candidates : s.candidates.Pairwise fun a b => a.key unranked < b.key unranked
  skipped : s.skipped.Pairwise fun a b => a.key unranked < b.key unranked
  rejected : s.rejected.Pairwise fun a b => a.key unranked < b.key unranked

theorem resolve_sorted (h : Enumerated analysis) :
    Sorted (resolveAdmissionWithGenerationAndGate analysis priorityLabels generation gate)
      (priorityLabels.length + 1) := by
  have hnodup := (resolve_perm analysis priorityLabels generation gate h).nodup_iff.mpr h.nodup
  obtain ⟨hcandidates,hrest,-⟩ := List.nodup_append.mp hnodup
  obtain ⟨hskipped,hrejected,-⟩ := List.nodup_append.mp hrest
  exact ⟨sortByKey_strict hcandidates,sortByKey_strict hskipped,sortByKey_strict hrejected⟩

inductive Competes (s : AdmissionStatus) (unranked : ℕ) : AdmissionKey → Prop where
  | candidate {row : AdmissionCandidate} (h : row ∈ s.candidates) : Competes s unranked (row.key unranked)
  | rejected {row : RejectedAdmissionCandidate} (h : row ∈ s.rejected) (blocks : row.blocksOrder = true)
      (hroot : s.candidates = [] ∨ ¬FailingRoot analysis priorityLabels generation gate row.pr) :
      Competes s unranked (row.key unranked)

theorem mem_ballots_iff (k : AdmissionKey) :
    k ∈ ballots (priorityLabels.length + 1)
      (resolveAdmissionWithGenerationAndGate analysis priorityLabels generation gate).candidates
      (resolveAdmissionWithGenerationAndGate analysis priorityLabels generation gate).rejected
      (blockedRoots ((verdicts analysis priorityLabels generation gate).filterMap rejectedRow?)) ↔
    Competes analysis priorityLabels generation gate
      (resolveAdmissionWithGenerationAndGate analysis priorityLabels generation gate)
      (priorityLabels.length + 1) k := by
  generalize resolveAdmissionWithGenerationAndGate analysis priorityLabels generation gate = s
  unfold ballots
  simp only [List.mem_append,List.mem_map,List.mem_filter,Bool.and_eq_true,Bool.or_eq_true,
    List.isEmpty_iff,Bool.not_eq_true',decide_eq_false_iff_not,mem_blockedRoots]
  constructor
  · rintro (⟨row,hrow,rfl⟩ | ⟨row,⟨hrow,hblocks,hroot⟩,rfl⟩)
    · exact .candidate hrow
    · exact .rejected hrow hblocks hroot
  · rintro (hrow | ⟨hrow,hblocks,hroot⟩)
    · exact .inl ⟨_,hrow,rfl⟩
    · exact .inr ⟨_,⟨hrow,hblocks,hroot⟩,rfl⟩

structure Elects (s : AdmissionStatus) (unranked : ℕ) : Prop where
  some_iff : ∀ n,s.nextCandidate = some n ↔
    ∃ k,IsLeast {k | Competes analysis priorityLabels generation gate s unranked k} k ∧ keyPr k = n
  none_iff : s.nextCandidate = none ↔ ∀ k,¬Competes analysis priorityLabels generation gate s unranked k

theorem resolve_elects :
    Elects analysis priorityLabels generation gate
      (resolveAdmissionWithGenerationAndGate analysis priorityLabels generation gate)
      (priorityLabels.length + 1) := by
  have hmem := mem_ballots_iff analysis priorityLabels generation gate
  have hnext : (resolveAdmissionWithGenerationAndGate analysis priorityLabels generation
      gate).nextCandidate = (ballots (priorityLabels.length + 1)
      (resolveAdmissionWithGenerationAndGate analysis priorityLabels generation gate).candidates
      (resolveAdmissionWithGenerationAndGate analysis priorityLabels generation gate).rejected
      (blockedRoots ((verdicts analysis priorityLabels generation gate).filterMap
        rejectedRow?))).min?.map keyPr := rfl
  constructor
  · intro n
    rw [hnext,Option.map_eq_some_iff]
    simp only [List.min?_eq_some_iff,hmem]
    rfl
  · rw [hnext,Option.map_eq_none_iff,List.min?_eq_none_iff,List.eq_nil_iff_forall_not_mem]
    simp only [hmem]

end Resolution

section Intent

variable (s : AdmissionStatus) (analysis : GraphAnalysis) (candidate : PullRequestSnapshot)
  (target : Option Caravan)

def rowsAhead (row : AdmissionCandidate) (selection : AdmissionSelection) : List OrderedRow :=
  (candidatesAhead s analysis (dependencyPrs analysis candidate) row selection
    (s.priorityLabels.length + 1) ++ rejectedAhead s analysis (dependencyPrs analysis candidate) row
      (s.priorityLabels.length + 1)).insertionSort fun a b => a.pr ≤ b.pr

/-- What an unenrolled row that is not the canonical attempt is permitted by. -/
theorem evaluate_unenrolled {selection : AdmissionSelection} (hselection : selection ≠ .checkedOut)
    (hjoined : isJoined analysis candidate.number = false)
    (hnext : s.nextCandidate ≠ some candidate.number)
    (h : (evaluate s analysis candidate target selection).orderPermitsAdmission = true) :
    ∃ row ∈ s.candidates,row.pr = candidate.number ∧ ∃ decision : AdmissionIntentDecision,
      evaluate s analysis candidate target selection = judge decision ∧
      decision.selection = selection ∧ decision.outcome = .blockedByOrder ∧
      decision.orderedRowsAhead = rowsAhead s analysis candidate row selection ∧
      decision.blockingPrs = ((rowsAhead s analysis candidate row selection).filter
        fun r => !r.disposition.bypassed).map (·.pr) := by
  unfold evaluate at h ⊢
  simp only [hjoined,Bool.false_eq_true,if_false,if_neg hnext] at h ⊢
  cases hfind : s.candidates.find? fun row => decide (row.pr = candidate.number) with
  | none =>
    rw [hfind] at h
    simp [hselection,AdmissionIntentDecision.orderPermitsAdmission] at h
  | some row =>
    refine ⟨row,List.mem_of_find?_eq_some hfind,by simpa using List.find?_some hfind,_,rfl,rfl,rfl,
      rfl,rfl⟩

theorem judge_automatic {decision : AdmissionIntentDecision} (hselection : decision.selection = .automatic)
    (houtcome : decision.outcome = .blockedByOrder) :
    (judge decision).orderPermitsAdmission = false := by
  unfold judge
  simp [hselection,AdmissionSelection.relaxesOrder,AdmissionIntentDecision.orderPermitsAdmission,
    houtcome]

theorem evaluate_automatic
    (h : (evaluate s analysis candidate target .automatic).orderPermitsAdmission = true) :
    s.nextCandidate = some candidate.number ∨ isJoined analysis candidate.number = true := by
  by_contra hother
  obtain ⟨hnext,hjoined⟩ := not_or.mp hother
  obtain ⟨row,-,-,decision,heq,hselection,houtcome,-,-⟩ := evaluate_unenrolled s analysis candidate
    target (by decide) (by simpa using hjoined) hnext h
  rw [heq,judge_automatic hselection houtcome] at h
  cases h

theorem judge_explicit {decision : AdmissionIntentDecision} (hselection : decision.selection = .explicit)
    (houtcome : decision.outcome = .blockedByOrder)
    (h : (judge decision).orderPermitsAdmission = true) : decision.blockingPrs = [] := by
  unfold judge at h
  by_cases hblocking : decision.blockingPrs = []
  · exact hblocking
  · simp [hselection,AdmissionSelection.relaxesOrder,AdmissionIntentDecision.orderPermitsAdmission,
      houtcome,hblocking] at h

theorem judge_orderedRowsAhead (decision : AdmissionIntentDecision) :
    (judge decision).orderedRowsAhead = decision.orderedRowsAhead := by
  unfold judge
  simp only
  split_ifs <;> rfl

/-- The row is reported as an unrelated unjoined attempt that was passed. -/
def ReportedBypassed (rows : List OrderedRow) (pr : PrNumber) : Prop :=
  ∃ row ∈ rows,row.pr = pr ∧ row.disposition = .bypassedUnjoined

structure PassesAhead (unranked : ℕ) (row : AdmissionCandidate) (rows : List OrderedRow) : Prop where
  candidates : ∀ other ∈ s.candidates,other.key unranked < row.key unranked →
    ReportedBypassed rows other.pr
  rejected : ∀ other ∈ s.rejected,other.blocksOrder = true → other.key unranked < row.key unranked →
    ReportedBypassed rows other.pr

variable {s}

theorem mem_rowsAhead_of_candidate {row other : AdmissionCandidate} (selection : AdmissionSelection)
    (hother : other ∈ s.candidates) (hne : other.pr ≠ row.pr)
    (hlt : other.key (s.priorityLabels.length + 1) < row.key (s.priorityLabels.length + 1)) :
    ∃ r ∈ rowsAhead s analysis candidate row selection,r.pr = other.pr := by
  refine ⟨_,(List.mem_insertionSort _).mpr (List.mem_append_left _ (List.mem_map_of_mem
    (List.mem_filter.mpr ⟨hother,?_⟩))),rfl⟩
  simp [hne,hlt]

theorem mem_rowsAhead_of_rejected {row : AdmissionCandidate} {other : RejectedAdmissionCandidate}
    (selection : AdmissionSelection) (hother : other ∈ s.rejected) (hblocks : other.blocksOrder = true)
    (hne : other.pr ≠ row.pr)
    (hlt : other.key (s.priorityLabels.length + 1) < row.key (s.priorityLabels.length + 1)) :
    ∃ r ∈ rowsAhead s analysis candidate row selection,r.pr = other.pr := by
  refine ⟨_,(List.mem_insertionSort _).mpr (List.mem_append_right _ (List.mem_map_of_mem
    (List.mem_filter.mpr ⟨hother,?_⟩))),rfl⟩
  simp [hblocks,hne,hlt]

variable (s)

theorem evaluate_explicit (hpr : (s.candidates.map (·.pr) ++ s.rejected.map (·.pr)).Nodup)
    (hjoined : isJoined analysis candidate.number = false)
    (hnext : s.nextCandidate ≠ some candidate.number)
    (h : (evaluate s analysis candidate target .explicit).orderPermitsAdmission = true) :
    ∃ row ∈ s.candidates,row.pr = candidate.number ∧ PassesAhead s (s.priorityLabels.length + 1) row
      (evaluate s analysis candidate target .explicit).orderedRowsAhead := by
  obtain ⟨row,hrow,hnumber,decision,heq,hselection,houtcome,hrows,hblocking⟩ :=
    evaluate_unenrolled s analysis candidate target (by decide) hjoined hnext h
  refine ⟨row,hrow,hnumber,?_⟩
  rw [heq] at h
  have hnone := judge_explicit hselection houtcome h
  rw [hblocking] at hnone
  have hbypassed (r : OrderedRow) (hr : r ∈ rowsAhead s analysis candidate row .explicit) :
      r.disposition = .bypassedUnjoined := by
    have hfilter := List.filter_eq_nil_iff.mp (List.map_eq_nil_iff.mp hnone) r hr
    simpa [OrderedRowDisposition.bypassed] using hfilter
  rw [heq,judge_orderedRowsAhead,hrows]
  obtain ⟨hcandidates,-,hapart⟩ := List.nodup_append.mp hpr
  constructor
  · intro other hother hlt
    have hne : other.pr ≠ row.pr := by
      intro hsame
      rw [List.inj_on_of_nodup_map hcandidates hother hrow hsame] at hlt
      exact lt_irrefl _ hlt
    obtain ⟨r,hr,hpr⟩ := mem_rowsAhead_of_candidate analysis candidate .explicit hother hne hlt
    exact ⟨r,hr,hpr,hbypassed r hr⟩
  · intro other hother hblocks hlt
    have hne : other.pr ≠ row.pr := fun hsame =>
      hapart _ (List.mem_map_of_mem hrow) _ (List.mem_map_of_mem hother) hsame.symm
    obtain ⟨r,hr,hpr⟩ := mem_rowsAhead_of_rejected analysis candidate .explicit hother hblocks hne hlt
    exact ⟨r,hr,hpr,hbypassed r hr⟩

end Intent

section Soundness

variable (analysis : GraphAnalysis) (priorityLabels : List String)
  (generation : GenerationIntegrityStatus) (gate : Option CiAdmissionGateConfig)

/-- The resolved admission partitions and orders the unqueued rows, elects the least competing
one, and intent is judged in the same order. -/
structure AdmissionSound (s : AdmissionStatus) : Prop where
  partition : ∀ n,s.listed n = if n ∈ analysis.fleet.unqueued then 1 else 0
  sorted : Sorted s (priorityLabels.length + 1)
  elects : Elects analysis priorityLabels generation gate s (priorityLabels.length + 1)
  automatic : ∀ candidate target,
    (evaluate s analysis candidate target .automatic).orderPermitsAdmission = true →
    s.nextCandidate = some candidate.number ∨ isJoined analysis candidate.number = true
  explicit : ∀ candidate target,
    (evaluate s analysis candidate target .explicit).orderPermitsAdmission = true →
    isJoined analysis candidate.number = false → s.nextCandidate ≠ some candidate.number →
    ∃ row ∈ s.candidates,row.pr = candidate.number ∧ PassesAhead s (priorityLabels.length + 1) row
      (evaluate s analysis candidate target .explicit).orderedRowsAhead

theorem resolveAdmission_sound (henumerated : Enumerated analysis) :
    AdmissionSound analysis priorityLabels generation gate
      (resolveAdmissionWithGenerationAndGate analysis priorityLabels generation gate) where
  partition := listed_eq analysis priorityLabels generation gate henumerated
  sorted := resolve_sorted analysis priorityLabels generation gate henumerated
  elects := resolve_elects analysis priorityLabels generation gate
  automatic := fun candidate target => evaluate_automatic _ analysis candidate target
  explicit := by
    intro candidate target h hjoined hnext
    have hperm := resolve_perm analysis priorityLabels generation gate henumerated
    have hnodup := hperm.nodup_iff.mpr henumerated.nodup
    have hpr := hnodup.sublist ((List.sublist_append_right _ _).append_left _)
    exact evaluate_explicit _ analysis candidate target hpr hjoined hnext h

/-- A failing root, the row stacked on it, a ready row and one of an unknown priority. -/
def admissionSnapshot : RepositorySnapshot :=
  let repository : RepositoryId := ⟨"o","r"⟩
  let branch (name : String) : BranchSnapshot := ⟨repository,name,name⟩
  { repository
    defaultBranch := branch "m"
    pullRequests :=
      [{ number := 1, state := .open, head := branch "a", base := branch "m",
         autoMerge := .disabled, checks := [{ name := "t", state := .failure }] },
       { number := 2, state := .open, head := branch "b", base := branch "a",
         autoMerge := .disabled },
       { number := 3, state := .open, head := branch "c", base := branch "m",
         autoMerge := .disabled },
       { number := 4, state := .open, head := branch "d", base := branch "m",
         labels := {"caravan-priority:x"}, autoMerge := .disabled }] }

theorem resolveAdmission_sound_admissionSnapshot :
    let analysis := Graph.deriveForActor admissionSnapshot .github
    let generation : GenerationIntegrityStatus := ⟨1,"",[],0,false⟩
    let s := resolveAdmissionWithGenerationAndGate analysis ["caravan-priority:h"] generation none
    AdmissionSound analysis ["caravan-priority:h"] generation none s ∧
    s.candidates.map (·.pr) = [3] ∧ s.skipped.map (·.pr) = [2] ∧ s.rejected.map (·.pr) = [1,4] ∧
    s.nextCandidate = some 3 := by
  intro analysis generation s
  refine ⟨resolveAdmission_sound _ _ _ _ (deriveForActor_enumerated admissionSnapshot .github),?_⟩
  decide +kernel

end Soundness

end Admission
end Cara
