import Cara.AdmissionFront
import Cara.Sync.Scheduler

/-! The stall that a tick reports for a rejected front of the admission order. The election lets
independent candidates proceed past failing roots, and the stall is looked for at the first
order-blocking row. -/
namespace Cara
namespace Sync

open Admission (Holds FailingRoot rejectedRows admissibleRows RejectedAdmissionCandidate)
open Config (CiAdmissionGateConfig)
open Generation (GenerationIntegrityStatus)

variable {bytes : StallBytes} {status : StatusOutput} {ci : List CiObservation}
  {missing : List MissingRequiredRunsProblem} {priorityLabels : List String}
  {generation : GenerationIntegrityStatus} {gate : Option CiAdmissionGateConfig}

theorem blockKind_ne (pr : PrNumber) : blockKind status ci missing pr ≠ some .admissionRejected := by
  unfold blockKind
  split
  · simp
  · split
    · simp
    · intro h
      obtain ⟨problem,-,hkind⟩ := Option.map_eq_some_iff.mp h
      split at hkind <;> cases hkind

theorem memberStall_kind {caravanId : PrNumber} {position : ℕ} {members : List PrNumber}
    {stall : HeadOfLineStall} (h : memberStall bytes status ci missing caravanId position members =
      some stall) : stall.kind ≠ .admissionRejected := by
  induction members generalizing position with
  | nil => cases h
  | cons pr behind ih =>
    rw [memberStall] at h
    split at h
    · next kind hkind =>
      cases h
      intro hrejected
      rw [show kind = HeadOfLineBlockKind.admissionRejected from hrejected] at hkind
      exact blockKind_ne pr hkind
    · exact ih h

theorem admissionStall_of_mem {stall : HeadOfLineStall}
    (h : stall ∈ headOfLineStalls bytes status ci missing) (hkind : stall.kind = .admissionRejected) :
    admissionStall bytes status = some stall := by
  rcases List.mem_append.mp h with hmember | hadmission
  · obtain ⟨caravan,-,hstall⟩ := List.mem_filterMap.mp hmember
    exact absurd hkind (memberStall_kind hstall)
  · exact Option.mem_toList.mp hadmission

/-- The first order-blocking row of a list that is sorted by key is the least one. -/
theorem first_blocking_le {rows : List RejectedAdmissionCandidate} {unranked : ℕ}
    {first : RejectedAdmissionCandidate}
    (hfirst : (Admission.sortByKey (·.key unranked) rows).find? (·.blocksOrder) = some first)
    {row : RejectedAdmissionCandidate} (hrow : row ∈ rows) (hblocks : row.blocksOrder = true) :
    first.key unranked ≤ row.key unranked := by
  have hsorted : (Admission.sortByKey (·.key unranked) rows).Pairwise
      fun a b => a.key unranked ≤ b.key unranked :=
    List.pairwise_insertionSort
      (fun a b : RejectedAdmissionCandidate => a.key unranked ≤ b.key unranked) rows
  obtain ⟨-,pre,post,hsplit,hpre⟩ := List.find?_eq_some_iff_append.mp hfirst
  have hmem : row ∈ Admission.sortByKey (·.key unranked) rows := Admission.mem_sortByKey.mpr hrow
  rw [hsplit] at hmem hsorted
  rcases List.mem_append.mp hmem with hbefore | hbehind
  · have hnot := hpre row hbefore
    rw [hblocks] at hnot
    cases hnot
  · rcases List.mem_cons.mp hbehind with rfl | hafter
    · exact le_refl _
    · exact (List.pairwise_cons.mp (List.pairwise_append.mp hsorted).2.1).1 row hafter

theorem rejected_unique {analysis : GraphAnalysis} {row other : RejectedAdmissionCandidate}
    (hrow : row ∈ rejectedRows analysis priorityLabels generation gate)
    (hother : other ∈ rejectedRows analysis priorityLabels generation gate)
    (hpr : row.pr = other.pr) : row = other := by
  have hverdict {r : RejectedAdmissionCandidate}
      (hr : r ∈ rejectedRows analysis priorityLabels generation gate) : ∃ p,
        analysis.pullRequests[r.pr]? = some p ∧
        Admission.classify analysis priorityLabels generation gate r.pr p = .rejected r := by
    obtain ⟨v,hv,hrejected⟩ := List.mem_filterMap.mp hr
    obtain ⟨n,-,p,hp,rfl⟩ := (Admission.mem_verdicts analysis priorityLabels generation gate).mp hv
    have hn := Admission.classify_pr analysis priorityLabels generation gate n p
    cases hclass : Admission.classify analysis priorityLabels generation gate n p with
    | candidate r' =>
      rw [hclass] at hrejected
      cases hrejected
    | skipped r' =>
      rw [hclass] at hrejected
      cases hrejected
    | rejected r' =>
      rw [hclass] at hrejected hn
      cases hrejected
      have hsame : r.pr = n := hn
      exact ⟨p,hsame ▸ hp,hsame ▸ hclass⟩
  obtain ⟨p,hp,hclass⟩ := hverdict hrow
  obtain ⟨p',hp',hclass'⟩ := hverdict hother
  rw [← hpr,hp,Option.some_inj] at hp'
  subst hp'
  rw [← hpr,hclass] at hclass'
  cases hclass'
  rfl

section Reported

variable (bytes status ci missing)

/-- A rejected canonical attempt is reported as what stops all candidates. -/
def FrontReported : Prop :=
  ∀ n,status.admission.nextCandidate = some n → n ∈ status.admission.rejected.map (·.pr) →
    ∃ stall ∈ headOfLineStalls bytes status ci missing,stall.kind = .admissionRejected ∧
      stall.blockingPr = n ∧ stall.blockedPrs = status.admission.candidates.map (·.pr)

variable (priorityLabels generation gate)

/-- A failing root sorts before every other order-blocking row, and such a row sorts before every
candidate. -/
def FrontHidden : Prop :=
  ∃ held,Holds status.analysis priorityLabels generation gate held ∧
    (∀ c ∈ admissibleRows status.analysis priorityLabels generation gate,
      held.key (priorityLabels.length + 1) < c.key (priorityLabels.length + 1)) ∧
    admissibleRows status.analysis priorityLabels generation gate ≠ [] ∧
    ∃ root ∈ rejectedRows status.analysis priorityLabels generation gate,root.blocksOrder = true ∧
      FailingRoot status.analysis priorityLabels generation gate root.pr ∧
      ∀ other,Holds status.analysis priorityLabels generation gate other →
        root.key (priorityLabels.length + 1) < other.key (priorityLabels.length + 1)

end Reported

/-- The stall of a front is reported exactly if it is its first order-blocking row. -/
theorem admissionStall_reports {n : PrNumber} {first : RejectedAdmissionCandidate}
    (hnext : status.admission.nextCandidate = some n)
    (hfirst : status.admission.rejected.find? (·.blocksOrder) = some first) (hpr : first.pr = n) :
    ∃ stall ∈ headOfLineStalls bytes status ci missing,stall.kind = .admissionRejected ∧
      stall.blockingPr = n ∧ stall.blockedPrs = status.admission.candidates.map (·.pr) := by
  have hstall : ∃ stall,admissionStall bytes status = some stall ∧ stall.kind = .admissionRejected ∧
      stall.blockingPr = first.pr ∧ stall.blockedPrs = status.admission.candidates.map (·.pr) := by
    unfold admissionStall
    rw [hfirst]
    dsimp only
    rw [if_pos (hnext.trans (congrArg some hpr.symm))]
    exact ⟨_,rfl,rfl,rfl,rfl⟩
  obtain ⟨stall,hsome,hkind,hblocking,hblocked⟩ := hstall
  exact ⟨stall,List.mem_append_right _ (Option.mem_toList.mpr hsome),hkind,hblocking.trans hpr,hblocked⟩

/-- A rejected front is reported unless a failing root hides it. -/
theorem frontReported_iff (hresolved : status.admission =
    Admission.resolveAdmissionWithGenerationAndGate status.analysis priorityLabels generation gate) :
    FrontReported bytes status ci missing ↔
      ¬ FrontHidden status priorityLabels generation gate := by
  have hrejected : status.admission.rejected = Admission.sortByKey (·.key (priorityLabels.length + 1))
      (rejectedRows status.analysis priorityLabels generation gate) := by
    rw [hresolved]
    rfl
  constructor
  · rintro hreported ⟨held,hheld,hbefore,hsome,root,hroot,hblocks,-,hfirst⟩
    have helects := Admission.resolve_elects status.analysis priorityLabels generation gate
    cases hnext : status.admission.nextCandidate with
    | none =>
      rw [hresolved] at hnext
      obtain ⟨c,hc⟩ := List.exists_mem_of_ne_nil _ hsome
      exact helects.none_iff.mp hnext _ (.candidate (Admission.mem_candidates.mpr hc))
    | some n =>
      have helected := hnext
      rw [hresolved] at helected
      rcases Admission.elected_cases helected with ⟨c,hc,-,hleast⟩ | ⟨row,hrow,-,hpr,hcompetes,-⟩
      · exact lt_asymm (hleast held hheld) (hbefore c hc)
      · have hmem : n ∈ status.admission.rejected.map (·.pr) := by
          rw [hrejected]
          exact List.mem_map.mpr ⟨row,Admission.mem_sortByKey.mpr hrow,hpr⟩
        obtain ⟨stall,hstall,hkind,hblocking,-⟩ := hreported n hnext hmem
        have hadmission := admissionStall_of_mem hstall hkind
        unfold admissionStall at hadmission
        split at hadmission
        · next first hfind =>
          split at hadmission
          · cases hadmission
            rw [hrejected] at hfind
            have hle := first_blocking_le hfind hroot hblocks
            have hfirstRow := Admission.mem_sortByKey.mp (List.mem_of_find?_eq_some hfind)
            have hsame := rejected_unique hfirstRow hrow (hblocking.trans hpr.symm)
            rw [hsame] at hle
            exact absurd hle (not_le.mpr (hfirst row (hcompetes.resolve_left hsome)))
          · cases hadmission
        · cases hadmission
  · intro hvisible n hnext hmem
    have helected := hnext
    rw [hresolved] at helected
    obtain ⟨listed,hlisted,hlistedPr⟩ := List.mem_map.mp hmem
    rw [hrejected,Admission.mem_sortByKey] at hlisted
    rcases Admission.elected_cases helected with
      ⟨c,hc,hpr,-⟩ | ⟨row,hrow,hblocks,hpr,hcompetes,hbefore,hleast⟩
    · exact absurd (hpr.trans hlistedPr.symm) (Admission.candidate_ne_rejected hc hlisted)
    · have hsome : (status.admission.rejected.find? (·.blocksOrder)).isSome := by
        rw [hrejected,List.find?_isSome]
        exact ⟨row,Admission.mem_sortByKey.mpr hrow,hblocks⟩
      obtain ⟨first,hfirst⟩ := Option.isSome_iff_exists.mp hsome
      refine admissionStall_reports hnext hfirst ?_
      rw [hrejected] at hfirst
      have hle := first_blocking_le hfirst hrow hblocks
      have hfirstRow := Admission.mem_sortByKey.mp (List.mem_of_find?_eq_some hfirst)
      have hfirstBlocks : first.blocksOrder = true := by simpa using List.find?_some hfirst
      by_cases hfirstCompetes : admissibleRows status.analysis priorityLabels generation gate = [] ∨
          Holds status.analysis priorityLabels generation gate first
      · have hequal := le_antisymm hle (hleast first hfirstRow hfirstBlocks hfirstCompetes)
        exact (congrArg Admission.keyPr hequal).trans hpr
      · obtain ⟨hnonempty,hnot⟩ := not_or.mp hfirstCompetes
        have hfailing : FailingRoot status.analysis priorityLabels generation gate first.pr := by
          by_contra hroot
          exact hnot ⟨hfirstRow,hfirstBlocks,hroot⟩
        refine absurd ⟨row,hcompetes.resolve_left hnonempty,hbefore,hnonempty,first,hfirstRow,
          hfirstBlocks,hfailing,?_⟩ hvisible
        intro other hother
        refine lt_of_le_of_ne (hle.trans (hleast other hother.1 hother.2.1 (.inr hother))) ?_
        intro hequal
        have hpr : first.pr = other.pr := congrArg Admission.keyPr hequal
        exact hother.2.2 (hpr ▸ hfailing)

section Sample

/-- A failing root, the row stacked on it, a row of an unknown priority and a ready row. -/
def hiddenSnapshot : RepositorySnapshot :=
  { Admission.admissionSnapshot with
    pullRequests := Admission.admissionSnapshot.pullRequests.map fun p =>
      { p with labels := if p.number = 3 then {"caravan-priority:x"} else ∅ } }

def hiddenStatus : StatusOutput :=
  let analysis := Graph.deriveForActor hiddenSnapshot .github
  { repository := ⟨"o","r"⟩
    defaultBranch := "m"
    analysis := analysis
    admission := Admission.resolveAdmissionWithGenerationAndGate analysis ["caravan-priority:h"]
      ⟨1,"",[],0,false⟩ none }

/-- The row of an unknown priority is elected, and no stall is reported: the failing root sorts
before it. -/
theorem hidden_front_unreported : hiddenStatus.admission.nextCandidate = some 3 ∧
    3 ∈ hiddenStatus.admission.rejected.map (·.pr) ∧
    headOfLineStalls (fun _ => []) hiddenStatus [] [] = [] ∧
    ¬ FrontReported (fun _ => []) hiddenStatus [] [] := by
  have hnext : hiddenStatus.admission.nextCandidate = some 3 := by decide +kernel
  have hmem : 3 ∈ hiddenStatus.admission.rejected.map (·.pr) := by decide +kernel
  have hnone : headOfLineStalls (fun _ => []) hiddenStatus [] [] = [] := by decide +kernel
  refine ⟨hnext,hmem,hnone,?_⟩
  intro hreported
  obtain ⟨stall,hstall,-⟩ := hreported 3 hnext hmem
  rw [hnone] at hstall
  cases hstall

theorem hidden_front_iff : FrontReported (fun _ => []) hiddenStatus [] [] ↔
    ¬ FrontHidden hiddenStatus ["caravan-priority:h"] ⟨1,"",[],0,false⟩ none :=
  frontReported_iff rfl

end Sample

end Sync
end Cara
