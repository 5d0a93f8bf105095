import Cara.Github.StackPrefix
import Cara.Lib.Guard
import Mathlib.Data.List.TakeWhile

/-! From an accepted Stack to the merge of its ready prefix: what the topology validation
guarantees of each entry, which run of entries the planner selects, and what the merge plan,
its branch lock plan and its lock generation need beyond that. -/
namespace Cara
namespace Github

section Topology

variable {repository : RepositoryId} {topology : StackTopology} {staleTail : Option PrNumber}
  {collapsed : Option CollapsedFrontierProof}

structure EntryChecked (repository : RepositoryId) (entry : StackEntryGeneration) : Prop where
  head_repository : entry.head.repository = repository
  merged_of_not_open : entry.pullRequestState ≠ .open →
    entry.pullRequestState = .merged ∧ entry.mergedAt ≠ none

theorem scanEntry_checked {scan scan' : TopologyScan} {row : StackEntryGeneration × ℕ}
    (h : scanEntry repository topology staleTail collapsed scan row = .ok scan') :
    EntryChecked repository row.1 := by
  unfold scanEntry at h
  dsimp only at h
  split at h
  · cases h
  · split at h
    · cases h
    · split at h
      · cases h
      case isFalse hsame =>
        have hhead : row.1.head.repository = repository := by
          by_contra hother
          exact hsame (Or.inr hother)
        split at h
        case isTrue hopen => exact ⟨hhead,fun hclosed => absurd hopen hclosed⟩
        · split at h
          · cases h
          · split at h
            · cases h
            case isFalse hmerged => exact ⟨hhead,fun _ => by simpa using hmerged⟩

theorem scan_checked {rows : List (StackEntryGeneration × ℕ)} {scan scan' : TopologyScan}
    (h : rows.foldlM (scanEntry repository topology staleTail collapsed) scan = .ok scan') :
    ∀ row ∈ rows, EntryChecked repository row.1 := by
  induction rows generalizing scan with
  | nil => simp
  | cons row rows ih =>
    rw [List.foldlM_cons] at h
    obtain ⟨next,hnext,hrest⟩ := Guard.bind_eq_ok.mp h
    intro other hother
    rcases List.mem_cons.mp hother with rfl | hother
    · exact scanEntry_checked hnext
    · exact ih hrest other hother

/-- An accepted topology belongs to the repository, and its entry loop ran to the end. -/
theorem scanned_of_valid {minimum : ℕ}
    (h : validateTopologyWithCollapsedFrontier repository topology minimum staleTail collapsed =
      .ok ()) : topology.base.repository = repository ∧ ∃ scan,
      topology.entries.zipIdx.foldlM (scanEntry repository topology staleTail collapsed) {} =
        .ok scan := by
  unfold validateTopologyWithCollapsedFrontier at h
  dsimp only at h
  -- each check either refuses or hands on to the next
  split at h
  · obtain ⟨_,hrefused,-⟩ := Guard.bind_eq_ok.mp h
    cases hrefused
  · obtain ⟨_,-,h⟩ := Guard.bind_eq_ok.mp h
    split at h
    · obtain ⟨_,hrefused,-⟩ := Guard.bind_eq_ok.mp h
      cases hrefused
    · obtain ⟨_,-,h⟩ := Guard.bind_eq_ok.mp h
      split at h
      · obtain ⟨_,hrefused,-⟩ := Guard.bind_eq_ok.mp h
        cases hrefused
      case isFalse hbase =>
        obtain ⟨_,-,h⟩ := Guard.bind_eq_ok.mp h
        obtain ⟨scan,hscan,-⟩ := Guard.bind_eq_ok.mp h
        exact ⟨not_not.mp hbase,scan,hscan⟩

theorem checked_of_valid {minimum : ℕ}
    (h : validateTopologyWithCollapsedFrontier repository topology minimum staleTail collapsed =
      .ok ()) : ∀ entry ∈ topology.entries, EntryChecked repository entry := by
  obtain ⟨-,scan,hscan⟩ := scanned_of_valid h
  intro entry hentry
  obtain ⟨i,hi⟩ := List.mem_iff_getElem?.mp hentry
  exact scan_checked hscan (entry,i) (List.mk_mem_zipIdx_iff_getElem?.mpr hi)

end Topology

section Prefix

variable {stack : StackGeneration}

/-- Nothing blocks the entry, neither its own generation nor its readiness evidence. -/
def Unblocked (stack : StackGeneration) (item : StackMergeEntryEvidence) : Prop :=
  stack.isOpen = true ∧ item.generation.pullRequestState = .open ∧
    item.generation.draft = false ∧
    Text.eqIgnoreAsciiCase item.generation.stackState "open" = true ∧ item.blockers = []

instance (item : StackMergeEntryEvidence) : Decidable (Unblocked stack item) :=
  inferInstanceAs (Decidable (_ ∧ _ ∧ _ ∧ _ ∧ _))

theorem entryBlockers_eq_nil_iff (item : StackMergeEntryEvidence) :
    entryBlockers stack item = [] ↔ Unblocked stack item := by
  unfold entryBlockers Unblocked
  simp only [List.append_eq_nil_iff,ite_eq_left_iff,ite_eq_right_iff,reduceCtorEq,imp_false,
    Bool.not_eq_true,Decidable.not_not,Bool.not_eq_false,and_assoc]

theorem selectPrefix_selected (items : List StackMergeEntryEvidence) :
    (selectPrefix stack items).1 =
      (items.takeWhile fun item => decide (Unblocked stack item)).map
        StackMergeEntryEvidence.generation := by
  induction items with
  | nil => rfl
  | cons item rest ih =>
    have hnil := @entryBlockers_eq_nil_iff stack item
    unfold selectPrefix
    cases hblockers : entryBlockers stack item with
    | nil =>
      have hready : Unblocked stack item := hnil.mp hblockers
      simp [hready,ih]
    | cons blocker blockers =>
      have hblocked : ¬ Unblocked stack item := by
        intro hready
        rw [hnil.mpr hready] at hblockers
        cases hblockers
      simp [hblocked]

theorem evidenceMismatch_eq_none {entries : List StackEntryGeneration}
    {evidence : List StackMergeEntryEvidence} (index : ℕ)
    (h : evidence.map StackMergeEntryEvidence.generation = entries) :
    evidenceMismatch entries evidence index = none := by
  induction evidence generalizing entries index with
  | nil =>
    rw [← h]
    rfl
  | cons item items ih =>
    rw [← h,List.map_cons,evidenceMismatch,if_pos rfl]
    exact ih (index + 1) rfl

/-- The selection is the run of unblocked entries that starts at the first open one, and the
entry after the run, if there is one, is blocked. -/
structure LongestReady (stack : StackGeneration) (evidence : List StackMergeEntryEvidence)
    (selected : List StackEntryGeneration) : Prop where
  split : ∃ run rest, evidence.dropWhile (fun item =>
      decide (item.generation.pullRequestState ≠ .open)) = run ++ rest ∧
    selected = run.map StackMergeEntryEvidence.generation ∧
    (∀ item ∈ run, Unblocked stack item) ∧ ∀ item ∈ rest.head?, ¬ Unblocked stack item

theorem drop_firstOpen (evidence : List StackMergeEntryEvidence) :
    evidence.drop ((firstOpen (evidence.map StackMergeEntryEvidence.generation)).getD
      (evidence.map StackMergeEntryEvidence.generation).length) =
    evidence.dropWhile fun item => decide (item.generation.pullRequestState ≠ .open) := by
  rw [firstOpen,List.findIdx?_map,List.length_map,← List.findIdx_eq_getD_findIdx?,
    List.dropWhile_eq_drop_findIdx_not]
  congr 2
  funext item
  simp

theorem take_firstOpen (entries : List StackEntryGeneration) :
    ∀ entry ∈ entries.take ((firstOpen entries).getD entries.length),
      entry.pullRequestState ≠ .open := by
  rw [firstOpen,← List.findIdx_eq_getD_findIdx?]
  intro entry hentry
  have hskipped : entry ∈ entries.takeWhile fun e => !decide (e.pullRequestState = .open) := by
    rw [List.takeWhile_eq_take_findIdx_not]
    simpa using hentry
  simpa using List.mem_takeWhile_imp hskipped

theorem readyPrefix_of_aligned {evidence : List StackMergeEntryEvidence}
    (haligned : evidence.map StackMergeEntryEvidence.generation = stack.topology.entries) :
    ∃ ready, planGithubStackReadyPrefix stack evidence = .ok ready ∧ ready.stack = stack ∧
      ready.selected = ((evidence.dropWhile fun item =>
        decide (item.generation.pullRequestState ≠ .open)).takeWhile
          fun item => decide (Unblocked stack item)).map StackMergeEntryEvidence.generation := by
  have hlength : evidence.length = stack.topology.entries.length := by
    rw [← haligned,List.length_map]
  have hstart := drop_firstOpen evidence
  rw [haligned] at hstart
  unfold planGithubStackReadyPrefix
  rw [if_neg (not_not.mpr hlength),evidenceMismatch_eq_none 0 haligned,hstart]
  exact ⟨_,rfl,rfl,selectPrefix_selected _⟩

theorem longestReady_takeWhile (evidence : List StackMergeEntryEvidence) :
    LongestReady stack evidence (((evidence.dropWhile fun item =>
      decide (item.generation.pullRequestState ≠ .open)).takeWhile
        fun item => decide (Unblocked stack item)).map StackMergeEntryEvidence.generation) := by
  refine ⟨_,_,(List.takeWhile_append_dropWhile).symm,rfl,?_,?_⟩
  · intro item hitem
    have hready := List.mem_takeWhile_imp hitem
    exact of_decide_eq_true hready
  · intro item hitem hready
    have hhead := List.head?_dropWhile_not (fun item => decide (Unblocked stack item))
      (evidence.dropWhile fun item => decide (item.generation.pullRequestState ≠ .open))
    rw [hitem] at hhead
    simp [hready] at hhead

end Prefix

section Plan

variable {repository : RepositoryId} {stack : StackGeneration}
  {evidence : List StackMergeEntryEvidence} {selected : List StackEntryGeneration}

theorem LongestReady.drop_entries (h : LongestReady stack evidence selected)
    (haligned : evidence.map StackMergeEntryEvidence.generation = stack.topology.entries) :
    ∃ after, stack.topology.entries.drop
      ((firstOpen stack.topology.entries).getD stack.topology.entries.length) =
        selected ++ after := by
  obtain ⟨run,rest,hsplit,hselected,-,-⟩ := h.split
  have hstart := drop_firstOpen evidence
  rw [haligned] at hstart
  refine ⟨rest.map StackMergeEntryEvidence.generation,?_⟩
  rw [hselected,← List.map_append,← hsplit,← hstart,List.map_drop,haligned]

theorem LongestReady.eligible (h : LongestReady stack evidence selected) :
    ∀ entry ∈ selected, stack.isOpen = true ∧ entry.pullRequestState = .open ∧
      entry.draft = false ∧ Text.eqIgnoreAsciiCase entry.stackState "open" = true := by
  obtain ⟨run,rest,-,hselected,hready,-⟩ := h.split
  intro entry hentry
  rw [hselected] at hentry
  obtain ⟨item,hitem,rfl⟩ := List.mem_map.mp hentry
  obtain ⟨hstack,hopen,hdraft,hstate,-⟩ := hready item hitem
  exact ⟨hstack,hopen,hdraft,hstate⟩

theorem validateMergePlan_of_ready
    (hbase : stack.topology.base.repository = repository)
    (hchecked : ∀ entry ∈ stack.topology.entries, EntryChecked repository entry)
    (haligned : evidence.map StackMergeEntryEvidence.generation = stack.topology.entries)
    (hselected : LongestReady stack evidence selected) (hsome : selected ≠ [])
    {operationId actor : String} (hoperation : Text.isBlank operationId = false)
    (hactor : Text.isBlank actor = false) :
    validateMergePlan repository
      { operationId := operationId,actor := actor,before := stack,selected := selected } =
        .ok () := by
  obtain ⟨after,hafter⟩ := hselected.drop_entries haligned
  have hcount := congrArg List.length hafter
  rw [List.length_drop,List.length_append] at hcount
  have hpos : 0 < selected.length := List.length_pos_iff.mpr hsome
  obtain ⟨entry,hentry⟩ := List.exists_mem_of_ne_nil selected hsome
  have hopen := (hselected.eligible entry hentry).1
  unfold validateMergePlan
  dsimp only [selectedEnd,selectedStart]
  rw [if_neg (by simp [hoperation]),if_neg (by simp [hactor]),if_neg (by simp [hbase])]
  refine (if_neg ?bounded).trans ((if_neg ?history).trans ((if_neg ?exact).trans
    (if_neg ?eligible)))
  case bounded =>
    rw [not_or]
    exact ⟨hsome,by omega⟩
  case history =>
    intro hhistory
    obtain ⟨before,hbefore,hunmerged⟩ := hhistory
    have hmerged := (hchecked before (List.mem_of_mem_take hbefore)).merged_of_not_open
      (take_firstOpen _ before hbefore)
    rcases hunmerged with hstate | htime
    · exact hstate hmerged.1
    · exact hmerged.2 htime
  case exact =>
    rw [not_or,not_or,not_not]
    refine ⟨by simp [hopen],by omega,?_⟩
    rw [List.drop_take,hafter,Nat.add_sub_cancel_left,List.take_left]
  case eligible =>
    intro hineligible
    obtain ⟨entry,hentry,hwhy⟩ := hineligible
    obtain ⟨-,hstate,hdraft,hstack⟩ := hselected.eligible entry hentry
    rcases hwhy with hclosed | hdrafted | hother
    · exact hclosed hstate
    · rw [hdraft] at hdrafted
      cases hdrafted
    · rw [hstack] at hother
      cases hother

end Plan

section Lock

variable {repository : RepositoryId}

structure NamedApart (entries : List StackEntryGeneration) : Prop where
  named : ∀ entry ∈ entries, Text.isBlank entry.head.name = false
  apart : (entries.map fun entry => entry.head.name).Nodup

theorem validateLockRefs_iff {entries : List StackEntryGeneration}
    (hheads : ∀ entry ∈ entries, entry.head.repository = repository) (refs : List String) :
    validateLockRefs repository entries refs = .ok () ↔
      NamedApart entries ∧ ∀ entry ∈ entries, entry.head.name ∉ refs := by
  induction entries generalizing refs with
  | nil => simp [validateLockRefs,NamedApart.mk]
  | cons entry entries ih =>
    have hhead : entry.head.repository = repository := hheads entry List.mem_cons_self
    have htail := ih (fun e he => hheads e (List.mem_cons_of_mem _ he)) (entry.head.name::refs)
    unfold validateLockRefs
    by_cases hbad : entry.head.repository ≠ repository ∨ Text.isBlank entry.head.name ∨
        entry.head.name ∈ refs
    · rw [if_pos hbad]
      constructor
      · intro h
        cases h
      · intro h
        rcases hbad with hother | hblank | hseen
        · exact absurd hhead hother
        · have hnamed := h.1.named entry List.mem_cons_self
          rw [hblank] at hnamed
          cases hnamed
        · exact absurd hseen (h.2 entry List.mem_cons_self)
    · rw [if_neg hbad,htail]
      push Not at hbad
      obtain ⟨-,hnamed,hfresh⟩ := hbad
      constructor
      · intro h
        obtain ⟨hrest,hunseen⟩ := h
        refine ⟨⟨?_,?_⟩,?_⟩
        · intro e he
          rcases List.mem_cons.mp he with rfl | he
          · exact Bool.eq_false_of_not_eq_true hnamed
          · exact hrest.named e he
        · rw [List.map_cons,List.nodup_cons]
          refine ⟨?_,hrest.apart⟩
          intro hmem
          obtain ⟨e,he,hname⟩ := List.mem_map.mp hmem
          exact hunseen e he (by rw [hname]; exact List.mem_cons_self)
        · intro e he
          rcases List.mem_cons.mp he with rfl | he
          · exact hfresh
          · exact fun hmem => hunseen e he (List.mem_cons_of_mem _ hmem)
      · intro h
        obtain ⟨hall,hunseen⟩ := h
        have hapart := hall.apart
        rw [List.map_cons,List.nodup_cons] at hapart
        refine ⟨⟨fun e he => hall.named e (List.mem_cons_of_mem _ he),hapart.2⟩,?_⟩
        intro e he hmem
        rcases List.mem_cons.mp hmem with hname | hmem
        · exact hapart.1 (List.mem_map.mpr ⟨e,he,hname⟩)
        · exact hunseen e (List.mem_cons_of_mem _ he) hmem

theorem validateLockPlan_iff {plan : StackBranchLockPlan}
    (hoperation : Text.isBlank plan.operationId = false)
    (hactor : Text.isBlank plan.actor = false) (hsome : plan.selected ≠ [])
    (hheads : ∀ entry ∈ plan.selected, entry.head.repository = repository) :
    validateLockPlan repository plan = .ok () ↔ NamedApart plan.selected := by
  unfold validateLockPlan
  rw [if_neg (by simp [hoperation,hactor,hsome]),validateLockRefs_iff hheads]
  simp

/-- Any lock with the expected policy over the plan's members fits the plan. -/
theorem validateMergeLock_of_policy (w : Wire) {plan : StackAsyncMergePlan}
    {expected lock : StackBranchLockGeneration}
    (hbase : plan.before.topology.base.repository = repository)
    (hexpected : expectedLock w repository plan.branchLockPlan = .ok expected)
    (hpolicy : sameLockPolicy lock expected = true) :
    validateMergeLock plan (bindSelectedPullRequests lock plan.branchLockPlan) = .ok () := by
  obtain ⟨_,-,hmade⟩ := Guard.bind_eq_ok.mp hexpected
  cases hmade
  simp only [sameLockPolicy,decide_eq_true_eq] at hpolicy
  obtain ⟨-,hrepository,-,-,-,henforced,hrefs,hbypass⟩ := hpolicy
  unfold validateMergeLock
  rw [if_neg]
  simp [bindSelectedPullRequests,hrepository,hbase,hrefs,henforced,hbypass,
    StackAsyncMergePlan.branchLockPlan]

theorem validateMergeLock_of_expected (w : Wire) {plan : StackAsyncMergePlan}
    {expected : StackBranchLockGeneration}
    (hbase : plan.before.topology.base.repository = repository)
    (hexpected : expectedLock w repository plan.branchLockPlan = .ok expected) :
    validateMergeLock plan expected = .ok () := by
  have hbound : bindSelectedPullRequests expected plan.branchLockPlan = expected := by
    obtain ⟨_,-,hmade⟩ := Guard.bind_eq_ok.mp hexpected
    cases hmade
    rfl
  have hpolicy : sameLockPolicy expected expected = true := by
    obtain ⟨_,-,hmade⟩ := Guard.bind_eq_ok.mp hexpected
    cases hmade
    simp [sameLockPolicy]
  rw [← hbound]
  exact validateMergeLock_of_policy w hbase hexpected hpolicy

end Lock

structure Executable (w : Wire) (repository : RepositoryId) (plan : StackAsyncMergePlan) :
    Prop where
  merge : validateMergePlan repository plan = .ok ()
  /-- The lock covers every entry of the Stack, merged ones included. -/
  lock : validateLockPlan repository plan.branchLockPlan = .ok () ↔
    NamedApart plan.before.topology.entries
  expected : ∀ expected, expectedLock w repository plan.branchLockPlan = .ok expected →
    validateMergeLock plan expected = .ok ()
  active : ∀ expected lock, expectedLock w repository plan.branchLockPlan = .ok expected →
    sameLockPolicy lock expected = true →
    validateMergeLock plan (bindSelectedPullRequests lock plan.branchLockPlan) = .ok ()

/-- Of every accepted Stack the planner selects the longest ready run, and a selection that is
not empty is executable exactly as far as the Stack's source branches are named apart. -/
theorem readyPrefix_executable (w : Wire) {repository : RepositoryId} {stack : StackGeneration}
    {minimum : ℕ} {staleTail : Option PrNumber} {collapsed : Option CollapsedFrontierProof}
    {evidence : List StackMergeEntryEvidence} {operationId actor : String}
    (hvalid : validateTopologyWithCollapsedFrontier repository stack.topology minimum staleTail
      collapsed = .ok ())
    (haligned : evidence.map StackMergeEntryEvidence.generation = stack.topology.entries)
    (hoperation : Text.isBlank operationId = false) (hactor : Text.isBlank actor = false) :
    ∃ ready, planGithubStackReadyPrefix stack evidence = .ok ready ∧
      LongestReady stack evidence ready.selected ∧
      (ready.selected ≠ [] → ∃ plan, ready.directSquashPlan operationId actor = .ok plan ∧
        Executable w repository plan) := by
  obtain ⟨hbase,-⟩ := scanned_of_valid hvalid
  have hchecked := checked_of_valid hvalid
  obtain ⟨ready,hready,hstack,hselected⟩ := readyPrefix_of_aligned haligned
  have hlongest : LongestReady stack evidence ready.selected := by
    rw [hselected]
    exact longestReady_takeWhile evidence
  refine ⟨ready,hready,hlongest,?_⟩
  intro hsome
  unfold StackReadyPrefix.directSquashPlan
  rw [if_neg hsome,hstack]
  have hentries : stack.topology.entries ≠ [] := by
    intro hnone
    obtain ⟨after,hafter⟩ := hlongest.drop_entries haligned
    rw [hnone,List.drop_nil] at hafter
    exact hsome (List.append_eq_nil_iff.mp hafter.symm).1
  refine ⟨_,rfl,?_,?_,?_,?_⟩
  · exact validateMergePlan_of_ready hbase hchecked haligned hlongest hsome hoperation hactor
  · exact validateLockPlan_iff hoperation hactor hentries
      fun entry hentry => (hchecked entry hentry).head_repository
  · exact fun _ hexpected => validateMergeLock_of_expected w hbase hexpected
  · exact fun _ _ hexpected hpolicy => validateMergeLock_of_policy w hbase hexpected hpolicy

section Example

def landedEntry (branch : String) : StackEntryGeneration where
  position := 0
  pr := 10
  stackState := "merged"
  pullRequestState := .merged
  draft := false
  mergedAt := some "2026-01-02T00:00:00Z"
  base := ⟨⟨"octo","repo"⟩,"main","c0"⟩
  head := ⟨⟨"octo","repo"⟩,branch,"c1"⟩

def collapsedEntry : StackEntryGeneration where
  position := 1
  pr := 11
  stackState := "open"
  pullRequestState := .open
  draft := false
  base := ⟨⟨"octo","repo"⟩,"main","m1"⟩
  head := ⟨⟨"octo","repo"⟩,"feature","c2"⟩

/-- PR 11 is open on the default branch, behind PR 10 merged from this branch. -/
def historyStack (branch : String) : StackGeneration where
  id := 30
  number := 3
  nodeId := "ST_3"
  isOpen := true
  createdAt := "2026-01-01T00:00:00Z"
  topology := ⟨⟨⟨"octo","repo"⟩,"main","m1"⟩,[landedEntry branch,collapsedEntry]⟩

def historyProof : CollapsedFrontierProof where
  mergedPredecessors := [10]
  currentOpenPr := 11
  recordedBase := ⟨⟨"octo","repo"⟩,"main","m1"⟩
  stackBase := ⟨⟨"octo","repo"⟩,"main","m1"⟩

def historyEvidence (branch : String) : List StackMergeEntryEvidence :=
  [⟨landedEntry branch,[]⟩,⟨collapsedEntry,[]⟩]

example : ((planGithubStackReadyPrefix (historyStack "base") (historyEvidence "base")).toOption.map
    StackReadyPrefix.selected) = some [collapsedEntry] := by decide +kernel

theorem readyPrefix_executable_history : ∃ ready,
    planGithubStackReadyPrefix (historyStack "base") (historyEvidence "base") = .ok ready ∧
      LongestReady (historyStack "base") (historyEvidence "base") ready.selected ∧
      (ready.selected ≠ [] → ∃ plan, ready.directSquashPlan "land-1" "cara" = .ok plan ∧
        Executable ({} : Documents).wire ⟨"octo","repo"⟩ plan) :=
  have hvalid : validateTopologyWithCollapsedFrontier ⟨"octo","repo"⟩
      (historyStack "base").topology 1 none (some historyProof) = .ok () := by decide +kernel
  readyPrefix_executable _ hvalid rfl (by decide) (by decide)

/-- PR 11 comes from the branch PR 10 was merged from: its plan is accepted, its lock is not. -/
theorem reused_branch_not_lockable :
    validateTopologyWithCollapsedFrontier ⟨"octo","repo"⟩ (historyStack "feature").topology 1 none
      (some historyProof) = .ok () ∧
    ∃ ready plan, planGithubStackReadyPrefix (historyStack "feature") (historyEvidence "feature") =
        .ok ready ∧ ready.selected = [collapsedEntry] ∧
      ready.directSquashPlan "land-1" "cara" = .ok plan ∧
      validateMergePlan ⟨"octo","repo"⟩ plan = .ok () ∧
      validateLockPlan ⟨"octo","repo"⟩ plan.branchLockPlan ≠ .ok () :=
  ⟨by decide +kernel,⟨historyStack "feature",[collapsedEntry],none⟩,
    ⟨"land-1","cara",historyStack "feature",[collapsedEntry]⟩,by decide +kernel,rfl,
    by decide +kernel,by decide +kernel,by decide +kernel⟩

end Example

end Github
end Cara
