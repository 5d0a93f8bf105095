import Cara.Sync.StackPolicy

/-! What an unblocked Stack prefix guarantees, and what merged history in front of the open entries
does to their evidence. -/
namespace Cara
namespace Sync

open Github (StackGeneration StackEntryGeneration StackMergeBlocker StackMergeEntryEvidence)

section Projection

def projectionBranch (name oid : String) : BranchSnapshot := ⟨⟨"octo","repo"⟩,name,oid⟩

def projectionEntry (position : ℕ) (pr : PrNumber) (base head : BranchSnapshot) : StackEntryGeneration where
  position := position
  pr := pr
  stackState := "open"
  pullRequestState := .open
  draft := false
  base := base
  head := head

def projectionPull (entry : StackEntryGeneration) : PullRequestSnapshot where
  number := entry.pr
  state := .open
  head := entry.head
  base := entry.base
  labels := {"caravan"}
  autoMerge := { enabled := false }

/-- A root whose pull request keeps a superseded base, and its child. -/
def projectionRoot : StackEntryGeneration :=
  projectionEntry 0 101 (projectionBranch "main" "historical") (projectionBranch "feature-101" "c101")

def projectionChild : StackEntryGeneration :=
  projectionEntry 1 102 (projectionBranch "feature-101" "c101") (projectionBranch "feature-102" "c102")

def projectionStack (entries : List StackEntryGeneration) : StackGeneration where
  id := 1
  number := 7
  nodeId := "stack"
  isOpen := true
  createdAt := ""
  topology := ⟨projectionBranch "main" "current",entries⟩

/-- Both candidates are current: the root's on the Stack base, the child's on the root's candidate. -/
def projectionCandidates (pr : PrNumber) : Option MergeCandidateIdentity :=
  if pr = 101 then some {
    pr := 101
    base := projectionRoot.base
    head := projectionRoot.head
    synthetic := some ⟨"refs/pull/101/merge","s101","t101",["current","c101"]⟩
    freshness := .staleBase
    comparedBase := some (projectionBranch "main" "current")
    staleBase := true }
  else if pr = 102 then some {
    pr := 102
    base := projectionChild.base
    head := projectionChild.head
    synthetic := some ⟨"refs/pull/102/merge","s102","t102",["s101","c102"]⟩
    freshness := .staleBase
    comparedBase := some projectionChild.base
    staleBase := true }
  else none

def projectionFacts : StackPolicyFacts where
  pullRequests := ((∅ : PullRequestMap).insert 101 (projectionPull projectionRoot)).insert 102
    (projectionPull projectionChild)
  mergeCandidates := projectionCandidates
  compatibility := []
  heldMembers := []

end Projection

section Rows

variable (facts : StackPolicyFacts) (stack : StackGeneration) (ready : PrNumber → Bool)
  {entry : StackEntryGeneration} {previous : Option CommitOid}

def syntheticOid (entry : StackEntryGeneration) : Option CommitOid :=
  ((facts.mergeCandidates entry.pr).bind (·.synthetic)).map (·.oid)

def handOn (previous : Option CommitOid) (entry : StackEntryGeneration) : Option CommitOid :=
  if (syntheticCandidateBlocker facts stack entry previous).isSome then none else syntheticOid facts entry

theorem any_candidateBlocker (ready : Bool) : (policyBlockers facts stack entry ready previous).any
    isCandidateBlocker = (syntheticCandidateBlocker facts stack entry previous).isSome := by
  have hdiscovery : (discoveryBlockers facts entry).any isCandidateBlocker = false := by
    unfold discoveryBlockers
    cases facts.pullRequests[entry.pr]? with
    | none => rfl
    | some pull =>
      simp only [List.any_append,Bool.or_eq_false_iff]
      refine ⟨⟨⟨?_,?_⟩,?_⟩,?_⟩ <;> split <;> rfl
  have hcandidate : (syntheticCandidateBlocker facts stack entry previous).toList.any isCandidateBlocker =
      (syntheticCandidateBlocker facts stack entry previous).isSome := by
    unfold syntheticCandidateBlocker candidateShapeBlocker
    grind [isCandidateBlocker]
  unfold policyBlockers
  simp only [List.any_append,hdiscovery,hcandidate]
  split <;> split <;> split <;> split <;> split <;> simp [isCandidateBlocker]

theorem stackMergeEvidence_cons (entries : List StackEntryGeneration) :
    stackMergeEvidence facts stack ready (entry::entries) previous =
      ⟨entry,policyBlockers facts stack entry (ready entry.pr) previous⟩::
        stackMergeEvidence facts stack ready entries (handOn facts stack previous entry) := by
  have hnext : handOn facts stack previous entry =
      if (policyBlockers facts stack entry (ready entry.pr) previous).any isCandidateBlocker then none
      else ((facts.mergeCandidates entry.pr).bind (·.synthetic)).map (·.oid) := by
    rw [any_candidateBlocker]
    rfl
  rw [hnext]
  rfl

theorem stackMergeEvidence_append (entries rest : List StackEntryGeneration) (previous : Option CommitOid) :
    stackMergeEvidence facts stack ready (entries ++ rest) previous =
      stackMergeEvidence facts stack ready entries previous ++
        stackMergeEvidence facts stack ready rest (entries.foldl (handOn facts stack) previous) := by
  induction entries generalizing previous with
  | nil => rfl
  | cons entry entries ih =>
    rw [List.cons_append,stackMergeEvidence_cons,stackMergeEvidence_cons,ih]
    rfl

theorem length_stackMergeEvidence (entries : List StackEntryGeneration) (previous : Option CommitOid) :
    (stackMergeEvidence facts stack ready entries previous).length = entries.length := by
  induction entries generalizing previous with
  | nil => rfl
  | cons entry entries ih =>
    rw [stackMergeEvidence_cons,List.length_cons,List.length_cons,ih]

end Rows

section Chain

variable {facts : StackPolicyFacts} {stack : StackGeneration} {ready : PrNumber → Bool}
  {entry : StackEntryGeneration} {previous : Option CommitOid}

/-- The snapshot of an entry that may land: open, complete, unforced and the very generation. -/
structure ExactSnapshot (facts : StackPolicyFacts) (entry : StackEntryGeneration)
    (pull : PullRequestSnapshot) : Prop where
  found : facts.pullRequests[entry.pr]? = some pull
  isOpen : pull.state = .open
  complete : pull.draft = false
  unforced : pull.hasLabel "caravan-force" = false
  head : pull.head = entry.head
  base : pull.base = entry.base

/-- The candidate of an entry that may land: two parents, the entry's head behind the base it is
compared with or behind the predecessor's candidate. -/
structure ChainedCandidate (facts : StackPolicyFacts) (stack : StackGeneration)
    (entry : StackEntryGeneration) (previous : Option CommitOid) (candidate : MergeCandidateIdentity)
    (synthetic : SyntheticMergeCandidate) : Prop where
  found : facts.mergeCandidates entry.pr = some candidate
  merged : candidate.synthetic = some synthetic
  identity : candidate.base = entry.base ∧ candidate.head = entry.head
  fresh : candidate.staleHead = false
  parents : ∃ base,effectiveBase stack entry = some base ∧ candidate.comparedBase = some base ∧
    (synthetic.parents = [base.oid,entry.head.oid] ∨
      ∃ parent,previous = some parent ∧ synthetic.parents = [parent,entry.head.oid])

theorem shape_of_unblocked {candidate : MergeCandidateIdentity} {synthetic : SyntheticMergeCandidate}
    {base : BranchSnapshot} (h : candidateShapeBlocker stack entry candidate synthetic base previous = none) :
    (candidate.staleHead = false ∧ candidate.comparedBase = some base) ∧
      (synthetic.parents = [base.oid,entry.head.oid] ∨
        ∃ parent,previous = some parent ∧ synthetic.parents = [parent,entry.head.oid]) := by
  unfold candidateShapeBlocker at h
  dsimp only at h
  split at h
  · cases h
  · next hcurrent =>
    rw [not_or,Bool.not_eq_true,not_not] at hcurrent
    refine ⟨hcurrent,?_⟩
    split at h
    · cases h
    · split at h
      · cases h
      · next hshape =>
        by_cases hordinary : synthetic.parents = [base.oid,entry.head.oid]
        · exact .inl hordinary
        · right
          cases previous with
          | none => simp [hordinary] at hshape
          | some parent => exact ⟨parent,rfl,by simpa [hordinary] using hshape⟩

theorem chained_of_unblocked (h : syntheticCandidateBlocker facts stack entry previous = none) :
    ∃ candidate synthetic,ChainedCandidate facts stack entry previous candidate synthetic := by
  unfold syntheticCandidateBlocker at h
  cases hfound : facts.mergeCandidates entry.pr with
  | none =>
    rw [hfound] at h
    cases h
  | some candidate =>
    rw [hfound] at h
    dsimp only at h
    split at h
    · cases h
    · next hidentity =>
      cases hsynthetic : candidate.synthetic with
      | none =>
        rw [hsynthetic] at h
        cases h
      | some synthetic =>
        cases hbase : effectiveBase stack entry with
        | none =>
          rw [hsynthetic,hbase] at h
          cases h
        | some base =>
          rw [hsynthetic,hbase] at h
          rw [not_or,not_not,not_not] at hidentity
          obtain ⟨hcurrent,hshape⟩ := shape_of_unblocked h
          exact ⟨candidate,synthetic,hfound,hsynthetic,hidentity,hcurrent.1,base,hbase,hcurrent.2,hshape⟩

theorem snapshot_of_unblocked (h : discoveryBlockers facts entry = []) :
    ∃ pull,ExactSnapshot facts entry pull := by
  unfold discoveryBlockers at h
  cases hfound : facts.pullRequests[entry.pr]? with
  | none =>
    rw [hfound] at h
    cases h
  | some pull =>
    rw [hfound] at h
    simp only [List.append_eq_nil_iff] at h
    obtain ⟨⟨⟨hopen,hdraft⟩,hexact⟩,hforce⟩ := h
    refine ⟨pull,hfound,?_,?_,?_,?_,?_⟩
    all_goals grind

structure Landable (facts : StackPolicyFacts) (stack : StackGeneration) (entry : StackEntryGeneration)
    (previous : Option CommitOid) : Prop where
  snapshot : ∃ pull,ExactSnapshot facts entry pull
  unheld : entry.pr ∉ facts.heldMembers
  candidate : ∃ candidate synthetic,ChainedCandidate facts stack entry previous candidate synthetic

theorem landable_of_unblocked {ready : Bool} (h : policyBlockers facts stack entry ready previous = []) :
    Landable facts stack entry previous := by
  unfold policyBlockers at h
  simp only [List.append_eq_nil_iff] at h
  obtain ⟨⟨⟨⟨⟨_,hdiscovery⟩,hcandidate⟩,hheld⟩,_⟩,_⟩ := h
  refine ⟨snapshot_of_unblocked hdiscovery,?_,chained_of_unblocked (Option.toList_eq_nil_iff.mp hcandidate)⟩
  intro hmem
  rw [if_pos hmem] at hheld
  cases hheld

theorem handOn_unblocked {entries : List StackEntryGeneration}
    (h : ∀ row ∈ stackMergeEvidence facts stack ready entries previous,row.blockers = []) :
    entries.foldl (handOn facts stack) previous =
      (entries.getLast?.map (syntheticOid facts)).getD previous := by
  induction entries generalizing previous with
  | nil => rfl
  | cons entry entries ih =>
    rw [stackMergeEvidence_cons] at h
    have hblockers : policyBlockers facts stack entry (ready entry.pr) previous = [] :=
      h _ List.mem_cons_self
    have hcandidate : (syntheticCandidateBlocker facts stack entry previous).isSome = false := by
      rw [← any_candidateBlocker facts stack (ready entry.pr),hblockers]
      rfl
    have hhand : handOn facts stack previous entry = syntheticOid facts entry := by
      unfold handOn
      rw [hcandidate]
      rfl
    rw [List.foldl_cons,ih fun row hrow => h row (List.mem_cons_of_mem _ hrow),hhand]
    cases entries with
    | nil => rfl
    | cons next entries => rw [List.getLast?_cons_cons]; rfl

/-- Along an unblocked prefix every entry may land, its candidate chained to the entry before it. -/
theorem unblocked_prefix_chained {before rest : List StackEntryGeneration} {length : ℕ}
    (hentries : stack.topology.entries = before ++ entry::rest) (hwithin : before.length < length)
    (hclear : ∀ row ∈ (stackMergeEvidence facts stack ready stack.topology.entries none).take length,
      row.blockers = []) : Landable facts stack entry (before.getLast?.bind (syntheticOid facts)) := by
  replace hclear : ∀ row ∈ (stackMergeEvidence facts stack ready stack.topology.entries none).take
      (before.length + 1),row.blockers = [] :=
    fun row hrow => hclear row (List.take_subset_take_left _ hwithin hrow)
  rw [hentries,stackMergeEvidence_append,stackMergeEvidence_cons,
    ← length_stackMergeEvidence facts stack ready before none,List.take_length_add_append] at hclear
  have hbefore : ∀ row ∈ stackMergeEvidence facts stack ready before none,row.blockers = [] :=
    fun row hrow => hclear row (List.mem_append_left _ hrow)
  have hentry := hclear _ (List.mem_append_right _ List.mem_cons_self)
  have hprevious : before.foldl (handOn facts stack) none = before.getLast?.bind (syntheticOid facts) := by
    rw [handOn_unblocked hbefore]
    cases before.getLast? <;> rfl
  rw [← hprevious]
  exact landable_of_unblocked hentry

theorem chained_projection : Landable projectionFacts (projectionStack [projectionRoot,projectionChild])
    projectionChild (some "s101") := by
  have hclear : ∀ row ∈ (stackMergeEvidence projectionFacts (projectionStack [projectionRoot,projectionChild])
      (fun _ => true) [projectionRoot,projectionChild] none).take 2,row.blockers = [] := by decide +kernel
  have hentries : (projectionStack [projectionRoot,projectionChild]).topology.entries =
      [projectionRoot] ++ projectionChild::[] := rfl
  exact unblocked_prefix_chained hentries (by decide) hclear

end Chain

section Frontier

variable (facts : StackPolicyFacts) (stack : StackGeneration) (ready : PrNumber → Bool)

/-- Positions count the entries from the bottom, as every generation is read. -/
def Numbered (entries : List StackEntryGeneration) : Prop :=
  ∀ i (entry : StackEntryGeneration),entries[i]? = some entry → entry.position = i

def renumber : ℕ → List StackEntryGeneration → List StackEntryGeneration
  | _,[] => []
  | position,entry::entries => { entry with position := position }::renumber (position + 1) entries

def isLandedEntry (entry : StackEntryGeneration) : Bool := decide (entry.pullRequestState = .merged)

def mergedEntries : List StackEntryGeneration := stack.topology.entries.takeWhile isLandedEntry

def frontierEntries : List StackEntryGeneration := stack.topology.entries.dropWhile isLandedEntry

def withoutMerged : StackGeneration :=
  { stack with topology := { stack.topology with entries := renumber 0 (frontierEntries stack) } }

/-- On these facts the candidate of the first open entry is judged alike at the bottom of the Stack, where it
is compared with the Stack base instead of the entry's own and has no predecessor. -/
def JudgedAlike (base : BranchSnapshot) (entry : StackEntryGeneration) (previous : Option CommitOid)
    (candidate : MergeCandidateIdentity) (synthetic : SyntheticMergeCandidate) : Prop :=
  if entry.base = base then
    candidate.comparedBase = some base → synthetic.parents ≠ [base.oid,entry.head.oid] →
      ∀ parent,previous = some parent → synthetic.parents ≠ [parent,entry.head.oid]
  else
    (candidate.comparedBase = some entry.base →
      synthetic.parents = [entry.base.oid,entry.head.oid] ∧ candidate.freshness ≠ .fresh) ∧
    (candidate.comparedBase = some base → synthetic.parents = [base.oid,entry.head.oid] ∧
      candidate.freshness ≠ .fresh ∧ ¬(candidate.staleBase = true ∧ candidate.freshness = .staleBase))

structure ExactCandidate (facts : StackPolicyFacts) (entry : StackEntryGeneration)
    (candidate : MergeCandidateIdentity) (synthetic : SyntheticMergeCandidate) : Prop where
  found : facts.mergeCandidates entry.pr = some candidate
  base : candidate.base = entry.base
  head : candidate.head = entry.head
  merged : candidate.synthetic = some synthetic

def FrontierAgrees (base : BranchSnapshot) (entry : StackEntryGeneration) (previous : Option CommitOid) : Prop :=
  ∀ candidate synthetic,ExactCandidate facts entry candidate synthetic → candidate.staleHead = false →
    JudgedAlike base entry previous candidate synthetic

def IsRoot (entry : StackEntryGeneration) : Prop :=
  entry.position = 0 ∧ stack.topology.entries.head? = some entry

variable {facts} {stack} {entry : StackEntryGeneration} {previous : Option CommitOid}
  {stack' : StackGeneration} {position : ℕ} {previous' : Option CommitOid}

theorem effectiveBase_child (h : ¬IsRoot stack entry) : effectiveBase stack entry = some entry.base := if_neg h

theorem shape_child (h : ¬IsRoot stack entry) (candidate : MergeCandidateIdentity)
    (synthetic : SyntheticMergeCandidate) (base : BranchSnapshot) :
    candidateShapeBlocker stack entry candidate synthetic base previous =
      if candidate.staleHead ∨ candidate.comparedBase ≠ some base then some .syntheticCandidateStale
      else if synthetic.parents = [base.oid,entry.head.oid] ∧ candidate.freshness ≠ .fresh then
        some .syntheticCandidateStale
      else if synthetic.parents ≠ [base.oid,entry.head.oid] ∧
          ¬∃ parent,previous = some parent ∧ synthetic.parents = [parent,entry.head.oid] then
        some .syntheticCandidateTopologyMismatch
      else none := by
  have hroot : decide (entry.position = 0 ∧ stack.topology.entries.head? = some entry) = false :=
    decide_eq_false h
  unfold candidateShapeBlocker
  rw [hroot]
  by_cases hordinary : synthetic.parents = [base.oid,entry.head.oid] <;> cases previous <;> simp [hordinary]

theorem shape_root (h : IsRoot stack entry) (candidate : MergeCandidateIdentity)
    (synthetic : SyntheticMergeCandidate) (base : BranchSnapshot) :
    candidateShapeBlocker stack entry candidate synthetic base none =
      if candidate.staleHead ∨ candidate.comparedBase ≠ some base then some .syntheticCandidateStale
      else if synthetic.parents = [base.oid,entry.head.oid] ∧ candidate.freshness ≠ .fresh ∧
          ¬(entry.base.oid ≠ base.oid ∧ candidate.staleBase = true ∧ candidate.freshness = .staleBase) then
        some .syntheticCandidateStale
      else if synthetic.parents ≠ [base.oid,entry.head.oid] then some .syntheticCandidateTopologyMismatch
      else none := by
  have hroot : decide (entry.position = 0 ∧ stack.topology.entries.head? = some entry) = true :=
    decide_eq_true h
  unfold candidateShapeBlocker
  rw [hroot]
  by_cases hordinary : synthetic.parents = [base.oid,entry.head.oid]
  · simp only [hordinary]
    cases candidate.staleBase <;> simp
    grind
  · simp [hordinary]

/-- Entries above the bottom are judged by their own facts, wherever they stand. -/
theorem candidateBlocker_child (h : ¬IsRoot stack entry)
    (h' : ¬IsRoot stack' { entry with position := position }) :
    syntheticCandidateBlocker facts stack' { entry with position := position } previous =
      syntheticCandidateBlocker facts stack entry previous := by
  unfold syntheticCandidateBlocker
  rw [effectiveBase_child h,effectiveBase_child h']
  simp only [shape_child h,shape_child h']

theorem toList_injective {α : Type} {a b : Option α} (h : a.toList = b.toList) : a = b := by
  cases a <;> cases b <;> simp_all

theorem policyBlockers_eq_iff {ready : Bool} (hopen : stack'.isOpen = stack.isOpen) :
    policyBlockers facts stack entry ready previous =
        policyBlockers facts stack' { entry with position := position } ready previous' ↔
      syntheticCandidateBlocker facts stack entry previous =
        syntheticCandidateBlocker facts stack' { entry with position := position } previous' := by
  have hdiscovery : discoveryBlockers facts { entry with position := position } = discoveryBlockers facts entry := rfl
  have hmechanical : mechanicallyBlocked facts { entry with position := position } =
    mechanicallyBlocked facts entry := rfl
  unfold policyBlockers
  rw [hopen,hdiscovery,hmechanical]
  constructor
  · intro h
    have htail := List.append_cancel_right (List.append_cancel_right (List.append_cancel_right h))
    exact toList_injective (List.append_cancel_left htail)
  · intro h
    rw [h]

theorem effectiveBase_root (h : IsRoot stack entry) (hrepository : entry.base.repository =
    stack.topology.base.repository) (hname : entry.base.name = stack.topology.base.name) :
    effectiveBase stack entry = some stack.topology.base := by
  have hsame : ¬(entry.base.repository ≠ stack.topology.base.repository ∨
      entry.base.name ≠ stack.topology.base.name) := by simp [hrepository,hname]
  exact (if_pos h).trans (if_neg hsame)

/-- The rules of a child and of the root on one candidate of the frontier. -/
theorem shape_frontier_iff {base : BranchSnapshot} {candidate : MergeCandidateIdentity}
    {synthetic : SyntheticMergeCandidate} (hchild : ¬IsRoot stack entry)
    (hroot : IsRoot stack' { entry with position := position })
    (hoid : entry.base ≠ base → entry.base.oid ≠ base.oid) (hcurrent : candidate.staleHead = false) :
    candidateShapeBlocker stack entry candidate synthetic entry.base previous =
        candidateShapeBlocker stack' { entry with position := position } candidate synthetic base none ↔
      JudgedAlike base entry previous candidate synthetic := by
  unfold JudgedAlike
  rw [shape_child hchild,shape_root hroot,hcurrent]
  by_cases hbase : entry.base = base
  · rw [if_pos hbase,hbase]
    by_cases hcompared : candidate.comparedBase = some base
    · by_cases hordinary : synthetic.parents = [base.oid,entry.head.oid]
      · simp [hcompared,hordinary]
      · cases previous <;> simp [hcompared,hordinary]
    · simp [hcompared]
  · rw [if_neg hbase]
    have hoids := hoid hbase
    by_cases hcompared : candidate.comparedBase = some entry.base
    · have hne : candidate.comparedBase ≠ some base := by
        rw [hcompared]
        exact fun h => hbase (Option.some.inj h)
      by_cases hordinary : synthetic.parents = [entry.base.oid,entry.head.oid]
      · by_cases hfresh : candidate.freshness = .fresh <;> simp [hcompared,hbase,hordinary,hfresh]
      · cases previous <;> simp [hcompared,hbase,hordinary]
    · by_cases hstack : candidate.comparedBase = some base
      · have hne : base ≠ entry.base := fun h => hbase h.symm
        by_cases hordinary : synthetic.parents = [base.oid,entry.head.oid]
        · by_cases hfresh : candidate.freshness = .fresh
          · simp [hstack,hne,hordinary,hfresh]
          · simp [hstack,hne,hordinary,hfresh,hoids]
        · simp [hstack,hne,hordinary]
      · simp [hcompared,hstack]

theorem candidateBlocker_exact {base : BranchSnapshot} {candidate : MergeCandidateIdentity}
    {synthetic : SyntheticMergeCandidate} (hbase : effectiveBase stack entry = some base)
    (h : ExactCandidate facts entry candidate synthetic) :
    syntheticCandidateBlocker facts stack entry previous =
      candidateShapeBlocker stack entry candidate synthetic base previous := by
  have hsame : ¬(candidate.base ≠ entry.base ∨ candidate.head ≠ entry.head) := by simp [h.base,h.head]
  unfold syntheticCandidateBlocker
  rw [h.found,hbase]
  dsimp only
  rw [if_neg hsame,h.merged]

def inexactBlocker (facts : StackPolicyFacts) (entry : StackEntryGeneration) : StackMergeBlocker :=
  match facts.mergeCandidates entry.pr with
  | none => .syntheticCandidateMissing
  | some candidate =>
      if candidate.base ≠ entry.base ∨ candidate.head ≠ entry.head then .syntheticCandidateStale
      else .syntheticCandidateMissing

theorem candidateBlocker_inexact
    (h : ¬∃ candidate synthetic,ExactCandidate facts entry candidate synthetic) :
    syntheticCandidateBlocker facts stack entry previous = some (inexactBlocker facts entry) := by
  unfold syntheticCandidateBlocker inexactBlocker
  cases hfound : facts.mergeCandidates entry.pr with
  | none => rfl
  | some candidate =>
    dsimp only
    by_cases hdrift : candidate.base ≠ entry.base ∨ candidate.head ≠ entry.head
    · rw [if_pos hdrift,if_pos hdrift]
    · rw [if_neg hdrift,if_neg hdrift]
      cases hsynthetic : candidate.synthetic with
      | none => rfl
      | some synthetic =>
        rw [not_or,not_not,not_not] at hdrift
        exact absurd ⟨candidate,synthetic,hfound,hdrift.1,hdrift.2,hsynthetic⟩ h

/-- At the frontier the two places judge alike exactly under the condition. -/
theorem candidateBlocker_frontier_iff (hchild : ¬IsRoot stack entry)
    (hroot : IsRoot stack' { entry with position := position }) (hbase : stack'.topology.base = stack.topology.base)
    (hrepository : entry.base.repository = stack.topology.base.repository)
    (hname : entry.base.name = stack.topology.base.name) :
    syntheticCandidateBlocker facts stack entry previous =
        syntheticCandidateBlocker facts stack' { entry with position := position } none ↔
      FrontierAgrees facts stack.topology.base entry previous := by
  have hoid : entry.base ≠ stack.topology.base → entry.base.oid ≠ stack.topology.base.oid := by
    intro hne heq
    apply hne
    cases hentry : entry.base
    cases hstack : stack.topology.base
    simp_all
  have heffective : effectiveBase stack' { entry with position := position } = some stack.topology.base := by
    rw [effectiveBase_root hroot (hbase ▸ hrepository) (hbase ▸ hname),hbase]
  by_cases hexact : ∃ candidate synthetic,ExactCandidate facts entry candidate synthetic
  · obtain ⟨candidate,synthetic,hexact⟩ := hexact
    have hexact' : ExactCandidate facts { entry with position := position } candidate synthetic :=
      ⟨hexact.found,hexact.base,hexact.head,hexact.merged⟩
    rw [candidateBlocker_exact (effectiveBase_child hchild) hexact,candidateBlocker_exact heffective hexact']
    cases hstale : candidate.staleHead with
    | true =>
      refine iff_of_true ?_ ?_
      · rw [shape_child hchild,shape_root hroot]
        simp [hstale]
      · intro candidate' synthetic' hexact'' hcurrent
        obtain rfl : candidate' = candidate := Option.some.inj (hexact''.found.symm.trans hexact.found)
        rw [hstale] at hcurrent
        cases hcurrent
    | false =>
      rw [shape_frontier_iff hchild hroot hoid hstale]
      constructor
      · intro h candidate' synthetic' hexact'' _
        obtain rfl : candidate' = candidate := Option.some.inj (hexact''.found.symm.trans hexact.found)
        obtain rfl : synthetic' = synthetic := Option.some.inj (hexact''.merged.symm.trans hexact.merged)
        exact h
      · intro h
        exact h candidate synthetic hexact hstale
  · have hexact' : ¬∃ candidate synthetic,
      ExactCandidate facts { entry with position := position } candidate synthetic := by
      rintro ⟨candidate,synthetic,h⟩
      exact hexact ⟨candidate,synthetic,h.found,h.base,h.head,h.merged⟩
    refine iff_of_true ?_ ?_
    · rw [candidateBlocker_inexact hexact,candidateBlocker_inexact hexact']
      rfl
    · intro candidate synthetic h _
      exact absurd ⟨candidate,synthetic,h⟩ hexact

theorem handOn_congr (h : syntheticCandidateBlocker facts stack entry previous =
    syntheticCandidateBlocker facts stack' { entry with position := position } previous') :
    handOn facts stack previous entry = handOn facts stack' previous' { entry with position := position } := by
  unfold handOn
  rw [h]
  rfl

/-- Above the bottom both Stacks give the same rows, once the same candidate is handed on. -/
theorem blockers_renumber {entries : List StackEntryGeneration} (hopen : stack'.isOpen = stack.isOpen)
    (hposition : 0 < position) (h : ∀ entry ∈ entries,¬IsRoot stack entry) :
    (stackMergeEvidence facts stack ready entries previous).map (·.blockers) =
      (stackMergeEvidence facts stack' ready (renumber position entries) previous).map (·.blockers) := by
  induction entries generalizing position previous with
  | nil => rfl
  | cons entry entries ih =>
    have hchild' : ¬IsRoot stack' { entry with position := position } := fun h => hposition.ne' h.1
    have hcandidate : syntheticCandidateBlocker facts stack entry previous =
        syntheticCandidateBlocker facts stack' { entry with position := position } previous :=
      (candidateBlocker_child (h entry List.mem_cons_self) hchild').symm
    rw [renumber,stackMergeEvidence_cons,stackMergeEvidence_cons,List.map_cons,List.map_cons,
      ← handOn_congr hcandidate,
      ih (Nat.succ_pos position) fun next hnext => h next (List.mem_cons_of_mem _ hnext)]
    congr 1
    exact (policyBlockers_eq_iff hopen).mpr hcandidate

theorem renumber_of_numbered {entries : List StackEntryGeneration}
    (h : ∀ i (entry : StackEntryGeneration),entries[i]? = some entry → entry.position = position + i) :
    renumber position entries = entries := by
  induction entries generalizing position with
  | nil => rfl
  | cons entry entries ih =>
    have hfirst : entry.position = position := h 0 entry rfl
    have hrest : renumber (position + 1) entries = entries := by
      refine ih fun i next hnext => ?_
      rw [h (i + 1) next hnext]
      omega
    rw [renumber,hrest,← hfirst]

theorem merged_append_frontier (stack : StackGeneration) :
    stack.topology.entries = mergedEntries stack ++ frontierEntries stack :=
  List.takeWhile_append_dropWhile.symm

theorem withoutMerged_of_none (hnumbered : Numbered stack.topology.entries) (h : mergedEntries stack = []) :
    withoutMerged stack = stack := by
  have hfrontier : frontierEntries stack = stack.topology.entries := by
    rw [merged_append_frontier stack,h,List.nil_append]
  unfold withoutMerged
  rw [hfrontier,renumber_of_numbered fun i entry hentry => (hnumbered i entry hentry).trans (Nat.zero_add i).symm]

theorem not_root_of_frontier (hnumbered : Numbered stack.topology.entries) (h : mergedEntries stack ≠ []) :
    ∀ entry ∈ frontierEntries stack,¬IsRoot stack entry := by
  intro entry hmem hroot
  obtain ⟨i,hi⟩ := List.mem_iff_getElem?.mp hmem
  have hlength : 0 < (mergedEntries stack).length := List.length_pos_iff.mpr h
  have hentry : stack.topology.entries[(mergedEntries stack).length + i]? = some entry := by
    rw [merged_append_frontier stack,List.getElem?_append_right (Nat.le_add_right _ _),Nat.add_sub_cancel_left]
    exact hi
  have hposition := hnumbered _ entry hentry
  have := hroot.1
  omega

/-- Merged history leaves the evidence of the open entries alone exactly when the first of them is judged
alike at the bottom. -/
theorem frontier_blockers_eq_iff (hnumbered : Numbered stack.topology.entries)
    (hbase : ∀ entry,(frontierEntries stack).head? = some entry →
      entry.base.repository = stack.topology.base.repository ∧ entry.base.name = stack.topology.base.name) :
    ((stackMergeEvidence facts stack ready stack.topology.entries none).drop (mergedEntries stack).length).map
          (·.blockers) =
        (stackMergeEvidence facts (withoutMerged stack) ready (withoutMerged stack).topology.entries none).map
          (·.blockers) ↔
      mergedEntries stack = [] ∨ ∀ entry,(frontierEntries stack).head? = some entry →
        FrontierAgrees facts stack.topology.base entry ((mergedEntries stack).foldl (handOn facts stack) none) := by
  by_cases hmerged : mergedEntries stack = []
  · rw [withoutMerged_of_none hnumbered hmerged,hmerged]
    simp
  have hdrop : (stackMergeEvidence facts stack ready stack.topology.entries none).drop (mergedEntries stack).length =
      stackMergeEvidence facts stack ready (frontierEntries stack)
        ((mergedEntries stack).foldl (handOn facts stack) none) := by
    conv_lhs => rw [merged_append_frontier stack,stackMergeEvidence_append]
    rw [List.drop_left' (length_stackMergeEvidence facts stack ready _ none)]
  have hroots := not_root_of_frontier hnumbered hmerged
  rw [hdrop,or_iff_right hmerged]
  generalize (mergedEntries stack).foldl (handOn facts stack) none = previous
  cases hfrontier : frontierEntries stack with
  | nil =>
    have hempty : (withoutMerged stack).topology.entries = [] := by
      show renumber 0 (frontierEntries stack) = []
      rw [hfrontier]
      rfl
    rw [hempty]
    simp [stackMergeEvidence]
  | cons entry rest =>
    rw [hfrontier] at hbase hroots
    obtain ⟨hrepository,hname⟩ := hbase entry rfl
    have hentries : (withoutMerged stack).topology.entries = { entry with position := 0 }::renumber 1 rest := by
      show renumber 0 (frontierEntries stack) = _
      rw [hfrontier]
      rfl
    have hroot : IsRoot (withoutMerged stack) { entry with position := 0 } := ⟨rfl,by rw [hentries]; rfl⟩
    have hiff : syntheticCandidateBlocker facts stack entry previous =
          syntheticCandidateBlocker facts (withoutMerged stack) { entry with position := 0 } none ↔
        FrontierAgrees facts stack.topology.base entry previous :=
      candidateBlocker_frontier_iff (hroots entry List.mem_cons_self) hroot rfl hrepository hname
    rw [hentries,stackMergeEvidence_cons,stackMergeEvidence_cons,List.map_cons,List.map_cons,List.cons.injEq]
    have hpolicy : policyBlockers facts stack entry (ready entry.pr) previous =
          policyBlockers facts (withoutMerged stack) { entry with position := 0 } (ready entry.pr) none ↔
        syntheticCandidateBlocker facts stack entry previous =
          syntheticCandidateBlocker facts (withoutMerged stack) { entry with position := 0 } none :=
      policyBlockers_eq_iff rfl
    constructor
    · rintro ⟨hblockers,_⟩ entry' hentry'
      obtain rfl : entry = entry' := Option.some.inj hentry'
      exact hiff.mp (hpolicy.mp hblockers)
    · intro h
      have hcandidate := hiff.mpr (h entry rfl)
      refine ⟨hpolicy.mpr hcandidate,?_⟩
      rw [← handOn_congr hcandidate]
      exact blockers_renumber ready rfl Nat.one_pos fun next hnext => hroots next (List.mem_cons_of_mem _ hnext)

section Landed

def partlyLandedStack : StackGeneration := projectionStack [
  { projectionEntry 0 100 (projectionBranch "main" "older") (projectionBranch "feature-100" "c100") with
    pullRequestState := .merged },
  { projectionRoot with position := 1 },
  { projectionChild with position := 2 }]

/-- The first open entry has a current candidate on the Stack base, yet it is read as a child's. -/
theorem landed_frontier_stale :
    ((stackMergeEvidence projectionFacts partlyLandedStack (fun _ => true)
      partlyLandedStack.topology.entries none).drop 1).map (·.blockers) ≠
        (stackMergeEvidence projectionFacts (withoutMerged partlyLandedStack) (fun _ => true)
          (withoutMerged partlyLandedStack).topology.entries none).map (·.blockers) ∧
      (stackMergeEvidence projectionFacts (withoutMerged partlyLandedStack) (fun _ => true)
        (withoutMerged partlyLandedStack).topology.entries none).map (·.blockers) = [[],[]] := by
  decide +kernel

theorem landed_frontier_disagrees : ¬(mergedEntries partlyLandedStack = [] ∨
    ∀ entry,(frontierEntries partlyLandedStack).head? = some entry → FrontierAgrees projectionFacts
      partlyLandedStack.topology.base entry
      ((mergedEntries partlyLandedStack).foldl (handOn projectionFacts partlyLandedStack) none)) := by
  have hnumbered : Numbered partlyLandedStack.topology.entries := by
    intro i entry h
    rcases i with _|_|_|i
    · cases h
      rfl
    · cases h
      rfl
    · cases h
      rfl
    · cases h
  have hbase : ∀ entry,(frontierEntries partlyLandedStack).head? = some entry →
      entry.base.repository = partlyLandedStack.topology.base.repository ∧
        entry.base.name = partlyLandedStack.topology.base.name := by
    intro entry h
    cases h
    exact ⟨rfl,rfl⟩
  intro h
  exact absurd ((frontier_blockers_eq_iff (fun _ => true) hnumbered hbase).mpr h) (by decide +kernel)

end Landed

end Frontier

end Sync
end Cara
