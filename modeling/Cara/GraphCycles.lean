import Cara.GraphHealth
import Cara.Lib.FunctionalGraph
import Mathlib.Data.Finset.Sort

/-! The diagnosis of cycles and of members without a head. The cycle search reports each
directed cycle of the parent relation once, and a walk is left over exactly when the
relation has a cycle or a parent has several children. -/
namespace Cara
open Std (ExtTreeMap)
open FunctionalGraph
namespace Graph

variable {snapshot : RepositorySnapshot} {actor : HeadMergeActor}

def parentStep (snapshot : RepositorySnapshot) (n : PrNumber) : Option PrNumber :=
  (parentOf snapshot.defaultBranch.name (indexOf snapshot))[n]?

def soleChildStep (snapshot : RepositorySnapshot) (n : PrNumber) : Option PrNumber :=
  soleChild (childrenOf snapshot.defaultBranch.name (indexOf snapshot)) n

def activeSet (snapshot : RepositorySnapshot) : Finset PrNumber :=
  (activeMembers (indexOf snapshot)).keys.toFinset

def ofKind (kind : GraphProblemKind) (problems : List GraphProblem) : List GraphProblem :=
  problems.filter fun problem => decide (problem.kind = kind)

def vertices (c : Cycle PrNumber) : List PrNumber := c.toFinset.sort (· ≤ ·)

section Parents

theorem parentStep_iff {child parent : PrNumber} :
    parentStep snapshot child = some parent ↔
      ChildOf snapshot.defaultBranch.name (indexOf snapshot) parent child :=
  parentOf_eq_some_iff (collectPullRequests_indexed snapshot.pullRequests)

theorem mem_activeSet_iff {n : PrNumber} :
    n ∈ activeSet snapshot ↔ ∃ p, ActiveAt (indexOf snapshot) n p := by
  rw [activeSet,List.mem_toFinset,mem_activeKeys_iff]

theorem parentStep_active {child parent : PrNumber} (h : parentStep snapshot child = some parent) :
    child ∈ activeSet snapshot ∧ parent ∈ activeSet snapshot := by
  have hchild := parentStep_iff.mp h
  obtain ⟨p,c,hp,hc,-,-⟩ := hchild.joined (collectPullRequests_indexed snapshot.pullRequests)
  exact ⟨mem_activeSet_iff.mpr ⟨c,hc⟩,mem_activeSet_iff.mpr ⟨p,hp⟩⟩

theorem parentStep_of_soleChild {parent child : PrNumber}
    (h : soleChildStep snapshot parent = some child) : parentStep snapshot child = some parent :=
  parentStep_iff.mpr
    (soleChild_childOf (collectPullRequests_indexed snapshot.pullRequests) h)

theorem mem_rootNumbers_iff_parent {n : PrNumber} :
    n ∈ rootNumbers snapshot.defaultBranch.name (indexOf snapshot) ↔
      n ∈ activeSet snapshot ∧ parentStep snapshot n = none := by
  have hprs := collectPullRequests_indexed snapshot.pullRequests
  rw [mem_rootNumbers_iff hprs,mem_activeSet_iff]
  constructor
  · intro h
    obtain ⟨p,hp,hplace⟩ := h
    refine ⟨⟨p,hp⟩,?_⟩
    cases hparent : parentStep snapshot n with
    | none => rfl
    | some parent =>
      obtain ⟨q,hq,hchild⟩ := parentStep_iff.mp hparent
      rw [hp.unique hq,hchild] at hplace
      simp [Placement.parent?] at hplace
  · intro h
    obtain ⟨⟨p,hp⟩,hnone⟩ := h
    refine ⟨p,hp,?_⟩
    cases hplace : (placement snapshot.defaultBranch.name (indexOf snapshot) p).parent? with
    | none => rfl
    | some parent =>
      have hchild : ChildOf snapshot.defaultBranch.name (indexOf snapshot) parent n :=
        ⟨p,hp,parent?_eq_some_iff.mp hplace⟩
      rw [parentStep_iff.mpr hchild] at hnone
      cases hnone

theorem cycle_active {c : Cycle PrNumber} (hc : DirectedCycle (parentStep snapshot) c)
    {n : PrNumber} (hn : n ∈ c) : n ∈ activeSet snapshot := by
  obtain ⟨parent,-,hparent⟩ := hc.exists_next hn
  exact (parentStep_active hparent).1

theorem activeSet_card_lt :
    (activeSet snapshot).card < (activeMembers (indexOf snapshot)).size + 1 := by
  rw [activeSet,activeKeys_card]
  exact Nat.lt_succ_self _

end Parents

section Cycles

theorem vertices_coe {p : List PrNumber} (h : p.Nodup) :
    vertices (p : Cycle PrNumber) = p.insertionSort (· ≤ ·) := by
  have hperm : (p.insertionSort (· ≤ ·)).Perm p := List.perm_insertionSort _ p
  have hset : (p : Cycle PrNumber).toFinset = (p.insertionSort (· ≤ ·)).toFinset :=
    (List.toFinset_eq_of_perm _ _ hperm).symm
  unfold vertices
  rw [hset,List.toFinset_sort _ (hperm.nodup_iff.mpr h)]
  exact List.pairwise_insertionSort _ p

theorem mem_vertices_iff {c : Cycle PrNumber} {n : PrNumber} : n ∈ vertices c ↔ n ∈ c := by
  induction c using Quotient.inductionOn with
  | _ l =>
    unfold vertices
    rw [Finset.mem_sort]
    exact List.mem_toFinset

def searchFrom (snapshot : RepositorySnapshot) (start : PrNumber) : Option (List PrNumber) :=
  (LinearWalk.trail (parentStep snapshot) ((activeMembers (indexOf snapshot)).size + 1) start
    []).map fun path => path.insertionSort (· ≤ ·)

theorem detectCycles_eq :
    detectCycles (activeMembers (indexOf snapshot))
        (parentOf snapshot.defaultBranch.name (indexOf snapshot)) =
      (recordOnce (searchFrom snapshot) (activeMembers (indexOf snapshot)).keys).map
        cycleProblem := by
  unfold detectCycles recordOnce
  congr 2
  funext recorded start
  unfold searchFrom parentStep
  cases LinearWalk.trail _ _ start [] with
  | none => rfl
  | some path =>
    simp only [Option.map_some,record]
    congr

/-- A search reports the vertices of a cycle, and a cycle is reported by the search from
any of its members. -/
theorem searched_iff (listed : List PrNumber) :
    listed ∈ recordOnce (searchFrom snapshot) (activeMembers (indexOf snapshot)).keys ↔
      ∃ c, DirectedCycle (parentStep snapshot) c ∧ vertices c = listed := by
  rw [mem_recordOnce_iff]
  constructor
  · intro h
    obtain ⟨start,-,hfound⟩ := h
    obtain ⟨path,hpath,rfl⟩ := Option.map_eq_some_iff.mp hfound
    have hcycle := trail_start_directedCycle _ hpath
    exact ⟨path,hcycle,vertices_coe (Cycle.nodup_coe_iff.mp hcycle.nodup)⟩
  · intro h
    obtain ⟨c,hc,rfl⟩ := h
    obtain ⟨start,hstart⟩ := exists_mem_of_ne_nil hc.ne_nil
    have hsub : c.toFinset ⊆ activeSet snapshot := by
      intro n hn
      exact cycle_active hc (mem_vertices_iff.mp ((Finset.mem_sort _).mpr hn))
    have hfuel := (Finset.card_le_card hsub).trans_lt activeSet_card_lt
    obtain ⟨path,hpath,rfl⟩ := trail_of_mem hc hstart hfuel
    refine ⟨start,List.mem_toFinset.mp (cycle_active hc hstart),?_⟩
    unfold searchFrom
    rw [hpath,Option.map_some,vertices_coe (Cycle.nodup_coe_iff.mp hc.nodup)]

/-- The cycle problems are the directed cycles of the parent relation. -/
theorem mem_detectCycles_iff {problem : GraphProblem} :
    problem ∈ detectCycles (activeMembers (indexOf snapshot))
        (parentOf snapshot.defaultBranch.name (indexOf snapshot)) ↔
      ∃ c, DirectedCycle (parentStep snapshot) c ∧ cycleProblem (vertices c) = problem := by
  rw [detectCycles_eq,List.mem_map]
  simp only [searched_iff]
  constructor
  · rintro ⟨listed,⟨c,hc,rfl⟩,rfl⟩
    exact ⟨c,hc,rfl⟩
  · rintro ⟨c,hc,rfl⟩
    exact ⟨vertices c,⟨c,hc,rfl⟩,rfl⟩

theorem vertices_injOn : Set.InjOn vertices {c | DirectedCycle (parentStep snapshot) c} := by
  intro c hc d hd heq
  obtain ⟨n,hn⟩ := exists_mem_of_ne_nil hc.ne_nil
  exact hc.eq_of_mem hd hn (mem_vertices_iff.mp (heq ▸ mem_vertices_iff.mpr hn))

theorem cycleProblem_injective : Function.Injective cycleProblem :=
  fun _ _ h => congrArg GraphProblem.prs h

end Cycles

section Leftover

/-- The root walks claim what a chain of only children joins to a root. -/
theorem rooted_iff (n : PrNumber) :
    n ∈ (memberWalks snapshot.defaultBranch.name (indexOf snapshot)).1.flatten ↔
      ∃ r ∈ rootNumbers snapshot.defaultBranch.name (indexOf snapshot),
        Relation.ReflTransGen (Step (soleChildStep snapshot)) r n := by
  have hprs := collectPullRequests_indexed snapshot.pullRequests
  refine @mem_walks_iff _ (soleChildStep snapshot) (activeSet snapshot) _
    (fun a _ b hab => soleChild_closed hprs hab) (fun a b c => soleChild_injective hprs) _ _ ?_
    activeSet_card_lt ?_ n
  · intro r hr
    exact (mem_rootNumbers_iff_parent.mp hr).1
  · intro r hr parent hparent
    have hsome := parentStep_of_soleChild hparent
    rw [(mem_rootNumbers_iff_parent.mp hr).2] at hsome
    cases hsome

theorem leftover_eq_nil_iff :
    (memberWalks snapshot.defaultBranch.name (indexOf snapshot)).2 = [] ↔
      ∀ n ∈ activeSet snapshot, ∃ r ∈ rootNumbers snapshot.defaultBranch.name (indexOf snapshot),
        Relation.ReflTransGen (Step (soleChildStep snapshot)) r n := by
  have hvisited (n : PrNumber) : n ∈ (LinearWalk.walks (soleChildStep snapshot)
      ((activeMembers (indexOf snapshot)).size + 1)
      (rootNumbers snapshot.defaultBranch.name (indexOf snapshot)) ∅).2 ↔
        n ∈ (memberWalks snapshot.defaultBranch.name (indexOf snapshot)).1.flatten := by
    rw [LinearWalk.walks_visited,Finset.empty_union,List.mem_toFinset]
    rfl
  have hnil : (memberWalks snapshot.defaultBranch.name (indexOf snapshot)).2 = [] ↔
      ∀ n ∈ (activeMembers (indexOf snapshot)).keys, n ∈ (LinearWalk.walks
        (soleChildStep snapshot) ((activeMembers (indexOf snapshot)).size + 1)
        (rootNumbers snapshot.defaultBranch.name (indexOf snapshot)) ∅).2 := walks_eq_nil_iff
  rw [hnil]
  simp only [hvisited,rooted_iff,activeSet,List.mem_toFinset]

/-- Read backwards a chain of only children is a chain of parents. -/
theorem parents_of_reach {r n : PrNumber}
    (h : Relation.ReflTransGen (Step (soleChildStep snapshot)) r n) :
    Relation.ReflTransGen (Step (parentStep snapshot)) n r := by
  induction h with
  | refl => exact .refl
  | tail _ hstep ih => exact ih.head (parentStep_of_soleChild hstep)

theorem cycle_unreached {c : Cycle PrNumber} (hc : DirectedCycle (parentStep snapshot) c)
    {n r : PrNumber} (hn : n ∈ c)
    (hr : r ∈ rootNumbers snapshot.defaultBranch.name (indexOf snapshot)) :
    ¬ Relation.ReflTransGen (Step (soleChildStep snapshot)) r n := by
  intro hreach
  obtain ⟨parent,-,hparent⟩ := hc.exists_next (hc.mem_of_reach hn (parents_of_reach hreach))
  rw [(mem_rootNumbers_iff_parent.mp hr).2] at hparent
  cases hparent

theorem sibling_unreached {parent child r : PrNumber} {children : List PrNumber}
    (hentry : (childrenOf snapshot.defaultBranch.name (indexOf snapshot))[parent]? =
      some children) (hlen : 1 < children.length) (hchild : child ∈ children)
    (hr : r ∈ rootNumbers snapshot.defaultBranch.name (indexOf snapshot)) :
    ¬ Relation.ReflTransGen (Step (soleChildStep snapshot)) r child := by
  intro hreach
  have hparent : parentStep snapshot child = some parent := parentStep_iff.mpr
    ((childrenOf_mem_iff (collectPullRequests_indexed snapshot.pullRequests) hentry child).mp
      hchild)
  rcases hreach.cases_tail with rfl | ⟨last,-,hlast⟩
  · rw [(mem_rootNumbers_iff_parent.mp hr).2] at hparent
    cases hparent
  · have hsame := parentStep_of_soleChild hlast
    rw [hparent,Option.some.injEq] at hsame
    subst hsame
    have honly : soleChild (childrenOf snapshot.defaultBranch.name (indexOf snapshot)) parent =
        some child := hlast
    unfold soleChild at honly
    rw [hentry] at honly
    match children,hlen with
    | _::_::_,_ => simp at honly

def Branches (snapshot : RepositorySnapshot) : Prop :=
  ∃ (parent : PrNumber) (children : List PrNumber),
    (childrenOf snapshot.defaultBranch.name (indexOf snapshot))[parent]? = some children ∧
      1 < children.length

theorem soleChild_of_parent (h : ¬ Branches snapshot) {child parent : PrNumber}
    (hparent : parentStep snapshot child = some parent) :
    soleChildStep snapshot parent = some child := by
  have hprs := collectPullRequests_indexed snapshot.pullRequests
  have hchild := parentStep_iff.mp hparent
  obtain ⟨children,hentry⟩ := childrenOf_isSome hprs hchild
  have hmem := (childrenOf_mem_iff hprs hentry child).mpr hchild
  have hshort : ¬ 1 < children.length := fun hlen => h ⟨parent,children,hentry,hlen⟩
  match children,hentry,hmem,hshort with
  | [only],hentry,hmem,_ => simp [soleChildStep,soleChild,hentry,List.mem_singleton.mp hmem]
  | _::_::_,_,_,hshort => simp at hshort

theorem reach_of_parents (h : ¬ Branches snapshot) {n r : PrNumber}
    (hreach : Relation.ReflTransGen (Step (parentStep snapshot)) n r) :
    Relation.ReflTransGen (Step (soleChildStep snapshot)) r n := by
  induction hreach with
  | refl => exact .refl
  | tail _ hstep ih => exact ih.head (soleChild_of_parent h hstep)

/-- Every walk is rooted exactly when no parent branches and no path of parents closes. -/
theorem leftover_ne_nil_iff :
    (memberWalks snapshot.defaultBranch.name (indexOf snapshot)).2 ≠ [] ↔
      (∃ c, DirectedCycle (parentStep snapshot) c) ∨ Branches snapshot := by
  rw [ne_eq,leftover_eq_nil_iff]
  constructor
  · intro hleft
    by_contra hnone
    rw [not_or] at hnone
    apply hleft
    intro n hn
    cases htrail : LinearWalk.trail (parentStep snapshot)
      ((activeMembers (indexOf snapshot)).size + 1) n [] with
    | some path => exact absurd ⟨path,trail_start_directedCycle _ htrail⟩ hnone.1
    | none =>
      obtain ⟨r,hr,hreach,hend⟩ := @trail_none _ (parentStep snapshot) (activeSet snapshot) _
        (fun _ _ _ h => (parentStep_active h).2) _ _ [] hn (by simp) List.nodup_nil
        (by simpa using activeSet_card_lt) htrail
      exact ⟨r,mem_rootNumbers_iff_parent.mpr ⟨hr,hend⟩,reach_of_parents hnone.2 hreach⟩
  · intro hcause hall
    rcases hcause with ⟨c,hc⟩ | ⟨parent,children,hentry,hlen⟩
    · obtain ⟨n,hn⟩ := exists_mem_of_ne_nil hc.ne_nil
      obtain ⟨r,hr,hreach⟩ := hall n (cycle_active hc hn)
      exact cycle_unreached hc hn hr hreach
    · obtain ⟨child,hchild⟩ := List.exists_mem_of_length_pos (Nat.zero_lt_of_lt hlen)
      have hparent : parentStep snapshot child = some parent := parentStep_iff.mpr
        ((childrenOf_mem_iff (collectPullRequests_indexed snapshot.pullRequests) hentry
          child).mp hchild)
      obtain ⟨r,hr,hreach⟩ := hall child (parentStep_active hparent).1
      exact sibling_unreached hentry hlen hchild hr hreach

end Leftover

section Reported

theorem ofKind_append (kind : GraphProblemKind) (a b : List GraphProblem) :
    ofKind kind (a ++ b) = ofKind kind a ++ ofKind kind b := List.filter_append _ _

theorem ofKind_eq_nil {kind : GraphProblemKind} {problems : List GraphProblem}
    (h : ∀ problem ∈ problems, problem.kind ≠ kind) : ofKind kind problems = [] := by
  unfold ofKind
  rw [List.filter_eq_nil_iff]
  intro problem hproblem
  simpa using h problem hproblem

theorem ofKind_eq_self {kind : GraphProblemKind} {problems : List GraphProblem}
    (h : ∀ problem ∈ problems, problem.kind = kind) : ofKind kind problems = problems := by
  unfold ofKind
  rw [List.filter_eq_self]
  intro problem hproblem
  simpa using h problem hproblem

theorem collected_kind (rows : List PullRequestSnapshot) :
    ∀ problem ∈ (collectPullRequests rows).2, problem.kind = .duplicateMember := by
  induction rows using List.reverseRecOn with
  | nil => simp [collectPullRequests]
  | append_singleton rows row ih =>
    intro problem hproblem
    simp only [collectPullRequests,List.foldl_append,List.foldl_cons,List.foldl_nil] at hproblem
    split at hproblem
    · rcases List.mem_append.mp hproblem with hold | hnew
      · exact ih problem hold
      · rw [List.mem_singleton.mp hnew]
        rfl
    · exact ih problem hproblem

def PlacementKind (kind : GraphProblemKind) : Prop :=
  kind = .reusedBranchProvenance ∨ kind = .multipleHeads ∨ kind = .danglingBase

theorem membership_kind (p : PullRequestSnapshot) : ∀ problem ∈ membershipProblems p,
    problem.kind = .dissolvedMember ∨ problem.kind = .activeAndEvicted := by
  intro problem hproblem
  unfold membershipProblems at hproblem
  rcases List.mem_append.mp hproblem with h | h
  · split at h
    · rw [List.mem_singleton.mp h]
      exact .inl rfl
    · simp at h
  · split at h
    · rw [List.mem_singleton.mp h]
      exact .inr rfl
    · simp at h

theorem fork_kind (repository : RepositoryId) (p : PullRequestSnapshot) :
    ∀ problem ∈ forkProblems repository p, problem.kind = .forkOnlyPredecessor := by
  intro problem hproblem
  unfold forkProblems at hproblem
  split at hproblem
  · rw [List.mem_singleton.mp hproblem]
    rfl
  · simp at hproblem

theorem sharedHead_kind (heads : ExtTreeMap String (List PrNumber)) :
    ∀ problem ∈ sharedHeadProblems heads, problem.kind = .duplicateMember := by
  intro problem hproblem
  obtain ⟨entry,-,hentry⟩ := List.mem_filterMap.mp hproblem
  split at hentry
  · rw [← Option.some.inj hentry]
    rfl
  · cases hentry

/-- A problem of a placement is of its own kind and names the placed member first. -/
theorem placement_kind {defaultName : String} {prs : PullRequestMap} {p : PullRequestSnapshot}
    {problem : GraphProblem} (h : placement defaultName prs p = .root (some problem)) :
    PlacementKind problem.kind ∧ problem.prs.head? = some p.number := by
  unfold placement at h
  split at h
  · simp at h
  · split at h
    next only _ =>
      rcases placeUnder_cases prs p only with hplace | ⟨reused,hplace⟩
      · simp [hplace] at h
      · rw [hplace,Placement.root.injEq,Option.some.injEq] at h
        rw [← h]
        exact ⟨.inl rfl,rfl⟩
    next =>
      rw [Placement.root.injEq,Option.some.injEq] at h
      rw [← h]
      exact ⟨.inr (.inl rfl),rfl⟩
    next =>
      simp only [placeDangling,Placement.root.injEq,Option.some.injEq] at h
      rw [← h]
      exact ⟨.inr (.inr rfl),rfl⟩

theorem mem_placements_iff {defaultName : String} {prs : PullRequestMap}
    {rows : List PullRequestSnapshot} {problem : GraphProblem} :
    problem ∈ rows.filterMap (fun p => (placement defaultName prs p).problem?) ↔
      ∃ p ∈ rows, placement defaultName prs p = .root (some problem) := by
  rw [List.mem_filterMap]
  refine exists_congr fun p => and_congr_right fun _ => ?_
  cases placement defaultName prs p <;> simp [Placement.problem?]

theorem autoMerge_kind (active : PullRequestMap) (c : Caravan) :
    ∀ problem ∈ autoMergeProblems actor active c, problem.kind = .autoMergeInvariant := by
  intro problem hproblem
  obtain ⟨⟨number,position⟩,-,hrow⟩ := List.mem_filterMap.mp hproblem
  obtain ⟨p,-,hp⟩ := Option.bind_eq_some_iff.mp hrow
  split at hp
  · cases hp
  · rw [← Option.some.inj hp]
    rfl

theorem branching_kind (parents : ExtTreeMap PrNumber PrNumber)
    (children : ExtTreeMap PrNumber (List PrNumber)) :
    ∀ problem ∈ branchingProblems parents children, problem.kind = .branching := by
  intro problem hproblem
  obtain ⟨entry,-,hentry⟩ := List.mem_filterMap.mp hproblem
  split at hentry
  · obtain ⟨parent,-,rfl⟩ := Option.map_eq_some_iff.mp hentry
    rfl
  · cases hentry

/-- Problems of a topology kind come from the passes over the parent relation only. -/
theorem ofKind_structural {kind : GraphProblemKind}
    (h : kind = .branching ∨ kind = .cycle ∨ kind = .missingHead) :
    ofKind kind (structuralProblems snapshot actor) =
      ofKind kind (branchingProblems (parentOf snapshot.defaultBranch.name (indexOf snapshot))
          (childrenOf snapshot.defaultBranch.name (indexOf snapshot))) ++
        ofKind kind (detectCycles (activeMembers (indexOf snapshot))
          (parentOf snapshot.defaultBranch.name (indexOf snapshot))) ++
        ofKind kind ((memberWalks snapshot.defaultBranch.name (indexOf snapshot)).2.map
          missingHead) := by
  have hcollected : ofKind kind (collectPullRequests snapshot.pullRequests).2 = [] := by
    apply ofKind_eq_nil
    intro problem hproblem heq
    rw [← heq,collected_kind _ problem hproblem] at h
    simp at h
  have hmembership : ofKind kind ((rowsOf (indexOf snapshot)).flatMap membershipProblems) = [] := by
    apply ofKind_eq_nil
    intro problem hproblem heq
    obtain ⟨p,-,hp⟩ := List.mem_flatMap.mp hproblem
    rw [← heq] at h
    rcases membership_kind p problem hp with hkind | hkind <;> simp [hkind] at h
  have hfork : ofKind kind ((rowsOf (activeMembers (indexOf snapshot))).flatMap
      (forkProblems snapshot.repository)) = [] := by
    apply ofKind_eq_nil
    intro problem hproblem heq
    obtain ⟨p,-,hp⟩ := List.mem_flatMap.mp hproblem
    rw [← heq,fork_kind _ p problem hp] at h
    simp at h
  have hshared : ofKind kind
      (sharedHeadProblems (headsByBranch (activeMembers (indexOf snapshot)))) = [] := by
    apply ofKind_eq_nil
    intro problem hproblem heq
    rw [← heq,sharedHead_kind _ problem hproblem] at h
    simp at h
  have hplaced : ofKind kind ((rowsOf (activeMembers (indexOf snapshot))).filterMap fun p =>
      (placement snapshot.defaultBranch.name (indexOf snapshot) p).problem?) = [] := by
    apply ofKind_eq_nil
    intro problem hproblem heq
    obtain ⟨p,-,hp⟩ := mem_placements_iff.mp hproblem
    rw [← heq] at h
    rcases (placement_kind hp).1 with hkind | hkind | hkind <;> simp [hkind] at h
  have harming : ofKind kind ((deriveCaravans snapshot.defaultBranch.name
      (indexOf snapshot)).flatMap (autoMergeProblems actor
        (activeMembers (indexOf snapshot)))) = [] := by
    apply ofKind_eq_nil
    intro problem hproblem heq
    obtain ⟨c,-,hc⟩ := List.mem_flatMap.mp hproblem
    rw [← heq,autoMerge_kind _ c problem hc] at h
    simp at h
  unfold structuralProblems
  simp only [ofKind_append]
  rw [hcollected,hmembership,hfork,hshared,hplaced,harming]
  simp only [List.nil_append,List.append_nil]

theorem ofKind_cycle :
    ofKind .cycle (structuralProblems snapshot actor) =
      detectCycles (activeMembers (indexOf snapshot))
        (parentOf snapshot.defaultBranch.name (indexOf snapshot)) := by
  have hbranching : ofKind .cycle
      (branchingProblems (parentOf snapshot.defaultBranch.name (indexOf snapshot))
        (childrenOf snapshot.defaultBranch.name (indexOf snapshot))) = [] := by
    apply ofKind_eq_nil
    intro problem hproblem
    rw [branching_kind _ _ problem hproblem]
    simp
  have hhead : ofKind .cycle
      ((memberWalks snapshot.defaultBranch.name (indexOf snapshot)).2.map missingHead) = [] := by
    apply ofKind_eq_nil
    simp [missingHead]
  rw [ofKind_structural (by simp),hbranching,hhead,List.nil_append,
    List.append_nil]
  apply ofKind_eq_self
  simp [detectCycles,cycleProblem]

theorem ofKind_missingHead :
    ofKind .missingHead (structuralProblems snapshot actor) =
      (memberWalks snapshot.defaultBranch.name (indexOf snapshot)).2.map missingHead := by
  have hbranching : ofKind .missingHead
      (branchingProblems (parentOf snapshot.defaultBranch.name (indexOf snapshot))
        (childrenOf snapshot.defaultBranch.name (indexOf snapshot))) = [] := by
    apply ofKind_eq_nil
    intro problem hproblem
    rw [branching_kind _ _ problem hproblem]
    simp
  have hcycle : ofKind .missingHead (detectCycles (activeMembers (indexOf snapshot))
      (parentOf snapshot.defaultBranch.name (indexOf snapshot))) = [] := by
    apply ofKind_eq_nil
    simp [detectCycles,cycleProblem]
  rw [ofKind_structural (by simp),hbranching,hcycle,List.nil_append,
    List.nil_append]
  apply ofKind_eq_self
  simp [missingHead]

theorem ofKind_branching_ne_nil_iff :
    ofKind .branching (structuralProblems snapshot actor) ≠ [] ↔ Branches snapshot := by
  constructor
  · intro hne
    obtain ⟨problem,hproblem⟩ := List.exists_mem_of_ne_nil _ hne
    have hcycle : ofKind .branching (detectCycles (activeMembers (indexOf snapshot))
        (parentOf snapshot.defaultBranch.name (indexOf snapshot))) = [] := by
      apply ofKind_eq_nil
      simp [detectCycles,cycleProblem]
    have hhead : ofKind .branching
        ((memberWalks snapshot.defaultBranch.name (indexOf snapshot)).2.map missingHead) = [] := by
      apply ofKind_eq_nil
      simp [missingHead]
    rw [ofKind_structural (by simp),hcycle,hhead,List.append_nil,
      List.append_nil] at hproblem
    obtain ⟨⟨parent,children⟩,hentry,hrow⟩ :=
      List.mem_filterMap.mp (List.mem_of_mem_filter hproblem)
    split at hrow
    next hlen =>
      exact ⟨parent,children,ExtTreeMap.mem_toList_iff_getElem?_eq_some.mp hentry,hlen⟩
    next => cases hrow
  · intro hbranches
    obtain ⟨parent,children,hentry,hlen⟩ := hbranches
    have hreported : branching parent children ∈ structuralProblems snapshot actor :=
      branching_reported hentry hlen
    exact List.ne_nil_of_mem (List.mem_filter.mpr ⟨hreported,by simp [branching]⟩)

end Reported

/-- The cycle problems are the directed cycles of the parent relation, each once and as its
sorted vertices, and a missing head is reported exactly beside a cycle or a branching. -/
theorem cycle_and_head_diagnosis (snapshot : RepositorySnapshot) (actor : HeadMergeActor) :
    (ofKind .cycle (deriveForActor snapshot actor).fleet.problems).Nodup ∧
      Set.BijOn (fun c => cycleProblem (vertices c))
        {c | DirectedCycle (parentStep snapshot) c}
        {problem | problem ∈ ofKind .cycle (deriveForActor snapshot actor).fleet.problems} ∧
      (ofKind .missingHead (deriveForActor snapshot actor).fleet.problems ≠ [] ↔
        ofKind .cycle (deriveForActor snapshot actor).fleet.problems ≠ [] ∨
          ofKind .branching (deriveForActor snapshot actor).fleet.problems ≠ []) := by
  have hcycles : ofKind .cycle (deriveForActor snapshot actor).fleet.problems =
      (recordOnce (searchFrom snapshot) (activeMembers (indexOf snapshot)).keys).map
        cycleProblem := ofKind_cycle.trans detectCycles_eq
  have hhead : ofKind .missingHead (deriveForActor snapshot actor).fleet.problems =
      (memberWalks snapshot.defaultBranch.name (indexOf snapshot)).2.map missingHead :=
    ofKind_missingHead
  have hbranching : ofKind .branching (deriveForActor snapshot actor).fleet.problems ≠ [] ↔
      Branches snapshot := ofKind_branching_ne_nil_iff
  have hmem (problem : GraphProblem) :
      problem ∈ ofKind .cycle (deriveForActor snapshot actor).fleet.problems ↔
        ∃ c, DirectedCycle (parentStep snapshot) c ∧ cycleProblem (vertices c) = problem := by
    rw [hcycles,← detectCycles_eq,mem_detectCycles_iff]
  refine ⟨?_,⟨?_,?_,?_⟩,?_⟩
  · rw [hcycles]
    exact (recordOnce_nodup _).map cycleProblem_injective
  · intro c hc
    exact (hmem _).mpr ⟨c,hc,rfl⟩
  · exact cycleProblem_injective.comp_injOn vertices_injOn
  · intro problem hproblem
    exact (hmem problem).mp hproblem
  · rw [hbranching,hhead,ne_eq,List.map_eq_nil_iff,← ne_eq,leftover_ne_nil_iff]
    apply or_congr_left
    constructor
    · intro hcycle
      obtain ⟨c,hc⟩ := hcycle
      exact List.ne_nil_of_mem ((hmem _).mpr ⟨c,hc,rfl⟩)
    · intro hne
      obtain ⟨problem,hproblem⟩ := List.exists_mem_of_ne_nil _ hne
      obtain ⟨c,hc,-⟩ := (hmem problem).mp hproblem
      exact ⟨c,hc⟩

end Graph
end Cara
