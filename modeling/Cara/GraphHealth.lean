import Cara.GraphMembership
import Mathlib.Logic.Relation

/-! What an analysis without blocking problems says about its unparked caravans: the
problem rows of the passes are complete for every malformed topology except a chain that
runs back into the default branch. -/
namespace Cara
open Std (ExtTreeMap LawfulEqOrd ReflOrd)
namespace Graph

theorem containing_eq_some {defaultName : String} {prs : PullRequestMap} (hprs : Indexed prs)
    {fleet : CaravanFleet} (hfleet : fleet.caravans = deriveCaravans defaultName prs)
    {c : Caravan} (hc : c ∈ fleet.caravans) {n : PrNumber} (hn : n ∈ c.members) :
    fleet.containing n = some c := by
  cases hfind : fleet.containing n with
  | none =>
    have hnone := List.find?_eq_none.mp hfind c hc
    simp [hn] at hnone
  | some d =>
    have hd : d ∈ fleet.caravans := List.mem_of_find?_eq_some hfind
    have hdn : n ∈ d.members := by simpa using List.find?_some hfind
    have hdisjoint := (List.nodup_flatMap.mp (hfleet ▸ deriveCaravans_nodup hprs)).2
    have hsymm : Std.Symm (Function.onFun List.Disjoint (fun c : Caravan => c.members)) :=
      ⟨fun _ _ h => h.symm⟩
    by_contra hne
    have hcd : c ≠ d := fun h => hne (congrArg some h.symm)
    exact hdisjoint.forall hc hd hcd hn hdn

section Healthy

variable {snapshot : RepositorySnapshot} {actor : HeadMergeActor}
  (hhealthy : (deriveForActor snapshot actor).healthy = true)

include hhealthy in
/-- In a healthy analysis no blocking problem names a member of an unparked caravan. -/
theorem no_problem_on_unparked {c : Caravan}
    (hc : c ∈ (deriveForActor snapshot actor).fleet.caravans) (hparked : c.parked = false)
    {n : PrNumber} (hn : n ∈ c.members) {problem : GraphProblem}
    (hproblem : problem ∈ structuralProblems snapshot actor)
    (hblocks : problem.kind.blocksFleet = true) : n ∉ problem.prs := by
  intro hmem
  have hcontaining : (deriveForActor snapshot actor).fleet.containing n = some c :=
    containing_eq_some (collectPullRequests_indexed snapshot.pullRequests) rfl hc hn
  have htouched : c ∈ problem.prs.filterMap (deriveForActor snapshot actor).fleet.containing :=
    List.mem_filterMap.mpr ⟨n,hmem,hcontaining⟩
  have hblocked : (deriveForActor snapshot actor).problemBlocksActiveFleet problem = true := by
    simp only [GraphAnalysis.problemBlocksActiveFleet,hblocks,Bool.true_and,Bool.or_eq_true]
    exact .inl (List.any_eq_true.mpr ⟨c,htouched,by simp [hparked]⟩)
  have hany : (deriveForActor snapshot actor).fleet.problems.any
      (deriveForActor snapshot actor).problemBlocksActiveFleet = true :=
    List.any_eq_true.mpr ⟨problem,hproblem,hblocked⟩
  simp [GraphAnalysis.healthy,hany] at hhealthy

end Healthy


section Reported

variable {snapshot : RepositorySnapshot} {actor : HeadMergeActor}

/-- The index of the snapshot rows that all passes work on. -/
abbrev indexOf (snapshot : RepositorySnapshot) : PullRequestMap :=
  (collectPullRequests snapshot.pullRequests).1

theorem forkOnlyPredecessor_reported {n : PrNumber} {p : PullRequestSnapshot}
    (hp : ActiveAt (indexOf snapshot) n p)
    (hfork : p.crossRepository = true ∨ p.head.repository ≠ snapshot.repository) :
    forkOnlyPredecessor p.number ∈ structuralProblems snapshot actor := by
  have hmem : forkOnlyPredecessor p.number ∈
      (rowsOf (activeMembers (indexOf snapshot))).flatMap (forkProblems snapshot.repository) :=
    List.mem_flatMap.mpr ⟨p,mem_activeRows_iff.mpr ⟨n,hp⟩,by simp [forkProblems,hfork]⟩
  simp only [structuralProblems,List.mem_append]
  tauto

theorem sharedHead_reported {branch : String} {heads : List PrNumber}
    (hheads : (headsByBranch (activeMembers (indexOf snapshot)))[branch]? = some heads)
    (hlen : 1 < heads.length) : sharedHead heads ∈ structuralProblems snapshot actor := by
  have hmem : sharedHead heads ∈
      sharedHeadProblems (headsByBranch (activeMembers (indexOf snapshot))) :=
    List.mem_filterMap.mpr
      ⟨(branch,heads),ExtTreeMap.mem_toList_iff_getElem?_eq_some.mpr hheads,by simp [hlen]⟩
  simp only [structuralProblems,List.mem_append]
  tauto

theorem placement_reported {n : PrNumber} {p : PullRequestSnapshot}
    (hp : ActiveAt (indexOf snapshot) n p) {problem : GraphProblem}
    (hplace : placement snapshot.defaultBranch.name (indexOf snapshot) p = .root (some problem)) :
    problem ∈ structuralProblems snapshot actor := by
  have hmem : problem ∈ (rowsOf (activeMembers (indexOf snapshot))).filterMap (fun p =>
      (placement snapshot.defaultBranch.name (indexOf snapshot) p).problem?) :=
    List.mem_filterMap.mpr ⟨p,mem_activeRows_iff.mpr ⟨n,hp⟩,by simp [hplace,Placement.problem?]⟩
  simp only [structuralProblems,List.mem_append]
  tauto

theorem parentOf_eq_some_iff {defaultName : String} {prs : PullRequestMap} (hprs : Indexed prs)
    {child parent : PrNumber} :
    (parentOf defaultName prs)[child]? = some parent ↔ ChildOf defaultName prs parent child := by
  constructor
  · intro h
    exact (mem_parentRows_iff hprs).mp (Grouping.mem_of_indexRows_eq_some h)
  · intro h
    obtain ⟨other,hother⟩ :=
      Grouping.indexRows_isSome_of_mem ((mem_parentRows_iff hprs).mpr h)
    have hsame : ChildOf defaultName prs other child :=
      (mem_parentRows_iff hprs).mp (Grouping.mem_of_indexRows_eq_some hother)
    rw [h.parent_unique hsame]
    exact hother

/-- The parent found through the listed children is the key of their list. -/
theorem branching_parent {defaultName : String} {prs : PullRequestMap} (hprs : Indexed prs)
    {parent : PrNumber} {children : List PrNumber}
    (hentry : (childrenOf defaultName prs)[parent]? = some children) (hlen : 1 < children.length) :
    ((parentOf defaultName prs).toList.findSome? fun row =>
      if row.1 ∈ children then some row.2 else none) = some parent := by
  have hchildren := childrenOf_mem_iff hprs hentry
  cases hfound : (parentOf defaultName prs).toList.findSome?
    fun row => if row.1 ∈ children then some row.2 else none with
  | none =>
    obtain ⟨child,hchild⟩ := List.exists_mem_of_length_pos (Nat.zero_lt_of_lt hlen)
    have hrow := (parentOf_eq_some_iff hprs).mpr ((hchildren child).mp hchild)
    have hnone := List.findSome?_eq_none_iff.mp hfound (child,parent)
      (ExtTreeMap.mem_toList_iff_getElem?_eq_some.mpr hrow)
    simp [hchild] at hnone
  | some found =>
    obtain ⟨⟨child,other⟩,hrow,hother⟩ := List.exists_of_findSome?_eq_some hfound
    simp only [Option.ite_none_right_eq_some,Option.some.injEq] at hother
    obtain ⟨hchild,rfl⟩ := hother
    have hup := (parentOf_eq_some_iff hprs).mp
      (ExtTreeMap.mem_toList_iff_getElem?_eq_some.mp hrow)
    rw [hup.parent_unique ((hchildren child).mp hchild)]

theorem mem_branchingProblems_iff {defaultName : String} {prs : PullRequestMap}
    (hprs : Indexed prs) {problem : GraphProblem} :
    problem ∈ branchingProblems (parentOf defaultName prs) (childrenOf defaultName prs) ↔
      ∃ (parent : PrNumber) (children : List PrNumber),
        (childrenOf defaultName prs)[parent]? = some children ∧ 1 < children.length ∧
          branching parent children = problem := by
  unfold branchingProblems
  rw [List.mem_filterMap]
  constructor
  · rintro ⟨⟨parent,children⟩,hentry,hproblem⟩
    have hlisted := ExtTreeMap.mem_toList_iff_getElem?_eq_some.mp hentry
    split at hproblem
    next hlen =>
      rw [branching_parent hprs hlisted hlen,Option.map_some,Option.some_inj] at hproblem
      exact ⟨parent,children,hlisted,hlen,hproblem⟩
    next => cases hproblem
  · rintro ⟨parent,children,hentry,hlen,rfl⟩
    exact ⟨(parent,children),ExtTreeMap.mem_toList_iff_getElem?_eq_some.mpr hentry,
      by simp [hlen,branching_parent hprs hentry hlen]⟩

theorem branching_reported {parent : PrNumber} {children : List PrNumber}
    (hentry : (childrenOf snapshot.defaultBranch.name (indexOf snapshot))[parent]? = some children)
    (hlen : 1 < children.length) :
    branching parent children ∈ structuralProblems snapshot actor := by
  have hmem := (mem_branchingProblems_iff (collectPullRequests_indexed snapshot.pullRequests)).mpr
    ⟨parent,children,hentry,hlen,rfl⟩
  simp only [structuralProblems,List.mem_append]
  tauto

theorem missingHead_reported {members : List PrNumber}
    (h : members ∈ (memberWalks snapshot.defaultBranch.name (indexOf snapshot)).2) :
    missingHead members ∈ structuralProblems snapshot actor := by
  have hmem : missingHead members ∈
      (memberWalks snapshot.defaultBranch.name (indexOf snapshot)).2.map missingHead :=
    List.mem_map_of_mem h
  simp only [structuralProblems,List.mem_append]
  tauto

theorem autoMergeInvariant_reported {c : Caravan}
    (hc : c ∈ deriveCaravans snapshot.defaultBranch.name (indexOf snapshot))
    {position : ℕ} {n : PrNumber} (hn : c.members[position]? = some n) {p : PullRequestSnapshot}
    (hp : ActiveAt (indexOf snapshot) n p)
    (hinvalid : autoMergeValid (rootMustBeArmed actor c position) p = false) :
    autoMergeInvariant (rootMustBeArmed actor c position) position n ∈
      structuralProblems snapshot actor := by
  have hmem : autoMergeInvariant (rootMustBeArmed actor c position) position n ∈
      (deriveCaravans snapshot.defaultBranch.name (indexOf snapshot)).flatMap
        (autoMergeProblems actor (activeMembers (indexOf snapshot))) := by
    refine List.mem_flatMap.mpr ⟨c,hc,List.mem_filterMap.mpr ⟨(n,position),?_,?_⟩⟩
    · exact List.mk_mem_zipIdx_iff_getElem?.mpr hn
    · simp [activeMembers_getElem?_iff.mpr hp,hinvalid]
  simp only [structuralProblems,List.mem_append]
  tauto

end Reported

structure CompleteChain (snapshot : RepositorySnapshot) (actor : HeadMergeActor) (c : Caravan) :
    Prop where
  head_on_default : ∃ p, ActiveAt (indexOf snapshot) c.id p ∧
    p.base.name = snapshot.defaultBranch.name
  joined : ∀ m n, [m,n] <:+: c.members → ∃ p q, ActiveAt (indexOf snapshot) m p ∧
    ActiveAt (indexOf snapshot) n q ∧ q.base.name = p.head.name
  successor : ∀ m ∈ c.members, ∀ p, ActiveAt (indexOf snapshot) m p →
    ∀ n q, ActiveAt (indexOf snapshot) n q → q.base.name = p.head.name →
      [m,n] <:+: c.members ∧ ∀ k, [m,k] <:+: c.members → k = n
  heads_local : ∀ m ∈ c.members, ∀ p, ActiveAt (indexOf snapshot) m p →
    p.crossRepository = false ∧ p.head.repository = snapshot.repository
  heads_unique : ∀ m ∈ c.members, ∀ p, ActiveAt (indexOf snapshot) m p →
    ∀ n q, ActiveAt (indexOf snapshot) n q → q.head.name = p.head.name → n = m
  auto_merge : ∀ position m, c.members[position]? = some m →
    ∀ p, ActiveAt (indexOf snapshot) m p →
      if actor = .github ∧ position = 0 then
        p.autoMerge.enabled = true ∧ p.autoMerge.mergeMethod = some .squash
      else p.autoMerge.enabled = false

/-- The later pull request is based on the head branch of the earlier one. -/
def BasedOn (prs : PullRequestMap) (m n : PrNumber) : Prop :=
  ∃ p q, ActiveAt prs m p ∧ ActiveAt prs n q ∧ q.base.name = p.head.name

/-- No unparked member on the default branch has a descendant whose head branch is the
default branch itself. -/
def DefaultNotReentered (snapshot : RepositorySnapshot) : Prop :=
  ∀ root r, ActiveAt (indexOf snapshot) root r → r.base.name = snapshot.defaultBranch.name →
    r.hasLabel "caravan-parked" = false → ∀ m p,
    Relation.ReflTransGen (BasedOn (indexOf snapshot)) root m → ActiveAt (indexOf snapshot) m p →
      p.head.name ≠ snapshot.defaultBranch.name

private theorem successor_unique {l : List PrNumber} (hl : l.Nodup) {m a b : PrNumber}
    (ha : [m,a] <:+: l) (hb : [m,b] <:+: l) : a = b := by
  obtain ⟨s₁,t₁,h₁⟩ := ha
  obtain ⟨s₂,t₂,h₂⟩ := hb
  have hm₁ : l[s₁.length]? = some m := by simp [← h₁]
  have hm₂ : l[s₂.length]? = some m := by simp [← h₂]
  have hlen : s₁.length = s₂.length := by
    obtain ⟨hlt,hget⟩ := List.getElem?_eq_some_iff.mp hm₁
    obtain ⟨hlt',hget'⟩ := List.getElem?_eq_some_iff.mp hm₂
    exact (hl.getElem_inj_iff).mp (hget.trans hget'.symm)
  have ha : l[s₁.length+1]? = some a := by simp [← h₁]
  have hb : l[s₂.length+1]? = some b := by simp [← h₂]
  rw [hlen,hb] at ha
  exact (Option.some.inj ha).symm

theorem not_successor_of_head {l : List PrNumber} (hl : l.Nodup) {m head : PrNumber}
    (hhead : l.head? = some head) : ¬[m,head] <:+: l := by
  rintro ⟨s,t,h⟩
  have hpos : l[s.length+1]? = some head := by simp [← h]
  have hzero : l[0]? = some head := by rw [← List.head?_eq_getElem?,hhead]
  obtain ⟨hlt,hget⟩ := List.getElem?_eq_some_iff.mp hpos
  obtain ⟨hlt',hget'⟩ := List.getElem?_eq_some_iff.mp hzero
  have heq := (hl.getElem_inj_iff).mp (hget.trans hget'.symm)
  omega

/-- Only a default-based member is placed as a root without a problem. -/
theorem placement_root_none {defaultName : String} {prs : PullRequestMap}
    {p : PullRequestSnapshot} (h : placement defaultName prs p = .root none) :
    p.base.name = defaultName := by
  unfold placement at h
  split at h
  next hbase => exact hbase
  next =>
    split at h
    next only _ =>
      rcases placeUnder_cases prs p only with hplace | ⟨reused,hplace⟩ <;> simp [hplace] at h
    next => simp at h
    next => simp [placeDangling] at h

/-- Every problem of a placement is a blocking one that names the placed member. -/
theorem placement_problem {defaultName : String} {prs : PullRequestMap} {p : PullRequestSnapshot}
    {problem : GraphProblem} (h : placement defaultName prs p = .root (some problem)) :
    problem.kind.blocksFleet = true ∧ p.number ∈ problem.prs := by
  unfold placement at h
  split at h
  · simp at h
  next =>
    split at h
    next only _ =>
      rcases placeUnder_cases prs p only with hplace | ⟨reused,hplace⟩
      · simp [hplace] at h
      · rw [hplace,Placement.root.injEq,Option.some.injEq] at h
        subst h
        exact ⟨rfl,by simp [reusedBranch]⟩
    next =>
      rw [Placement.root.injEq,Option.some.injEq] at h
      subst h
      exact ⟨rfl,by simp [ambiguousParent]⟩
    next =>
      simp only [placeDangling,Placement.root.injEq,Option.some.injEq] at h
      subst h
      exact ⟨rfl,by simp [danglingBase]⟩

section Unparked

variable {snapshot : RepositorySnapshot} {actor : HeadMergeActor} {c : Caravan}
  (hhealthy : (deriveForActor snapshot actor).healthy = true)
  (hc : c ∈ (deriveForActor snapshot actor).fleet.caravans) (hparked : c.parked = false)

include hc in
theorem members_active {m : PrNumber} (hm : m ∈ c.members) :
    ∃ p, ActiveAt (indexOf snapshot) m p :=
  ((deriveForActor_membershipPartition snapshot actor).covers m).mp
    (List.mem_flatMap.mpr ⟨c,hc,hm⟩)

include hc in
theorem members_nodup : c.members.Nodup :=
  (List.nodup_flatMap.mp (deriveForActor_membershipPartition snapshot actor).nodup).1 c hc

include hhealthy hc hparked in
/-- Members that no root reaches are reported, so the caravan was walked from a root. -/
theorem members_rooted :
    c.members ∈ (memberWalks snapshot.defaultBranch.name (indexOf snapshot)).1 := by
  have hderived := mem_deriveCaravans_iff.mp hc
  rcases List.mem_append.mp hderived.1 with hrooted | hleft
  · exact hrooted
  · have hid : c.id ∈ c.members := List.mem_of_head? hderived.2.1
    exact absurd hid (no_problem_on_unparked hhealthy hc hparked hid (missingHead_reported hleft) rfl)

include hhealthy hc hparked in
theorem head_placement : ∃ p, ActiveAt (indexOf snapshot) c.id p ∧
    placement snapshot.defaultBranch.name (indexOf snapshot) p = .root none := by
  have hprs := collectPullRequests_indexed snapshot.pullRequests
  have hhead := (mem_deriveCaravans_iff.mp hc).2.1
  obtain ⟨start,hstart,seen,hfresh,-,hwalk⟩ :=
    LinearWalk.exists_walk_of_mem_walks _ _ (members_rooted hhealthy hc hparked)
  obtain ⟨rest,hrest⟩ := LinearWalk.walk_cons
    (soleChild (childrenOf snapshot.defaultBranch.name (indexOf snapshot)))
    (activeMembers (indexOf snapshot)).size hfresh
  have hid : start = c.id := by
    rw [hwalk,hrest] at hhead
    simpa using hhead
  obtain ⟨p,hp,hparent⟩ := (mem_rootNumbers_iff hprs).mp (hid ▸ hstart)
  refine ⟨p,hp,?_⟩
  cases hplace : placement snapshot.defaultBranch.name (indexOf snapshot) p with
  | child parent => simp [hplace,Placement.parent?] at hparent
  | root problem =>
    cases problem with
    | none => rfl
    | some problem =>
      obtain ⟨hblocks,hnamed⟩ := placement_problem hplace
      have hnumber : p.number = c.id := hprs c.id p hp.1
      exact absurd (hnumber ▸ hnamed) (no_problem_on_unparked hhealthy hc hparked
        (List.mem_of_head? hhead) (placement_reported hp hplace) hblocks)

include hhealthy hc hparked in
/-- The only active member that exposes the head branch of a member is that member. -/
theorem sole_head {m : PrNumber} (hm : m ∈ c.members) {p : PullRequestSnapshot}
    (hp : ActiveAt (indexOf snapshot) m p) :
    (headsByBranch (activeMembers (indexOf snapshot)))[p.head.name]? = some [m] := by
  have hprs := collectPullRequests_indexed snapshot.pullRequests
  cases hheads : (headsByBranch (activeMembers (indexOf snapshot)))[p.head.name]? with
  | none => exact absurd rfl ((headsByBranch_none_iff hprs).mp hheads m p hp)
  | some heads =>
    have hmem : m ∈ heads := (headsByBranch_mem_iff hprs hheads m).mpr ⟨p,hp,rfl⟩
    have hshort : ¬1 < heads.length := fun hlen =>
      no_problem_on_unparked hhealthy hc hparked hm (sharedHead_reported hheads hlen) rfl hmem
    match heads,hmem,hshort with
    | [only],hmem,_ => rw [List.mem_singleton.mp hmem]
    | _::_::_,_,hshort => simp at hshort

include hhealthy hc hparked in
theorem heads_unique_of_healthy {m : PrNumber} (hm : m ∈ c.members) {p : PullRequestSnapshot}
    (hp : ActiveAt (indexOf snapshot) m p) {n : PrNumber} {q : PullRequestSnapshot}
    (hq : ActiveAt (indexOf snapshot) n q) (hname : q.head.name = p.head.name) : n = m := by
  have hprs := collectPullRequests_indexed snapshot.pullRequests
  have hmem := (headsByBranch_mem_iff hprs (sole_head hhealthy hc hparked hm hp) n).mpr ⟨q,hq,hname⟩
  simpa using hmem

include hhealthy hc hparked in
/-- A pull request based on a member's branch is placed under that member and is its only
child, since a reused branch and a second child are both reported. -/
theorem soleChild_of_based {m : PrNumber} (hm : m ∈ c.members) {p : PullRequestSnapshot}
    (hp : ActiveAt (indexOf snapshot) m p) (hname : p.head.name ≠ snapshot.defaultBranch.name)
    {n : PrNumber} {q : PullRequestSnapshot} (hq : ActiveAt (indexOf snapshot) n q)
    (hbase : q.base.name = p.head.name) :
    soleChild (childrenOf snapshot.defaultBranch.name (indexOf snapshot)) m = some n := by
  have hprs := collectPullRequests_indexed snapshot.pullRequests
  have hheads := sole_head hhealthy hc hparked hm hp
  have hplace : placement snapshot.defaultBranch.name (indexOf snapshot) q =
      placeUnder (indexOf snapshot) q m := by
    rw [placement,hbase,if_neg hname,hheads]
  have hchild : ChildOf snapshot.defaultBranch.name (indexOf snapshot) m n := by
    rcases placeUnder_cases (indexOf snapshot) q m with hunder | ⟨reused,hunder⟩
    · exact ⟨q,hq,hplace.trans hunder⟩
    · have hreported : reusedBranch q m reused ∈ structuralProblems snapshot actor :=
        placement_reported hq (hplace.trans hunder)
      exact absurd (by simp [reusedBranch])
        (no_problem_on_unparked hhealthy hc hparked hm hreported rfl)
  obtain ⟨children,hentry⟩ := childrenOf_isSome hprs hchild
  have hmem : n ∈ children := (childrenOf_mem_iff hprs hentry n).mpr hchild
  have hshort : ¬1 < children.length := fun hlen =>
    no_problem_on_unparked hhealthy hc hparked hm (branching_reported hentry hlen) rfl
      (by simp [branching])
  match children,hentry,hmem,hshort with
  | [only],hentry,hmem,_ => simp [soleChild,hentry,List.mem_singleton.mp hmem]
  | _::_::_,_,_,hshort => simp at hshort

include hhealthy hc hparked in
/-- The walk of an unparked caravan goes on through every only child. -/
theorem members_successor {m n : PrNumber} (hm : m ∈ c.members)
    (hnext : soleChild (childrenOf snapshot.defaultBranch.name (indexOf snapshot)) m = some n) :
    [m,n] <:+: c.members := by
  have hprs := collectPullRequests_indexed snapshot.pullRequests
  refine LinearWalk.walks_successor (S := (activeMembers (indexOf snapshot)).keys.toFinset)
    (fun a _ b hab => soleChild_closed hprs hab) (fun a b d => soleChild_injective hprs) _ _
    (fun a ha => List.mem_toFinset.mpr (rootNumbers_active hprs ha)) ?_ ?_ ?_ _
    (members_rooted hhealthy hc hparked) m hm n hnext
  · rw [activeKeys_card]
    exact Nat.lt_succ_self _
  · intro a ha b hb
    obtain ⟨p,hp,hparent⟩ := (mem_rootNumbers_iff hprs).mp ha
    obtain ⟨q,hq,hplace⟩ := soleChild_childOf hprs hb
    rw [hp.unique hq,hplace] at hparent
    simp [Placement.parent?] at hparent
  · intro a b _ hb
    exact absurd hb (Finset.notMem_empty b)

end Unparked

theorem rootMustBeArmed_eq_true_iff {actor : HeadMergeActor} {c : Caravan}
    (hparked : c.parked = false) {position : ℕ} :
    rootMustBeArmed actor c position = true ↔ actor = .github ∧ position = 0 := by
  simp [rootMustBeArmed,HeadMergeActor.isGithub,hparked]

section Equivalence

variable {snapshot : RepositorySnapshot} {actor : HeadMergeActor}
  (hhealthy : (deriveForActor snapshot actor).healthy = true)

include hhealthy in
theorem auto_merge_of_healthy {c : Caravan}
    (hc : c ∈ (deriveForActor snapshot actor).fleet.caravans) (hparked : c.parked = false)
    {position : ℕ} {m : PrNumber} (hm : c.members[position]? = some m) {p : PullRequestSnapshot}
    (hp : ActiveAt (indexOf snapshot) m p) :
    if actor = .github ∧ position = 0 then
      p.autoMerge.enabled = true ∧ p.autoMerge.mergeMethod = some .squash
    else p.autoMerge.enabled = false := by
  have hvalid : autoMergeValid (rootMustBeArmed actor c position) p = true := by
    by_contra hinvalid
    refine no_problem_on_unparked hhealthy hc hparked (List.mem_of_getElem? hm)
      (autoMergeInvariant_reported hc hm hp (Bool.eq_false_iff.mpr hinvalid)) rfl ?_
    simp [autoMergeInvariant]
  by_cases harmed : actor = .github ∧ position = 0
  · rw [if_pos harmed]
    rw [(rootMustBeArmed_eq_true_iff hparked).mpr harmed] at hvalid
    simpa [autoMergeValid] using hvalid
  · rw [if_neg harmed]
    have hoff : rootMustBeArmed actor c position = false :=
      Bool.eq_false_iff.mpr fun h => harmed ((rootMustBeArmed_eq_true_iff hparked).mp h)
    simpa [autoMergeValid,hoff] using hvalid

include hhealthy in
theorem heads_local_of_healthy {c : Caravan}
    (hc : c ∈ (deriveForActor snapshot actor).fleet.caravans) (hparked : c.parked = false)
    {m : PrNumber} (hm : m ∈ c.members) {p : PullRequestSnapshot}
    (hp : ActiveAt (indexOf snapshot) m p) :
    p.crossRepository = false ∧ p.head.repository = snapshot.repository := by
  have hnumber : p.number = m := collectPullRequests_indexed snapshot.pullRequests m p hp.1
  have hnot : ¬(p.crossRepository = true ∨ p.head.repository ≠ snapshot.repository) := by
    intro hfork
    refine no_problem_on_unparked hhealthy hc hparked hm (forkOnlyPredecessor_reported hp hfork)
      rfl ?_
    simp [forkOnlyPredecessor,hnumber]
  push Not at hnot
  exact ⟨by simpa using hnot.1,hnot.2⟩

theorem members_descend {c : Caravan}
    (hc : c ∈ (deriveForActor snapshot actor).fleet.caravans) :
    ∀ m ∈ c.members, Relation.ReflTransGen (BasedOn (indexOf snapshot)) c.id m := by
  have hpart := deriveForActor_membershipPartition snapshot actor
  have hchain : List.IsChain (BasedOn (indexOf snapshot)) c.members := by
    refine List.isChain_iff_forall_rel_of_append_cons_cons.mpr fun m n l₁ l₂ heq => ?_
    obtain ⟨p,q,hp,hq,hbase,-⟩ := hpart.joined c hc m n ⟨l₁,l₂,by simp [heq]⟩
    exact ⟨p,q,hp,hq,hbase⟩
  refine hchain.induction _ _ (fun m n hmn hm => hm.tail hmn) fun hne => ?_
  have hid : c.members.head hne = c.id := by
    have hhead := hpart.head_eq_id c hc
    rw [List.head?_eq_some_head hne] at hhead
    exact Option.some.inj hhead
  rw [hid]

include hhealthy in
theorem completeChain_of_not_reentered (h : DefaultNotReentered snapshot) {c : Caravan}
    (hc : c ∈ (deriveForActor snapshot actor).fleet.caravans) (hparked : c.parked = false) :
    CompleteChain snapshot actor c := by
  have hpart := deriveForActor_membershipPartition snapshot actor
  obtain ⟨r,hr,hplace⟩ := head_placement hhealthy hc hparked
  have hroot := placement_root_none hplace
  have hlabel : r.hasLabel "caravan-parked" = false := by
    have hmark := (mem_deriveCaravans_iff.mp hc).2.2
    rw [hparked,isParked,activeMembers_getElem?_iff.mpr hr] at hmark
    simpa using hmark.symm
  refine ⟨⟨r,hr,hroot⟩,fun m n hmn => ?_,fun m hm p hp n q hq hbase => ?_,
    fun m hm p hp => heads_local_of_healthy hhealthy hc hparked hm hp,
    fun m hm p hp n q hq hname => heads_unique_of_healthy hhealthy hc hparked hm hp hq hname,
    fun position m hm p hp => auto_merge_of_healthy hhealthy hc hparked hm hp⟩
  · obtain ⟨p,q,hp,hq,hbase,-⟩ := hpart.joined c hc m n hmn
    exact ⟨p,q,hp,hq,hbase⟩
  · have hname := h c.id r hr hroot hlabel m p (members_descend hc m hm) hp
    have hnext := members_successor hhealthy hc hparked hm
      (soleChild_of_based hhealthy hc hparked hm hp hname hq hbase)
    exact ⟨hnext,fun k hk => successor_unique (members_nodup hc) hk hnext⟩

theorem head_of_default (actor : HeadMergeActor) {n : PrNumber} {r : PullRequestSnapshot}
    (hr : ActiveAt (indexOf snapshot) n r) (hbase : r.base.name = snapshot.defaultBranch.name) :
    ∃ c ∈ (deriveForActor snapshot actor).fleet.caravans, c.id = n := by
  have hprs := collectPullRequests_indexed snapshot.pullRequests
  have hpart := deriveForActor_membershipPartition snapshot actor
  obtain ⟨c,hc,hn⟩ := List.mem_flatMap.mp ((hpart.covers n).mpr ⟨r,hr⟩)
  refine ⟨c,hc,?_⟩
  have hderived := mem_deriveCaravans_iff.mp hc
  by_contra hne
  -- A member behind the head is the only child of its predecessor, and a root is no child.
  obtain ⟨l₁,l₂,hsplit⟩ := List.append_of_mem hn
  cases l₁ using List.reverseRecOn with
  | nil =>
    have hhead := hderived.2.1
    rw [hsplit] at hhead
    exact hne (Option.some.inj hhead).symm
  | append_singleton l₁ m _ =>
    have hmn : [m,n] <:+: c.members := ⟨l₁,l₂,by simp [hsplit]⟩
    have hchain := List.IsChain.infix (allWalks_isChain hprs hderived.1) hmn
    rw [List.isChain_pair] at hchain
    obtain ⟨q,hq,hplace⟩ := soleChild_childOf hprs hchain
    exact (placement_child hplace).1 (hr.unique hq ▸ hbase)

theorem not_reentered_of_completeChains
    (h : ∀ c ∈ (deriveForActor snapshot actor).fleet.caravans, c.parked = false →
      CompleteChain snapshot actor c) : DefaultNotReentered snapshot := by
  intro root r hr hroot hlabel m p hreach hp hname
  obtain ⟨c,hc,rfl⟩ := head_of_default actor hr hroot
  have hderived := mem_deriveCaravans_iff.mp hc
  have hparked : c.parked = false := by
    rw [hderived.2.2,isParked,activeMembers_getElem?_iff.mpr hr]
    simpa using hlabel
  have hchain := h c hc hparked
  have hmember : m ∈ c.members := by
    clear hp hname p
    induction hreach with
    | refl => exact List.mem_of_head? hderived.2.1
    | tail _ hstep ih =>
      obtain ⟨p,q,hp,hq,hbase⟩ := hstep
      exact (hchain.successor _ ih p hp _ q hq hbase).1.subset (by simp)
  have hback := (hchain.successor m hmember p hp c.id r hr (hroot.trans hname.symm)).1
  exact not_successor_of_head (members_nodup hc) hderived.2.1 hback

/-- In a healthy analysis the unparked caravans are complete chains exactly when no chain
runs back into the default branch. -/
theorem healthy_completeChains_iff (hhealthy : (deriveForActor snapshot actor).healthy = true) :
    (∀ c ∈ (deriveForActor snapshot actor).fleet.caravans, c.parked = false →
      CompleteChain snapshot actor c) ↔ DefaultNotReentered snapshot :=
  ⟨not_reentered_of_completeChains,fun h _ hc hparked =>
    completeChain_of_not_reentered hhealthy h hc hparked⟩

end Equivalence

/-- Two labelled pull requests of one repository; the second sits on the first. -/
def pairSnapshot (tailHead : String) : RepositorySnapshot :=
  let repository : RepositoryId := ⟨"o","r"⟩
  let branch (name : String) : BranchSnapshot := ⟨repository,name,name⟩
  { repository
    defaultBranch := branch "main"
    pullRequests :=
      [{ number := 1, state := .open, head := branch "feature", base := branch "main",
         labels := {"caravan"}, autoMerge := .squash },
       { number := 2, state := .open, head := branch tailHead, base := branch "feature",
         labels := {"caravan"}, autoMerge := .disabled }] }

theorem healthy_completeChains_pair :
    (deriveForActor (pairSnapshot "next") .github).healthy = true ∧
      ((∀ c ∈ (deriveForActor (pairSnapshot "next") .github).fleet.caravans, c.parked = false →
        CompleteChain (pairSnapshot "next") .github c) ↔
          DefaultNotReentered (pairSnapshot "next")) :=
  ⟨by decide +kernel,healthy_completeChains_iff (by decide +kernel)⟩

/-- A tail whose head branch is the default branch closes the chain into a cycle, and the
analysis stays healthy. -/
theorem healthy_not_completeChains :
    (deriveForActor (pairSnapshot "main") .github).healthy = true ∧
      ¬∀ c ∈ (deriveForActor (pairSnapshot "main") .github).fleet.caravans, c.parked = false →
        CompleteChain (pairSnapshot "main") .github c := by
  refine ⟨by decide +kernel,fun h => ?_⟩
  have hmem : (⟨1,[1,2],false⟩ : Caravan) ∈
      (deriveForActor (pairSnapshot "main") .github).fleet.caravans := by decide +kernel
  obtain ⟨p,hp⟩ := members_active hmem (m := 2) (by simp)
  obtain ⟨q,hq⟩ := members_active hmem (m := 1) (by simp)
  have hp' : p = ((pairSnapshot "main").pullRequests.get ⟨1,by decide⟩) := by
    refine hp.unique ⟨?_,by decide +kernel⟩
    decide +kernel
  have hq' : q = ((pairSnapshot "main").pullRequests.get ⟨0,by decide⟩) := by
    refine hq.unique ⟨?_,by decide +kernel⟩
    decide +kernel
  have hback := ((h _ hmem rfl).successor 2 (by simp) p hp 1 q hq (by subst hp' hq'; rfl)).1
  exact absurd hback (by decide)

end Graph
end Cara
