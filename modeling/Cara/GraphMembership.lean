import Cara.Graph
import Cara.Lib.Guard

/-! Every active member is claimed by exactly one caravan, and consecutive members are
joined by the branch that only the earlier one exposes. -/
namespace Cara
open Std (ExtTreeMap LawfulEqOrd ReflOrd)
namespace Graph

def Indexed (prs : PullRequestMap) : Prop :=
  ∀ (n : PrNumber) (p : PullRequestSnapshot), prs[n]? = some p → p.number = n

theorem indexed_empty : Indexed ∅ := by
  intro n p h
  rw [ExtTreeMap.getElem?_empty] at h
  cases h

theorem Indexed.insert {prs : PullRequestMap} (h : Indexed prs) (p : PullRequestSnapshot) :
    Indexed (prs.insert p.number p) := by
  intro n q hq
  rw [ExtTreeMap.getElem?_insert] at hq
  split at hq
  case isTrue hn =>
    cases hq
    exact LawfulEqOrd.eq_of_compare hn
  case isFalse => exact h n q hq

theorem Indexed.numbers_of_mapM {ε : Type} {pulls : PullRequestMap} (h : Indexed pulls)
    {read : PrNumber → Except ε PullRequestSnapshot}
    (hread : ∀ number pull,read number = .ok pull → pulls[number]? = some pull) {numbers : List PrNumber}
    {found : List PullRequestSnapshot} (hfound : numbers.mapM read = .ok found) :
    found.map (·.number) = numbers := by
  have hforall := Guard.mapM_eq_ok hfound
  clear hfound
  induction hforall with
  | nil => rfl
  | @cons number pull _ _ hhead _ ih => rw [List.map_cons,h number pull (hread number pull hhead),ih]

def ActiveAt (prs : PullRequestMap) (n : PrNumber) (p : PullRequestSnapshot) : Prop :=
  prs[n]? = some p ∧ p.isActiveCaravanMember = true

theorem ActiveAt.unique {prs : PullRequestMap} {n : PrNumber} {p q : PullRequestSnapshot}
    (hp : ActiveAt prs n p) (hq : ActiveAt prs n q) : p = q :=
  Option.some.inj (hp.1.symm.trans hq.1)

theorem collectPullRequests_indexed (rows : List PullRequestSnapshot) :
    Indexed (collectPullRequests rows).1 := by
  induction rows using List.reverseRecOn with
  | nil =>
    intro n p h
    simp [collectPullRequests] at h
  | append_singleton rows row ih =>
    intro n p h
    simp only [collectPullRequests,List.foldl_append,List.foldl_cons,List.foldl_nil] at h
    rw [ExtTreeMap.getElem?_insert] at h
    split at h
    next hn =>
      rw [← Option.some.inj h]
      exact LawfulEqOrd.eq_of_compare hn
    next => exact ih n p h

theorem activeMembers_getElem?_iff {prs : PullRequestMap} {n : PrNumber}
    {p : PullRequestSnapshot} : (activeMembers prs)[n]? = some p ↔ ActiveAt prs n p := by
  rw [activeMembers,ExtTreeMap.getElem?_filter',Option.filter_eq_some_iff,ActiveAt]

theorem mem_rowsOf_iff {prs : PullRequestMap} {p : PullRequestSnapshot} :
    p ∈ rowsOf prs ↔ ∃ n : PrNumber, prs[n]? = some p := by
  simp only [rowsOf,List.mem_map,Prod.exists,ExtTreeMap.mem_toList_iff_getElem?_eq_some]
  constructor
  · rintro ⟨n,q,h,rfl⟩
    exact ⟨n,h⟩
  · rintro ⟨n,h⟩
    exact ⟨n,p,h,rfl⟩

theorem mem_activeRows_iff {prs : PullRequestMap} {p : PullRequestSnapshot} :
    p ∈ rowsOf (activeMembers prs) ↔ ∃ n, ActiveAt prs n p := by
  simp only [mem_rowsOf_iff,activeMembers_getElem?_iff]

theorem mem_activeKeys_iff {prs : PullRequestMap} {n : PrNumber} :
    n ∈ (activeMembers prs).keys ↔ ∃ p, ActiveAt prs n p := by
  rw [ExtTreeMap.mem_keys,ExtTreeMap.mem_iff_isSome_getElem?,Option.isSome_iff_exists]
  simp only [activeMembers_getElem?_iff]

section Heads

variable {prs : PullRequestMap} (hprs : Indexed prs)

include hprs in
theorem mem_headRows_iff {branch : String} {n : PrNumber} :
    (branch,n) ∈ (rowsOf (activeMembers prs)).map (fun p => (p.head.name,p.number)) ↔
      ∃ p, ActiveAt prs n p ∧ p.head.name = branch := by
  simp only [List.mem_map,Prod.mk.injEq,mem_activeRows_iff]
  constructor
  · rintro ⟨p,⟨m,hp⟩,hbranch,hn⟩
    have hm : m = n := (hprs m p hp.1).symm.trans hn
    exact ⟨p,hm ▸ hp,hbranch⟩
  · rintro ⟨p,hp,hbranch⟩
    exact ⟨p,⟨n,hp⟩,hbranch,hprs n p hp.1⟩

include hprs in
/-- A branch entry lists exactly the active members that expose the branch. -/
theorem headsByBranch_mem_iff {branch : String} {heads : List PrNumber}
    (h : (headsByBranch (activeMembers prs))[branch]? = some heads) (n : PrNumber) :
    n ∈ heads ↔ ∃ p, ActiveAt prs n p ∧ p.head.name = branch := by
  rw [headsByBranch,ExtTreeMap.getElem?_map,Option.map_eq_some_iff] at h
  obtain ⟨members,hmembers,rfl⟩ := h
  obtain ⟨-,hvalues⟩ := Grouping.groupRows_eq_some_iff.mp hmembers
  rw [List.mem_insertionSort,← hvalues,Grouping.mem_valuesAt,mem_headRows_iff hprs]

include hprs in
theorem headsByBranch_none_iff {branch : String} :
    (headsByBranch (activeMembers prs))[branch]? = none ↔
      ∀ n p, ActiveAt prs n p → p.head.name ≠ branch := by
  rw [headsByBranch,ExtTreeMap.getElem?_map,Option.map_eq_none_iff,
    Grouping.groupRows_eq_none_iff]
  simp only [mem_headRows_iff hprs,not_exists,not_and,ne_eq]

end Heads

theorem placeUnder_cases (prs : PullRequestMap) (p : PullRequestSnapshot) (parent : PrNumber) :
    placeUnder prs p parent = .child parent ∨
      ∃ reused, placeUnder prs p parent = .root (some (reusedBranch p parent reused)) := by
  unfold placeUnder
  cases hmerged : (mergedByHead prs)[p.base.name]? with
  | none => exact .inl rfl
  | some reused =>
    simp only
    split
    · exact .inl rfl
    · exact .inr ⟨reused,rfl⟩

theorem placement_child {defaultName : String} {prs : PullRequestMap} {p : PullRequestSnapshot}
    {parent : PrNumber} (h : placement defaultName prs p = .child parent) :
    p.base.name ≠ defaultName ∧
      (headsByBranch (activeMembers prs))[p.base.name]? = some [parent] := by
  unfold placement at h
  split at h
  · simp at h
  next hbase =>
    refine ⟨hbase,?_⟩
    split at h
    next only hheads =>
      rcases placeUnder_cases prs p only with hplace | ⟨reused,hplace⟩
      · rw [hplace,Placement.child.injEq] at h
        rw [hheads,h]
      · simp [hplace] at h
    next => simp at h
    next => simp [placeDangling] at h

theorem parent?_eq_some_iff {place : Placement} {parent : PrNumber} :
    place.parent? = some parent ↔ place = .child parent := by
  cases place <;> simp [Placement.parent?]

section Children

variable {defaultName : String} {prs : PullRequestMap} (hprs : Indexed prs)

def ChildOf (defaultName : String) (prs : PullRequestMap) (parent child : PrNumber) : Prop :=
  ∃ p, ActiveAt prs child p ∧ placement defaultName prs p = .child parent

theorem ChildOf.parent_unique {a b child : PrNumber} (ha : ChildOf defaultName prs a child)
    (hb : ChildOf defaultName prs b child) : a = b := by
  obtain ⟨p,hp,hpa⟩ := ha
  obtain ⟨q,hq,hqb⟩ := hb
  rw [← hp.unique hq,hpa] at hqb
  exact Placement.child.inj hqb

include hprs in
theorem mem_parentRows_iff {child parent : PrNumber} :
    (child,parent) ∈ parentRows defaultName prs ↔ ChildOf defaultName prs parent child := by
  simp only [parentRows,List.mem_filterMap,Option.map_eq_some_iff,parent?_eq_some_iff,
    Prod.mk.injEq,mem_activeRows_iff,ChildOf]
  constructor
  · rintro ⟨p,⟨n,hp⟩,q,hplace,hn,rfl⟩
    have hchild : n = child := (hprs n p hp.1).symm.trans hn
    exact ⟨p,hchild ▸ hp,hplace⟩
  · rintro ⟨p,hp,hplace⟩
    exact ⟨p,⟨child,hp⟩,parent,hplace,hprs child p hp.1,rfl⟩

include hprs in
theorem childrenOf_mem_iff {parent : PrNumber} {children : List PrNumber}
    (h : (childrenOf defaultName prs)[parent]? = some children) (child : PrNumber) :
    child ∈ children ↔ ChildOf defaultName prs parent child := by
  rw [childrenOf,ExtTreeMap.getElem?_map,Option.map_eq_some_iff] at h
  obtain ⟨listed,hlisted,rfl⟩ := h
  obtain ⟨-,hvalues⟩ := Grouping.groupRows_eq_some_iff.mp hlisted
  rw [List.mem_insertionSort,← hvalues,Grouping.mem_valuesAt,← mem_parentRows_iff hprs]
  simp

include hprs in
theorem childrenOf_isSome {parent child : PrNumber} (h : ChildOf defaultName prs parent child) :
    ∃ children, (childrenOf defaultName prs)[parent]? = some children := by
  cases hentry : (childrenOf defaultName prs)[parent]? with
  | some children => exact ⟨children,rfl⟩
  | none =>
    rw [childrenOf,ExtTreeMap.getElem?_map,Option.map_eq_none_iff,
      Grouping.groupRows_eq_none_iff] at hentry
    have hrow := (mem_parentRows_iff hprs).mpr h
    exact absurd (List.mem_map.mpr ⟨(child,parent),hrow,rfl⟩) (hentry child)

include hprs in
theorem soleChild_childOf {parent child : PrNumber}
    (h : soleChild (childrenOf defaultName prs) parent = some child) :
    ChildOf defaultName prs parent child := by
  unfold soleChild at h
  split at h
  next only hentry =>
    rw [Option.some.injEq] at h
    exact (childrenOf_mem_iff hprs hentry child).mp (by simp [h])
  next => simp at h

include hprs in
/-- A parent and its child are joined by a branch that only the parent exposes. -/
theorem ChildOf.joined {parent child : PrNumber} (h : ChildOf defaultName prs parent child) :
    ∃ p c, ActiveAt prs parent p ∧ ActiveAt prs child c ∧ c.base.name = p.head.name ∧
      ∀ n q, ActiveAt prs n q → q.head.name = p.head.name → n = parent := by
  obtain ⟨c,hc,hplace⟩ := h
  have hheads := headsByBranch_mem_iff hprs (placement_child hplace).2
  obtain ⟨p,hp,hname⟩ := (hheads parent).mp (by simp)
  refine ⟨p,c,hp,hc,hname.symm,fun n q hq hqname => ?_⟩
  have hmem := (hheads n).mpr ⟨q,hq,hqname.trans hname⟩
  simpa using hmem

include hprs in
theorem soleChild_injective {a b child : PrNumber}
    (ha : soleChild (childrenOf defaultName prs) a = some child)
    (hb : soleChild (childrenOf defaultName prs) b = some child) : a = b :=
  (soleChild_childOf hprs ha).parent_unique (soleChild_childOf hprs hb)

include hprs in
theorem soleChild_closed {parent child : PrNumber}
    (h : soleChild (childrenOf defaultName prs) parent = some child) :
    child ∈ (activeMembers prs).keys.toFinset := by
  obtain ⟨p,hp,-⟩ := soleChild_childOf hprs h
  exact List.mem_toFinset.mpr (mem_activeKeys_iff.mpr ⟨p,hp⟩)

end Children

theorem activeKeys_card (prs : PullRequestMap) :
    (activeMembers prs).keys.toFinset.card = (activeMembers prs).size := by
  have hnodup : (activeMembers prs).keys.Nodup := by
    refine (activeMembers prs).distinct_keys.imp fun h heq => h ?_
    rw [heq]
    exact ReflOrd.compare_self
  rw [List.toFinset_card_of_nodup hnodup,ExtTreeMap.length_keys]

theorem mem_rootNumbers_iff {defaultName : String} {prs : PullRequestMap} (hprs : Indexed prs)
    {n : PrNumber} :
    n ∈ rootNumbers defaultName prs ↔
      ∃ p, ActiveAt prs n p ∧ (placement defaultName prs p).parent? = none := by
  simp only [rootNumbers,List.mem_map,List.mem_filter,Option.isNone_iff_eq_none,mem_activeRows_iff]
  constructor
  · rintro ⟨p,⟨⟨m,hp⟩,hplace⟩,hn⟩
    have hm : m = n := (hprs m p hp.1).symm.trans hn
    exact ⟨p,hm ▸ hp,hplace⟩
  · rintro ⟨p,hp,hplace⟩
    exact ⟨p,⟨⟨n,hp⟩,hplace⟩,hprs n p hp.1⟩

section Walks

variable {defaultName : String} {prs : PullRequestMap} (hprs : Indexed prs)

def allWalks (defaultName : String) (prs : PullRequestMap) : List (List PrNumber) :=
  (memberWalks defaultName prs).1 ++ (memberWalks defaultName prs).2

theorem allWalks_nodup : (allWalks defaultName prs).flatten.Nodup := by
  rw [allWalks,List.flatten_append]
  refine List.nodup_append.mpr
    ⟨LinearWalk.walks_nodup _ _,LinearWalk.walks_nodup _ _,fun a ha b hb hab => ?_⟩
  subst hab
  apply LinearWalk.walks_notMem_visited _ _ hb
  rw [LinearWalk.walks_visited,Finset.mem_union,List.mem_toFinset]
  exact .inr ha

/-- One of the walks is a walk from an active start that was not visited before. -/
theorem exists_start_of_mem_allWalks {w : List PrNumber} (hw : w ∈ allWalks defaultName prs)
    (hroots : ∀ n ∈ rootNumbers defaultName prs, n ∈ (activeMembers prs).keys) :
    ∃ start ∈ (activeMembers prs).keys, ∃ seen, start ∉ seen ∧
      w = (walkLinear (childrenOf defaultName prs) ((activeMembers prs).size + 1) start seen).1 := by
  rcases List.mem_append.mp hw with hw | hw
  · obtain ⟨start,hstart,seen,hfresh,-,heq⟩ := LinearWalk.exists_walk_of_mem_walks _ _ hw
    exact ⟨start,hroots start hstart,seen,hfresh,heq⟩
  · obtain ⟨start,hstart,seen,hfresh,-,heq⟩ := LinearWalk.exists_walk_of_mem_walks _ _ hw
    exact ⟨start,hstart,seen,hfresh,heq⟩

include hprs in
theorem rootNumbers_active {n : PrNumber} (h : n ∈ rootNumbers defaultName prs) :
    n ∈ (activeMembers prs).keys := by
  obtain ⟨p,hp,-⟩ := (mem_rootNumbers_iff hprs).mp h
  exact mem_activeKeys_iff.mpr ⟨p,hp⟩

include hprs in
theorem mem_allWalks_iff (n : PrNumber) :
    n ∈ (allWalks defaultName prs).flatten ↔ ∃ p, ActiveAt prs n p := by
  rw [← mem_activeKeys_iff]
  constructor
  · intro h
    obtain ⟨w,hw,hn⟩ := List.mem_flatten.mp h
    obtain ⟨start,hstart,seen,-,rfl⟩ :=
      exists_start_of_mem_allWalks hw fun n hn => rootNumbers_active hprs hn
    exact List.mem_toFinset.mp (LinearWalk.walk_subset (fun a _ b hab => soleChild_closed hprs hab)
      _ (List.mem_toFinset.mpr hstart) hn)
  · intro h
    rw [allWalks,List.flatten_append,List.mem_append]
    have hcover : n ∈ (LinearWalk.walks (soleChild (childrenOf defaultName prs))
        ((activeMembers prs).size + 1) (rootNumbers defaultName prs) ∅).2 ∨
        n ∈ (memberWalks defaultName prs).2.flatten :=
      LinearWalk.walks_cover (activeMembers prs).size (activeMembers prs).keys h
    rw [LinearWalk.walks_visited,Finset.mem_union,List.mem_toFinset] at hcover
    rcases hcover with (hempty | hrooted) | hleft
    · exact absurd hempty (Finset.notMem_empty n)
    · exact .inl hrooted
    · exact .inr hleft

include hprs in
theorem allWalks_ne_nil {w : List PrNumber} (hw : w ∈ allWalks defaultName prs) : w ≠ [] := by
  obtain ⟨start,-,seen,hfresh,rfl⟩ :=
    exists_start_of_mem_allWalks hw fun n hn => rootNumbers_active hprs hn
  obtain ⟨rest,hrest⟩ := LinearWalk.walk_cons (soleChild (childrenOf defaultName prs))
    (activeMembers prs).size hfresh
  simp [walkLinear,hrest]

include hprs in
theorem allWalks_isChain {w : List PrNumber} (hw : w ∈ allWalks defaultName prs) :
    List.IsChain (fun a b => soleChild (childrenOf defaultName prs) a = some b) w := by
  obtain ⟨start,-,seen,-,rfl⟩ :=
    exists_start_of_mem_allWalks hw fun n hn => rootNumbers_active hprs hn
  exact LinearWalk.walk_isChain _ _

end Walks

theorem caravan_new_eq_some_iff {members : List PrNumber} {c : Caravan} :
    Caravan.new members = some c ↔ members.head? = some c.id ∧ c.members = members ∧
      c.parked = false := by
  obtain ⟨id,listed,parked⟩ := c
  simp only [Caravan.new,Option.map_eq_some_iff,Caravan.mk.injEq]
  constructor
  · rintro ⟨_,hhead,rfl,rfl,rfl⟩
    exact ⟨hhead,rfl,rfl⟩
  · rintro ⟨hhead,rfl,rfl⟩
    exact ⟨id,hhead,rfl,rfl,rfl⟩

theorem mem_deriveCaravans_iff {defaultName : String} {prs : PullRequestMap} {c : Caravan} :
    c ∈ deriveCaravans defaultName prs ↔ c.members ∈ allWalks defaultName prs ∧
      c.members.head? = some c.id ∧ c.parked = isParked (activeMembers prs) c := by
  simp only [deriveCaravans,List.mem_map,List.mem_insertionSort,List.mem_filterMap,
    caravan_new_eq_some_iff]
  constructor
  · rintro ⟨raw,⟨w,hw,hhead,rfl,-⟩,rfl⟩
    exact ⟨hw,hhead,rfl⟩
  · rintro ⟨hw,hhead,hparked⟩
    refine ⟨{ c with parked := false },⟨c.members,hw,hhead,rfl,rfl⟩,?_⟩
    rw [show isParked (activeMembers prs) { c with parked := false } = c.parked from hparked.symm]

/-- Sorting by number and marking the parked caravans keep the walks. -/
theorem deriveCaravans_members_perm {defaultName : String} {prs : PullRequestMap}
    (hprs : Indexed prs) :
    ((deriveCaravans defaultName prs).map (·.members)).Perm (allWalks defaultName prs) := by
  have hnew : ((allWalks defaultName prs).filterMap Caravan.new).map (·.members) =
      allWalks defaultName prs := by
    have hall : ∀ w ∈ allWalks defaultName prs, w ≠ [] := fun w hw => allWalks_ne_nil hprs hw
    generalize allWalks defaultName prs = walks at hall
    induction walks with
    | nil => rfl
    | cons w walks ih =>
      obtain ⟨id,rest,rfl⟩ := List.exists_cons_of_ne_nil (hall w List.mem_cons_self)
      simpa [Caravan.new] using ih fun v hv => hall v (List.mem_cons_of_mem _ hv)
  have hsort := (List.perm_insertionSort (fun a b : Caravan => a.id ≤ b.id)
    ((allWalks defaultName prs).filterMap Caravan.new)).map (·.members)
  rw [hnew] at hsort
  simpa [deriveCaravans,allWalks,List.map_map,Function.comp_def] using hsort

/-- The caravans of an analysis claim every active member once, are listed by strictly
increasing head, and join neighbours by a branch of the earlier one alone. -/
structure MembershipPartition (a : GraphAnalysis) : Prop where
  nodup : (a.fleet.caravans.flatMap (·.members)).Nodup
  covers : ∀ n, n ∈ a.fleet.caravans.flatMap (·.members) ↔ ∃ p, ActiveAt a.pullRequests n p
  head_eq_id : ∀ c ∈ a.fleet.caravans, c.members.head? = some c.id
  ids_increasing : (a.fleet.caravans.map (·.id)).Pairwise (· < ·)
  joined : ∀ c ∈ a.fleet.caravans, ∀ m n, [m,n] <:+: c.members →
    ∃ p q, ActiveAt a.pullRequests m p ∧ ActiveAt a.pullRequests n q ∧
      q.base.name = p.head.name ∧
      ∀ k r, ActiveAt a.pullRequests k r → r.head.name = p.head.name → k = m

theorem deriveCaravans_nodup {defaultName : String} {prs : PullRequestMap} (hprs : Indexed prs) :
    ((deriveCaravans defaultName prs).flatMap (·.members)).Nodup := by
  rw [List.flatMap_def]
  exact (deriveCaravans_members_perm hprs).flatten.nodup_iff.mpr allWalks_nodup

theorem deriveCaravans_ids_increasing {defaultName : String} {prs : PullRequestMap}
    (hprs : Indexed prs) : ((deriveCaravans defaultName prs).map (·.id)).Pairwise (· < ·) := by
  have hsorted : ((deriveCaravans defaultName prs).map (·.id)).Pairwise (· ≤ ·) := by
    simp only [deriveCaravans,List.map_map]
    exact List.pairwise_map.mpr (List.pairwise_insertionSort (fun a b : Caravan => a.id ≤ b.id) _)
  have hnodup : ((deriveCaravans defaultName prs).map (·.id)).Nodup := by
    have hmem : ((deriveCaravans defaultName prs).flatMap (·.members)).Nodup :=
      deriveCaravans_nodup hprs
    refine List.pairwise_map.mpr ((List.nodup_flatMap.mp hmem).2.imp_of_mem ?_)
    intro a b ha hb hdisjoint heq
    have hida := List.mem_of_head? (mem_deriveCaravans_iff.mp ha).2.1
    have hidb := List.mem_of_head? (mem_deriveCaravans_iff.mp hb).2.1
    exact hdisjoint hida (heq ▸ hidb)
  refine (hsorted.and hnodup).imp ?_
  rintro a b ⟨hle,hne⟩
  exact lt_of_le_of_ne hle hne

/-- For every discovery snapshot the derived caravans partition the active members. -/
theorem deriveForActor_membershipPartition (snapshot : RepositorySnapshot)
    (actor : HeadMergeActor) : MembershipPartition (deriveForActor snapshot actor) := by
  have hprs := collectPullRequests_indexed snapshot.pullRequests
  refine ⟨deriveCaravans_nodup hprs,fun n => ?_,fun c hc => (mem_deriveCaravans_iff.mp hc).2.1,
    deriveCaravans_ids_increasing hprs,fun c hc m n hmn => ?_⟩
  · rw [List.flatMap_def]
    exact ((deriveCaravans_members_perm hprs).flatten.mem_iff).trans (mem_allWalks_iff hprs n)
  · have hchain := List.IsChain.infix (allWalks_isChain hprs (mem_deriveCaravans_iff.mp hc).1) hmn
    rw [List.isChain_pair] at hchain
    exact (soleChild_childOf hprs hchain).joined hprs

end Graph
end Cara
