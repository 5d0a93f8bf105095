import Cara.GraphActors
import Cara.Lib.Splice

/-! Snapshots that differ in head revisions and in bases alone. Index, active members and the
branches they expose are those of the original, so only placements can differ; where one root
is placed under a childless member and everything else as before, its caravan is appended. -/
namespace Cara
open Std (ExtTreeMap)
open FunctionalGraph
namespace Graph

/-- The head stands at another revision, and the base may be another. -/
def revised (oid : PullRequestSnapshot → CommitOid) (base : PullRequestSnapshot → BranchSnapshot)
    (p : PullRequestSnapshot) : PullRequestSnapshot :=
  { p with head := { p.head with oid := oid p },base := base p }

def revision (snapshot : RepositorySnapshot) (oid : PullRequestSnapshot → CommitOid)
    (base : PullRequestSnapshot → BranchSnapshot) : RepositorySnapshot :=
  { snapshot with pullRequests := snapshot.pullRequests.map (revised oid base) }

section Index

variable {oid : PullRequestSnapshot → CommitOid} {base : PullRequestSnapshot → BranchSnapshot}
  {prs : PullRequestMap} {snapshot : RepositorySnapshot}

theorem insert_map_revised (n : PrNumber) (p : PullRequestSnapshot) :
    (prs.map fun _ => revised oid base).insert n (revised oid base p) =
      (prs.insert n p).map fun _ => revised oid base := by
  apply ExtTreeMap.ext_getElem?
  intro k
  rw [ExtTreeMap.getElem?_insert,ExtTreeMap.getElem?_map,ExtTreeMap.getElem?_map,
    ExtTreeMap.getElem?_insert]
  split <;> rfl

theorem collectPullRequests_revised (rows : List PullRequestSnapshot) :
    collectPullRequests (rows.map (revised oid base)) =
      ((collectPullRequests rows).1.map fun _ => revised oid base,(collectPullRequests rows).2) := by
  induction rows using List.reverseRecOn with
  | nil =>
    apply Prod.ext
    · apply ExtTreeMap.ext_getElem?
      intro k
      rw [ExtTreeMap.getElem?_map]
      simp [collectPullRequests]
    · rfl
  | append_singleton rows row ih =>
    have hsnoc (rows : List PullRequestSnapshot) (row : PullRequestSnapshot) :
        collectPullRequests (rows ++ [row]) = ((collectPullRequests rows).1.insert row.number row,
          if row.number ∈ (collectPullRequests rows).1 then
            (collectPullRequests rows).2 ++ [duplicateRow row.number]
          else (collectPullRequests rows).2) := by
      unfold collectPullRequests
      rw [List.foldl_append]
      rfl
    rw [List.map_append,List.map_cons,List.map_nil,hsnoc,hsnoc,ih]
    have hnumber : (revised oid base row).number = row.number := rfl
    simp only [hnumber,insert_map_revised,ExtTreeMap.mem_map]

theorem indexOf_revision : indexOf (revision snapshot oid base) =
    (indexOf snapshot).map fun _ => revised oid base :=
  congrArg Prod.fst (collectPullRequests_revised snapshot.pullRequests)

theorem activeMembers_revised : activeMembers (prs.map fun _ => revised oid base) =
    (activeMembers prs).map fun _ => revised oid base := by
  apply ExtTreeMap.ext_getElem?
  intro k
  rw [activeMembers,activeMembers,ExtTreeMap.getElem?_filter',ExtTreeMap.getElem?_map,
    ExtTreeMap.getElem?_map,ExtTreeMap.getElem?_filter']
  cases prs[k]? with
  | none => rfl
  | some p =>
    have hactive : (revised oid base p).isActiveCaravanMember = p.isActiveCaravanMember := rfl
    simp only [Option.map_some,Option.filter_some,hactive]
    split <;> rfl

theorem rowsOf_revised : rowsOf (prs.map fun _ => revised oid base) =
    (rowsOf prs).map (revised oid base) := by
  unfold rowsOf
  rw [ExtTreeMap.toList_map,List.map_map,List.map_map]
  rfl

theorem headsByBranch_revised : headsByBranch ((activeMembers prs).map fun _ => revised oid base) =
    headsByBranch (activeMembers prs) := by
  unfold headsByBranch
  rw [rowsOf_revised,List.map_map]
  rfl

theorem numbersByHead_revised (state : PullRequestState) :
    numbersByHead state (prs.map fun _ => revised oid base) = numbersByHead state prs := by
  unfold numbersByHead
  rw [rowsOf_revised,List.filter_map,List.map_map]
  rfl

theorem activeAt_revision {n : PrNumber} {q : PullRequestSnapshot} :
    ActiveAt (indexOf (revision snapshot oid base)) n q ↔
      ∃ p,ActiveAt (indexOf snapshot) n p ∧ revised oid base p = q := by
  rw [indexOf_revision]
  unfold ActiveAt
  rw [ExtTreeMap.getElem?_map,Option.map_eq_some_iff]
  constructor
  · rintro ⟨⟨p,hp,rfl⟩,hactive⟩
    exact ⟨p,⟨hp,hactive⟩,rfl⟩
  · rintro ⟨p,⟨hp,hactive⟩,rfl⟩
    exact ⟨⟨p,hp,rfl⟩,hactive⟩

theorem ActiveAt.revised {n : PrNumber} {p : PullRequestSnapshot}
    (h : ActiveAt (indexOf snapshot) n p) :
    ActiveAt (indexOf (revision snapshot oid base)) n (Graph.revised oid base p) :=
  activeAt_revision.mpr ⟨p,h,rfl⟩

theorem activeKeys_revision : (activeMembers (indexOf (revision snapshot oid base))).keys =
    (activeMembers (indexOf snapshot)).keys := by
  rw [indexOf_revision,activeMembers_revised,ExtTreeMap.keys_map]

theorem activeSize_revision : (activeMembers (indexOf (revision snapshot oid base))).size =
    (activeMembers (indexOf snapshot)).size := by
  rw [indexOf_revision,activeMembers_revised,ExtTreeMap.size_map]

theorem isParked_revision (c : Caravan) :
    isParked (activeMembers (indexOf (revision snapshot oid base))) c =
      isParked (activeMembers (indexOf snapshot)) c := by
  rw [indexOf_revision,activeMembers_revised]
  unfold isParked
  rw [ExtTreeMap.getElem?_map]
  cases (activeMembers (indexOf snapshot))[c.id]? <;> rfl

theorem placement_provenance {defaultName : String} {p x : PullRequestSnapshot} {parent : PrNumber}
    (h : placement defaultName prs p = .child parent) (hreused : (mergedByHead prs)[p.base.name]? ≠ none)
    (hx : ActiveAt prs parent x) : x.head.oid = p.base.oid := by
  have hunder : placeUnder prs p parent = .child parent := by
    obtain ⟨hname,hheads⟩ := placement_child h
    unfold placement at h
    rw [if_neg hname,hheads] at h
    exact h
  obtain ⟨reused,hmerged⟩ := Option.ne_none_iff_exists'.mp hreused
  unfold placeUnder at hunder
  rw [hmerged,activeMembers_getElem?_iff.mpr hx] at hunder
  by_contra hne
  simp [hne] at hunder

/-- A row is placed under the only member on its base branch if it records that member's head. -/
theorem placement_of_head {defaultName : String} {q x : PullRequestSnapshot} {parent : PrNumber}
    (hname : q.base.name ≠ defaultName)
    (hheads : (headsByBranch (activeMembers prs))[q.base.name]? = some [parent])
    (hx : ActiveAt prs parent x) (hoid : x.head.oid = q.base.oid) :
    placement defaultName prs q = .child parent := by
  have hrow : (activeMembers prs)[parent]? = some x := activeMembers_getElem?_iff.mpr hx
  have hunder : placeUnder prs q parent = .child parent := by
    unfold placeUnder
    rw [hrow]
    cases (mergedByHead prs)[q.base.name]? <;> simp [hoid]
  unfold placement
  rw [if_neg hname,hheads]
  exact hunder

/-- A row that keeps its base is placed as before, unless its parent moved on a branch that a
merged member also used. -/
theorem placement_revised {defaultName : String} {p : PullRequestSnapshot} (hbase : base p = p.base)
    (hparent : ∀ parent x,p.base.name ≠ defaultName →
      (headsByBranch (activeMembers prs))[p.base.name]? = some [parent] → ActiveAt prs parent x →
      (mergedByHead prs)[p.base.name]? ≠ none → oid x = x.head.oid) :
    placement defaultName (prs.map fun _ => revised oid base) (revised oid base p) =
      placement defaultName prs p := by
  have hrow : revised oid base p = { p with head := { p.head with oid := oid p } } := by
    rw [revised,hbase]
  have hmerged (branch : String) : (mergedByHead (prs.map fun _ => revised oid base))[branch]? =
      (mergedByHead prs)[branch]? := by
    rw [mergedByHead,numbersByHead_revised]
  have hdeparted (branch : String) : (departedByHead (prs.map fun _ => revised oid base))[branch]? =
      (departedByHead prs)[branch]? := by
    rw [departedByHead,numbersByHead_revised]
  rw [hrow]
  unfold placement
  simp only [activeMembers_revised,headsByBranch_revised]
  split
  · rfl
  next hname =>
    split
    next parent hheads =>
      unfold placeUnder
      simp only [hmerged]
      cases hreused : (mergedByHead prs)[p.base.name]? with
      | none => rfl
      | some reused =>
        simp only [activeMembers_revised,ExtTreeMap.getElem?_map]
        cases hx : (activeMembers prs)[parent]? with
        | none => rfl
        | some x =>
          have hsame := hparent parent x hname hheads (activeMembers_getElem?_iff.mp hx) (by simp [hreused])
          have hoid : (revised oid base x).head.oid = x.head.oid := hsame
          simp only [Option.map_some,Option.all_some,hoid]
          rfl
    next => rfl
    next =>
      unfold placeDangling
      simp only [hmerged,hdeparted]
      rfl

end Index

section Children

variable {defaultName : String} {prs prs' : PullRequestMap} (hprs : Indexed prs)

theorem parentRows_nodup : ((rowsOf (activeMembers prs)).map (·.number)).Nodup →
    ((parentRows defaultName prs).map Prod.fst).Nodup := by
  intro h
  have hsub : ((parentRows defaultName prs).map Prod.fst).Sublist
      ((rowsOf (activeMembers prs)).map (·.number)) := by
    unfold parentRows
    induction rowsOf (activeMembers prs) with
    | nil => exact .slnil
    | cons p rows ih =>
      cases hparent : (placement defaultName prs p).parent? with
      | none =>
        rw [List.filterMap_cons_none (by rw [hparent]; rfl)]
        exact ih.cons _
      | some parent =>
        rw [List.filterMap_cons_some (by rw [hparent]; rfl)]
        exact ih.cons_cons _
  exact h.sublist hsub

include hprs in
theorem activeRows_nodup : ((rowsOf (activeMembers prs)).map (·.number)).Nodup := by
  have hkeys : (rowsOf (activeMembers prs)).map (·.number) = (activeMembers prs).keys := by
    unfold rowsOf
    rw [List.map_map,← ExtTreeMap.map_fst_toList_eq_keys]
    apply List.map_congr_left
    intro entry hentry
    have hactive := ExtTreeMap.mem_toList_iff_getElem?_eq_some.mp hentry
    exact hprs _ _ (activeMembers_getElem?_iff.mp hactive).1
  rw [hkeys]
  refine (activeMembers prs).distinct_keys.imp fun h heq => h ?_
  rw [heq]
  exact Std.ReflOrd.compare_self

include hprs in
theorem childrenOf_nodup {parent : PrNumber} {children : List PrNumber}
    (h : (childrenOf defaultName prs)[parent]? = some children) : children.Nodup := by
  rw [childrenOf,ExtTreeMap.getElem?_map,Option.map_eq_some_iff] at h
  obtain ⟨listed,hlisted,rfl⟩ := h
  obtain ⟨-,hvalues⟩ := Grouping.groupRows_eq_some_iff.mp hlisted
  rw [(List.perm_insertionSort (· ≤ ·) listed).nodup_iff,← hvalues]
  have hrows : ((parentRows defaultName prs).map Prod.fst).Nodup :=
    parentRows_nodup (activeRows_nodup hprs)
  have hsub : (Grouping.valuesAt ((parentRows defaultName prs).map Prod.swap) parent).Sublist
      (((parentRows defaultName prs).map Prod.swap).map Prod.snd) := List.filter_sublist.map _
  rw [List.map_map] at hsub
  exact hrows.sublist hsub

include hprs in
theorem soleChild_eq_some_iff {parent child : PrNumber} :
    soleChild (childrenOf defaultName prs) parent = some child ↔
      ∀ c,ChildOf defaultName prs parent c ↔ c = child := by
  constructor
  · intro h c
    unfold soleChild at h
    split at h
    next only hentry =>
      rw [Option.some_inj] at h
      rw [← childrenOf_mem_iff hprs hentry,h,List.mem_singleton]
    next => cases h
  · intro h
    obtain ⟨children,hentry⟩ := childrenOf_isSome hprs ((h child).mpr rfl)
    have hmem (c : PrNumber) : c ∈ children ↔ c = child :=
      (childrenOf_mem_iff hprs hentry c).trans (h c)
    have honly : children = [child] :=
      List.perm_singleton.mp ((List.perm_ext_iff_of_nodup (childrenOf_nodup hprs hentry)
        (List.nodup_singleton child)).mpr fun c => (hmem c).trans List.mem_singleton.symm)
    simp [soleChild,hentry,honly]

theorem childrenOf_sorted {parent : PrNumber} {children : List PrNumber}
    (h : (childrenOf defaultName prs)[parent]? = some children) :
    children.Pairwise (· ≤ ·) ∧ children ≠ [] := by
  rw [childrenOf,ExtTreeMap.getElem?_map,Option.map_eq_some_iff] at h
  obtain ⟨listed,hlisted,rfl⟩ := h
  refine ⟨List.pairwise_insertionSort (· ≤ ·) listed,fun hnil => ?_⟩
  have hperm := List.perm_insertionSort (· ≤ ·) listed
  rw [hnil] at hperm
  exact (Grouping.groupRows_eq_some_iff.mp hlisted).1 hperm.nil_eq.symm

theorem childrenOf_transfer {parent : PrNumber} {children : List PrNumber} (hprs : Indexed prs)
    (hprs' : Indexed prs')
    (h : ∀ c,ChildOf defaultName prs parent c ↔ ChildOf defaultName prs' parent c)
    (hentry : (childrenOf defaultName prs)[parent]? = some children) :
    (childrenOf defaultName prs')[parent]? = some children := by
  obtain ⟨hsorted,hne⟩ := childrenOf_sorted hentry
  obtain ⟨c,hc⟩ := List.exists_mem_of_ne_nil children hne
  obtain ⟨children',hentry'⟩ :=
    childrenOf_isSome hprs' ((h c).mp ((childrenOf_mem_iff hprs hentry c).mp hc))
  have hperm : children'.Perm children := by
    refine (List.perm_ext_iff_of_nodup (childrenOf_nodup hprs' hentry')
      (childrenOf_nodup hprs hentry)).mpr fun c => ?_
    rw [childrenOf_mem_iff hprs' hentry',childrenOf_mem_iff hprs hentry,h c]
  rw [hentry',hperm.eq_of_pairwise (fun a b _ _ => le_antisymm) (childrenOf_sorted hentry').1 hsorted]

end Children

section RootWalks

variable {snapshot : RepositorySnapshot}

theorem no_parent_of_root {r parent : PrNumber}
    (hr : r ∈ rootNumbers snapshot.defaultBranch.name (indexOf snapshot)) :
    soleChildStep snapshot parent ≠ some r := by
  intro hparent
  have hsome := parentStep_of_soleChild hparent
  rw [(mem_rootNumbers_iff_parent.mp hr).2] at hsome
  cases hsome

/-- The walks of the roots are the full paths of only children from them. -/
theorem mem_rootWalks_iff (w : List PrNumber) :
    w ∈ (memberWalks snapshot.defaultBranch.name (indexOf snapshot)).1 ↔
      ∃ r ∈ rootNumbers snapshot.defaultBranch.name (indexOf snapshot),
        FullPath (soleChildStep snapshot) r w := by
  have hprs := collectPullRequests_indexed snapshot.pullRequests
  exact @mem_walks_iff_fullPath _ (soleChildStep snapshot) _ (activeSet snapshot) _ _
    (fun a _ b hab => soleChild_closed hprs hab) (fun a b c => soleChild_injective hprs)
    (fun r hr => (mem_rootNumbers_iff_parent.mp hr).1) activeSet_card_lt
    (fun r hr _ => no_parent_of_root hr) w

theorem exists_rootWalk {r : PrNumber}
    (hr : r ∈ rootNumbers snapshot.defaultBranch.name (indexOf snapshot)) :
    ∃ w ∈ (memberWalks snapshot.defaultBranch.name (indexOf snapshot)).1,
      FullPath (soleChildStep snapshot) r w := by
  have hprs := collectPullRequests_indexed snapshot.pullRequests
  exact @exists_fullPath_of_start _ (soleChildStep snapshot) _ (activeSet snapshot) _ _
    (fun a _ b hab => soleChild_closed hprs hab) (fun a b c => soleChild_injective hprs)
    (fun r hr => (mem_rootNumbers_iff_parent.mp hr).1) activeSet_card_lt
    (fun r hr _ => no_parent_of_root hr) r hr

theorem rootWalks_nodup :
    (memberWalks snapshot.defaultBranch.name (indexOf snapshot)).1.flatten.Nodup :=
  LinearWalk.walks_nodup _ _

theorem rootWalks_eq {v w : List PrNumber} {n : PrNumber}
    (hv : v ∈ (memberWalks snapshot.defaultBranch.name (indexOf snapshot)).1)
    (hw : w ∈ (memberWalks snapshot.defaultBranch.name (indexOf snapshot)).1)
    (hnv : n ∈ v) (hnw : n ∈ w) : v = w := by
  have hnodup : (memberWalks snapshot.defaultBranch.name (indexOf snapshot)).1.flatten.Nodup :=
    rootWalks_nodup
  have hdisjoint := (List.nodup_flatten.mp hnodup).2
  have hsymm : Std.Symm (List.Disjoint : List PrNumber → List PrNumber → Prop) :=
    ⟨fun _ _ h => h.symm⟩
  by_contra hne
  exact hdisjoint.forall hv hw hne hnv hnw

def claimed (snapshot : RepositorySnapshot) : Finset PrNumber :=
  (LinearWalk.walks (soleChildStep snapshot) ((activeMembers (indexOf snapshot)).size + 1)
    (rootNumbers snapshot.defaultBranch.name (indexOf snapshot)) ∅).2

theorem mem_claimed {n : PrNumber} : n ∈ claimed snapshot ↔
    n ∈ (memberWalks snapshot.defaultBranch.name (indexOf snapshot)).1.flatten := by
  rw [claimed,LinearWalk.walks_visited,Finset.empty_union,List.mem_toFinset]
  rfl

end RootWalks

section Appended

variable {snapshot : RepositorySnapshot} {oid : PullRequestSnapshot → CommitOid}
  {base : PullRequestSnapshot → BranchSnapshot} {t s : PrNumber}

/-- One root is placed under a childless member, and every other active member as before. -/
structure Appends (snapshot : RepositorySnapshot) (oid : PullRequestSnapshot → CommitOid)
    (base : PullRequestSnapshot → BranchSnapshot) (t s : PrNumber) : Prop where
  root : s ∈ rootNumbers snapshot.defaultBranch.name (indexOf snapshot)
  childless : ∀ c,¬ ChildOf snapshot.defaultBranch.name (indexOf snapshot) t c
  kept : ∀ n p,ActiveAt (indexOf snapshot) n p → n ≠ s →
    placement snapshot.defaultBranch.name (indexOf (revision snapshot oid base))
      (revised oid base p) = placement snapshot.defaultBranch.name (indexOf snapshot) p
  appended : ∀ p,ActiveAt (indexOf snapshot) s p →
    placement snapshot.defaultBranch.name (indexOf (revision snapshot oid base))
      (revised oid base p) = .child t

namespace Appends

variable (h : Appends snapshot oid base t s)

include h

theorem parent_none : parentStep snapshot s = none := (mem_rootNumbers_iff_parent.mp h.root).2

theorem childOf {a b : PrNumber} :
    ChildOf snapshot.defaultBranch.name (indexOf (revision snapshot oid base)) a b ↔
      ChildOf snapshot.defaultBranch.name (indexOf snapshot) a b ∨ a = t ∧ b = s := by
  constructor
  · rintro ⟨q,hq,hplace⟩
    obtain ⟨p,hp,rfl⟩ := activeAt_revision.mp hq
    by_cases hb : b = s
    · subst hb
      rw [h.appended p hp,Placement.child.injEq] at hplace
      exact .inr ⟨hplace.symm,rfl⟩
    · rw [h.kept b p hp hb] at hplace
      exact .inl ⟨p,hp,hplace⟩
  · rintro (⟨p,hp,hplace⟩ | ⟨rfl,rfl⟩)
    · have hb : b ≠ s := by
        rintro rfl
        have hsome := parentStep_iff.mpr ⟨p,hp,hplace⟩
        rw [h.parent_none] at hsome
        cases hsome
      exact ⟨_,hp.revised,(h.kept b p hp hb).trans hplace⟩
    · obtain ⟨p,hp⟩ := mem_activeSet_iff.mp (mem_rootNumbers_iff_parent.mp h.root).1
      exact ⟨_,hp.revised,h.appended p hp⟩

theorem parentStep_eq : parentStep (revision snapshot oid base) = splice (parentStep snapshot) s t := by
  funext n
  apply Option.ext
  intro parent
  rw [splice_eq_some_iff h.parent_none,parentStep_iff,parentStep_iff]
  exact h.childOf.trans (or_congr_right and_comm)

theorem soleChildStep_eq :
    soleChildStep (revision snapshot oid base) = splice (soleChildStep snapshot) t s := by
  have hprs := collectPullRequests_indexed snapshot.pullRequests
  have hprs' := collectPullRequests_indexed (revision snapshot oid base).pullRequests
  funext n
  apply Option.ext
  intro child
  have hafter : soleChildStep (revision snapshot oid base) n = some child ↔ ∀ c,
      ChildOf snapshot.defaultBranch.name (indexOf (revision snapshot oid base)) n c ↔ c = child :=
    soleChild_eq_some_iff hprs'
  have hbefore : soleChildStep snapshot n = some child ↔ ∀ c,
      ChildOf snapshot.defaultBranch.name (indexOf snapshot) n c ↔ c = child :=
    soleChild_eq_some_iff hprs
  rw [hafter]
  by_cases hn : n = t
  · subst hn
    rw [splice_self,Option.some_inj]
    simp only [h.childOf,h.childless,true_and,false_or]
    exact ⟨fun hall => ((hall s).mp rfl),fun heq c => by rw [heq]⟩
  · rw [splice_of_ne hn,hbefore]
    simp only [h.childOf,hn,false_and,or_false]

theorem mem_roots {n : PrNumber} :
    n ∈ rootNumbers snapshot.defaultBranch.name (indexOf (revision snapshot oid base)) ↔
      n ∈ rootNumbers snapshot.defaultBranch.name (indexOf snapshot) ∧ n ≠ s := by
  have hafter : n ∈ rootNumbers snapshot.defaultBranch.name (indexOf (revision snapshot oid base)) ↔
      n ∈ activeSet (revision snapshot oid base) ∧ parentStep (revision snapshot oid base) n = none :=
    @mem_rootNumbers_iff_parent (revision snapshot oid base) n
  have hactive : n ∈ activeSet (revision snapshot oid base) ↔ n ∈ activeSet snapshot := by
    rw [activeSet,activeSet,activeKeys_revision]
  rw [hafter,hactive,h.parentStep_eq,mem_rootNumbers_iff_parent]
  by_cases hn : n = s
  · subst hn
    simp
  · simp [splice_of_ne hn,hn]

variable {v w : List PrNumber}
  (hv : v ∈ (memberWalks snapshot.defaultBranch.name (indexOf snapshot)).1)
  (hlast : v.getLast? = some t)
  (hw : w ∈ (memberWalks snapshot.defaultBranch.name (indexOf snapshot)).1)
  (hfirst : w.head? = some s) (hne : v ≠ w)

include hv hlast hw hfirst hne

theorem mem_rootWalks (x : List PrNumber) :
    x ∈ (memberWalks snapshot.defaultBranch.name (indexOf (revision snapshot oid base))).1 ↔
      x = v ++ w ∨ x ∈ (memberWalks snapshot.defaultBranch.name (indexOf snapshot)).1 ∧
        x ≠ v ∧ x ≠ w := by
  have hafter : x ∈ (memberWalks snapshot.defaultBranch.name
      (indexOf (revision snapshot oid base))).1 ↔
      ∃ r ∈ rootNumbers snapshot.defaultBranch.name (indexOf (revision snapshot oid base)),
        FullPath (soleChildStep (revision snapshot oid base)) r x :=
    @mem_rootWalks_iff (revision snapshot oid base) x
  obtain ⟨r,hr,hpath⟩ := (mem_rootWalks_iff v).mp hv
  obtain ⟨s',-,hpath'⟩ := (mem_rootWalks_iff w).mp hw
  have hs : s' = s := Option.some.inj (hpath'.head.symm.trans hfirst)
  subst hs
  have ht : t ∉ w := fun htw => hne (rootWalks_eq hv hw (List.mem_of_getLast? hlast) htw)
  have hrs : r ≠ s' := by
    rintro rfl
    exact hne (hpath.unique hpath')
  have hjoined : FullPath (splice (soleChildStep snapshot) t s') r (v ++ w) :=
    hpath.join hpath' hlast (List.nodup_flatten.mp rootWalks_nodup |>.1 v hv) ht
  have hother {y : List PrNumber}
      (hy : y ∈ (memberWalks snapshot.defaultBranch.name (indexOf snapshot)).1) (hyv : y ≠ v)
      {r' : PrNumber} (hpath : FullPath (soleChildStep snapshot) r' y) :
      FullPath (splice (soleChildStep snapshot) t s') r' y := by
    refine hpath.congr fun a ha => (splice_of_ne ?_).symm
    rintro rfl
    exact hyv (rootWalks_eq hy hv ha (List.mem_of_getLast? hlast))
  rw [hafter,h.soleChildStep_eq]
  simp only [h.mem_roots]
  constructor
  · rintro ⟨r',⟨hr',hr's⟩,hx⟩
    by_cases hsame : r' = r
    · subst hsame
      exact .inl (hx.unique hjoined)
    · right
      obtain ⟨y,hy,hpathy⟩ := exists_rootWalk hr'
      have hyv : y ≠ v := by
        rintro rfl
        exact hsame (Option.some.inj (hpathy.head.symm.trans hpath.head))
      rw [hx.unique (hother hy hyv hpathy)]
      refine ⟨hy,hyv,?_⟩
      rintro rfl
      exact hr's (Option.some.inj (hpathy.head.symm.trans hfirst))
  · rintro (rfl | ⟨hx,hxv,hxw⟩)
    · exact ⟨r,⟨hr,hrs⟩,hjoined⟩
    · obtain ⟨r',hr',hpathx⟩ := (mem_rootWalks_iff x).mp hx
      refine ⟨r',⟨hr',?_⟩,hother hx hxv hpathx⟩
      rintro rfl
      exact hxw (hpathx.unique hpath')

theorem mem_rootMembers (n : PrNumber) :
    n ∈ (memberWalks snapshot.defaultBranch.name
        (indexOf (revision snapshot oid base))).1.flatten ↔
      n ∈ (memberWalks snapshot.defaultBranch.name (indexOf snapshot)).1.flatten := by
  simp only [List.mem_flatten,h.mem_rootWalks hv hlast hw hfirst hne]
  constructor
  · rintro ⟨x,rfl | ⟨hx,-,-⟩,hn⟩
    · rcases List.mem_append.mp hn with hn | hn
      · exact ⟨v,hv,hn⟩
      · exact ⟨w,hw,hn⟩
    · exact ⟨x,hx,hn⟩
  · rintro ⟨x,hx,hn⟩
    by_cases hxv : x = v
    · exact ⟨v ++ w,.inl rfl,List.mem_append_left _ (hxv ▸ hn)⟩
    · by_cases hxw : x = w
      · exact ⟨v ++ w,.inl rfl,List.mem_append_right _ (hxw ▸ hn)⟩
      · exact ⟨x,.inr ⟨hx,hxv,hxw⟩,hn⟩

theorem leftover_eq :
    (memberWalks snapshot.defaultBranch.name (indexOf (revision snapshot oid base))).2 =
      (memberWalks snapshot.defaultBranch.name (indexOf snapshot)).2 := by
  have hclaimed : claimed (revision snapshot oid base) = claimed snapshot := by
    ext n
    exact mem_claimed.trans ((h.mem_rootMembers hv hlast hw hfirst hne n).trans mem_claimed.symm)
  have ht : t ∈ claimed snapshot :=
    mem_claimed.mpr (List.mem_flatten.mpr ⟨v,hv,List.mem_of_getLast? hlast⟩)
  show (LinearWalk.walks (soleChildStep (revision snapshot oid base))
    ((activeMembers (indexOf (revision snapshot oid base))).size + 1)
    (activeMembers (indexOf (revision snapshot oid base))).keys
    (claimed (revision snapshot oid base))).1 = _
  rw [hclaimed,activeKeys_revision,activeSize_revision,h.soleChildStep_eq]
  refine congrArg Prod.fst (walks_congr fun a ha => splice_of_ne ?_)
  rintro rfl
  exact ha ht

theorem mem_walks (x : List PrNumber) :
    x ∈ allWalks snapshot.defaultBranch.name (indexOf (revision snapshot oid base)) ↔
      x = v ++ w ∨ x ∈ allWalks snapshot.defaultBranch.name (indexOf snapshot) ∧ x ≠ v ∧ x ≠ w := by
  have hleft {y : List PrNumber} {n : PrNumber} (hn : n ∈ y)
      (hy : y ∈ (memberWalks snapshot.defaultBranch.name (indexOf snapshot)).1) :
      y ∉ (memberWalks snapshot.defaultBranch.name (indexOf snapshot)).2 := by
    intro hy'
    have hnodup : (allWalks snapshot.defaultBranch.name (indexOf snapshot)).flatten.Nodup :=
      allWalks_nodup
    rw [allWalks,List.flatten_append,List.nodup_append] at hnodup
    exact hnodup.2.2 n (List.mem_flatten.mpr ⟨y,hy,hn⟩) n (List.mem_flatten.mpr ⟨y,hy',hn⟩) rfl
  have hvleft := hleft (List.mem_of_getLast? hlast) hv
  have hwleft := hleft (List.mem_of_head? hfirst) hw
  rw [allWalks,allWalks,List.mem_append,List.mem_append,h.mem_rootWalks hv hlast hw hfirst hne,
    h.leftover_eq hv hlast hw hfirst hne]
  constructor
  · rintro ((rfl | ⟨hx,hxv,hxw⟩) | hx)
    · exact .inl rfl
    · exact .inr ⟨.inl hx,hxv,hxw⟩
    · exact .inr ⟨.inr hx,fun heq => hvleft (heq ▸ hx),fun heq => hwleft (heq ▸ hx)⟩
  · rintro (rfl | ⟨hx | hx,hxv,hxw⟩)
    · exact .inl (.inl rfl)
    · exact .inl (.inr ⟨hx,hxv,hxw⟩)
    · exact .inr hx

/-- The caravans afterwards: the joined one, and all but its two parts. -/
theorem mem_caravans {source target c : Caravan}
    (hsource : source ∈ deriveCaravans snapshot.defaultBranch.name (indexOf snapshot))
    (htarget : target ∈ deriveCaravans snapshot.defaultBranch.name (indexOf snapshot))
    (hwsource : source.members = w) (hvtarget : target.members = v) :
    c ∈ deriveCaravans snapshot.defaultBranch.name (indexOf (revision snapshot oid base)) ↔
      c = { target with members := v ++ w } ∨
        c ∈ deriveCaravans snapshot.defaultBranch.name (indexOf snapshot) ∧ c ≠ target ∧
          c ≠ source := by
  have hmem (c : Caravan) :
      c ∈ deriveCaravans snapshot.defaultBranch.name (indexOf (revision snapshot oid base)) ↔
      c.members ∈ allWalks snapshot.defaultBranch.name (indexOf (revision snapshot oid base)) ∧
        c.members.head? = some c.id ∧ c.parked = isParked (activeMembers (indexOf snapshot)) c := by
    rw [mem_deriveCaravans_iff,isParked_revision]
  obtain ⟨-,hhead,hparked⟩ := mem_deriveCaravans_iff.mp htarget
  obtain ⟨-,hhead',hparked'⟩ := mem_deriveCaravans_iff.mp hsource
  have hself {c d : Caravan} (hmembers : c.members = d.members) (hc : c.members.head? = some c.id)
      (hd : d.members.head? = some d.id)
      (hcp : c.parked = isParked (activeMembers (indexOf snapshot)) c)
      (hdp : d.parked = isParked (activeMembers (indexOf snapshot)) d) : c = d := by
    have hid : c.id = d.id := Option.some.inj (hc.symm.trans (hmembers ▸ hd))
    have hmark : c.parked = d.parked := by rw [hcp,hdp,isParked,isParked,hid]
    obtain ⟨id,members,parked⟩ := c
    obtain ⟨id',members',parked'⟩ := d
    simp only at hid hmembers hmark
    rw [hid,hmembers,hmark]
  rw [hmem,h.mem_walks hv hlast hw hfirst hne]
  constructor
  · rintro ⟨hjoined | ⟨hx,hxv,hxw⟩,hc,hcp⟩
    · left
      have hid : c.id = target.id := by
        rw [hjoined,List.head?_append,← hvtarget,hhead] at hc
        exact (Option.some.inj hc).symm
      obtain ⟨id,members,parked⟩ := c
      simp only at hid hjoined hcp
      subst hid hjoined
      rw [hcp,hparked]
      rfl
    · refine .inr ⟨mem_deriveCaravans_iff.mpr ⟨hx,hc,hcp⟩,?_,?_⟩
      · rintro rfl
        exact hxv hvtarget
      · rintro rfl
        exact hxw hwsource
  · rintro (rfl | ⟨hc,hct,hcs⟩)
    · refine ⟨.inl rfl,?_,hparked⟩
      rw [List.head?_append,← hvtarget,hhead]
      rfl
    · obtain ⟨hx,hhead'',hparked''⟩ := mem_deriveCaravans_iff.mp hc
      refine ⟨.inr ⟨hx,fun heq => hct ?_,fun heq => hcs ?_⟩,hhead'',hparked''⟩
      · exact hself (heq.trans hvtarget.symm) hhead'' hhead hparked'' hparked
      · exact hself (heq.trans hwsource.symm) hhead'' hhead' hparked'' hparked'

theorem cycle_before {c : Cycle PrNumber}
    (hc : DirectedCycle (parentStep (revision snapshot oid base)) c) :
    DirectedCycle (parentStep snapshot) c := by
  rw [h.parentStep_eq] at hc
  obtain ⟨r,hr,hpath⟩ := (mem_rootWalks_iff v).mp hv
  obtain ⟨s',-,hpath'⟩ := (mem_rootWalks_iff w).mp hw
  have hs : s' = s := Option.some.inj (hpath'.head.symm.trans hfirst)
  refine hc.of_splice (parents_of_reach (hpath.reach (List.mem_of_getLast? hlast)))
    (mem_rootNumbers_iff_parent.mp hr).2 h.parent_none ?_
  rintro rfl
  exact hne (hpath.unique (hs ▸ hpath'))

/-- Nothing new is reported that does not depend on the merge actor. -/
theorem common_before {problem : GraphProblem}
    (hproblem : problem ∈ commonProblems (revision snapshot oid base)) :
    problem ∈ commonProblems snapshot := by
  have hprs := collectPullRequests_indexed snapshot.pullRequests
  have hprs' := collectPullRequests_indexed (revision snapshot oid base).pullRequests
  have hactive : activeMembers (indexOf (revision snapshot oid base)) =
      (activeMembers (indexOf snapshot)).map fun _ => revised oid base := by
    rw [indexOf_revision,activeMembers_revised]
  unfold commonProblems at hproblem ⊢
  simp only [List.mem_append] at hproblem ⊢
  rcases hproblem with ((((((hp | hp) | hp) | hp) | hp) | hp) | hp) | hp
  · have heq : (collectPullRequests (revision snapshot oid base).pullRequests).2 =
        (collectPullRequests snapshot.pullRequests).2 := by
      show (collectPullRequests (snapshot.pullRequests.map (revised oid base))).2 = _
      rw [collectPullRequests_revised]
    rw [heq] at hp
    tauto
  · have heq : (rowsOf (indexOf (revision snapshot oid base))).flatMap membershipProblems =
        (rowsOf (indexOf snapshot)).flatMap membershipProblems := by
      rw [indexOf_revision,rowsOf_revised,List.flatMap_map]
      rfl
    rw [heq] at hp
    tauto
  · have heq : (rowsOf (activeMembers (indexOf (revision snapshot oid base)))).flatMap
        (forkProblems snapshot.repository) =
        (rowsOf (activeMembers (indexOf snapshot))).flatMap (forkProblems snapshot.repository) := by
      rw [hactive,rowsOf_revised,List.flatMap_map]
      rfl
    rw [show (revision snapshot oid base).repository = snapshot.repository from rfl,heq] at hp
    tauto
  · rw [hactive,headsByBranch_revised] at hp
    tauto
  · obtain ⟨q,hq,hplace⟩ := mem_placements_iff.mp hp
    obtain ⟨n,hn⟩ := mem_activeRows_iff.mp hq
    obtain ⟨p,hp',rfl⟩ := activeAt_revision.mp hn
    by_cases hns : n = s
    · subst hns
      have hchild := h.appended p hp'
      rw [show (revision snapshot oid base).defaultBranch = snapshot.defaultBranch from rfl,hchild]
        at hplace
      cases hplace
    · have hmem := mem_placements_iff.mpr ⟨p,mem_activeRows_iff.mpr ⟨n,hp'⟩,
        (h.kept n p hp' hns).symm.trans hplace⟩
      tauto
  · obtain ⟨parent,children,hentry,hlen,rfl⟩ := (mem_branchingProblems_iff hprs').mp hp
    have hparent : parent ≠ t := by
      rintro rfl
      have hchildren (c : PrNumber) : c ∈ children → c = s := fun hc =>
        ((h.childOf.mp ((childrenOf_mem_iff hprs' hentry c).mp hc)).resolve_left
          (h.childless c)).2
      obtain ⟨a,b,rest,rfl⟩ : ∃ a b rest,children = a::b::rest := by
        match children,hlen with
        | a::b::rest,_ => exact ⟨a,b,rest,rfl⟩
      have hnodup := childrenOf_nodup hprs' hentry
      simp [hchildren a (by simp),hchildren b (by simp)] at hnodup
    have hbefore : (childrenOf snapshot.defaultBranch.name (indexOf snapshot))[parent]? =
        some children := by
      refine childrenOf_transfer hprs' hprs (fun c => ?_) hentry
      rw [h.childOf]
      simp [hparent]
    have hmem := (mem_branchingProblems_iff hprs).mpr ⟨parent,children,hbefore,hlen,rfl⟩
    tauto
  · obtain ⟨c,hc,rfl⟩ := mem_detectCycles_iff.mp hp
    have hmem := mem_detectCycles_iff.mpr ⟨c,h.cycle_before hv hlast hw hfirst hne hc,rfl⟩
    tauto
  · rw [show (revision snapshot oid base).defaultBranch = snapshot.defaultBranch from rfl,
      h.leftover_eq hv hlast hw hfirst hne] at hp
    tauto

end Appends

end Appended

end Graph
end Cara
