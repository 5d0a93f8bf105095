import Cara.Sync.RebaseChains

/-! A chain is planned, its first members are pushed and the rest is not. On the next tick every
member is planned again from what the provider then reports. Here is what the second plan finds
of the first: which commits of a planned head are old, and where a member's own commits begin. -/
namespace Cara
namespace Sync

open PhysicalRebase

/-- How far down a planned head consists of commits that were there before: up to `kept`, which
is the head itself as long as nothing was rewritten. -/
structure Foundation where
  kept : CommitOid
  moved : Bool
deriving DecidableEq

namespace Foundation

/-- A member whose head lies on an unmoved foundation keeps it. -/
def stays (g : CommitHistory) (F : Foundation) (head : CommitOid) : Prop :=
  F.moved = false ∧ F.kept ∈ g.history head

instance (g : CommitHistory) (F : Foundation) (head : CommitOid) : Decidable (F.stays g head) :=
  inferInstanceAs (Decidable (_ ∧ _))

def after (g : CommitHistory) (F : Foundation) (head : CommitOid) : Foundation :=
  if F.stays g head then ⟨head,false⟩ else ⟨F.kept,true⟩

end Foundation

structure Founded (g h : CommitHistory) (target : CommitOid) (F : Foundation) : Prop where
  grown : g.Extends h
  recorded : target ∈ h.names
  kept : F.kept ∈ g.names
  old : ∀ x ∈ g.names,x ∈ h.history target ↔ x ∈ g.history F.kept
  stayed : F.moved = false → target = F.kept
  moved : F.moved = true → target ∉ g.names

namespace Founded

variable {g h h' : CommitHistory} {target head : CommitOid} {F : Foundation}

theorem start (h : target ∈ g.names) : Founded g g target ⟨target,false⟩ where
  grown := .refl g
  recorded := h
  kept := h
  old _ _ := Iff.rfl
  stayed _ := rfl
  moved h := nomatch h

theorem mono (hF : Founded g h target F) (hext : h.Extends h') : Founded g h' target F where
  grown := hF.grown.trans hext
  recorded := hext.names hF.recorded
  kept := hF.kept
  old x hx := by
    rw [hext.history hF.recorded]
    exact hF.old x hx
  stayed := hF.stayed
  moved := hF.moved

theorem stays_iff (hF : Founded g h target F) (hhead : head ∈ g.names) :
    F.stays g head ↔ target ∈ h.history head := by
  rw [hF.grown.history hhead]
  constructor
  · intro hstays
    rw [hF.stayed hstays.1]
    exact hstays.2
  · intro hin
    cases hmoved : F.moved with
    | false => exact ⟨hmoved,hF.stayed hmoved ▸ hin⟩
    | true => exact absurd (CommitGraph.history_names hin) (hF.moved hmoved)

theorem after_kept (hF : Founded g h target F) (hhead : head ∈ g.names) (hstays : F.stays g head) :
    Founded g h head (F.after g head) := by
  have hafter : F.after g head = ⟨head,false⟩ := if_pos hstays
  rw [hafter]
  exact (start hhead).mono hF.grown

theorem after_replayed (hF : Founded g h target F) {naming : CommitGraph.Naming CommitOid}
    {s w : Worktree} {new : List TopologyCommit} (hs : s.graph = h ∧ s.head = target)
    (hgrown : Checkout.Grown naming s w new) (hnew : new ≠ []) (hmoves : ¬ F.stays g head) :
    Founded g w.graph w.head (F.after g head) := by
  have hafter : F.after g head = ⟨F.kept,true⟩ := if_neg hmoves
  obtain ⟨rfl,rfl⟩ := hs
  have hfresh : ∀ x ∈ new.map (·.name),x ∉ g.names := fun x hx hin =>
    hgrown.fresh hx (hF.grown.names hin)
  rw [hafter]
  refine ⟨hF.grown.trans hgrown.extends_graph,w.head_names,hF.kept,fun x hx => ?_,(nomatch ·),
    fun _ => ?_⟩
  · rw [hgrown.history]
    exact (or_iff_right fun hin => hfresh x hin hx).trans (hF.old x hx)
  · rcases hgrown.head with ⟨hnil,_⟩ | hin
    · exact absurd hnil hnew
    · exact hfresh _ hin

end Founded

section First

variable {git : GitTools} {repository : Repository} {h : CommitHistory} {f : PullRequestSnapshot}
  {range : PlannedRangeBase} {newBase : PlannedBase} {workflowSource : BranchSnapshot}
  {owner : RepositoryId} {base : CommitOid} {m : Rewrite}

/-- A head with commits of its own is not part of its new base, nor of its old boundary. -/
theorem inspected_head_notMem (hm : Inspected git repository h f range newBase workflowSource owner base) :
    f.head.oid ∉ h.history newBase.branch.oid ∧ f.head.oid ∉ h.history base ∧
      f.head.oid ∉ h.history f.base.oid := by
  obtain ⟨c,hc⟩ := List.exists_mem_of_ne_nil _ hm.nonempty
  obtain ⟨_,hin,hout⟩ := CommitGraph.mem_range.mp hc
  have hbase : f.head.oid ∉ h.history base := fun hmem =>
    hout base (by simp) (CommitGraph.history_trans hmem hin)
  refine ⟨fun hmem => hout _ (by simp) (CommitGraph.history_trans hmem hin),hbase,fun hmem => hbase ?_⟩
  have hself : f.head.oid ∈ h.history f.head.oid := CommitGraph.history_self hm.head_names
  have hmax : f.head.oid ∈ h.mergeBases f.base.oid f.head.oid :=
    CommitGraph.mem_mergeBases.mpr ⟨hmem,hself,fun m _ hm' hin' => CommitGraph.history_antisymm hin' hm' ▸ rfl⟩
  rw [hm.mergeBase,List.mem_singleton] at hmax
  exact hmax ▸ hself

theorem inspected_upstream_notMem (hm : Inspected git repository h f range newBase workflowSource owner base)
    (hrange : range.branch.oid = f.base.oid) :
    f.head.oid ∉ h.history (replayUpstream range newBase) := by
  obtain ⟨htarget,_,hbase⟩ := inspected_head_notMem hm
  unfold replayUpstream
  split_ifs
  · rwa [hrange]
  · exact htarget

/-- A replayed member has new commits, and its head is one of them. -/
theorem replayed_new (hm : Inspected git repository h f range newBase workflowSource owner base)
    (hrange : range.branch.oid = f.base.oid) {s w : Worktree}
    (hlist : m.replayed = h.range [replayUpstream range newBase] f.head.oid)
    (hreplay : s.replay git.naming git.pick (changesOf h m.replayed) = some w) :
    ∃ new,Checkout.Grown git.naming s w new ∧ new.length = m.replayed.length ∧ new ≠ [] ∧
      w.head ∈ new.map (·.name) := by
  obtain ⟨_,new,hgrown,hlength⟩ := Checkout.replay_grown hreplay
  rw [changesOf,List.length_map] at hlength
  obtain ⟨c,hc,hname⟩ := List.mem_map.mp hm.head_names
  have hmem : c ∈ m.replayed := by
    rw [hlist,CommitGraph.mem_range,hname]
    refine ⟨hc,CommitGraph.history_self hm.head_names,fun b hb => ?_⟩
    rw [List.mem_singleton.mp hb]
    exact inspected_upstream_notMem hm hrange
  have hne : new ≠ [] := by
    rintro rfl
    have hpos := List.length_pos_of_mem hmem
    simp at hlength
    omega
  refine ⟨new,hgrown,hlength,hne,?_⟩
  rcases hgrown.head with ⟨hnil,_⟩ | hin
  · exact absurd hnil hne
  · exact hin

/-- The planned head has old commits as its foundation says, and it is on its base. -/
theorem Founded.next {g : CommitHistory} {F : Foundation} (hF : Founded g h newBase.branch.oid F)
    (hhead : f.head.oid ∈ g.names)
    (hm : Inspected git repository h f range newBase workflowSource owner base)
    (hrange : range.branch.oid = f.base.oid) (hout : Outcome git h f range newBase m) :
    Founded g m.history m.plan.newHeadOid (F.after g f.head.oid) ∧ h.Extends m.history ∧
      newBase.branch.oid ∈ m.history.history m.plan.newHeadOid := by
  cases hout with
  | kept hin hsame _ hhistory _ _ =>
    rw [hsame,hhistory]
    exact ⟨hF.after_kept hhead ((hF.stays_iff hhead).mpr hin),.refl h,hin⟩
  | @replayed s w hnot hs hlist hreplay hnew hhistory _ _ _ =>
    obtain ⟨hgraph,hat⟩ := Checkout.of?_eq_some hs
    obtain ⟨new,hgrown,_,hne,_⟩ := replayed_new hm hrange hlist hreplay
    rw [hnew,hhistory]
    refine ⟨hF.after_replayed ⟨hgraph,hat⟩ hgrown hne fun hstays =>
      hnot ((hF.stays_iff hhead).mp hstays),hgraph ▸ hgrown.extends_graph,?_⟩
    rw [hgrown.history,hgraph,hat]
    exact .inr (CommitGraph.history_self hF.recorded)

end First

section Again

variable {git : GitTools} {repository : Repository} {g h h₂ : CommitHistory} {f : PullRequestSnapshot}
  {range : PlannedRangeBase} {newBase : PlannedBase} {workflowSource : BranchSnapshot}
  {owner : RepositoryId} {base : CommitOid} {m : Rewrite} {F : Foundation}

/-- A range that another tick may enumerate: bounded, with commits of its own and no merges. -/
structure Rangeable (commits : List TopologyCommit) : Prop where
  enumerable : Enumerable commits
  nonempty : commits ≠ []
  linear : ∀ c ∈ commits,isMerge c = false

theorem mem_range_head {b t x : CommitOid} (hx : x ∈ h.names) (hb : x ∉ h.history b)
    (ht : x ∉ h.history t) : h.range [b,t] x ≠ [] := by
  obtain ⟨c,hc,rfl⟩ := List.mem_map.mp hx
  have hmem : c ∈ h.range [b,t] c.name := by
    rw [CommitGraph.mem_range]
    refine ⟨hc,CommitGraph.history_self hx,fun k hk => ?_⟩
    rcases List.mem_cons.mp hk with rfl | hk
    · exact hb
    · exact List.mem_singleton.mp hk ▸ ht
  exact List.ne_nil_of_mem hmem

/-- The planned head of a member, asked about again with the same base below it. -/
theorem again_rangeable (hm : Inspected git repository h f range newBase workflowSource owner base)
    (hrange : range.branch.oid = f.base.oid) (hout : Outcome git h f range newBase m)
    (hrecorded : newBase.branch.oid ∈ h.names)
    (hext : m.history.Extends h₂) {b : CommitOid}
    (hb : b ∈ h₂.history newBase.branch.oid ∨ (b = base ∧ m.plan.newHeadOid = f.head.oid))
    (hcover : m.plan.newHeadOid = f.head.oid → b ∈ h₂.history newBase.branch.oid →
      base ∈ h₂.history newBase.branch.oid) :
    Rangeable (h₂.range [b,newBase.branch.oid] m.plan.newHeadOid) := by
  obtain ⟨htarget,hbase,_⟩ := inspected_head_notMem hm
  cases hout with
  | kept hin hsame _ hhistory _ _ =>
    have hext' : h.Extends h₂ := hhistory ▸ hext
    have hnames : base ∈ h.names :=
      CommitGraph.history_names (CommitGraph.mem_mergeBases.mp (hm.mergeBase ▸ List.mem_singleton_self base)).1
    have hfirst : h₂.range [base,newBase.branch.oid] f.head.oid =
        ownTopology h base newBase.branch.oid f := by
      refine hext'.range hm.head_names fun k hk => ?_
      rcases List.mem_cons.mp hk with rfl | hk
      · exact hnames
      · exact List.mem_singleton.mp hk ▸ hrecorded
    have ht₂ : f.head.oid ∉ h₂.history newBase.branch.oid := by
      rwa [hext'.history hrecorded]
    have hb₂ : f.head.oid ∉ h₂.history base := by
      rwa [hext'.history hnames]
    have hhead : f.head.oid ∉ h₂.history b := by
      rcases hb with hb | ⟨rfl,_⟩
      · exact fun hmem => ht₂ (CommitGraph.history_trans hb hmem)
      · exact hb₂
    have hsub : (h₂.range [b,newBase.branch.oid] f.head.oid).Sublist
        (h₂.range [base,newBase.branch.oid] f.head.oid) := by
      refine CommitGraph.range_sublist fun k hk => ?_
      refine ⟨hk.1,fun c hc => ?_⟩
      have hkt : k ∉ h₂.history newBase.branch.oid := hk.2 _ (by simp)
      rcases List.mem_cons.mp hc with rfl | hc
      · rcases hb with hb | ⟨rfl,_⟩
        · exact fun hmem => hkt (CommitGraph.history_trans (hcover hsame hb) hmem)
        · exact hk.2 _ (by simp)
      · exact List.mem_singleton.mp hc ▸ hkt
    rw [hsame]
    rw [hfirst] at hsub
    exact ⟨hm.enumerable.sublist hsub,mem_range_head (hext'.names hm.head_names) hhead ht₂,
      fun c hc => hm.linear c (hsub.subset hc)⟩
  | @replayed s w hnot hs hlist hreplay hnew hhistory _ _ henum =>
    obtain ⟨hgraph,hat⟩ := Checkout.of?_eq_some hs
    obtain ⟨new,hgrown,_,_,hfresh⟩ := replayed_new hm hrange hlist hreplay
    have hextw : w.graph.Extends h₂ := hhistory ▸ hext
    have hexth : h.Extends w.graph := hgraph ▸ hgrown.extends_graph
    have hnotin : w.head ∉ h.names := hgraph ▸ hgrown.fresh hfresh
    have hin : b ∈ h₂.history newBase.branch.oid := by
      rcases hb with hb | ⟨_,hsame⟩
      · exact hb
      · exact absurd (hm.head_names) (hsame ▸ hnew ▸ hnotin)
    have ht : newBase.branch.oid ∈ w.graph.names := hexth.names hrecorded
    have hbelow : ∀ k,k ∈ h₂.history newBase.branch.oid → k ∈ h.names := by
      intro k hk
      rw [hextw.history ht,hexth.history hrecorded] at hk
      exact CommitGraph.history_names hk
    have hrangew : h₂.range [newBase.branch.oid] w.head = new.reverse := by
      rw [hextw.range w.head_names (by simpa using ht),← hat]
      exact hgrown.range
    have hsub : (h₂.range [b,newBase.branch.oid] w.head).Sublist new.reverse := by
      rw [← hrangew]
      exact CommitGraph.range_sublist fun k hk => ⟨hk.1,fun c hc =>
        hk.2 c (List.mem_cons_of_mem _ hc)⟩
    have hnew₂ : Enumerable new.reverse := by
      rw [← hgrown.range,hat]
      exact henum
    rw [hnew]
    refine ⟨hnew₂.sublist hsub,mem_range_head (hextw.names w.head_names)
      (fun hmem => hnotin (hbelow _ (CommitGraph.history_trans hin hmem))) fun hmem => hnotin (hbelow _ hmem),
      fun c hc => ?_⟩
    have hone : c.parents.length = 1 := hgrown.parents c (List.mem_reverse.mp (hsub.subset hc))
    simp [isMerge,hone]

theorem changesOf_extends (hext : h.Extends h₂) {commits : List TopologyCommit}
    (hcommits : ∀ c ∈ commits,c ∈ h.commits) : changesOf h₂ commits = changesOf h commits :=
  List.map_congr_left fun c hc => by rw [hext.parentTree (hcommits c hc)]

structure Replayed (git : GitTools) (h₂ : CommitHistory) (target : CommitOid) (commits : List TopologyCommit)
    (tree : CommitOid) (s w : Worktree) (new : List TopologyCommit) : Prop where
  start : s.graph = h₂ ∧ s.head = target
  checkout : Checkout.of? h₂ target = some s
  replay : s.replay git.naming git.pick (changesOf h₂ commits) = some w
  tree_eq : w.tree = tree
  grown : Checkout.Grown git.naming s w new
  length : new.length = commits.length
  valid : validateOid w.head = .ok ()
  enumerable : Enumerable (w.graph.range [target] w.head)

/-- The same commits replay on another base with the tree of the first, to the same tree. -/
theorem replay_again (hm : Inspected git repository h f range newBase workflowSource owner base)
    (hrange : range.branch.oid = f.base.oid) {s w : Worktree}
    (hs : Checkout.of? h newBase.branch.oid = some s)
    (hlist : m.replayed = h.range [replayUpstream range newBase] f.head.oid)
    (hreplay : s.replay git.naming git.pick (changesOf h m.replayed) = some w)
    (henum : Enumerable (w.graph.range [newBase.branch.oid] w.head)) (hext : h.Extends h₂)
    {target : CommitOid} (htarget : target ∈ h₂.names)
    (htree : h₂.treeOf target = h.treeOf newBase.branch.oid)
    (hroom : h₂.names.length + m.replayed.length ≤ git.naming.room) :
    ∃ s₂ w₂ new₂,Replayed git h₂ target m.replayed w.tree s₂ w₂ new₂ ∧ new₂ ≠ [] := by
  obtain ⟨hgraph,hat⟩ := Checkout.of?_eq_some hs
  obtain ⟨new,hgrown,hlength,hne,_⟩ := replayed_new hm hrange hlist hreplay
  obtain ⟨hpicked,_⟩ := Checkout.replay_grown hreplay
  obtain ⟨s₂,hs₂⟩ := Checkout.of?_of_names htarget
  obtain ⟨hgraph₂,hat₂⟩ := Checkout.of?_eq_some hs₂
  have htrees : s₂.tree = s.tree := by
    have hholds₂ := s₂.holds
    have hholds := s.holds
    rw [hgraph₂,hat₂,htree] at hholds₂
    rw [hgraph,hat] at hholds
    exact Option.some.inj (hholds₂.symm.trans hholds)
  have hchanges : changesOf h₂ m.replayed = changesOf h m.replayed := by
    refine changesOf_extends hext fun c hc => ?_
    rw [hlist] at hc
    exact (CommitGraph.mem_range.mp hc).1
  have hcount : (changesOf h₂ m.replayed).length = m.replayed.length := by simp [changesOf]
  have hroom₂ : s₂.graph.names.length + (changesOf h₂ m.replayed).length ≤ git.naming.room := by
    rw [hgraph₂,hcount]
    exact hroom
  have hpicked₂ : Checkout.picked git.pick s₂.tree (changesOf h₂ m.replayed) = some w.tree := by
    rw [htrees,hchanges]
    exact hpicked
  obtain ⟨w₂,hreplay₂,htree₂⟩ := Checkout.replay_of_picked hroom₂ hpicked₂
  obtain ⟨_,new₂,hgrown₂,hlength₂⟩ := Checkout.replay_grown hreplay₂
  rw [hcount] at hlength₂
  have hne₂ : new₂ ≠ [] := by
    rintro rfl
    have hpos := List.length_pos_iff.mpr hne
    simp at hlength₂
    omega
  refine ⟨s₂,w₂,new₂,⟨⟨hgraph₂,hat₂⟩,hs₂,hreplay₂,htree₂,hgrown₂,hlength₂,?_,?_⟩,hne₂⟩
  · rcases hgrown₂.head with ⟨hnil,_⟩ | hin
    · exact absurd hnil hne₂
    obtain ⟨c,hc,hname⟩ := List.mem_map.mp hin
    obtain ⟨taken,htaken,hmint⟩ := hgrown₂.minted c hc
    have hsize := hgrown₂.length
    rw [hgraph₂] at hsize
    rw [← hname,← hmint]
    exact git.named taken (by omega)
  · have hfirst := hgrown.range
    have hsecond := hgrown₂.range
    rw [hat] at hfirst
    rw [hat₂] at hsecond
    rw [hsecond]
    rw [hfirst] at henum
    have hbound := henum.length
    rw [List.length_reverse] at hbound
    refine ⟨?_,fun c hc => ?_⟩
    · rw [List.length_reverse]
      omega
    · rw [hgrown₂.parents c (List.mem_reverse.mp hc)]
      omega

end Again

end Sync
end Cara
