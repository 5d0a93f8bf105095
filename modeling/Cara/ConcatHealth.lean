import Cara.ConcatOutcome
import Cara.GraphRevision

/-! The fleet after a concatenation. The writes of an execution move the source heads and give
the source root another base; the graph derived from them joins the two caravans and stays
healthy unless the provider is armed to merge the old root, the tail exposes the default branch,
or a moved branch was used by a merged member before. -/
namespace Cara
namespace Concat

open Cara.Graph (ActiveAt Appends deriveForActor deriveCaravans indexOf placement revision)
open Prog (Keeps)

section Writes

def committedBase (plan : ConcatPlan) : Option BranchSnapshot :=
  plan.members.head?.map fun first => ⟨plan.repository,first.targetBranch,first.targetHeadOid⟩

def rewrittenOid (plan : ConcatPlan) (newHead : PrNumber → CommitOid) (p : PullRequestSnapshot) :
    CommitOid :=
  if p.number ∈ plan.sourceMembers then newHead p.number else p.head.oid

def rewrittenBase (plan : ConcatPlan) (p : PullRequestSnapshot) : BranchSnapshot :=
  if p.number = plan.sourceCaravan then (committedBase plan).getD p.base else p.base

def applied (snapshot : RepositorySnapshot) (plan : ConcatPlan) (newHead : PrNumber → CommitOid) :
    RepositorySnapshot :=
  revision snapshot (rewrittenOid plan newHead) (rewrittenBase plan)

/-- The joined caravan is there, the others are as before, and nothing blocks the fleet. -/
structure FleetPreserved (snapshot : RepositorySnapshot) (actor : HeadMergeActor) (plan : ConcatPlan)
    (newHead : PrNumber → CommitOid) : Prop where
  joined : ∃ c ∈ (deriveForActor (applied snapshot plan newHead) actor).fleet.caravans,
    c.members = plan.newOrdering
  others : ∀ c ∈ (deriveForActor snapshot actor).fleet.caravans,c.id ≠ plan.sourceCaravan →
    c.id ≠ plan.targetCaravan →
    c ∈ (deriveForActor (applied snapshot plan newHead) actor).fleet.caravans
  healthy : (deriveForActor (applied snapshot plan newHead) actor).healthy = true

end Writes

section Accepted

structure StatusOf (snapshot : RepositorySnapshot) (actor : HeadMergeActor) (status : LiveStatus) :
    Prop where
  repository : status.repository = snapshot.repository
  analysis : Graph.Kept (deriveForActor snapshot actor) status.analysis

def Accepted (w : ConcatWire) (status : LiveStatus) (input : ConcatInput) (plan : ConcatPlan) : Prop :=
  ∃ answers trace,(planFromStatus w status input).run.replay answers = some (some (.ok plan),trace)

/-- The two caravans of a plan and the tail that the first source member goes behind. -/
structure Joins (status : LiveStatus) (plan : ConcatPlan) (source target : Caravan)
    (tail : PullRequestSnapshot) : Prop where
  live : source ∈ status.analysis.fleet.caravans ∧ target ∈ status.analysis.fleet.caravans
  unparked : source.parked = false ∧ target.parked = false
  distinct : source.id ≠ target.id
  sourceCaravan : plan.sourceCaravan = source.id
  targetCaravan : plan.targetCaravan = target.id
  sourceMembers : plan.sourceMembers = source.members
  ordering : plan.newOrdering = target.members ++ source.members
  tailRow : ∃ n,target.tail = some n ∧ status.analysis.pullRequests[n]? = some tail
  base : source.members ≠ [] →
    committedBase plan = some ⟨status.repository,tail.head.name,tail.head.oid⟩

variable {w : ConcatWire} {status : LiveStatus} {input : ConcatInput}

theorem selectCaravans_joins {c : Caravan × Caravan} (h : selectCaravans status input = .ok c) :
    c.1 ∈ status.analysis.fleet.caravans ∧ c.2 ∈ status.analysis.fleet.caravans ∧
      c.1.parked = false ∧ c.2.parked = false ∧ c.1.id ≠ c.2.id ∧
      c.2.tail = some input.targetTailPr := by
  unfold selectCaravans at h
  rw [Guard.refuse_bind_eq_ok] at h
  obtain ⟨source,hsource,h⟩ := Guard.bind_eq_ok.mp h.2
  obtain ⟨target,htarget,h⟩ := Guard.bind_eq_ok.mp h
  rw [Guard.refuse_bind_eq_ok,Guard.refuse_bind_eq_ok] at h
  obtain ⟨hparked,hdistinct,h⟩ := h
  obtain ⟨_,_,h⟩ := Guard.bind_eq_ok.mp h
  obtain ⟨_,_,h⟩ := Guard.bind_eq_ok.mp h
  cases h
  have htail := List.find?_some (required_ok htarget)
  rw [decide_eq_true_eq] at htail
  rw [Bool.or_eq_false_iff] at hparked
  exact ⟨List.mem_of_find?_eq_some (required_ok hsource),
    List.mem_of_find?_eq_some (required_ok htarget),hparked.1,hparked.2,by simpa using hdistinct,htail⟩

theorem memberPlans_first {source : PrNumber} {numbers : List PrNumber}
    {predecessor : PullRequestSnapshot} {plans : List (ConcatMemberPlan × BranchSnapshot)}
    (h : memberPlans status source predecessor numbers = .ok plans) (hne : numbers ≠ []) :
    ∃ first rest,plans = first::rest ∧ first.1.targetBranch = predecessor.head.name ∧
      first.1.targetHeadOid = predecessor.head.oid := by
  cases numbers with
  | nil => exact absurd rfl hne
  | cons number rest =>
    unfold memberPlans at h
    obtain ⟨candidate,_,h⟩ := Guard.bind_eq_ok.mp h
    rw [Guard.refuse_bind_eq_ok] at h
    obtain ⟨others,_,h⟩ := Guard.bind_eq_ok.mp h.2
    cases h
    exact ⟨_,others,rfl,rfl,rfl⟩

theorem keeps_joins : Keeps Prog.record (fun _ _ => True) (fun _ => True)
    (planFromStatus w status input)
    fun plan => ∃ source target tail,Joins status plan source target tail := by
  have hany {α : Type} (q : Request) (decode : Answer → Option (Except ConcatError α)) :
      Keeps Prog.record (fun _ _ => True) (fun _ => True) (Prog.query q decode) fun _ => True :=
    .query (fun _ _ => trivial) (fun _ _ _ _ _ => trivial) fun _ _ _ _ _ _ _ => trivial
  unfold planFromStatus
  refine .bind (R := fun _ => True) (.ofResult fun _ _ => trivial) fun _ _ => ?_
  refine .bind (.ofResult fun _ h => h) fun caravans hcaravans => ?_
  refine .bind (.ofResult fun _ h => h) fun ends hends => ?_
  refine .bind (hany _ _) fun _ _ => ?_
  refine .bind (hany _ _) fun report _ => ?_
  refine .bind (.refuseIf _ _) fun _ _ => ?_
  refine .bind (.ofResult fun _ h => h) fun members hmembers => .pure ?_
  obtain ⟨hsource,htarget,hparked,hparked',hdistinct,htail⟩ := selectCaravans_joins hcaravans
  refine ⟨caravans.1,caravans.2,ends.2,⟨hsource,htarget⟩,⟨hparked,hparked'⟩,hdistinct,rfl,rfl,rfl,rfl,
    ⟨_,htail,endpoints_ok hends⟩,fun hne => ?_⟩
  obtain ⟨first,rest,rfl,hbranch,hoid⟩ := memberPlans_first hmembers hne
  show some (⟨status.repository,first.1.targetBranch,first.1.targetHeadOid⟩ : BranchSnapshot) = _
  rw [hbranch,hoid]

theorem Accepted.joins {plan : ConcatPlan} (h : Accepted w status input plan) :
    ∃ source target tail,Joins status plan source target tail := by
  obtain ⟨answers,trace,hreplay⟩ := h
  exact ((keeps_joins.gives [] trivial).run (Prog.run_of_replay hreplay [])).2

end Accepted

section Placed

variable {snapshot : RepositorySnapshot} {actor : HeadMergeActor} {status : LiveStatus}
  {plan : ConcatPlan} {newHead : PrNumber → CommitOid} {source target : Caravan}
  {tail : PullRequestSnapshot}

/-- The tail does not expose the default branch, and a source branch that a merged member used
before does not move under another source member. -/
structure Sound (snapshot : RepositorySnapshot) (plan : ConcatPlan) (newHead : PrNumber → CommitOid) :
    Prop where
  base : ∀ b,committedBase plan = some b → b.name ≠ snapshot.defaultBranch.name
  branches : ∀ m n,[m,n] <:+: plan.sourceMembers → ∀ p,(indexOf snapshot)[m]? = some p →
    (Graph.mergedByHead (indexOf snapshot))[p.head.name]? ≠ none → newHead m = p.head.oid

theorem not_predecessor_of_last {l : List PrNumber} (hl : l.Nodup) {m last : PrNumber}
    (hlast : l.getLast? = some last) : ¬ [last,m] <:+: l := by
  rintro ⟨front,back,rfl⟩
  have hback : (m::back).getLast? = some last := by
    rw [← hlast]
    simp [List.getLast?_append,List.getLast?_cons]
  rw [List.append_assoc] at hl
  exact (List.nodup_cons.mp (List.nodup_append.mp hl).2.1).1 (List.mem_of_getLast? hback)

theorem soleChild_of_child (hhealthy : (deriveForActor snapshot actor).healthy = true) {c : Caravan}
    (hc : c ∈ (deriveForActor snapshot actor).fleet.caravans) (hparked : c.parked = false)
    {m n : PrNumber} (hm : m ∈ c.members)
    (hchild : Graph.ChildOf snapshot.defaultBranch.name (indexOf snapshot) m n) :
    Graph.soleChild (Graph.childrenOf snapshot.defaultBranch.name (indexOf snapshot)) m = some n := by
  have hprs := Graph.collectPullRequests_indexed snapshot.pullRequests
  obtain ⟨p,q,hp,hq,hbase,-⟩ := hchild.joined hprs
  obtain ⟨q',hq',hplace⟩ := hchild
  have hname := (Graph.placement_child hplace).1
  rw [← hq.unique hq',hbase] at hname
  exact Graph.soleChild_of_based hhealthy hc hparked hm hp hname hq hbase

/-- Neighbours in the joined caravan are parent and child afterwards. -/
theorem child_of_joined {c : Caravan}
    (hc : c ∈ (deriveForActor (applied snapshot plan newHead) actor).fleet.caravans)
    (hmembers : c.members = plan.newOrdering) {m n : PrNumber} (hmn : [m,n] <:+: plan.newOrdering) :
    ∃ p,ActiveAt (indexOf snapshot) n p ∧
      placement snapshot.defaultBranch.name (indexOf (applied snapshot plan newHead))
        (Graph.revised (rewrittenOid plan newHead) (rewrittenBase plan) p) = .child m := by
  have hprs' := Graph.collectPullRequests_indexed (applied snapshot plan newHead).pullRequests
  have hchain := List.IsChain.infix (Graph.allWalks_isChain hprs' (Graph.mem_deriveCaravans_iff.mp hc).1)
    (hmembers ▸ hmn)
  rw [List.isChain_pair] at hchain
  obtain ⟨q,hq,hplace⟩ := Graph.soleChild_childOf hprs' hchain
  obtain ⟨p,hp,rfl⟩ := Graph.activeAt_revision.mp hq
  exact ⟨p,hp,hplace⟩

variable (hstatus : StatusOf snapshot actor status)
  (hhealthy : (deriveForActor snapshot actor).healthy = true)
  (hjoins : Joins status plan source target tail)

include hstatus hjoins

theorem source_derived : source ∈ (deriveForActor snapshot actor).fleet.caravans :=
  hstatus.analysis.caravans ▸ hjoins.live.1

theorem target_derived : target ∈ (deriveForActor snapshot actor).fleet.caravans :=
  hstatus.analysis.caravans ▸ hjoins.live.2

theorem tail_active : ∃ t,target.members.getLast? = some t ∧ ActiveAt (indexOf snapshot) t tail := by
  obtain ⟨t,htail,hrow⟩ := hjoins.tailRow
  rw [hstatus.analysis.pullRequests] at hrow
  obtain ⟨p,hp⟩ := Graph.members_active (target_derived hstatus hjoins) (List.mem_of_getLast? htail)
  have hsame : p = tail := Option.some.inj (hp.1.symm.trans hrow)
  exact ⟨t,htail,hsame ▸ hp⟩

theorem source_head : source.members.head? = some source.id :=
  (Graph.mem_deriveCaravans_iff.mp (source_derived hstatus hjoins)).2.1

theorem committedBase_eq :
    committedBase plan = some ⟨status.repository,tail.head.name,tail.head.oid⟩ := by
  apply hjoins.base
  intro hnil
  have hhead := source_head hstatus hjoins
  rw [hnil] at hhead
  cases hhead

theorem members_disjoint {n : PrNumber} (hn : n ∈ source.members) : n ∉ target.members := by
  intro hn'
  have hcontaining {c : Caravan} (hc : c ∈ (deriveForActor snapshot actor).fleet.caravans)
      (hmem : n ∈ c.members) : (deriveForActor snapshot actor).fleet.containing n = some c :=
    Graph.containing_eq_some (Graph.collectPullRequests_indexed snapshot.pullRequests) rfl hc hmem
  have hsame := (hcontaining (source_derived hstatus hjoins) hn).symm.trans
    (hcontaining (target_derived hstatus hjoins) hn')
  exact hjoins.distinct (congrArg Caravan.id (Option.some.inj hsame))

include hhealthy

theorem tail_childless {t : PrNumber} (htail : target.members.getLast? = some t) (c : PrNumber) :
    ¬ Graph.ChildOf snapshot.defaultBranch.name (indexOf snapshot) t c := by
  intro hchild
  have htarget := target_derived hstatus hjoins
  have ht : t ∈ target.members := List.mem_of_getLast? htail
  have hnext := soleChild_of_child hhealthy htarget hjoins.unparked.2 ht hchild
  exact not_predecessor_of_last (Graph.members_nodup htarget) htail
    (Graph.members_successor hhealthy htarget hjoins.unparked.2 ht hnext)

theorem placement_kept (hsound : Sound snapshot plan newHead) {n : PrNumber} {p : PullRequestSnapshot}
    (hp : ActiveAt (indexOf snapshot) n p) (hn : n ≠ source.id) :
    placement snapshot.defaultBranch.name (indexOf (applied snapshot plan newHead))
      (Graph.revised (rewrittenOid plan newHead) (rewrittenBase plan) p) =
        placement snapshot.defaultBranch.name (indexOf snapshot) p := by
  have hprs := Graph.collectPullRequests_indexed snapshot.pullRequests
  have hsource := source_derived hstatus hjoins
  have hnumber : p.number = n := hprs n p hp.1
  show placement _ (indexOf (revision snapshot _ _)) _ = _
  rw [Graph.indexOf_revision]
  apply Graph.placement_revised
  · rw [rewrittenBase,if_neg (by rw [hnumber,hjoins.sourceCaravan]; exact hn)]
  · intro parent x hname hheads hx hreused
    have hxnumber : x.number = parent := hprs parent x hx.1
    by_cases hparent : parent ∈ source.members
    · -- the member is the next one of the source, whose branches are sound
      have hplace : placement snapshot.defaultBranch.name (indexOf snapshot) p =
          Graph.placeUnder (indexOf snapshot) p parent := by
        rw [placement,if_neg hname,hheads]
      have hchild : Graph.ChildOf snapshot.defaultBranch.name (indexOf snapshot) parent n := by
        rcases Graph.placeUnder_cases (indexOf snapshot) p parent with hunder | ⟨reused,hunder⟩
        · exact ⟨p,hp,hplace.trans hunder⟩
        · refine absurd (by simp [Graph.reusedBranch]) (Graph.no_problem_on_unparked hhealthy hsource
            hjoins.unparked.1 hparent (Graph.placement_reported hp (hplace.trans hunder)) rfl)
      have hpair := Graph.members_successor hhealthy hsource hjoins.unparked.1 hparent
        (soleChild_of_child hhealthy hsource hjoins.unparked.1 hparent hchild)
      obtain ⟨x',hx',hbranch⟩ := (Graph.headsByBranch_mem_iff hprs hheads parent).mp (by simp)
      rw [hx'.unique hx] at hbranch
      rw [rewrittenOid,hxnumber,if_pos (hjoins.sourceMembers ▸ hparent)]
      exact hsound.branches parent n (hjoins.sourceMembers ▸ hpair) x hx.1 (hbranch ▸ hreused)
    · rw [rewrittenOid,hxnumber,if_neg (hjoins.sourceMembers ▸ hparent)]

theorem placement_root (hbase : ∀ b,committedBase plan = some b → b.name ≠ snapshot.defaultBranch.name)
    {t : PrNumber} (htail : target.members.getLast? = some t)
    (ht : ActiveAt (indexOf snapshot) t tail) {p : PullRequestSnapshot}
    (hp : ActiveAt (indexOf snapshot) source.id p) :
    placement snapshot.defaultBranch.name (indexOf (applied snapshot plan newHead))
      (Graph.revised (rewrittenOid plan newHead) (rewrittenBase plan) p) = .child t := by
  have hprs := Graph.collectPullRequests_indexed snapshot.pullRequests
  have htmem : t ∈ target.members := List.mem_of_getLast? htail
  have hcommitted := committedBase_eq hstatus hjoins
  have hp' : p.number = plan.sourceCaravan := (hprs _ p hp.1).trans hjoins.sourceCaravan.symm
  have hbase' : rewrittenBase plan p = ⟨status.repository,tail.head.name,tail.head.oid⟩ := by
    rw [rewrittenBase,if_pos hp',hcommitted]
    rfl
  have hheads := Graph.sole_head hhealthy (target_derived hstatus hjoins) hjoins.unparked.2 htmem ht
  have htnumber : tail.number = t := hprs t tail ht.1
  have hoid : rewrittenOid plan newHead tail = tail.head.oid := by
    rw [rewrittenOid,htnumber,hjoins.sourceMembers,if_neg]
    exact fun hmem => members_disjoint hstatus hjoins hmem htmem
  have hrow : ActiveAt (indexOf (applied snapshot plan newHead)) t
      (Graph.revised (rewrittenOid plan newHead) (rewrittenBase plan) tail) := ht.revised
  apply Graph.placement_of_head _ _ hrow
  · exact hoid.trans (congrArg BranchSnapshot.oid hbase').symm
  · rw [show (Graph.revised (rewrittenOid plan newHead) (rewrittenBase plan) p).base =
      rewrittenBase plan p from rfl,hbase']
    exact hbase _ hcommitted
  · rw [show (Graph.revised (rewrittenOid plan newHead) (rewrittenBase plan) p).base =
      rewrittenBase plan p from rfl,hbase',applied,Graph.indexOf_revision,
      Graph.activeMembers_revised,Graph.headsByBranch_revised]
    exact hheads

theorem appends (hsound : Sound snapshot plan newHead) {t : PrNumber}
    (htail : target.members.getLast? = some t) (ht : ActiveAt (indexOf snapshot) t tail) :
    Appends snapshot (rewrittenOid plan newHead) (rewrittenBase plan) t source.id where
  root := by
    obtain ⟨p,hp,hplace⟩ :=
      Graph.head_placement hhealthy (source_derived hstatus hjoins) hjoins.unparked.1
    exact Graph.root_of_placement hp hplace
  childless := tail_childless hstatus hhealthy hjoins htail
  kept _ _ hp hn := placement_kept hstatus hhealthy hjoins hsound hp hn
  appended _ hp := placement_root hstatus hhealthy hjoins hsound.base htail ht hp

theorem walks_of_joins : ∃ t,target.members.getLast? = some t ∧ ActiveAt (indexOf snapshot) t tail ∧
    target.members ∈ (Graph.memberWalks snapshot.defaultBranch.name (indexOf snapshot)).1 ∧
    source.members ∈ (Graph.memberWalks snapshot.defaultBranch.name (indexOf snapshot)).1 ∧
    target.members ≠ source.members := by
  obtain ⟨t,htail,ht⟩ := tail_active hstatus hjoins
  refine ⟨t,htail,ht,
    Graph.members_rooted hhealthy (target_derived hstatus hjoins) hjoins.unparked.2,
    Graph.members_rooted hhealthy (source_derived hstatus hjoins) hjoins.unparked.1,fun heq => ?_⟩
  have htmem : t ∈ target.members := List.mem_of_getLast? htail
  exact members_disjoint hstatus hjoins (heq ▸ htmem) htmem

theorem applied_caravans (hsound : Sound snapshot plan newHead) {c : Caravan} :
    c ∈ (deriveForActor (applied snapshot plan newHead) actor).fleet.caravans ↔
      c = { target with members := plan.newOrdering } ∨
        c ∈ (deriveForActor snapshot actor).fleet.caravans ∧ c ≠ target ∧ c ≠ source := by
  obtain ⟨t,htail,ht,hv,hw,hne⟩ := walks_of_joins hstatus hhealthy hjoins
  rw [hjoins.ordering]
  exact (appends hstatus hhealthy hjoins hsound htail ht).mem_caravans hv htail hw
    (source_head hstatus hjoins) hne (source_derived hstatus hjoins) (target_derived hstatus hjoins)
    rfl rfl

theorem member_unarmed (hactor : actor = .caravan) {n : PrNumber}
    (hn : n ∈ source.members ∨ n ∈ target.members) {p : PullRequestSnapshot}
    (hp : ActiveAt (indexOf snapshot) n p) : p.autoMerge.enabled = false := by
  have hunarmed {c : Caravan} (hc : c ∈ (deriveForActor snapshot actor).fleet.caravans)
      (hparked : c.parked = false) (hmem : n ∈ c.members) : p.autoMerge.enabled = false := by
    obtain ⟨i,hi⟩ := List.getElem?_of_mem hmem
    have harming := Graph.auto_merge_of_healthy hhealthy hc hparked hi hp
    rw [if_neg (by rw [hactor]; simp)] at harming
    exact harming
  rcases hn with hn | hn
  · exact hunarmed (source_derived hstatus hjoins) hjoins.unparked.1 hn
  · exact hunarmed (target_derived hstatus hjoins) hjoins.unparked.2 hn

/-- Where Cara merges, every problem afterwards was reported before. -/
theorem problem_before (hactor : actor = .caravan) (hsound : Sound snapshot plan newHead)
    {problem : GraphProblem}
    (hproblem : problem ∈ Graph.structuralProblems (applied snapshot plan newHead) actor) :
    problem ∈ Graph.structuralProblems snapshot actor := by
  obtain ⟨t,htail,ht,hv,hw,hne⟩ := walks_of_joins hstatus hhealthy hjoins
  rw [Graph.structuralProblems_eq,List.mem_append] at hproblem ⊢
  rcases hproblem with hcommon | harming
  · exact .inl ((appends hstatus hhealthy hjoins hsound htail ht).common_before hv htail hw
      (source_head hstatus hjoins) hne hcommon)
  · right
    obtain ⟨c,hc,i,n,q,hn,hq,hinvalid,rfl⟩ := Graph.mem_armingProblems_iff.mp harming
    obtain ⟨p,hp,rfl⟩ := Graph.activeAt_revision.mp hq
    have hcara (d : Caravan) : Graph.rootMustBeArmed actor d i = false := by
      rw [hactor]
      rfl
    rcases (applied_caravans hstatus hhealthy hjoins hsound).mp hc with rfl | ⟨hbefore,-,-⟩
    · have hmem : n ∈ source.members ∨ n ∈ target.members := by
        have hordering := List.mem_of_getElem? hn
        rw [hjoins.ordering] at hordering
        exact (List.mem_append.mp hordering).symm
      have hoff := member_unarmed hstatus hhealthy hjoins hactor hmem hp
      rw [hcara] at hinvalid
      simp [Graph.autoMergeValid,Graph.revised,hoff] at hinvalid
    · exact Graph.mem_armingProblems_iff.mpr ⟨c,hbefore,i,n,p,hn,hp,hinvalid,rfl⟩

theorem containing_after (hsound : Sound snapshot plan newHead) {n : PrNumber}
    (hparked : ∀ c,(deriveForActor snapshot actor).fleet.containing n = some c → c.parked = true) :
    (deriveForActor (applied snapshot plan newHead) actor).fleet.containing n =
      (deriveForActor snapshot actor).fleet.containing n := by
  have hprs' := Graph.collectPullRequests_indexed (applied snapshot plan newHead).pullRequests
  have hprs := Graph.collectPullRequests_indexed snapshot.pullRequests
  cases hbefore : (deriveForActor snapshot actor).fleet.containing n with
  | some c =>
    have hc := List.mem_of_find?_eq_some hbefore
    have hmem : n ∈ c.members := by simpa using List.find?_some hbefore
    have hmark := hparked c hbefore
    refine Graph.containing_eq_some hprs' rfl
      ((applied_caravans hstatus hhealthy hjoins hsound).mpr (.inr ⟨hc,?_,?_⟩)) hmem
    · rintro rfl
      rw [hjoins.unparked.2] at hmark
      cases hmark
    · rintro rfl
      rw [hjoins.unparked.1] at hmark
      cases hmark
  | none =>
    have hnone {c : Caravan} (hc : c ∈ (deriveForActor snapshot actor).fleet.caravans) :
        n ∉ c.members := fun hmem => by
      rw [Graph.containing_eq_some hprs rfl hc hmem] at hbefore
      cases hbefore
    apply List.find?_eq_none.mpr
    intro c hc
    rw [decide_eq_true_eq]
    rcases (applied_caravans hstatus hhealthy hjoins hsound).mp hc with rfl | ⟨hc,-,-⟩
    · intro hmem
      have hordering : n ∈ plan.newOrdering := hmem
      rw [hjoins.ordering] at hordering
      rcases List.mem_append.mp hordering with h | h
      · exact hnone (target_derived hstatus hjoins) h
      · exact hnone (source_derived hstatus hjoins) h
    · exact hnone hc

/-- A problem that did not block before does not block afterwards: it touches parked caravans,
which are none of the two. -/
theorem not_blocked_after (hsound : Sound snapshot plan newHead) {problem : GraphProblem}
    (hbefore : (deriveForActor snapshot actor).problemBlocksActiveFleet problem = false) :
    (deriveForActor (applied snapshot plan newHead) actor).problemBlocksActiveFleet problem = false := by
  unfold GraphAnalysis.problemBlocksActiveFleet at hbefore ⊢
  cases hkind : problem.kind.blocksFleet with
  | false => simp
  | true =>
    simp only [hkind,Bool.true_and,Bool.or_eq_false_iff] at hbefore ⊢
    have htouched : problem.prs.filterMap
        (deriveForActor (applied snapshot plan newHead) actor).fleet.containing =
        problem.prs.filterMap (deriveForActor snapshot actor).fleet.containing := by
      apply List.filterMap_congr
      intro n hn
      apply containing_after hstatus hhealthy hjoins hsound
      intro c hc
      have hall := List.any_eq_false.mp hbefore.1 c (List.mem_filterMap.mpr ⟨n,hn,hc⟩)
      simpa using hall
    rw [htouched]
    exact hbefore

theorem fleetPreserved_of_sound (hactor : actor = .caravan) (hsound : Sound snapshot plan newHead) :
    FleetPreserved snapshot actor plan newHead where
  joined := ⟨_,(applied_caravans hstatus hhealthy hjoins hsound).mpr (.inl rfl),rfl⟩
  others c hc hsource htarget := by
    refine (applied_caravans hstatus hhealthy hjoins hsound).mpr (.inr ⟨hc,?_,?_⟩)
    · rintro rfl
      exact htarget hjoins.targetCaravan.symm
    · rintro rfl
      exact hsource hjoins.sourceCaravan.symm
  healthy := by
    have hall := hhealthy
    unfold GraphAnalysis.healthy at hall ⊢
    rw [Bool.not_eq_true',List.any_eq_false] at hall ⊢
    intro problem hproblem
    have hbefore := hall problem (problem_before hstatus hhealthy hjoins hactor hsound hproblem)
    rw [Bool.not_eq_true] at hbefore ⊢
    exact not_blocked_after hstatus hhealthy hjoins hsound hbefore

omit hhealthy in
theorem sound_of_joined {c : Caravan}
    (hc : c ∈ (deriveForActor (applied snapshot plan newHead) actor).fleet.caravans)
    (hmembers : c.members = plan.newOrdering) : Sound snapshot plan newHead := by
  have hprs := Graph.collectPullRequests_indexed snapshot.pullRequests
  obtain ⟨t,htail,ht⟩ := tail_active hstatus hjoins
  obtain ⟨before,hbefore⟩ := List.getLast?_eq_some_iff.mp htail
  obtain ⟨rest,hrest⟩ := List.head?_eq_some_iff.mp (source_head hstatus hjoins)
  have hsource := source_derived hstatus hjoins
  constructor
  · intro b hb hname
    have hpair : [t,source.id] <:+: plan.newOrdering :=
      ⟨before,rest,by rw [hjoins.ordering,hbefore,hrest]; simp⟩
    obtain ⟨p,hp,hplace⟩ := child_of_joined hc hmembers hpair
    have hnumber : p.number = plan.sourceCaravan := (hprs _ p hp.1).trans hjoins.sourceCaravan.symm
    apply (Graph.placement_child hplace).1
    show (rewrittenBase plan p).name = _
    rw [rewrittenBase,if_pos hnumber,hb]
    exact hname
  · intro m n hmn p hp hreused
    have hmn' : [m,n] <:+: source.members := hjoins.sourceMembers ▸ hmn
    have hpair : [m,n] <:+: plan.newOrdering := by
      rw [hjoins.ordering]
      exact hmn'.trans (List.suffix_append _ _).isInfix
    have hm : m ∈ source.members := hmn'.subset (by simp)
    obtain ⟨p',hp'⟩ := Graph.members_active hsource hm
    have hsame : p' = p := Option.some.inj (hp'.1.symm.trans hp)
    subst hsame
    -- the recorded base of the later member agrees with its parent before and after
    obtain ⟨q,hq,hplace⟩ := child_of_joined hc hmembers hpair
    have hchain := List.IsChain.infix
      (Graph.allWalks_isChain hprs (Graph.mem_deriveCaravans_iff.mp hsource).1) hmn'
    rw [List.isChain_pair] at hchain
    have hchild := Graph.soleChild_childOf hprs hchain
    obtain ⟨x,y,hx,hy,hbase,-⟩ := hchild.joined hprs
    obtain ⟨q',hq',hplace'⟩ := hchild
    rw [hq'.unique hq] at hplace'
    rw [hy.unique hq,hx.unique hp'] at hbase
    have hnid : n ≠ source.id := by
      rintro rfl
      exact Graph.not_successor_of_head (Graph.members_nodup hsource) (source_head hstatus hjoins) hmn'
    have hkept : rewrittenBase plan q = q.base := by
      rw [rewrittenBase,hprs n q hq.1,hjoins.sourceCaravan,if_neg hnid]
    have hold : p'.head.oid = q.base.oid := Graph.placement_provenance hplace' (hbase ▸ hreused) hp'
    have hrow : ActiveAt (indexOf (applied snapshot plan newHead)) m
        (Graph.revised (rewrittenOid plan newHead) (rewrittenBase plan) p') := hp'.revised
    have hnew : rewrittenOid plan newHead p' = (rewrittenBase plan q).oid := by
      refine Graph.placement_provenance hplace ?_ hrow
      rw [applied,Graph.indexOf_revision,Graph.mergedByHead,Graph.numbersByHead_revised]
      show (Graph.mergedByHead (indexOf snapshot))[(rewrittenBase plan q).name]? ≠ none
      rw [hkept,hbase]
      exact hreused
    rw [hkept,← hold,rewrittenOid,hprs m p' hp'.1,if_pos (hjoins.sourceMembers ▸ hm)] at hnew
    exact hnew

/-- The provider stays armed to merge the old root, which is no head any more. -/
theorem caravan_of_preserved (h : FleetPreserved snapshot actor plan newHead) : actor = .caravan := by
  obtain ⟨c,hc,hmembers⟩ := h.joined
  have hsource := source_derived hstatus hjoins
  have hsid : source.id ∈ source.members := List.mem_of_head? (source_head hstatus hjoins)
  obtain ⟨p,hp⟩ := Graph.members_active hsource hsid
  cases hactor : actor with
  | caravan => rfl
  | github =>
    have hfirst : source.members[0]? = some source.id := by
      rw [← List.head?_eq_getElem?]
      exact source_head hstatus hjoins
    have harmed := Graph.auto_merge_of_healthy hhealthy hsource hjoins.unparked.1 hfirst hp
    rw [if_pos ⟨hactor,rfl⟩] at harmed
    have hposition : c.members[target.members.length]? = some source.id := by
      rw [hmembers,hjoins.ordering,List.getElem?_append_right le_rfl,Nat.sub_self]
      exact hfirst
    have hparked : c.parked = false := by
      have hid : c.id = target.id := by
        have hhead := (Graph.mem_deriveCaravans_iff.mp hc).2.1
        rw [hmembers,hjoins.ordering,List.head?_append,(Graph.mem_deriveCaravans_iff.mp
          (target_derived hstatus hjoins)).2.1] at hhead
        exact (Option.some.inj hhead).symm
      have hmark := (Graph.mem_deriveCaravans_iff.mp hc).2.2
      have hmark' := (Graph.mem_deriveCaravans_iff.mp (target_derived hstatus hjoins)).2.2
      rw [applied,Graph.isParked_revision,Graph.isParked,hid] at hmark
      rw [hjoins.unparked.2,Graph.isParked] at hmark'
      exact hmark.trans hmark'.symm
    have harming := Graph.auto_merge_of_healthy h.healthy hc hparked hposition hp.revised
    have hbehind : ¬ (actor = .github ∧ target.members.length = 0) := by
      rintro ⟨-,hlength⟩
      obtain ⟨t,htail,-⟩ := tail_active hstatus hjoins
      rw [List.length_eq_zero_iff.mp hlength] at htail
      cases htail
    rw [if_neg hbehind] at harming
    exact absurd (harmed.1.symm.trans harming) (by simp)

end Placed

section Health

variable {snapshot : RepositorySnapshot} {actor : HeadMergeActor} {w : ConcatWire}
  {status : LiveStatus} {input : ConcatInput} {plan : ConcatPlan} {newHead : PrNumber → CommitOid}

/-- The fleet is preserved exactly where Cara is the merge actor and the writes are sound. -/
theorem fleetPreserved_iff (hstatus : StatusOf snapshot actor status)
    (hhealthy : (deriveForActor snapshot actor).healthy = true)
    (haccepted : Accepted w status input plan) :
    FleetPreserved snapshot actor plan newHead ↔
      actor = .caravan ∧ Sound snapshot plan newHead := by
  obtain ⟨source,target,tail,hjoins⟩ := haccepted.joins
  constructor
  · intro h
    obtain ⟨c,hc,hmembers⟩ := h.joined
    exact ⟨caravan_of_preserved hstatus hhealthy hjoins h,
      sound_of_joined hstatus hjoins hc hmembers⟩
  · rintro ⟨hactor,hsound⟩
    exact fleetPreserved_of_sound hstatus hhealthy hjoins hactor hsound

theorem accepted_of_clean {caravans : Caravan × Caravan} {ends : PullRequestSnapshot × PullRequestSnapshot}
    {members : List (ConcatMemberPlan × BranchSnapshot)} (hintent : validateIntent input = .ok ())
    (hcaravans : selectCaravans status input = .ok caravans) (hends : endpoints status input = .ok ends)
    (hmembers : memberPlans status caravans.1.id ends.2 caravans.1.members = .ok members) :
    Accepted w status input (sealPlan w (unsealedPlan status input caravans.1 caravans.2 members)) := by
  refine ⟨[.done (.ok ()),.report (.ok ⟨ends.1.head,ends.2.head,.clean,none⟩)],?_⟩
  unfold planFromStatus
  rw [hintent,hcaravans,hends]
  refine ⟨[(.fetchBranches [ends.1.head,ends.2.head],.done (.ok ())),
    (.compatibility ends.1.head ends.2.head,.report (.ok ⟨ends.1.head,ends.2.head,.clean,none⟩))],?_⟩
  show Option.map _ (Option.map _ (Prog.replay (ExceptT.run (do
    let members ← Prog.ofResult (memberPlans status caravans.1.id ends.2 caravans.1.members)
    return sealPlan w (unsealedPlan status input caravans.1 caravans.2 members) : Io ConcatPlan)) [])) = _
  rw [hmembers]
  rfl

def sourceRoot (autoMerge : AutoMergeState) : PullRequestSnapshot :=
  { samplePr 2 (sampleBranch "source" 'c') (sampleBranch "main" 'a') with autoMerge }

def targetTail (autoMerge : AutoMergeState) : PullRequestSnapshot :=
  { samplePr 1 (sampleBranch "target" 'b') (sampleBranch "main" 'a') with autoMerge }

/-- Two caravans of one member each, merged by Cara or armed for the provider. -/
def rootsSnapshot (autoMerge : AutoMergeState) : RepositorySnapshot :=
  { repository := ⟨"cara","vans"⟩
    defaultBranch := sampleBranch "main" 'a'
    pullRequests := [targetTail autoMerge,sourceRoot autoMerge] }

def rootsStatus (autoMerge : AutoMergeState) (actor : HeadMergeActor) : LiveStatus where
  repository := ⟨"cara","vans"⟩
  defaultBranch := "main"
  analysis := deriveForActor (rootsSnapshot autoMerge) actor
  healthy := true

theorem roots_status (autoMerge : AutoMergeState) (actor : HeadMergeActor) :
    StatusOf (rootsSnapshot autoMerge) actor (rootsStatus autoMerge actor) := ⟨rfl,.refl _⟩

theorem sample_intent : validateIntent sampleInput = .ok () := Guard.ok_of_toOption (by decide +kernel)

/-- The plan was made in the status, provided its caravans and rows are the sample's. -/
theorem accepted_roots {autoMerge : AutoMergeState} {actor : HeadMergeActor}
    (hselected : selectCaravans (rootsStatus autoMerge actor) sampleInput =
      .ok (⟨2,[2],false⟩,⟨1,[1],false⟩))
    (hends : endpoints (rootsStatus autoMerge actor) sampleInput =
      .ok (sourceRoot autoMerge,targetTail autoMerge))
    (hmembers : memberPlans (rootsStatus autoMerge actor) 2 (targetTail autoMerge) [2] =
      .ok [(memberPlan 2 (sourceRoot autoMerge) (targetTail autoMerge),sampleBranch "source" 'c')]) :
    Accepted sampleWire (rootsStatus autoMerge actor) sampleInput samplePlan := by
  have hplan : samplePlan = sealPlan sampleWire (unsealedPlan (rootsStatus autoMerge actor) sampleInput
      ⟨2,[2],false⟩ ⟨1,[1],false⟩
      [(memberPlan 2 (sourceRoot autoMerge) (targetTail autoMerge),sampleBranch "source" 'c')]) :=
    congrArg (sealPlan sampleWire) rfl
  rw [hplan]
  exact accepted_of_clean sample_intent hselected hends hmembers

/-- Under Cara's own merges the two roots become one healthy caravan. -/
theorem roots_preserved_iff :
    FleetPreserved (rootsSnapshot .disabled) .caravan samplePlan (fun _ => sampleOid 'd') ↔
      (HeadMergeActor.caravan = .caravan ∧
        Sound (rootsSnapshot .disabled) samplePlan fun _ => sampleOid 'd') := by
  have hhealthy : (deriveForActor (rootsSnapshot .disabled) .caravan).healthy = true := by
    decide +kernel
  exact fleetPreserved_iff (roots_status .disabled .caravan) hhealthy
    (accepted_roots (Guard.ok_of_toOption (by decide +kernel)) (Guard.ok_of_toOption (by decide +kernel))
      (Guard.ok_of_toOption (by decide +kernel)))

/-- Under provider merges the old root stays armed behind the target tail. -/
theorem armed_root_unhealthy :
    StatusOf (rootsSnapshot .squash) .github (rootsStatus .squash .github) ∧
      (deriveForActor (rootsSnapshot .squash) .github).healthy = true ∧
      Accepted sampleWire (rootsStatus .squash .github) sampleInput samplePlan ∧
      ¬ FleetPreserved (rootsSnapshot .squash) .github samplePlan (fun _ => sampleOid 'd') := by
  refine ⟨roots_status _ _,by decide +kernel,accepted_roots (Guard.ok_of_toOption (by decide +kernel))
    (Guard.ok_of_toOption (by decide +kernel)) (Guard.ok_of_toOption (by decide +kernel)),?_⟩
  intro h
  have hunhealthy : (deriveForActor (applied (rootsSnapshot .squash) samplePlan
      fun _ => sampleOid 'd') .github).healthy = false := by decide +kernel
  rw [h.healthy] at hunhealthy
  cases hunhealthy

end Health

end Concat
end Cara
