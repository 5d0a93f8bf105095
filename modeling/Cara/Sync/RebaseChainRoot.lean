import Cara.Sync.RebaseChainRuns

/-! The root of a chain over the default branch, and the chain as a whole: when the plan of a later
tick completes what the pushes of an earlier one began. -/
namespace Cara
namespace Sync

open PhysicalRebase

section Pushes

variable {git : GitTools} {owner : RepositoryId} {defaultBranch : BranchSnapshot} {repository : Repository}
  {pullRequests : List PullRequestSnapshot} {flattenRoot : Bool} {branches : Branches}

structure PlansBranch (branches : Branches) (f : PullRequestSnapshot) (m : Rewrite) : Prop where
  branch : m.plan.branch = f.head.name
  satisfied : m.plan.alreadySatisfied = decide (m.plan.newHeadOid = f.head.oid)
  lease : branches f.head.name = some f.head.oid

theorem prepareMembers_plans {members : List PullRequestSnapshot} {rewrites : List Rewrite}
    {h : CommitHistory} {parent : Option PullRequestSnapshot} {target : PlannedBase}
    (hplan : prepareMembers git owner defaultBranch pullRequests flattenRoot repository h parent target
      members = .ok rewrites) : List.Forall₂ (PlansBranch repository.branches) members rewrites := by
  induction members generalizing rewrites h parent target with
  | nil =>
    cases hplan
    exact .nil
  | cons f rest ih =>
    obtain ⟨m,ms,hm,hms,rfl⟩ := (prepareMembers_cons pullRequests flattenRoot).mp hplan
    have hsatisfied := prepared_satisfied hm
    obtain ⟨_,_,_,_,_,_,hverify,rfl⟩ := prepareCandidate_ok.mp hm
    exact .cons ⟨rfl,hsatisfied,(verifyRewrite_ok.mp hverify).2.2.2⟩ (ih hms)

theorem pushed_other {m : Rewrite} {name : String} (h : m.plan.branch ≠ name) :
    pushed branches m name = branches name := by
  unfold pushed
  split_ifs
  · rfl
  · exact Function.update_of_ne (Ne.symm h) ..

theorem pushed_own {f : PullRequestSnapshot} {m : Rewrite} (h : PlansBranch branches f m) :
    pushed branches m f.head.name = some m.plan.newHeadOid := by
  unfold pushed
  split_ifs with hdone
  · rw [h.satisfied,decide_eq_true_eq] at hdone
    rw [h.lease,hdone]
  · rw [h.branch]
    exact Function.update_self ..

theorem pushedPrefix_other {members : List Rewrite} {name : String} {k : ℕ}
    (h : ∀ m ∈ members,m.plan.branch ≠ name) : pushedPrefix branches members k name = branches name := by
  induction members generalizing branches k with
  | nil => simp [pushedPrefix]
  | cons m members ih =>
    cases k with
    | zero => rfl
    | succ k =>
      have hrest : pushedPrefix (pushed branches m) members k name = pushed branches m name :=
        ih fun m' hm' => h m' (List.mem_cons_of_mem _ hm')
      exact hrest.trans (pushed_other (h m List.mem_cons_self))

theorem branches_of_plans {members : List PullRequestSnapshot} {rewrites : List Rewrite} {name : String}
    (hplans : List.Forall₂ (PlansBranch branches) members rewrites)
    (h : ∀ c ∈ members,c.head.name ≠ name) : ∀ m ∈ rewrites,m.plan.branch ≠ name := by
  induction hplans with
  | nil =>
    intro m hm
    cases hm
  | cons hplan _ ih =>
    intro m hm
    rcases List.mem_cons.mp hm with rfl | hm
    · rw [hplan.branch]
      exact h _ List.mem_cons_self
    · exact ih (fun c hc => h c (List.mem_cons_of_mem _ hc)) m hm

theorem plans_pushed {members : List PullRequestSnapshot} {rewrites : List Rewrite} {m : Rewrite}
    (hplans : List.Forall₂ (PlansBranch branches) members rewrites)
    (h : ∀ c ∈ members,m.plan.branch ≠ c.head.name) :
    List.Forall₂ (PlansBranch (pushed branches m)) members rewrites := by
  induction hplans with
  | nil => exact .nil
  | @cons c _ _ _ hplan _ ih =>
    have hlease : pushed branches m c.head.name = some c.head.oid :=
      (pushed_other (h c List.mem_cons_self)).trans hplan.lease
    exact .cons ⟨hplan.branch,hplan.satisfied,hlease⟩ (ih fun c hc => h c (List.mem_cons_of_mem _ hc))

/-- After the first pushes their branches are at the planned heads and the others where they were. -/
theorem heads_pushedPrefix {members : List PullRequestSnapshot} {rewrites : List Rewrite} {k : ℕ}
    (hplans : List.Forall₂ (PlansBranch branches) members rewrites)
    (hnodup : (members.map (·.head.name)).Nodup) :
    Heads (pushedPrefix branches rewrites k) k members rewrites := by
  induction members generalizing branches rewrites k with
  | nil =>
    cases hplans
    exact .nil
  | cons f members ih =>
    cases hplans with
    | @cons _ m _ rewrites hplan hplans =>
    rw [List.map_cons,List.nodup_cons] at hnodup
    have hother : ∀ c ∈ members,c.head.name ≠ f.head.name := fun c hc heq =>
      hnodup.1 (heq ▸ List.mem_map_of_mem hc)
    cases k with
    | zero =>
      have hrest : Heads (pushedPrefix branches rewrites 0) 0 members rewrites := ih hplans hnodup.2
      exact .cons hplan.lease hrest
    | succ k =>
      have hkept : ∀ m ∈ rewrites,m.plan.branch ≠ f.head.name := branches_of_plans hplans hother
      have hpushed := plans_pushed hplans fun c hc => hplan.branch ▸ Ne.symm (hother c hc)
      refine .cons ?_ (ih hpushed hnodup.2)
      show pushedPrefix (pushed branches m) rewrites k f.head.name = _
      rw [pushedPrefix_other hkept]
      exact pushed_own hplan

end Pushes

section Root

variable {git : GitTools} {owner : RepositoryId} {defaultBranch : BranchSnapshot}
  {first second : Repository} {h₂ : CommitHistory} {k : ℕ} {f s : PullRequestSnapshot}
  {base b : CommitOid} {m n : Rewrite} {pullRequests laterRequests : List PullRequestSnapshot}
  {flattenRoot : Bool}

theorem rangeSource_branch (parent : Option PullRequestSnapshot) (c : PullRequestSnapshot) :
    (rangeSource defaultBranch pullRequests parent c).branch = c.base := by
  cases parent with
  | none =>
    unfold rangeSource
    dsimp only
    split
    · unfold rangeBaseForRemoteTarget
      split_ifs <;> rfl
    · rfl
  | some p => exact childRange_branch c p.head

theorem rangeSource_oid {parent : Option PullRequestSnapshot} {c : PullRequestSnapshot} :
    (rangeSource defaultBranch pullRequests parent c).branch.oid = c.base.oid := by
  rw [rangeSource_branch]

structure RootPlan (git : GitTools) (first second : Repository) (owner : RepositoryId)
    (defaultBranch : BranchSnapshot) (pullRequests laterRequests : List PullRequestSnapshot)
    (h₂ : CommitHistory) (f s : PullRequestSnapshot) (base : CommitOid) (m : Rewrite) : Prop where
  inspected : Inspected git first first.history f (rangeSource defaultBranch pullRequests none f)
    (.remote defaultBranch) defaultBranch owner base
  outcome : Outcome git first.history f (rangeSource defaultBranch pullRequests none f)
    (.remote defaultBranch) m
  same : SameMember defaultBranch second.branches none f s
  source : defaultBranch.name ≠ f.head.name
  merged : mergedPredecessor defaultBranch.name laterRequests s =
    mergedPredecessor defaultBranch.name pullRequests f
  pullHeads : second.pullHeads = first.pullHeads
  sourceRef : second.branches defaultBranch.name = first.branches defaultBranch.name
  baseRef : second.branches f.base.name = first.branches f.base.name
  history : m.history.Extends h₂

namespace RootPlan

variable (P : RootPlan git first second owner defaultBranch pullRequests laterRequests h₂ f s base m)

include P

theorem default_recorded : defaultBranch.oid ∈ first.history.names := by
  cases P.outcome with
  | kept hin _ _ _ _ _ => exact CommitGraph.history_names hin
  | @replayed t _ _ ht _ _ _ _ _ _ _ =>
    obtain ⟨hgraph,hat⟩ := Checkout.of?_eq_some ht
    have hnames := t.head_names
    rwa [hgraph,hat] at hnames

theorem first_fetched : first.branches f.head.name = some f.head.oid ∧
    first.branches defaultBranch.name = some defaultBranch.oid ∧
    RootRange first first.history defaultBranch (mergedPredecessor defaultBranch.name pullRequests f) f :=
  (fetchObjects_root P.default_recorded).mp P.inspected.fetched

theorem head_old : f.head.oid ∈ first.history.names := first.branch_names P.first_fetched.1

theorem next : Founded first.history m.history m.plan.newHeadOid
      ((⟨defaultBranch.oid,false⟩ : Foundation).after first.history f.head.oid) ∧
    first.history.Extends m.history ∧
    defaultBranch.oid ∈ m.history.history m.plan.newHeadOid :=
  (Founded.start P.default_recorded).next P.head_old P.inspected rangeSource_oid P.outcome

theorem grown : first.history.Extends h₂ := P.next.2.1.trans P.history

theorem base_in_default (hname : f.base.name = defaultBranch.name) :
    f.base.oid ∈ first.history.history defaultBranch.oid := by
  have hrange := P.first_fetched.2.2
  unfold RootRange at hrange
  rw [mergedPredecessor_none hname] at hrange
  simpa only [hname,if_true] using hrange

/-- A root on the default branch may be reported on its newest commit; any other keeps its report. -/
theorem report : (f.base.name = defaultBranch.name ∧ s.base.oid ∈ first.history.history defaultBranch.oid) ∨
    (f.base.name ≠ defaultBranch.name ∧ s.base.oid = f.base.oid) := by
  by_cases hname : f.base.name = defaultBranch.name
  · refine .inl ⟨hname,?_⟩
    rcases P.same.base with hcurrent | hearlier
    · have hnow : s.base.oid = defaultBranch.oid := hcurrent.trans (if_pos hname)
      rw [hnow]
      exact CommitGraph.history_self P.default_recorded
    · have hbefore : s.base.oid = f.base.oid := hearlier
      rw [hbefore]
      exact P.base_in_default hname
  · refine .inr ⟨hname,?_⟩
    rcases P.same.base with hcurrent | hearlier
    · exact hcurrent.trans (if_neg hname)
    · exact hearlier

theorem second_fetched : fetchObjects second h₂ s (rangeSource defaultBranch laterRequests none s)
    (.remote defaultBranch) defaultBranch = .ok () := by
  obtain ⟨_,hdefault,hrange⟩ := P.first_fetched
  refine (fetchObjects_root (P.grown.names P.default_recorded)).mpr
    ⟨by rw [P.same.headName]; exact P.same.head,P.sourceRef.trans hdefault,?_⟩
  rw [P.merged]
  unfold RootRange at hrange ⊢
  rcases P.report with ⟨hname,hin⟩ | ⟨hname,hreport⟩
  · rw [mergedPredecessor_none hname]
    have hname' : s.base.name = defaultBranch.name := P.same.baseName.trans hname
    simp only [hname',if_true]
    rw [P.grown.history P.default_recorded]
    exact hin
  · have hname' : s.base.name ≠ defaultBranch.name := fun heq => hname (P.same.baseName.symm.trans heq)
    cases hmerged : mergedPredecessor defaultBranch.name pullRequests f with
    | none =>
      rw [hmerged] at hrange
      simp only [hname,if_false] at hrange
      simp only [hname',if_false]
      rw [P.same.baseName,P.baseRef,hreport]
      exact hrange
    | some predecessor =>
      rw [hmerged] at hrange
      rw [P.pullHeads,hreport]
      exact hrange

theorem second_conditions (hvalid : validateOid s.head.oid = .ok ()) :
    Conditions owner s (rangeSource defaultBranch laterRequests none s) (.remote defaultBranch)
      defaultBranch := by
  have hfirst := preconditions_ok.mp P.inspected.conditions
  refine ⟨P.same.crossRepository.trans hfirst.sameRepository,P.same.headRepository.trans hfirst.head,
    P.same.baseRepository.trans hfirst.base,?_,?_,hfirst.target,hfirst.source,?_,?_,hvalid,?_,
    hfirst.targetOid,hfirst.sourceOid⟩
  · rw [rangeSource_branch,P.same.baseRepository]
    exact hfirst.base
  · rw [rangeSource_branch]
  · unfold rangeSource
    dsimp only
    split
    · unfold rangeBaseForRemoteTarget
      split_ifs
      · have hsource : defaultBranch.repository = owner := hfirst.source
        simp [historicalBinding,PlannedBase.branch,hsource]
      · rfl
    · rfl
  · rw [P.same.headName]
    exact hfirst.branch
  · rcases P.same.base with hcurrent | hearlier
    · rw [hcurrent]
      unfold currentBase
      dsimp only
      split_ifs
      · exact hfirst.sourceOid
      · exact hfirst.baseOid
    · rw [hearlier]
      exact hfirst.baseOid

theorem second_inspected (hvalid : validateOid s.head.oid = .ok ())
    (hbase : h₂.mergeBases s.base.oid s.head.oid = [b])
    (hown : Rangeable (h₂.range [b,defaultBranch.oid] s.head.oid)) :
    Inspected git second h₂ s (rangeSource defaultBranch laterRequests none s) (.remote defaultBranch)
      defaultBranch owner b where
  conditions := preconditions_ok.mpr (P.second_conditions hvalid)
  fetched := P.second_fetched
  triggers := P.inspected.triggers
  mergeBase := hbase
  enumerable := hown.enumerable
  nonempty := hown.nonempty
  linear := hown.linear
  lease := by
    rw [P.same.headName]
    exact P.same.head

end RootPlan

/-- The foundation that every chain starts from. -/
abbrev defaultFoundation (defaultBranch : BranchSnapshot) : Foundation := ⟨defaultBranch.oid,false⟩

namespace RootPlan

variable (P : RootPlan git first second owner defaultBranch pullRequests laterRequests h₂ f s base m)

include P

theorem start : Founded first.history first.history defaultBranch.oid (defaultFoundation defaultBranch) :=
  .start P.default_recorded

theorem stays_iff : (defaultFoundation defaultBranch).stays first.history f.head.oid ↔
    defaultBranch.oid ∈ first.history.history f.head.oid := P.start.stays_iff P.head_old

theorem kept (hin : defaultBranch.oid ∈ first.history.history f.head.oid) :
    m.plan.newHeadOid = f.head.oid ∧ m.replayed = [] := by
  cases P.outcome with
  | kept _ hsame hnone _ _ _ => exact ⟨hsame,hnone⟩
  | replayed hnot _ _ _ _ _ _ _ _ => exact absurd hin hnot

theorem kept_iff : m.plan.newHeadOid = f.head.oid ↔
    defaultBranch.oid ∈ first.history.history f.head.oid := by
  constructor
  · intro hsame
    obtain ⟨_,hgrown,hin⟩ := P.next
    rw [hsame,hgrown.history P.inspected.head_names] at hin
    exact hin
  · exact fun hin => (P.kept hin).1

theorem base_recorded : f.base.oid ∈ first.history.names ∧ base ∈ first.history.history f.base.oid ∧
    base ∈ first.history.history f.head.oid := by
  have hmem := CommitGraph.mem_mergeBases.mp (P.inspected.mergeBase ▸ List.mem_singleton_self base)
  exact ⟨CommitGraph.names_of_history hmem.1,hmem.1,hmem.2.1⟩

theorem aligned {h' : CommitHistory} {target₂ : CommitOid} {pushedNow : Bool}
    (two : Founded first.history h' target₂ ((defaultFoundation defaultBranch).after first.history f.head.oid))
    (within : m.history.Extends h') (valid : validateOid target₂ = .ok ())
    (tree : h'.treeOf target₂ = m.history.treeOf m.plan.newHeadOid)
    (same : pushedNow = true → target₂ = m.plan.newHeadOid)
    (head : s.head.oid = if pushedNow then m.plan.newHeadOid else f.head.oid) :
    Aligned first second owner defaultBranch m.history h' m.plan.newHeadOid target₂ pushedNow
      ((defaultFoundation defaultBranch).after first.history f.head.oid) (f,s) :=
  Aligned.next P.start P.head_old P.inspected rangeSource_oid P.outcome P.same P.source
    (P.sourceRef.trans P.first_fetched.2.1) two within valid tree same head

theorem second_done (flattenRoot : Bool) (hs : s.head.oid = m.plan.newHeadOid)
    (hbase : h₂.mergeBases s.base.oid s.head.oid = [b])
    (hb : b ∈ h₂.history defaultBranch.oid ∨ (b = base ∧ m.plan.newHeadOid = f.head.oid))
    (hcover : m.plan.newHeadOid = f.head.oid → b ∈ h₂.history defaultBranch.oid →
      base ∈ h₂.history defaultBranch.oid) :
    ∃ n,prepareMember git owner defaultBranch laterRequests flattenRoot second h₂ none
        (.remote defaultBranch) s = .ok n ∧
      n.plan.newHeadOid = s.head.oid ∧ n.replayed = [] ∧ n.history = h₂ ∧
      n.plan.alreadySatisfied = true := by
  obtain ⟨hone,_,hbelow⟩ := P.next
  have hown : Rangeable (h₂.range [b,defaultBranch.oid] s.head.oid) := by
    rw [hs]
    exact again_rangeable P.inspected rangeSource_oid P.outcome P.default_recorded P.history hb hcover
  obtain ⟨hvalid,tree,htree,htreeValid⟩ := outcome_valid P.outcome
    (preconditions_ok.mp P.inspected.conditions).headOid
  have hsvalid : validateOid s.head.oid = .ok () := hs ▸ hvalid
  have htree₂ : h₂.treeOf s.head.oid = some tree := by
    rw [hs,P.history.treeOf hone.recorded,htree]
  have hbelow₂ : defaultBranch.oid ∈ h₂.history s.head.oid := by
    rw [hs,P.history.history hone.recorded]
    exact hbelow
  exact second_kept (P.second_inspected hsvalid hbase hown) hbelow₂ hsvalid htree₂ htreeValid

/-- The planned head of a rewritten root has in common with an old base what the default branch has. -/
theorem moved_mergeBases (hs : s.head.oid = m.plan.newHeadOid) (hreport : s.base.oid = f.base.oid)
    (hmoved : defaultBranch.oid ∉ first.history.history f.head.oid) :
    (h₂.mergeBases s.base.oid s.head.oid).Perm
      (first.history.mergeBases f.base.oid defaultBranch.oid) := by
  obtain ⟨hone,_,_⟩ := P.next
  obtain ⟨hbaseOld,_,_⟩ := P.base_recorded
  have hafter : (defaultFoundation defaultBranch).after first.history f.head.oid =
      ⟨defaultBranch.oid,true⟩ := if_neg fun hstays => hmoved (P.stays_iff.mp hstays)
  have hcommon : ∀ x,(x ∈ h₂.history f.base.oid ∧ x ∈ h₂.history s.head.oid) ↔
      (x ∈ h₂.history f.base.oid ∧ x ∈ h₂.history defaultBranch.oid) := by
    intro x
    refine and_congr_right fun hx => ?_
    rw [P.grown.history hbaseOld] at hx
    have hold := hone.old x (CommitGraph.history_names hx)
    rw [hafter] at hold
    rw [hs,P.history.history hone.recorded,hold,P.grown.history P.default_recorded]
  rw [hreport,CommitGraph.mergeBases_congr hcommon]
  exact P.grown.mergeBases hbaseOld P.default_recorded

/-- A root that is asked about as it was first reported has its first merge base. -/
theorem first_mergeBases : h₂.mergeBases f.base.oid f.head.oid = [base] := by
  have hperm := P.grown.mergeBases P.base_recorded.1 P.head_old
  rw [P.inspected.mergeBase] at hperm
  exact List.perm_singleton.mp hperm

/-- A pushed root is found done where its base and its head have one merge base. -/
theorem second_mergeBase (hs : s.head.oid = m.plan.newHeadOid)
    (hcondition : defaultBranch.oid ∉ first.history.history f.head.oid →
      f.base.name = defaultBranch.name ∨ ∃ b,first.history.mergeBases f.base.oid defaultBranch.oid = [b]) :
    ∃ b,h₂.mergeBases s.base.oid s.head.oid = [b] ∧
      (b ∈ h₂.history defaultBranch.oid ∨ (b = base ∧ m.plan.newHeadOid = f.head.oid)) ∧
      (m.plan.newHeadOid = f.head.oid → b ∈ h₂.history defaultBranch.oid →
        base ∈ h₂.history defaultBranch.oid) := by
  obtain ⟨hone,_,hbelow⟩ := P.next
  obtain ⟨_,hbaseIn,_⟩ := P.base_recorded
  have hdefault : h₂.history defaultBranch.oid = first.history.history defaultBranch.oid :=
    P.grown.history P.default_recorded
  rcases P.report with ⟨hname,hin⟩ | ⟨hname,hreport⟩
  · have hin₂ : s.base.oid ∈ h₂.history defaultBranch.oid := hdefault ▸ hin
    have hbelow₂ : defaultBranch.oid ∈ h₂.history s.head.oid := by
      rw [hs,P.history.history hone.recorded]
      exact hbelow
    refine ⟨s.base.oid,CommitGraph.mergeBases_of_ancestor (CommitGraph.history_trans hbelow₂ hin₂),
      .inl hin₂,fun _ _ => ?_⟩
    rw [hdefault]
    exact CommitGraph.history_trans (P.base_in_default hname) hbaseIn
  by_cases hkept : defaultBranch.oid ∈ first.history.history f.head.oid
  · have hsame := (P.kept hkept).1
    refine ⟨base,?_,.inr ⟨rfl,hsame⟩,fun _ hb => hb⟩
    rw [hs,hsame,hreport]
    exact P.first_mergeBases
  · obtain ⟨b,hb⟩ := (hcondition hkept).resolve_left hname
    have hperm := P.moved_mergeBases hs hreport hkept
    rw [hb] at hperm
    have hbIn : b ∈ first.history.history defaultBranch.oid :=
      (CommitGraph.mem_mergeBases.mp (hb ▸ List.mem_singleton_self b)).2.1
    exact ⟨b,List.perm_singleton.mp hperm,.inl (hdefault ▸ hbIn),fun hsame =>
      absurd (P.kept_iff.mp hsame) hkept⟩

/-- A root that is not pushed yet has one boundary still, and above it the commits of the first plan. -/
theorem second_boundary : ∃ b,h₂.mergeBases s.base.oid f.head.oid = [b] ∧
    h₂.range [b,defaultBranch.oid] f.head.oid = ownTopology first.history base defaultBranch.oid f := by
  obtain ⟨hbaseOld,hbaseIn,hbaseHead⟩ := P.base_recorded
  have hown : h₂.range [base,defaultBranch.oid] f.head.oid =
      ownTopology first.history base defaultBranch.oid f := by
    refine P.grown.range P.head_old fun x hx => ?_
    rcases List.mem_cons.mp hx with rfl | hx
    · exact CommitGraph.history_names hbaseIn
    · exact List.mem_singleton.mp hx ▸ P.default_recorded
  by_cases hreport : s.base.oid = f.base.oid
  · exact ⟨base,hreport ▸ P.first_mergeBases,hown⟩
  have hname : f.base.name = defaultBranch.name := by
    rcases P.report with ⟨hname,_⟩ | ⟨_,hkept⟩
    · exact hname
    · exact absurd hkept hreport
  have hnow : s.base.oid = defaultBranch.oid := by
    rcases P.same.base with hcurrent | hearlier
    · exact hcurrent.trans (if_pos hname)
    · exact absurd hearlier hreport
  have hbaseDefault := CommitGraph.history_trans (P.base_in_default hname) hbaseIn
  -- The root's own commits form a line, so they leave the default branch in one place.
  have hline : ∀ c ∈ first.history.commits,c.name ∈ first.history.history f.head.oid →
      c.name ∉ first.history.history defaultBranch.oid → c.parents.length ≤ 1 := by
    intro c hc hin hout
    have hmem : c ∈ ownTopology first.history base defaultBranch.oid f := by
      refine CommitGraph.mem_range.mpr ⟨hc,hin,fun x hx => ?_⟩
      rcases List.mem_cons.mp hx with rfl | hx
      · exact fun hb => hout (CommitGraph.history_trans hbaseDefault hb)
      · exact List.mem_singleton.mp hx ▸ hout
    have htwo : c.parents.length ≤ 2 := P.inspected.enumerable.parents c hmem
    have hmerge : c.parents.length ≠ 2 := by
      have h := P.inspected.linear c hmem
      simpa [isMerge] using h
    omega
  obtain ⟨b,hb,hcommon⟩ := CommitGraph.exists_mergeBase P.head_old hline ⟨base,hbaseHead,hbaseDefault⟩
  have hself := (hcommon b).mpr (CommitGraph.history_self hb)
  refine ⟨b,?_,?_⟩
  · rw [hnow]
    refine CommitGraph.mergeBases_eq (P.grown.names hb) fun x => ?_
    rw [P.grown.history P.default_recorded,P.grown.history P.head_old,P.grown.history hb,and_comm]
    exact hcommon x
  · rw [← hown]
    refine CommitGraph.range_eq_iff.mpr fun x => and_congr_right fun _ => ?_
    simp only [List.mem_cons,List.not_mem_nil,or_false,forall_eq_or_imp,forall_eq]
    rw [P.grown.history hb,P.grown.history P.default_recorded,
      P.grown.history (CommitGraph.history_names hbaseIn)]
    refine and_congr_left fun hout => ?_
    constructor
    · exact fun _ hx => hout (CommitGraph.history_trans hbaseDefault hx)
    · exact fun _ hx => hout (CommitGraph.history_trans hself.2 hx)

theorem second_moves (flattenRoot : Bool) (hs : s.head.oid = f.head.oid)
    (hmoved : defaultBranch.oid ∉ first.history.history f.head.oid)
    (hroom : h₂.names.length + m.replayed.length ≤ git.naming.room) :
    ∃ n,prepareMember git owner defaultBranch laterRequests flattenRoot second h₂ none
        (.remote defaultBranch) s = .ok n ∧
      n.replayed = m.replayed ∧ n.history.names.length = m.replayed.length + h₂.names.length ∧
      h₂.Extends n.history ∧
      Aligned first second owner defaultBranch m.history n.history m.plan.newHeadOid n.plan.newHeadOid false
        ((defaultFoundation defaultBranch).after first.history f.head.oid) (f,s) := by
  have hconditions := preconditions_ok.mp P.inspected.conditions
  obtain ⟨b,hb,htopology⟩ := P.second_boundary
  have hown : Rangeable (h₂.range [b,defaultBranch.oid] s.head.oid) := by
    rw [hs,htopology]
    exact ⟨P.inspected.enumerable,P.inspected.nonempty,P.inspected.linear⟩
  have hinspected := P.second_inspected (hs ▸ hconditions.headOid) (hs ▸ hb) hown
  have hnot : defaultBranch.oid ∉ h₂.history s.head.oid := by
    rw [hs,P.grown.history P.head_old]
    exact hmoved
  have hmoves : ¬ (defaultFoundation defaultBranch).stays first.history f.head.oid := fun hstays =>
    hmoved (P.stays_iff.mp hstays)
  cases P.outcome with
  | kept hin _ _ _ _ _ => exact absurd hin hmoved
  | @replayed t w _ ht hlist hreplay hnew hhistory _ htreeValid henum =>
    obtain ⟨s₂,w₂,new₂,hreplayed,hne⟩ := replay_again P.inspected rangeSource_oid ht hlist hreplay henum
      P.grown (P.grown.names P.default_recorded) (P.grown.treeOf P.default_recorded) hroom
    have hcommits : m.replayed = h₂.range [replayUpstream (rangeSource defaultBranch laterRequests none s)
        (.remote defaultBranch)] s.head.oid := by
      have hfirst : h₂.range [defaultBranch.oid] f.head.oid =
          first.history.range [defaultBranch.oid] f.head.oid :=
        P.grown.range P.head_old (by simpa using P.default_recorded)
      rw [hlist,hs]
      exact hfirst.symm
    obtain ⟨n,hn,hnewHead,hlist₂,hhistory₂⟩ : ∃ n,prepareMember git owner defaultBranch laterRequests
        flattenRoot second h₂ none (.remote defaultBranch) s = .ok n ∧ n.plan.newHeadOid = w₂.head ∧
        n.replayed = m.replayed ∧ n.history = w₂.graph :=
      second_replayed hinspected hnot hreplayed hcommits htreeValid
    have hsize := hreplayed.grown.length
    rw [hreplayed.start.1,hreplayed.length] at hsize
    have hextends : h₂.Extends w₂.graph := hreplayed.start.1 ▸ hreplayed.grown.extends_graph
    refine ⟨n,hn,hlist₂,by rw [hhistory₂]; exact hsize,hhistory₂ ▸ hextends,?_⟩
    rw [hnewHead,hhistory₂]
    refine P.aligned ((P.start.mono P.grown).after_replayed hreplayed.start hreplayed.grown hne hmoves)
      (P.history.trans hextends) hreplayed.valid ?_ (fun hfalse => nomatch hfalse) hs
    rw [hnew,hhistory,w₂.holds,w.holds,hreplayed.tree_eq]

theorem step (flattenRoot : Bool)
    (hhead : second.branches f.head.name = some (if 0 < k then m.plan.newHeadOid else f.head.oid))
    (hroom : h₂.names.length + m.replayed.length ≤ git.naming.room)
    (hcondition : RootCondition first.history defaultBranch k f) :
    ∃ n,prepareMember git owner defaultBranch laterRequests flattenRoot second h₂ none
        (.remote defaultBranch) s = .ok n ∧
      StepDone git first second owner defaultBranch h₂ k (defaultFoundation defaultBranch) f s m n := by
  have hs : s.head.oid = if 0 < k then m.plan.newHeadOid else f.head.oid :=
    Option.some.inj (P.same.head.symm.trans hhead)
  obtain ⟨hone,_,_⟩ := P.next
  have htree := P.history.treeOf hone.recorded
  have hvalid := (outcome_valid P.outcome (preconditions_ok.mp P.inspected.conditions).headOid).1
  by_cases hk : 0 < k
  · rw [if_pos hk] at hs
    obtain ⟨b,hb,hin,hcover⟩ := P.second_mergeBase hs (hcondition hk)
    obtain ⟨n,hn,hnew,_,hhistory,hdone⟩ := P.second_done flattenRoot hs hb hin hcover
    refine ⟨n,hn,by rw [if_pos hk]; exact hdone,by rw [hhistory]; omega,hhistory ▸ .refl h₂,?_⟩
    rw [hhistory,decide_eq_true hk,hnew,hs]
    exact P.aligned (hone.mono P.history) P.history hvalid htree (fun _ => rfl) hs
  · rw [if_neg hk] at hs
    by_cases hkept : defaultBranch.oid ∈ first.history.history f.head.oid
    · obtain ⟨hsame,hnone⟩ := P.kept hkept
      have hsNew : s.head.oid = m.plan.newHeadOid := hs.trans hsame.symm
      obtain ⟨b,hb,hin,hcover⟩ := P.second_mergeBase hsNew fun hmoved => absurd hkept hmoved
      obtain ⟨n,hn,hnew,hlist,hhistory,_⟩ := P.second_done flattenRoot hsNew hb hin hcover
      refine ⟨n,hn,by rw [if_neg hk,hlist,hnone],by rw [hhistory]; omega,hhistory ▸ .refl h₂,?_⟩
      rw [hhistory,decide_eq_false hk,hnew,hsNew]
      exact P.aligned (hone.mono P.history) P.history hvalid htree (fun _ => rfl) hs
    · obtain ⟨n,hn,hlist,hsize,hgrown,haligned⟩ := P.second_moves flattenRoot hs hkept hroom
      refine ⟨n,hn,by rw [if_neg hk]; exact hlist,hsize.le,hgrown,?_⟩
      rw [decide_eq_false hk]
      exact haligned

theorem condition (hhead : second.branches f.head.name = some (if 0 < k then m.plan.newHeadOid else f.head.oid))
    (hn : prepareMember git owner defaultBranch laterRequests flattenRoot second h₂ none
      (.remote defaultBranch) s = .ok n) : RootCondition first.history defaultBranch k f := by
  intro hk hmoved
  have hs : s.head.oid = m.plan.newHeadOid := by
    have h := Option.some.inj (P.same.head.symm.trans hhead)
    rwa [if_pos hk] at h
  rcases P.report with ⟨hname,_⟩ | ⟨_,hreport⟩
  · exact .inl hname
  obtain ⟨_,i,hinspect,_⟩ := prepareCandidate_ok.mp hn
  have hbase := (inspect_ok.mp hinspect).2.2.1
  have hperm := P.moved_mergeBases hs hreport hmoved
  rw [hbase] at hperm
  exact .inr ⟨i.rangeBase,List.perm_singleton.mp hperm.symm⟩

end RootPlan

end Root

section Chain

variable {git : GitTools} {owner : RepositoryId} {defaultBranch : BranchSnapshot}
  {first second : Repository} {pullRequests laterRequests : List PullRequestSnapshot} {flattenRoot : Bool}
  {members later : List PullRequestSnapshot} {rewrites : List Rewrite} {k : ℕ}

theorem mergedPredecessor_congr {defaultName : String} {f s : PullRequestSnapshot}
    (hname : s.base.name = f.base.name)
    (hmerged : laterRequests.filter (fun c => decide (c.state = .merged)) =
      pullRequests.filter (fun c => decide (c.state = .merged))) :
    mergedPredecessor defaultName laterRequests s = mergedPredecessor defaultName pullRequests f := by
  have hfilter : ∀ l : List PullRequestSnapshot,
      l.filter (fun c => decide (c.state = .merged) && c.hasLabel "caravan" &&
        decide (c.head.name = f.base.name)) =
      (l.filter fun c => decide (c.state = .merged)).filter fun c => c.hasLabel "caravan" &&
        decide (c.head.name = f.base.name) := by
    intro l
    rw [List.filter_filter]
    exact List.filter_congr fun c _ => by rw [Bool.and_assoc,Bool.and_comm]
  unfold mergedPredecessor
  rw [hname,hfilter,hfilter,hmerged]

/-- After exactly the first members of a planned linear chain were pushed, the plan of a later tick
completes the first one when, and only when, no rewritten and pushed parent is still reported at the
head it had before, every child that is left has the same of its commits in its reported base as at
first, and a rewritten root has one merge base with the default branch. -/
theorem interruptedChain_resumes_iff (hchain : LinearChain defaultBranch members)
    (hplan : preparePhysicalChain git owner defaultBranch pullRequests flattenRoot first members = .ok rewrites)
    (hlinear : ∀ m ∈ rewrites,m.hasMerges = false) (hnext : Continues git first second rewrites k)
    (hresumed : Resumed defaultBranch second.branches none members later)
    (hmerged : laterRequests.filter (fun c => decide (c.state = .merged)) =
      pullRequests.filter (fun c => decide (c.state = .merged))) :
    (∃ found,preparePhysicalChain git owner defaultBranch laterRequests flattenRoot second later = .ok found ∧
        Resumes k rewrites found) ↔
      ResumeCondition first.history defaultBranch k members later := by
  have hplans := prepareMembers_plans hplan
  have hheads : Heads second.branches k members rewrites := by
    rw [hnext.branches]
    exact heads_pushedPrefix hplans hchain.branches
  have hframe : ∀ name,(∀ c ∈ members,c.head.name ≠ name) →
      second.branches name = first.branches name := by
    intro name hname
    rw [hnext.branches]
    exact pushedPrefix_other (branches_of_plans hplans hname)
  cases hresumed with
  | nil =>
    cases hplan
    constructor
    · exact fun _ => trivial
    · exact fun _ => ⟨[],rfl,by simp [Resumes]⟩
  | @cons _ f s rest later hsame hrest =>
    obtain ⟨m,ms,hm,hms,rfl⟩ := (prepareMembers_cons pullRequests flattenRoot).mp hplan
    cases hheads with
    | cons hhead hheads =>
    obtain ⟨⟨base,hinspected⟩,hout⟩ := of_prepared hm (hlinear m List.mem_cons_self)
    have P : RootPlan git first second owner defaultBranch pullRequests laterRequests second.history f s
        base m := {
      inspected := hinspected
      outcome := hout
      same := hsame
      source := Ne.symm (hchain.default f List.mem_cons_self)
      merged := mergedPredecessor_congr hsame.baseName hmerged
      pullHeads := hnext.pullHeads
      sourceRef := hframe _ hchain.default
      baseRef := hframe _ (hchain.root f rfl)
      history := hnext.objects m List.mem_cons_self }
    have hroom := hnext.room
    rw [List.map_cons,List.sum_cons] at hroom
    have hstep : second.history.names.length + m.replayed.length ≤ git.naming.room := by omega
    have hafter : ∀ n,StepDone git first second owner defaultBranch second.history k
          (defaultFoundation defaultBranch) f s m n →
        ((∃ found,prepareMembers git owner defaultBranch laterRequests flattenRoot second n.history (some s)
            (plannedTarget owner s n) later = .ok found ∧ Resumes (k-1) ms found) ↔
          ChildrenCondition first.history (k-1) (decide (0 < k))
            ((defaultFoundation defaultBranch).after first.history f.head.oid) (f,s) rest later) := by
      intro n hdone
      have hlength := hdone.length
      have htarget : plannedTarget owner s n = childBase owner f n.plan.newHeadOid := by
        show PlannedBase.simulated ⟨owner,s.head.name,_⟩ = _
        rw [hsame.headName]
      rw [htarget]
      exact children_resume_iff pullRequests flattenRoot hdone.aligned (fun hk => by simp; omega) hms
        (fun m' hm' => hlinear m' (List.mem_cons_of_mem _ hm')) hchain.linked
        (fun c hc => hchain.default c (List.mem_cons_of_mem _ hc)) hrest hheads
        (fun m' hm' => (hnext.objects m' (List.mem_cons_of_mem _ hm')).trans hdone.grown) (by omega)
        laterRequests
    constructor
    · rintro ⟨found,hfound,hresumes⟩
      obtain ⟨n,ns,hn,hns,rfl⟩ := (prepareMembers_cons laterRequests flattenRoot).mp hfound
      obtain ⟨_,hrestResumes⟩ := resumes_cons.mp hresumes
      have hcondition : RootCondition first.history defaultBranch k f := P.condition hhead hn
      obtain ⟨n',hn',hdone⟩ := P.step flattenRoot hhead hstep hcondition
      obtain rfl : n' = n := Except.ok.inj (hn'.symm.trans hn)
      exact ⟨hcondition,(hafter n' hdone).mp ⟨ns,hns,hrestResumes⟩⟩
    · rintro ⟨hcondition,hchildren⟩
      obtain ⟨n,hn,hdone⟩ := P.step flattenRoot hhead hstep hcondition
      obtain ⟨ns,hns,hresumes⟩ := (hafter n hdone).mpr hchildren
      exact ⟨n::ns,(prepareMembers_cons laterRequests flattenRoot).mpr ⟨n,ns,hn,hns,rfl⟩,
        resumes_cons.mpr ⟨hdone.found,hresumes⟩⟩

end Chain

section Samples

/-- The repository after the first pushes, with a history that retains the planned objects. -/
def continued (first : Repository) (rewrites : List Rewrite) (k : ℕ) (history : CommitHistory)
    (hgrown : first.history.Extends history)
    (hheads : ∀ m ∈ rewrites,m.plan.newHeadOid ∈ history.names) : Repository where
  history := history
  branches := pushedPrefix first.branches rewrites k
  pullHeads := first.pullHeads
  branch_names := by
    have hrun : ∀ (taken : List Rewrite) (branches : Branches),(∀ m ∈ taken,m.plan.newHeadOid ∈ history.names) →
        (∀ name oid,branches name = some oid → oid ∈ history.names) →
        ∀ name oid,taken.foldl pushed branches name = some oid → oid ∈ history.names := by
      intro taken
      induction taken with
      | nil => exact fun _ _ h => h
      | cons m taken ih =>
        intro branches hm h
        refine ih (pushed branches m) (fun m' hm' => hm m' (List.mem_cons_of_mem _ hm')) fun name oid hname => ?_
        unfold pushed at hname
        split_ifs at hname
        · exact h name oid hname
        by_cases heq : name = m.plan.branch
        · subst heq
          rw [Function.update_self] at hname
          exact Option.some.inj hname ▸ hm m List.mem_cons_self
        · rw [Function.update_of_ne heq] at hname
          exact h name oid hname
    intro name oid hname
    exact hrun _ _ (fun m hm => hheads m (List.mem_of_mem_take hm))
      (fun _ _ h => hgrown.names (first.branch_names h)) name oid hname
  pull_names h := hgrown.names (first.pull_names h)

def sampleRepositoryId : RepositoryId := ⟨"team","app"⟩

def sampleNames : List CommitOid :=
  ["aaaaaaaaaaaaaaaaaaaaaaaaaaaaaaaaaaaaaaa0","aaaaaaaaaaaaaaaaaaaaaaaaaaaaaaaaaaaaaaa1",
    "aaaaaaaaaaaaaaaaaaaaaaaaaaaaaaaaaaaaaaa2","aaaaaaaaaaaaaaaaaaaaaaaaaaaaaaaaaaaaaaa3",
    "aaaaaaaaaaaaaaaaaaaaaaaaaaaaaaaaaaaaaaa4","aaaaaaaaaaaaaaaaaaaaaaaaaaaaaaaaaaaaaaa5",
    "aaaaaaaaaaaaaaaaaaaaaaaaaaaaaaaaaaaaaaa6","aaaaaaaaaaaaaaaaaaaaaaaaaaaaaaaaaaaaaaa7",
    "aaaaaaaaaaaaaaaaaaaaaaaaaaaaaaaaaaaaaaa8","aaaaaaaaaaaaaaaaaaaaaaaaaaaaaaaaaaaaaaa9"]

/-- Git with a short supply of names, where every change applies. -/
def sampleGit : GitTools where
  naming := CommitGraph.Naming.first sampleNames (by decide +kernel)
  named taken h := by
    have hvalid : ∀ name ∈ sampleNames,validateOid name = .ok () := by decide +kernel
    exact hvalid _ (CommitGraph.Naming.first_mem h)
  pick _ _ tree := some tree
  ciTriggers _ _ := .ok []
  rewriteMerges _ _ _ _ _ := .error (decision "rebase_merge_replay_conflict" "not rewritten" [])

def sampleOld : CommitOid := "d000000000000000000000000000000000000000"
def sampleDefaultOid : CommitOid := "d111111111111111111111111111111111111111"
def sampleRootOid : CommitOid := "b000000000000000000000000000000000000000"
def sampleStackedOid : CommitOid := "b111111111111111111111111111111111111111"
def sampleForkedOid : CommitOid := "b222222222222222222222222222222222222222"

/-- A default branch that moved on, a root from before that, a child stacked on the root and one
that was forked beside it. -/
def sampleHistory : CommitHistory where
  commits := [⟨sampleForkedOid,[sampleOld],sampleForkedOid⟩,⟨sampleStackedOid,[sampleRootOid],sampleStackedOid⟩,
    ⟨sampleRootOid,[sampleOld],sampleRootOid⟩,⟨sampleDefaultOid,[sampleOld],sampleDefaultOid⟩,
    ⟨sampleOld,[],sampleOld⟩]
  closed := by
    refine .cons ?_ ?_ (.cons ?_ ?_ (.cons ?_ ?_ (.cons ?_ ?_ (.cons ?_ ?_ .nil)))) <;> decide +kernel

def sampleDefault : BranchSnapshot := ⟨sampleRepositoryId,"main",sampleDefaultOid⟩

def sampleRepository (child : CommitOid) (h : child ∈ sampleHistory.names) : Repository :=
  .ofRefs sampleHistory [("main",sampleDefaultOid),("one",sampleRootOid),("two",child)] (by
    intro r hr
    have hmain : sampleDefaultOid ∈ sampleHistory.names := by decide +kernel
    have hroot : sampleRootOid ∈ sampleHistory.names := by decide +kernel
    rcases List.mem_cons.mp hr with rfl | hr
    · exact hmain
    rcases List.mem_cons.mp hr with rfl | hr
    · exact hroot
    · exact List.mem_singleton.mp hr ▸ h)

def samplePullRequest (number : ℕ) (name : String) (head : CommitOid) (base : String) (baseOid : CommitOid) :
    PullRequestSnapshot where
  number := number
  state := .open
  head := ⟨sampleRepositoryId,name,head⟩
  base := ⟨sampleRepositoryId,base,baseOid⟩
  autoMerge := { enabled := false }

def sampleRoot (head : CommitOid) : PullRequestSnapshot := samplePullRequest 1 "one" head "main" sampleOld

def sampleChild (head base : CommitOid) : PullRequestSnapshot := samplePullRequest 2 "two" head "one" base

def samplePlan (child : CommitOid) (h : child ∈ sampleHistory.names) : Except RebaseError (List Rewrite) :=
  preparePhysicalChain sampleGit sampleRepositoryId sampleDefault [] false (sampleRepository child h)
    [sampleRoot sampleRootOid,sampleChild child sampleRootOid]

def sampleRewrites (child : CommitOid) (h : child ∈ sampleHistory.names) : List Rewrite :=
  match samplePlan child h with
  | .ok rewrites => rewrites
  | .error _ => []

def sampleRetained (child : CommitOid) (h : child ∈ sampleHistory.names) : CommitHistory :=
  ((sampleRewrites child h).getLast?.map (·.history)).getD sampleHistory

def sampleNewRoot : CommitOid := "aaaaaaaaaaaaaaaaaaaaaaaaaaaaaaaaaaaaaaa0"

def sampleReady (child : CommitOid) (h : child ∈ sampleHistory.names) : Bool :=
  (samplePlan child h).isOk && (sampleRewrites child h).all (fun m => !m.hasMerges) &&
    decide (sampleHistory.Extends (sampleRetained child h)) &&
    (sampleRewrites child h).all (fun m => decide (m.history.Extends (sampleRetained child h)) &&
      decide (m.plan.newHeadOid ∈ (sampleRetained child h).names)) &&
    decide ((sampleRetained child h).names.length +
      ((sampleRewrites child h).map (·.replayed.length)).sum ≤ sampleGit.naming.room) &&
    decide (pushedPrefix (sampleRepository child h).branches (sampleRewrites child h) 1 "one" =
      some sampleNewRoot) &&
    decide (pushedPrefix (sampleRepository child h).branches (sampleRewrites child h) 1 "two" = some child)

section Ready

variable {child : CommitOid} {h : child ∈ sampleHistory.names}

theorem sampleReady_spec (hready : sampleReady child h = true) :
    samplePlan child h = .ok (sampleRewrites child h) ∧ (∀ m ∈ sampleRewrites child h,m.hasMerges = false) ∧
    sampleHistory.Extends (sampleRetained child h) ∧
    (∀ m ∈ sampleRewrites child h,m.history.Extends (sampleRetained child h) ∧
      m.plan.newHeadOid ∈ (sampleRetained child h).names) ∧
    (sampleRetained child h).names.length + ((sampleRewrites child h).map (·.replayed.length)).sum ≤
      sampleGit.naming.room ∧
    pushedPrefix (sampleRepository child h).branches (sampleRewrites child h) 1 "one" = some sampleNewRoot ∧
    pushedPrefix (sampleRepository child h).branches (sampleRewrites child h) 1 "two" = some child := by
  simp only [sampleReady,Bool.and_eq_true,decide_eq_true_eq,List.all_eq_true,Bool.not_eq_true'] at hready
  obtain ⟨⟨⟨⟨⟨⟨hok,hlinear⟩,hgrown⟩,hobjects⟩,hroom⟩,hone⟩,htwo⟩ := hready
  refine ⟨?_,hlinear,hgrown,hobjects,hroom,hone,htwo⟩
  unfold sampleRewrites
  cases hplan : samplePlan child h with
  | error e =>
    rw [hplan] at hok
    cases hok
  | ok rewrites => rfl

/-- The repository with the root pushed and the child left. -/
def sampleSecond (child : CommitOid) (h : child ∈ sampleHistory.names)
    (hready : sampleReady child h = true) : Repository :=
  continued (sampleRepository child h) (sampleRewrites child h) 1 (sampleRetained child h)
    (sampleReady_spec hready).2.2.1 fun m hm => ((sampleReady_spec hready).2.2.2.1 m hm).2

theorem sample_continues (hready : sampleReady child h = true) :
    Continues sampleGit (sampleRepository child h) (sampleSecond child h hready)
      (sampleRewrites child h) 1 where
  branches := rfl
  pullHeads := rfl
  history := (sampleReady_spec hready).2.2.1
  objects m hm := ((sampleReady_spec hready).2.2.2.1 m hm).1
  room := (sampleReady_spec hready).2.2.2.2.1

theorem sample_linear : LinearChain sampleDefault [sampleRoot sampleRootOid,sampleChild child sampleRootOid] where
  linked := by simp [sampleRoot,sampleChild,samplePullRequest]
  branches := by simp [sampleRoot,sampleChild,samplePullRequest]
  default := by simp [sampleRoot,sampleChild,samplePullRequest,sampleDefault]
  root := by simp [sampleRoot,sampleChild,samplePullRequest]

/-- The root at its planned head, the child on the old head of the root or on the new one. -/
theorem sample_resumed (hready : sampleReady child h = true) {report : CommitOid}
    (hreport : report = sampleRootOid ∨ report = sampleNewRoot) :
    Resumed sampleDefault (sampleSecond child h hready).branches none
      [sampleRoot sampleRootOid,sampleChild child sampleRootOid]
      [sampleRoot sampleNewRoot,sampleChild child report] := by
  obtain ⟨_,_,_,_,_,hone,htwo⟩ := sampleReady_spec hready
  refine .cons ⟨rfl,rfl,rfl,hone,rfl,rfl,.inr rfl⟩ (.cons ⟨rfl,rfl,rfl,htwo,rfl,rfl,?_⟩ .nil)
  rcases hreport with rfl | rfl
  · right
    show sampleRootOid = if sampleNewRoot = sampleRootOid then sampleRootOid else sampleRootOid
    rw [ite_self]
  · exact .inl rfl

end Ready

theorem sampleStacked_ready : sampleReady sampleStackedOid (by decide +kernel) = true := by decide +kernel

theorem sampleForked_ready : sampleReady sampleForkedOid (by decide +kernel) = true := by decide +kernel

/-- The root was rewritten and pushed, and the provider still reports the child on the root's old
head: the later plan fails. -/
theorem interruptedChain_staleReport :
    let first := sampleRepository sampleStackedOid (by decide +kernel)
    let second := sampleSecond sampleStackedOid _ sampleStacked_ready
    let members := [sampleRoot sampleRootOid,sampleChild sampleStackedOid sampleRootOid]
    let later := [sampleRoot sampleNewRoot,sampleChild sampleStackedOid sampleRootOid]
    let rewrites := sampleRewrites sampleStackedOid (by decide +kernel)
    LinearChain sampleDefault members ∧
      preparePhysicalChain sampleGit sampleRepositoryId sampleDefault [] false first members = .ok rewrites ∧
      (∀ m ∈ rewrites,m.hasMerges = false) ∧ Continues sampleGit first second rewrites 1 ∧
      Resumed sampleDefault second.branches none members later ∧
      ¬ ∃ found,preparePhysicalChain sampleGit sampleRepositoryId sampleDefault [] false second later =
          .ok found ∧ Resumes 1 rewrites found := by
  obtain ⟨hplan,hlinear,_⟩ := sampleReady_spec sampleStacked_ready
  refine ⟨sample_linear,hplan,hlinear,sample_continues sampleStacked_ready,
    sample_resumed sampleStacked_ready (.inl rfl),?_⟩
  rintro ⟨found,hfound,_⟩
  have hfails : (preparePhysicalChain sampleGit sampleRepositoryId sampleDefault [] false
      (sampleSecond sampleStackedOid _ sampleStacked_ready)
      [sampleRoot sampleNewRoot,sampleChild sampleStackedOid sampleRootOid]).isOk = false := by
    decide +kernel
  rw [hfound] at hfails
  cases hfails

/-- A child that was forked beside the root resumes once its base is reported as it is. -/
theorem interruptedChain_forkedChild : ∃ found,
    preparePhysicalChain sampleGit sampleRepositoryId sampleDefault [] false
        (sampleSecond sampleForkedOid _ sampleForked_ready)
        [sampleRoot sampleNewRoot,sampleChild sampleForkedOid sampleNewRoot] = .ok found ∧
      Resumes 1 (sampleRewrites sampleForkedOid (by decide +kernel)) found := by
  obtain ⟨hplan,hlinear,_⟩ := sampleReady_spec sampleForked_ready
  refine (interruptedChain_resumes_iff sample_linear hplan hlinear (sample_continues sampleForked_ready)
    (sample_resumed sampleForked_ready (.inr rfl)) rfl).mpr ⟨fun _ _ => .inl rfl,⟨fun _ _ => rfl,?_⟩,trivial⟩
  intro _ _
  decide +kernel

end Samples

end Sync
end Cara
