import Cara.Sync.RebaseChainReports
import Cara.Sync.RebaseChainResume

/-! When a chain whose first members were pushed is planned again as it was planned at first. -/
namespace Cara
namespace Sync

open PhysicalRebase

section Condition

variable (g : CommitHistory) (defaultBranch : BranchSnapshot)

/-- The old commits that the reported base has, up to this one. -/
def reportedKept (F : Foundation) (pushedParent : Bool) (parent : Discovered)
    (first now : PullRequestSnapshot) : CommitOid :=
  if now.base.oid = first.base.oid then first.base.oid
  else if pushedParent then F.kept else parent.1.head.oid

/-- A child resumes when the report of its base is not one that the rewrite of the parent left
behind and, where it is still to be replayed, when that base has the same of the child's commits
as the base that was reported first. -/
structure ChildCondition (k : ℕ) (pushedParent : Bool) (F : Foundation) (parent : Discovered)
    (first now : PullRequestSnapshot) : Prop where
  current : pushedParent = true → F.moved = true → now.base.oid = parent.2.head.oid
  boundary : k = 0 → ¬ F.stays g first.head.oid → ∀ x ∈ g.history first.head.oid,
    x ∈ g.history (reportedKept F pushedParent parent first now) ↔ x ∈ g.history first.base.oid

def ChildrenCondition : ℕ → Bool → Foundation → Discovered → List PullRequestSnapshot →
    List PullRequestSnapshot → Prop
  | k,pushedParent,F,parent,first::rest,now::later =>
      ChildCondition g k pushedParent F parent first now ∧
        ChildrenCondition (k-1) (decide (0 < k)) (F.after g first.head.oid) (first,now) rest later
  | _,_,_,_,_,_ => True

/-- A pushed root that was rewritten resumes when its base and the default branch have one merge
base, which is so when its base is the default branch. -/
def RootCondition (k : ℕ) (root : PullRequestSnapshot) : Prop :=
  0 < k → defaultBranch.oid ∉ g.history root.head.oid → root.base.name = defaultBranch.name ∨
    ∃ b,g.mergeBases root.base.oid defaultBranch.oid = [b]

def ResumeCondition (k : ℕ) : List PullRequestSnapshot → List PullRequestSnapshot → Prop
  | root::rest,now::later => RootCondition g defaultBranch k root ∧
      ChildrenCondition g (k-1) (decide (0 < k))
        ((⟨defaultBranch.oid,false⟩ : Foundation).after g root.head.oid) (root,now) rest later
  | _,_ => True

end Condition

section Alignment

variable (first second : Repository) (owner : RepositoryId) (defaultBranch : BranchSnapshot)

/-- The two plans at the same member: what the first knows of the new base and of the parent, and
what the second finds instead. -/
structure Aligned (h h₂ : CommitHistory) (target target₂ : CommitOid) (pushedParent : Bool)
    (F : Foundation) (parent : Discovered) : Prop where
  one : Founded first.history h target F
  two : Founded first.history h₂ target₂ F
  within : h.Extends h₂
  valid : validateOid target₂ = .ok ()
  tree : h₂.treeOf target₂ = h.treeOf target
  same : pushedParent = true → target₂ = target
  name : parent.2.head.name = parent.1.head.name
  repository : parent.2.head.repository = owner
  before : first.branches parent.1.head.name = some parent.1.head.oid
  now : second.branches parent.1.head.name = some parent.2.head.oid
  head : parent.2.head.oid = if pushedParent then target else parent.1.head.oid
  headStayed : F.moved = false → parent.1.head.oid = target
  headMoved : F.moved = true → parent.1.head.oid ∉ first.history.history F.kept
  headValid : validateOid parent.1.head.oid = .ok () ∧ validateOid parent.2.head.oid = .ok ()
  source : defaultBranch.name ≠ parent.1.head.name
  sourceRef : second.branches defaultBranch.name = some defaultBranch.oid

variable {first second : Repository} {owner : RepositoryId} {defaultBranch : BranchSnapshot}
  {h h₂ : CommitHistory} {target target₂ : CommitOid} {pushedParent : Bool} {F : Foundation}
  {parent : Discovered} {f s : PullRequestSnapshot}

namespace Aligned

theorem head_recorded (A : Aligned first second owner defaultBranch h h₂ target target₂ pushedParent F parent) :
    parent.1.head.oid ∈ first.history.names := first.branch_names A.before

theorem targets_stayed (A : Aligned first second owner defaultBranch h h₂ target target₂ pushedParent F parent)
    (hF : F.moved = false) : target₂ = target :=
  (A.two.stayed hF).trans (A.one.stayed hF).symm

theorem old_iff (A : Aligned first second owner defaultBranch h h₂ target target₂ pushedParent F parent)
    {x : CommitOid} (hx : x ∈ first.history.names) :
    x ∈ h₂.history target₂ ↔ x ∈ h₂.history target := by
  rw [A.two.old x hx,A.within.history A.one.recorded,A.one.old x hx]

/-- The parent's present head is a commit that the later plan knows. -/
theorem now_recorded (A : Aligned first second owner defaultBranch h h₂ target target₂ pushedParent F parent) :
    parent.2.head.oid ∈ h₂.names := by
  rw [A.head]
  split_ifs
  · exact A.within.names A.one.recorded
  · exact A.two.grown.names A.head_recorded

theorem head_of_unmoved
    (A : Aligned first second owner defaultBranch h h₂ target target₂ pushedParent F parent)
    (hF : F.moved = false) : parent.2.head.oid = parent.1.head.oid := by
  rw [A.head,A.headStayed hF]
  split_ifs <;> rfl

/-- A report that is not left behind by the rewrite is current or, over a parent whose head stays,
the first one. -/
theorem report_cases (A : Aligned first second owner defaultBranch h h₂ target target₂ pushedParent F parent)
    (hsame : SameMember defaultBranch second.branches (some parent) f s)
    (hcurrent : pushedParent = true → F.moved = true → s.base.oid = parent.2.head.oid) :
    s.base.oid = parent.2.head.oid ∨
      s.base.oid = f.base.oid ∧ parent.2.head.oid = parent.1.head.oid := by
  rcases hsame.base with hnow | hearlier
  · exact .inl hnow
  by_cases heq : parent.2.head.oid = parent.1.head.oid
  · exact .inr ⟨hearlier.trans (if_pos heq),heq⟩
  have hpushed : pushedParent = true := by
    rw [A.head] at heq
    by_contra hnot
    exact heq (if_neg hnot)
  have hmoved : F.moved = true := by
    by_contra hnot
    exact heq (A.head_of_unmoved (by simpa using hnot))
  exact .inl (hcurrent hpushed hmoved)

theorem accepts_iff (A : Aligned first second owner defaultBranch h h₂ target target₂ pushedParent F parent)
    (hsame : SameMember defaultBranch second.branches (some parent) f s)
    (hfirst : f.base.oid ∈ h.history parent.1.head.oid) :
    s.base.oid ∈ h₂.history parent.2.head.oid ↔
      (pushedParent = true → F.moved = true → s.base.oid = parent.2.head.oid) := by
  have hself : parent.2.head.oid ∈ h₂.history parent.2.head.oid := CommitGraph.history_self A.now_recorded
  constructor
  · intro hin hpushed hmoved
    rcases hsame.base with hcurrent | hearlier
    · exact hcurrent
    have htarget : parent.2.head.oid = target := by rw [A.head,if_pos hpushed]
    have hne : parent.2.head.oid ≠ parent.1.head.oid := by
      intro heq
      exact A.one.moved hmoved (htarget ▸ heq ▸ A.head_recorded)
    have hold : s.base.oid = parent.1.head.oid := hearlier.trans (if_neg hne)
    rw [hold,htarget,A.within.history A.one.recorded,A.one.old _ A.head_recorded] at hin
    exact absurd hin (A.headMoved hmoved)
  · intro hcurrent
    rcases A.report_cases hsame hcurrent with hnow | ⟨hreport,heq⟩
    · exact hnow ▸ hself
    · rw [hreport,heq,(A.one.grown.trans A.within).history A.head_recorded,
        ← A.one.grown.history A.head_recorded]
      exact hfirst

theorem reported_old (A : Aligned first second owner defaultBranch h h₂ target target₂ pushedParent F parent)
    (hsame : SameMember defaultBranch second.branches (some parent) f s)
    (hfirst : f.base.oid ∈ first.history.names)
    (hcurrent : pushedParent = true → F.moved = true → s.base.oid = parent.2.head.oid)
    {x : CommitOid} (hx : x ∈ first.history.names) : x ∈ h₂.history s.base.oid ↔
      x ∈ first.history.history (reportedKept F pushedParent parent f s) := by
  have hext := A.one.grown.trans A.within
  unfold reportedKept
  by_cases hreport : s.base.oid = f.base.oid
  · rw [if_pos hreport,hreport,hext.history hfirst]
  rw [if_neg hreport]
  have hnow : s.base.oid = parent.2.head.oid :=
    (A.report_cases hsame hcurrent).resolve_right fun hkept => hreport hkept.1
  rw [hnow,A.head]
  split_ifs with hpushed
  · rw [A.within.history A.one.recorded]
    exact A.one.old x hx
  · rw [hext.history A.head_recorded]

end Aligned

end Alignment

section Steps

variable {git : GitTools} {owner : RepositoryId} {defaultBranch : BranchSnapshot}
  {first second : Repository} {h h₂ : CommitHistory} {f s : PullRequestSnapshot}
  {range range₂ : PlannedRangeBase} {newBase newBase₂ : PlannedBase} {workflowSource : BranchSnapshot}
  {base : CommitOid} {m n : Rewrite} {F : Foundation} {reason : BranchRewriteReason} {flatten : Bool}

theorem prepared_satisfied (hn : prepareCandidate git second h₂ s range₂ newBase₂ workflowSource owner
    reason flatten = .ok n) : n.plan.alreadySatisfied = decide (n.plan.newHeadOid = s.head.oid) := by
  obtain ⟨_,_,_,_,_,_,_,rfl⟩ := prepareCandidate_ok.mp hn
  rfl

/-- A planned head is a commit of the plan's history, with valid names. -/
theorem outcome_valid (hout : Outcome git h f range newBase m) (hhead : validateOid f.head.oid = .ok ()) :
    validateOid m.plan.newHeadOid = .ok () ∧
      ∃ tree,m.history.treeOf m.plan.newHeadOid = some tree ∧ validateOid tree = .ok () := by
  cases hout with
  | kept _ hsame _ hhistory htree hvalid =>
    rw [hsame,hhistory]
    exact ⟨hhead,_,htree,hvalid⟩
  | @replayed _ w _ _ _ _ hnew hhistory hvalid htree _ =>
    rw [hnew,hhistory]
    exact ⟨hvalid,_,w.holds,htree⟩

theorem second_kept (hm : Inspected git second h₂ s range₂ newBase₂ workflowSource owner base)
    (hin : newBase₂.branch.oid ∈ h₂.history s.head.oid) (hhead : validateOid s.head.oid = .ok ())
    {tree : CommitOid} (htree : h₂.treeOf s.head.oid = some tree) (hvalid : validateOid tree = .ok ()) :
    ∃ n,prepareCandidate git second h₂ s range₂ newBase₂ workflowSource owner reason flatten = .ok n ∧
      n.plan.newHeadOid = s.head.oid ∧ n.replayed = [] ∧ n.history = h₂ ∧
      n.plan.alreadySatisfied = true := by
  obtain ⟨n,hn,hlinear⟩ : ∃ r,prepareCandidate git second h₂ s range₂ newBase₂ workflowSource owner reason
      flatten = .ok r ∧ r.hasMerges = false := hm.kept hin hhead htree hvalid
  obtain ⟨_,hout⟩ := of_prepared hn hlinear
  cases hout with
  | kept _ hsame hnone hhistory _ _ =>
    refine ⟨n,hn,hsame,hnone,hhistory,?_⟩
    rw [prepared_satisfied hn,hsame]
    exact decide_eq_true rfl
  | replayed hnot _ _ _ _ _ _ _ _ => exact absurd hin hnot

theorem second_replayed (hm : Inspected git second h₂ s range₂ newBase₂ workflowSource owner base)
    (hnot : newBase₂.branch.oid ∉ h₂.history s.head.oid) {commits new : List TopologyCommit}
    {tree : CommitOid} {s₂ w₂ : Worktree}
    (hreplayed : Replayed git h₂ newBase₂.branch.oid commits tree s₂ w₂ new)
    (hlist : commits = h₂.range [replayUpstream range₂ newBase₂] s.head.oid)
    (hvalid : validateOid tree = .ok ()) :
    ∃ n,prepareCandidate git second h₂ s range₂ newBase₂ workflowSource owner reason flatten = .ok n ∧
      n.plan.newHeadOid = w₂.head ∧ n.replayed = commits ∧ n.history = w₂.graph := by
  obtain ⟨n,hn,hlinear⟩ : ∃ r,prepareCandidate git second h₂ s range₂ newBase₂ workflowSource owner reason
      flatten = .ok r ∧ r.hasMerges = false := hm.replayed hnot hreplayed.checkout
    (hlist ▸ hreplayed.replay) hreplayed.valid (hreplayed.tree_eq ▸ hvalid) hreplayed.enumerable
  obtain ⟨_,hout⟩ := of_prepared hn hlinear
  cases hout with
  | kept hin _ _ _ _ _ => exact absurd hin hnot
  | @replayed s' w' _ hs hlist' hreplay hnew hhistory _ _ _ =>
    have hcommits : n.replayed = commits := hlist'.trans hlist.symm
    obtain rfl : s₂ = s' := Option.some.inj (hreplayed.checkout.symm.trans hs)
    have hsame : w₂ = w' := by
      rw [hcommits] at hreplay
      exact Option.some.inj (hreplayed.replay.symm.trans hreplay)
    exact ⟨n,hn,hsame ▸ hnew,hcommits,hsame ▸ hhistory⟩

/-- Off its base a member has its commits after the upstream replayed, whichever way. -/
theorem prepared_range (hn : prepareCandidate git second h₂ s range₂ newBase₂ workflowSource owner reason
      flatten = .ok n) (hnot : newBase₂.branch.oid ∉ h₂.history s.head.oid) :
    n.replayed = h₂.range [replayUpstream range₂ newBase₂] s.head.oid := by
  obtain ⟨_,i,_,w,replayed,hrewrite,_,rfl⟩ := prepareCandidate_ok.mp hn
  unfold rewriteHead at hrewrite
  obtain ⟨_,_,hrewrite⟩ := Guard.bind_eq_ok.mp hrewrite
  simp only [hnot,false_and,if_false] at hrewrite
  split_ifs at hrewrite
  · obtain ⟨_,_,hrewrite⟩ := Guard.bind_eq_ok.mp hrewrite
    cases hrewrite
    rfl
  · obtain ⟨_,_,hrewrite⟩ := Guard.bind_eq_ok.mp hrewrite
    cases hrewrite
    rfl

theorem Aligned.next {parent : Option Discovered}
    (hF : Founded first.history h newBase.branch.oid F) (hhead : f.head.oid ∈ first.history.names)
    (hm : Inspected git first h f range newBase defaultBranch owner base)
    (hrange : range.branch.oid = f.base.oid) (hout : Outcome git h f range newBase m)
    (hsame : SameMember defaultBranch second.branches parent f s)
    (hsource : defaultBranch.name ≠ f.head.name)
    (hsourceRef : second.branches defaultBranch.name = some defaultBranch.oid)
    {h₂ : CommitHistory} {target₂ : CommitOid} {pushedNow : Bool}
    (two : Founded first.history h₂ target₂ (F.after first.history f.head.oid))
    (within : m.history.Extends h₂) (valid : validateOid target₂ = .ok ())
    (tree : h₂.treeOf target₂ = m.history.treeOf m.plan.newHeadOid)
    (same : pushedNow = true → target₂ = m.plan.newHeadOid)
    (head : s.head.oid = if pushedNow then m.plan.newHeadOid else f.head.oid) :
    Aligned first second owner defaultBranch m.history h₂ m.plan.newHeadOid target₂ pushedNow
      (F.after first.history f.head.oid) (f,s) := by
  have hconditions := preconditions_ok.mp hm.conditions
  obtain ⟨hone,_,_⟩ := hF.next hhead hm hrange hout
  have hstays : F.stays first.history f.head.oid → m.plan.newHeadOid = f.head.oid := by
    intro hstays
    cases hout with
    | kept _ hkept _ _ _ _ => exact hkept
    | replayed hnot _ _ _ _ _ _ _ _ => exact absurd ((hF.stays_iff hhead).mp hstays) hnot
  have hvalid := (outcome_valid hout hconditions.headOid).1
  refine ⟨hone,two,within,valid,tree,same,hsame.headName,hsame.headRepository.trans hconditions.head,
    hm.lease,hsame.head,head,fun hmoved => ?_,fun hmoved => ?_,⟨hconditions.headOid,?_⟩,hsource,hsourceRef⟩
  · unfold Foundation.after at hmoved
    split_ifs at hmoved with hkept
    exact (hstays hkept).symm
  · unfold Foundation.after at hmoved ⊢
    split_ifs at hmoved ⊢ with hkept
    exact fun hin => (inspected_head_notMem hm).1 ((hF.old _ hhead).mpr hin)
  · show validateOid s.head.oid = .ok ()
    rw [head]
    split_ifs
    · exact hvalid
    · exact hconditions.headOid

end Steps

theorem childRange_branch (c : PullRequestSnapshot) (parentHead : BranchSnapshot) :
    (rangeBaseForRewrittenParent c parentHead).branch = c.base := by
  unfold rangeBaseForRewrittenParent
  split_ifs <;> rfl

section Child

variable {git : GitTools} {owner : RepositoryId} {defaultBranch : BranchSnapshot}
  {first second : Repository} {h h₂ : CommitHistory} {target target₂ : CommitOid} {k : ℕ}
  {pushedParent : Bool} {F : Foundation} {parent : Discovered} {f s : PullRequestSnapshot}
  {base b : CommitOid} {m n : Rewrite}

/-- The planned base of a child: its parent's branch at the planned head. -/
abbrev childBase (owner : RepositoryId) (parent : PullRequestSnapshot) (target : CommitOid) : PlannedBase :=
  .simulated ⟨owner,parent.head.name,target⟩

structure ChildPlan (git : GitTools) (first : Repository) (h : CommitHistory) (owner : RepositoryId)
    (defaultBranch : BranchSnapshot) (parent f : PullRequestSnapshot) (target base : CommitOid)
    (m : Rewrite) : Prop where
  linked : f.base.name = parent.head.name
  source : defaultBranch.name ≠ f.head.name
  inspected : Inspected git first h f (rangeBaseForRewrittenParent f parent.head)
    (childBase owner parent target) defaultBranch owner base
  outcome : Outcome git h f (rangeBaseForRewrittenParent f parent.head) (childBase owner parent target) m

namespace ChildPlan

variable (A : Aligned first second owner defaultBranch h h₂ target target₂ pushedParent F parent)
  (P : ChildPlan git first h owner defaultBranch parent.1 f target base m)

include A P

theorem first_fetched : first.branches f.head.name = some f.head.oid ∧
    f.base.oid ∈ h.history parent.1.head.oid := by
  obtain ⟨hhead,_,hbase,_⟩ := (fetchObjects_child P.linked A.source A.before
    (A.one.grown.names A.head_recorded)).mp P.inspected.fetched
  exact ⟨hhead,hbase⟩

theorem head_old : f.head.oid ∈ first.history.names := first.branch_names (P.first_fetched A).1

theorem base_old : f.base.oid ∈ first.history.names := by
  have hbase := (P.first_fetched A).2
  rw [A.one.grown.history A.head_recorded] at hbase
  exact CommitGraph.history_names hbase

variable (hsame : SameMember defaultBranch second.branches (some parent) f s)

include hsame

theorem second_fetched : fetchObjects second h₂ s (rangeBaseForRewrittenParent s parent.2.head)
    (childBase owner parent.1 target₂) defaultBranch = .ok () ↔
      s.base.oid ∈ h₂.history parent.2.head.oid := by
  have hlinked : s.base.name = parent.2.head.name := by
    rw [hsame.baseName,A.name,P.linked]
  have hsource : defaultBranch.name ≠ parent.2.head.name := by
    rw [A.name]
    exact A.source
  have hparent : second.branches parent.2.head.name = some parent.2.head.oid := by
    rw [A.name]
    exact A.now
  have hhead : second.branches s.head.name = some s.head.oid := by
    rw [hsame.headName]
    exact hsame.head
  rw [fetchObjects_child hlinked hsource hparent A.now_recorded]
  constructor
  · exact fun hfetched => hfetched.2.2.1
  · exact fun hin => ⟨hhead,A.two.recorded,hin,A.sourceRef⟩

theorem second_conditions (hvalid : validateOid s.head.oid = .ok ())
    (hcurrent : pushedParent = true → F.moved = true → s.base.oid = parent.2.head.oid) :
    Conditions owner s (rangeBaseForRewrittenParent s parent.2.head) (childBase owner parent.1 target₂)
      defaultBranch := by
  have hfirst := preconditions_ok.mp P.inspected.conditions
  refine ⟨hsame.crossRepository.trans hfirst.sameRepository,hsame.headRepository.trans hfirst.head,
    hsame.baseRepository.trans hfirst.base,?_,?_,rfl,hfirst.source,?_,?_,hvalid,?_,A.valid,hfirst.sourceOid⟩
  · rw [childRange_branch,hsame.baseRepository]
    exact hfirst.base
  · rw [childRange_branch]
  · unfold rangeBaseForRewrittenParent
    split_ifs
    · simp [historicalBinding,historicalParentLeaseMatches,A.repository,A.name,PlannedBase.branch,
        PlannedBase.isSimulated]
    · rfl
  · rw [hsame.headName]
    exact hfirst.branch
  · rcases A.report_cases hsame hcurrent with hnow | ⟨hreport,_⟩
    · rw [hnow]
      exact A.headValid.2
    · rw [hreport]
      exact hfirst.baseOid

/-- What the second plan must still find: one merge base, and a range of the child's own. -/
theorem second_inspected (hvalid : validateOid s.head.oid = .ok ())
    (hcurrent : pushedParent = true → F.moved = true → s.base.oid = parent.2.head.oid)
    (hbase : h₂.mergeBases s.base.oid s.head.oid = [b])
    (hown : Rangeable (h₂.range [b,target₂] s.head.oid)) :
    Inspected git second h₂ s (rangeBaseForRewrittenParent s parent.2.head)
      (childBase owner parent.1 target₂) defaultBranch owner b where
  conditions := preconditions_ok.mpr (P.second_conditions A hsame hvalid hcurrent)
  fetched := (P.second_fetched A hsame).mpr
    ((A.accepts_iff hsame (P.first_fetched A).2).mpr hcurrent)
  triggers := P.inspected.triggers
  mergeBase := hbase
  enumerable := hown.enumerable
  nonempty := hown.nonempty
  linear := hown.linear
  lease := by
    rw [hsame.headName]
    exact hsame.head

end ChildPlan

variable (pullRequests : List PullRequestSnapshot) (flattenRoot : Bool)
  (A : Aligned first second owner defaultBranch h h₂ target target₂ pushedParent F parent)
  (P : ChildPlan git first h owner defaultBranch parent.1 f target base m)
  (hsame : SameMember defaultBranch second.branches (some parent) f s)

include A P hsame in
/-- The second plan at a child that it finds done, and where both plans stand after it. -/
theorem child_kept (pushedNow : Bool)
    (hs : s.head.oid = m.plan.newHeadOid) (hext : m.history.Extends h₂) (htarget : target₂ = target)
    (hparent : parent.2.head.oid = target)
    (hcurrent : pushedParent = true → F.moved = true → s.base.oid = parent.2.head.oid)
    (hnow : s.head.oid = if pushedNow then m.plan.newHeadOid else f.head.oid) :
    ∃ n,prepareMember git owner defaultBranch pullRequests flattenRoot second h₂ (some parent.2)
        (childBase owner parent.1 target₂) s = .ok n ∧
      n.plan.alreadySatisfied = true ∧ n.replayed = [] ∧ n.history = h₂ ∧
      Aligned first second owner defaultBranch m.history h₂ m.plan.newHeadOid n.plan.newHeadOid pushedNow
        (F.after first.history f.head.oid) (f,s) := by
  subst htarget
  have hhead := P.head_old A
  have hrange : (rangeBaseForRewrittenParent f parent.1.head).branch.oid = f.base.oid := by
    rw [childRange_branch]
  have hF : Founded first.history h (childBase owner parent.1 target₂).branch.oid F := A.one
  obtain ⟨hone,hgrown,hbelow⟩ := hF.next hhead P.inspected hrange P.outcome
  have htargetNames : target₂ ∈ m.history.names := hgrown.names A.one.recorded
  have hbelow₂ : target₂ ∈ h₂.history s.head.oid := by
    rw [hs,hext.history hone.recorded]
    exact hbelow
  have haccepts : s.base.oid ∈ h₂.history target₂ := by
    rw [← hparent]
    exact (A.accepts_iff hsame (P.first_fetched A).2).mpr hcurrent
  have hbase : h₂.mergeBases s.base.oid s.head.oid = [s.base.oid] :=
    CommitGraph.mergeBases_of_ancestor (CommitGraph.history_trans hbelow₂ haccepts)
  have hcover : m.plan.newHeadOid = f.head.oid → s.base.oid ∈ h₂.history target₂ →
      base ∈ h₂.history target₂ := by
    intro hkept _
    have hin : target₂ ∈ h.history f.head.oid := by
      have hmem : target₂ ∈ m.history.history f.head.oid := hkept ▸ hbelow
      rwa [hgrown.history P.inspected.head_names] at hmem
    have hmoved : F.moved = false := ((A.one.stays_iff hhead).mpr hin).1
    have hbaseIn : base ∈ h.history f.base.oid :=
      (CommitGraph.mem_mergeBases.mp (P.inspected.mergeBase ▸ List.mem_singleton_self base)).1
    have hchain := CommitGraph.history_trans (P.first_fetched A).2 hbaseIn
    rw [A.headStayed hmoved] at hchain
    rwa [A.within.history A.one.recorded]
  have hown : Rangeable (h₂.range [s.base.oid,target₂] s.head.oid) := by
    rw [hs]
    exact again_rangeable P.inspected hrange P.outcome A.one.recorded hext (.inl haccepts) hcover
  obtain ⟨hvalid,tree,htree,htreeValid⟩ := outcome_valid P.outcome
    (preconditions_ok.mp P.inspected.conditions).headOid
  have hsvalid : validateOid s.head.oid = .ok () := hs ▸ hvalid
  have htree₂ : h₂.treeOf s.head.oid = some tree := by
    rw [hs,hext.treeOf hone.recorded,htree]
  obtain ⟨n,hn,hnew,hnone,hhistory,hdone⟩ : ∃ n,prepareCandidate git second h₂ s
      (rangeBaseForRewrittenParent s parent.2.head) (childBase owner parent.1 target₂) defaultBranch owner
      (.parentAdvanced parent.2.number) false = .ok n ∧ n.plan.newHeadOid = s.head.oid ∧
      n.replayed = [] ∧ n.history = h₂ ∧ n.plan.alreadySatisfied = true :=
    second_kept (P.second_inspected A hsame hsvalid hcurrent hbase hown) hbelow₂ hsvalid htree₂ htreeValid
  refine ⟨n,hn,hdone,hnone,hhistory,?_⟩
  rw [hnew,hs]
  refine Aligned.next hF hhead P.inspected hrange P.outcome hsame P.source A.sourceRef (hone.mono hext)
    hext hvalid ?_ (fun _ => rfl) hnow
  exact hext.treeOf hone.recorded

include A P hsame in
/-- A later plan that gets past a child took its reported base for a boundary. -/
theorem child_current
    (hn : prepareMember git owner defaultBranch pullRequests flattenRoot second h₂ (some parent.2)
      (childBase owner parent.1 target₂) s = .ok n) :
    pushedParent = true → F.moved = true → s.base.oid = parent.2.head.oid := by
  obtain ⟨_,_,hinspect,_⟩ := prepareCandidate_ok.mp hn
  have hfetched := (inspect_ok.mp hinspect).1
  exact (A.accepts_iff hsame (P.first_fetched A).2).mp ((P.second_fetched A hsame).mp hfetched)

theorem replayUpstream_child (c parentPr : PullRequestSnapshot) (parentHead : BranchSnapshot) (t : CommitOid) :
    replayUpstream (rangeBaseForRewrittenParent c parentHead) (childBase owner parentPr t) = c.base.oid := by
  show (rangeBaseForRewrittenParent c parentHead).branch.oid = _
  rw [childRange_branch]

include A P in
/-- Off its base a child is replayed at first, after its first reported base. -/
theorem ChildPlan.moves
    (hmoves : ¬ F.stays first.history f.head.oid) : target ∉ h.history f.head.oid := fun hin =>
  hmoves ((A.one.stays_iff (P.head_old A)).mpr hin)

include A P hsame in
/-- The commits that a child still has to replay are seen alike by both plans. -/
theorem boundary_iff (hcurrent : pushedParent = true → F.moved = true → s.base.oid = parent.2.head.oid) :
    h₂.range [s.base.oid] f.head.oid = h.range [f.base.oid] f.head.oid ↔
      ∀ x ∈ first.history.history f.head.oid,
        x ∈ first.history.history (reportedKept F pushedParent parent f s) ↔
          x ∈ first.history.history f.base.oid := by
  have hext := A.one.grown.trans A.within
  have hhead := P.head_old A
  have hbase := P.base_old A
  have hfirst : h₂.range [f.base.oid] f.head.oid = h.range [f.base.oid] f.head.oid :=
    A.within.range (A.one.grown.names hhead) (by simpa using A.one.grown.names hbase)
  rw [← hfirst,CommitGraph.range_eq_iff]
  refine forall_congr' fun x => ?_
  simp only [List.mem_singleton,forall_eq]
  rw [hext.history hhead,hext.history hbase]
  constructor
  · intro hiff hx
    have hold := A.reported_old hsame hbase hcurrent (CommitGraph.history_names hx)
    rw [← hold]
    constructor
    · intro hin
      by_contra hout
      exact (hiff.mpr ⟨hx,hout⟩).2 hin
    · intro hin
      by_contra hout
      exact (hiff.mp ⟨hx,hout⟩).2 hin
  · intro hiff
    refine and_congr_right fun hx => ?_
    rw [A.reported_old hsame hbase hcurrent (CommitGraph.history_names hx),hiff hx]

include A P hsame in
theorem child_replayed (hs : s.head.oid = f.head.oid) (hext : m.history.Extends h₂)
    (hmoves : ¬ F.stays first.history f.head.oid)
    (hcurrent : pushedParent = true → F.moved = true → s.base.oid = parent.2.head.oid)
    (hboundary : ∀ x ∈ first.history.history f.head.oid,
      x ∈ first.history.history (reportedKept F pushedParent parent f s) ↔
        x ∈ first.history.history f.base.oid)
    (hroom : h₂.names.length + m.replayed.length ≤ git.naming.room) :
    ∃ n,prepareMember git owner defaultBranch pullRequests flattenRoot second h₂ (some parent.2)
        (childBase owner parent.1 target₂) s = .ok n ∧ n.replayed = m.replayed ∧
      n.history.names.length = m.replayed.length + h₂.names.length ∧ h₂.Extends n.history ∧
      Aligned first second owner defaultBranch m.history n.history m.plan.newHeadOid n.plan.newHeadOid false
        (F.after first.history f.head.oid) (f,s) := by
  have hgrown := A.one.grown.trans A.within
  have hhead := P.head_old A
  have hbaseOld := P.base_old A
  have hrange : (rangeBaseForRewrittenParent f parent.1.head).branch.oid = f.base.oid := by
    rw [childRange_branch]
  have hconditions := preconditions_ok.mp P.inspected.conditions
  have hcommon : ∀ x,(x ∈ h₂.history s.base.oid ∧ x ∈ h₂.history f.head.oid) ↔
      (x ∈ h₂.history f.base.oid ∧ x ∈ h₂.history f.head.oid) := by
    intro x
    rw [hgrown.history hhead,hgrown.history hbaseOld]
    refine and_congr_left fun hx => ?_
    rw [A.reported_old hsame hbaseOld hcurrent (CommitGraph.history_names hx),hboundary x hx]
  have hmergeBase : h₂.mergeBases s.base.oid s.head.oid = [base] := by
    rw [hs,CommitGraph.mergeBases_congr hcommon]
    have hperm := A.within.mergeBases (A.one.grown.names hbaseOld) (A.one.grown.names hhead)
    rw [P.inspected.mergeBase] at hperm
    exact List.perm_singleton.mp hperm
  have hbaseNames : base ∈ h.names := CommitGraph.history_names
    (CommitGraph.mem_mergeBases.mp (P.inspected.mergeBase ▸ List.mem_singleton_self base)).1
  have htopology : h₂.range [base,target₂] s.head.oid =
      ownTopology h base (childBase owner parent.1 target).branch.oid f := by
    rw [hs]
    have hfirst : h₂.range [base,target] f.head.oid = h.range [base,target] f.head.oid := by
      refine A.within.range (A.one.grown.names hhead) fun x hx => ?_
      rcases List.mem_cons.mp hx with rfl | hx
      · exact hbaseNames
      · exact List.mem_singleton.mp hx ▸ A.one.recorded
    refine Eq.trans (CommitGraph.range_eq_iff.mpr fun x => and_congr_right fun hx => ?_) hfirst
    rw [hgrown.history hhead] at hx
    simp [A.old_iff (CommitGraph.history_names hx)]
  have hown : Rangeable (h₂.range [base,target₂] s.head.oid) := by
    rw [htopology]
    exact ⟨P.inspected.enumerable,P.inspected.nonempty,P.inspected.linear⟩
  have hinspected := P.second_inspected A hsame (hs ▸ hconditions.headOid) hcurrent hmergeBase hown
  have hnot : target₂ ∉ h₂.history s.head.oid := by
    rw [hs]
    exact fun hin => hmoves ((A.two.stays_iff hhead).mpr hin)
  have hF : Founded first.history h (childBase owner parent.1 target).branch.oid F := A.one
  obtain ⟨hone,_,_⟩ := hF.next hhead P.inspected hrange P.outcome
  cases hout : P.outcome with
  | kept hin _ _ _ _ _ => exact absurd hin (P.moves A hmoves)
  | @replayed t w _ ht hlist hreplay hnew hhistory _ htreeValid henum =>
    obtain ⟨s₂,w₂,new₂,hreplayed,hne⟩ := replay_again P.inspected hrange ht hlist hreplay henum A.within
      A.two.recorded A.tree hroom
    have hcommits : m.replayed = h₂.range [replayUpstream (rangeBaseForRewrittenParent s parent.2.head)
        (childBase owner parent.1 target₂)] s.head.oid := by
      rw [hlist,replayUpstream_child,replayUpstream_child,hs]
      exact ((boundary_iff A P hsame hcurrent).mpr hboundary).symm
    obtain ⟨n,hn,hnewHead,hlist₂,hhistory₂⟩ : ∃ n,prepareCandidate git second h₂ s
        (rangeBaseForRewrittenParent s parent.2.head) (childBase owner parent.1 target₂) defaultBranch
        owner (.parentAdvanced parent.2.number) false = .ok n ∧ n.plan.newHeadOid = w₂.head ∧
        n.replayed = m.replayed ∧ n.history = w₂.graph :=
      second_replayed hinspected hnot hreplayed hcommits htreeValid
    have hsize := hreplayed.grown.length
    rw [hreplayed.start.1,hreplayed.length] at hsize
    have hextends : h₂.Extends w₂.graph := hreplayed.start.1 ▸ hreplayed.grown.extends_graph
    refine ⟨n,hn,hlist₂,by rw [hhistory₂]; exact hsize,hhistory₂ ▸ hextends,?_⟩
    rw [hnewHead,hhistory₂]
    refine Aligned.next hF hhead P.inspected hrange P.outcome hsame P.source A.sourceRef
      (A.two.after_replayed hreplayed.start hreplayed.grown hne hmoves) (hext.trans hextends)
      hreplayed.valid ?_ (fun hfalse => nomatch hfalse) hs
    rw [hnew,hhistory,w₂.holds,w.holds,hreplayed.tree_eq]

include A P hsame in
/-- A later plan that replays what the first did has the same of the child's commits in its base. -/
theorem child_boundary (hs : s.head.oid = f.head.oid) (hmoves : ¬ F.stays first.history f.head.oid)
    (hn : prepareMember git owner defaultBranch pullRequests flattenRoot second h₂ (some parent.2)
      (childBase owner parent.1 target₂) s = .ok n) (hlist : n.replayed = m.replayed) :
    ∀ x ∈ first.history.history f.head.oid,
      x ∈ first.history.history (reportedKept F pushedParent parent f s) ↔
        x ∈ first.history.history f.base.oid := by
  have hcurrent := child_current pullRequests flattenRoot A P hsame hn
  have hnot : target₂ ∉ h₂.history s.head.oid := by
    rw [hs]
    exact fun hin => hmoves ((A.two.stays_iff (P.head_old A)).mpr hin)
  have hsecond : n.replayed = h₂.range [s.base.oid] f.head.oid := by
    rw [prepared_range hn hnot,← hs]
    exact congrArg (fun u => h₂.range [u] s.head.oid) (replayUpstream_child s parent.1 parent.2.head target₂)
  refine (boundary_iff A P hsame hcurrent).mp ?_
  rw [← hsecond,hlist]
  cases P.outcome with
  | kept hin _ _ _ _ _ => exact absurd hin (P.moves A hmoves)
  | replayed _ _ hfirst _ _ _ _ _ _ => rw [hfirst,replayUpstream_child]

inductive Heads (branches : Branches) : ℕ → List PullRequestSnapshot → List Rewrite → Prop
  | nil {k : ℕ} : Heads branches k [] []
  | cons {k : ℕ} {f : PullRequestSnapshot} {m : Rewrite} {rest : List PullRequestSnapshot}
      {members : List Rewrite} :
      branches f.head.name = some (if 0 < k then m.plan.newHeadOid else f.head.oid) →
      Heads branches (k-1) rest members → Heads branches k (f::rest) (m::members)

structure StepDone (git : GitTools) (first second : Repository) (owner : RepositoryId)
    (defaultBranch : BranchSnapshot) (h₂ : CommitHistory) (k : ℕ) (F : Foundation)
    (f s : PullRequestSnapshot) (m n : Rewrite) : Prop where
  found : if 0 < k then n.plan.alreadySatisfied = true else n.replayed = m.replayed
  length : n.history.names.length ≤ m.replayed.length + h₂.names.length
  grown : h₂.Extends n.history
  aligned : Aligned first second owner defaultBranch m.history n.history m.plan.newHeadOid n.plan.newHeadOid
    (decide (0 < k)) (F.after first.history f.head.oid) (f,s)

include A P hsame in
theorem child_step (hpush : 0 < k → pushedParent = true)
    (hhead : second.branches f.head.name = some (if 0 < k then m.plan.newHeadOid else f.head.oid))
    (hext : m.history.Extends h₂)
    (hroom : h₂.names.length + m.replayed.length ≤ git.naming.room)
    (hcondition : ChildCondition first.history k pushedParent F parent f s) :
    ∃ n,prepareMember git owner defaultBranch pullRequests flattenRoot second h₂ (some parent.2)
        (childBase owner parent.1 target₂) s = .ok n ∧
      StepDone git first second owner defaultBranch h₂ k F f s m n := by
  have hs : s.head.oid = if 0 < k then m.plan.newHeadOid else f.head.oid :=
    Option.some.inj (hsame.head.symm.trans hhead)
  by_cases hk : 0 < k
  · have hpushed := hpush hk
    rw [if_pos hk] at hs
    have hparent : parent.2.head.oid = target := by rw [A.head,if_pos hpushed]
    obtain ⟨n,hn,hdone,_,hhistory,haligned⟩ := child_kept pullRequests flattenRoot A P hsame true hs hext
      (A.same hpushed) hparent hcondition.current hs
    refine ⟨n,hn,by rw [if_pos hk]; exact hdone,by rw [hhistory]; omega,hhistory ▸ .refl h₂,?_⟩
    rw [hhistory,decide_eq_true hk]
    exact haligned
  · have hzero : k = 0 := by omega
    rw [if_neg hk] at hs
    by_cases hstays : F.stays first.history f.head.oid
    · have hmoved := hstays.1
      have hkept : m.plan.newHeadOid = f.head.oid ∧ m.replayed = [] := by
        cases P.outcome with
        | kept _ hkept hnone _ _ _ => exact ⟨hkept,hnone⟩
        | replayed hnot _ _ _ _ _ _ _ _ =>
          exact absurd ((A.one.stays_iff (P.head_old A)).mp hstays) hnot
      have hparent : parent.2.head.oid = target := (A.head_of_unmoved hmoved).trans (A.headStayed hmoved)
      obtain ⟨n,hn,_,hnone,hhistory,haligned⟩ := child_kept pullRequests flattenRoot A P hsame false
        (hs.trans hkept.1.symm) hext (A.targets_stayed hmoved) hparent hcondition.current hs
      refine ⟨n,hn,by rw [if_neg hk,hnone,hkept.2],by rw [hhistory]; omega,hhistory ▸ .refl h₂,?_⟩
      rw [hhistory,decide_eq_false hk]
      exact haligned
    · obtain ⟨n,hn,hlist,hsize,hgrown,haligned⟩ := child_replayed pullRequests flattenRoot A P hsame hs hext
        hstays hcondition.current (hcondition.boundary hzero hstays) hroom
      refine ⟨n,hn,by rw [if_neg hk]; exact hlist,hsize.le,hgrown,?_⟩
      rw [decide_eq_false hk]
      exact haligned

include A P hsame in
theorem child_condition
    (hhead : second.branches f.head.name = some (if 0 < k then m.plan.newHeadOid else f.head.oid))
    (hn : prepareMember git owner defaultBranch pullRequests flattenRoot second h₂ (some parent.2)
      (childBase owner parent.1 target₂) s = .ok n)
    (hfound : if 0 < k then n.plan.alreadySatisfied = true else n.replayed = m.replayed) :
    ChildCondition first.history k pushedParent F parent f s where
  current := child_current pullRequests flattenRoot A P hsame hn
  boundary hzero hmoves := by
    subst hzero
    have hs : s.head.oid = f.head.oid := Option.some.inj (hsame.head.symm.trans hhead)
    exact child_boundary pullRequests flattenRoot A P hsame hs hmoves hn hfound

end Child

section Run

variable {git : GitTools} {owner : RepositoryId} {defaultBranch : BranchSnapshot}
  {first second : Repository} (pullRequests : List PullRequestSnapshot) (flattenRoot : Bool)

theorem prepareMembers_cons {repository : Repository} {h : CommitHistory}
    {parent : Option PullRequestSnapshot} {target : PlannedBase} {c : PullRequestSnapshot}
    {rest : List PullRequestSnapshot} {members : List Rewrite} :
    prepareMembers git owner defaultBranch pullRequests flattenRoot repository h parent target (c::rest) =
        .ok members ↔
      ∃ m ms,prepareMember git owner defaultBranch pullRequests flattenRoot repository h parent target c =
          .ok m ∧
        prepareMembers git owner defaultBranch pullRequests flattenRoot repository m.history (some c)
          (plannedTarget owner c m) rest = .ok ms ∧ members = m::ms := by
  rw [prepareMembers]
  simp only [Guard.bind_eq_ok]
  constructor
  · intro h
    obtain ⟨m,hm,ms,hms,h⟩ := h
    cases h
    exact ⟨m,ms,hm,hms,rfl⟩
  · intro h
    obtain ⟨m,ms,hm,hms,rfl⟩ := h
    exact ⟨m,hm,ms,hms,rfl⟩

/-- From the first child on: the second plan resumes the first when every child meets its
condition. By induction along the chain, both plans aligned at each member. -/
theorem children_resume_iff {rest later : List PullRequestSnapshot} {members : List Rewrite}
    {h h₂ : CommitHistory} {target target₂ : CommitOid} {k : ℕ} {pushedParent : Bool} {F : Foundation}
    {parent : Discovered}
    (A : Aligned first second owner defaultBranch h h₂ target target₂ pushedParent F parent)
    (hpush : 0 < k → pushedParent = true)
    (hplan : prepareMembers git owner defaultBranch pullRequests flattenRoot first h (some parent.1)
      (childBase owner parent.1 target) rest = .ok members)
    (hlinear : ∀ m ∈ members,m.hasMerges = false)
    (hlinked : (parent.1::rest).IsChain fun parent child => child.base.name = parent.head.name)
    (hsource : ∀ c ∈ rest,c.head.name ≠ defaultBranch.name)
    (hresumed : Resumed defaultBranch second.branches (some parent) rest later)
    (hheads : Heads second.branches k rest members) (hobjects : ∀ m ∈ members,m.history.Extends h₂)
    (hroom : h₂.names.length + (members.map (·.replayed.length)).sum ≤ git.naming.room)
    (laterRequests : List PullRequestSnapshot) :
    (∃ found,prepareMembers git owner defaultBranch laterRequests flattenRoot second h₂ (some parent.2)
        (childBase owner parent.1 target₂) later = .ok found ∧ Resumes k members found) ↔
      ChildrenCondition first.history k pushedParent F parent rest later := by
  induction rest generalizing later members h h₂ target target₂ k pushedParent F parent with
  | nil =>
    cases hresumed
    cases hplan
    constructor
    · exact fun _ => trivial
    · exact fun _ => ⟨[],rfl,by simp [Resumes]⟩
  | cons f rest ih =>
    cases hresumed with
    | @cons _ _ s _ later hsame hrest =>
    obtain ⟨m,ms,hm,hms,rfl⟩ := (prepareMembers_cons pullRequests flattenRoot).mp hplan
    cases hheads with
    | cons hhead hheads =>
    obtain ⟨hlink,hlinked⟩ := List.isChain_cons_cons.mp hlinked
    obtain ⟨⟨base,hinspected⟩,hout⟩ := of_prepared hm (hlinear m List.mem_cons_self)
    have P : ChildPlan git first h owner defaultBranch parent.1 f target base m :=
      ⟨hlink,Ne.symm (hsource f List.mem_cons_self),hinspected,hout⟩
    have hext : m.history.Extends h₂ := hobjects m List.mem_cons_self
    rw [List.map_cons,List.sum_cons] at hroom
    have hstep : h₂.names.length + m.replayed.length ≤ git.naming.room := by omega
    -- What is left of the chain, once the second plan is past this child.
    have hnext : ∀ n,StepDone git first second owner defaultBranch h₂ k F f s m n →
        ((∃ found,prepareMembers git owner defaultBranch laterRequests flattenRoot second n.history (some s)
            (plannedTarget owner s n) later = .ok found ∧ Resumes (k-1) ms found) ↔
          ChildrenCondition first.history (k-1) (decide (0 < k)) (F.after first.history f.head.oid) (f,s)
            rest later) := by
      intro n hdone
      have hlength := hdone.length
      have htarget : plannedTarget owner s n = childBase owner f n.plan.newHeadOid := by
        show PlannedBase.simulated ⟨owner,s.head.name,_⟩ = _
        rw [hsame.headName]
      rw [htarget]
      exact ih hdone.aligned (fun hk => by simp; omega) hms
        (fun m' hm' => hlinear m' (List.mem_cons_of_mem _ hm')) hlinked
        (fun c hc => hsource c (List.mem_cons_of_mem _ hc)) hrest hheads
        (fun m' hm' => (hobjects m' (List.mem_cons_of_mem _ hm')).trans hdone.grown) (by omega)
    constructor
    · rintro ⟨found,hfound,hresumes⟩
      obtain ⟨n,ns,hn,hns,rfl⟩ := (prepareMembers_cons laterRequests flattenRoot).mp hfound
      obtain ⟨hmatch,hrestResumes⟩ := resumes_cons.mp hresumes
      have hcondition : ChildCondition first.history k pushedParent F parent f s :=
        child_condition laterRequests flattenRoot A P hsame hhead hn hmatch
      obtain ⟨n',hn',hdone⟩ := child_step laterRequests flattenRoot A P hsame hpush hhead hext hstep hcondition
      obtain rfl : n' = n := Except.ok.inj (hn'.symm.trans hn)
      exact ⟨hcondition,(hnext n' hdone).mp ⟨ns,hns,hrestResumes⟩⟩
    · rintro ⟨hcondition,hrestCondition⟩
      obtain ⟨n,hn,hdone⟩ := child_step laterRequests flattenRoot A P hsame hpush hhead hext hstep hcondition
      obtain ⟨ns,hns,hresumes⟩ := (hnext n hdone).mpr hrestCondition
      exact ⟨n::ns,(prepareMembers_cons laterRequests flattenRoot).mpr ⟨n,ns,hn,hns,rfl⟩,
        resumes_cons.mpr ⟨hdone.found,hresumes⟩⟩

end Run

end Sync
end Cara
