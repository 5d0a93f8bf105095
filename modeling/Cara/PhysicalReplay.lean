import Cara.Lib.CommitGraph
import Cara.PhysicalRebase

/-! Preparation of one member's rewrite against the history of the repository: which commits are
the member's own, whether they already lie on the new base, and their replay where they do not. -/
namespace Cara
namespace PhysicalRebase

abbrev CommitHistory := CommitGraph CommitOid CommitOid

abbrev Worktree := Checkout CommitOid CommitOid

abbrev TopologyCommit := Commit CommitOid CommitOid

structure Repository where
  history : CommitHistory
  branches : String → Option CommitOid
  pullHeads : PrNumber → Option CommitOid
  branch_names : ∀ {name oid},branches name = some oid → oid ∈ history.names
  pull_names : ∀ {pr oid},pullHeads pr = some oid → oid ∈ history.names

def Repository.ofRefs (history : CommitHistory) (refs : List (String × CommitOid))
    (h : ∀ r ∈ refs,r.2 ∈ history.names) : Repository where
  history := history
  branches name := (refs.find? fun r => decide (r.1 = name)).map (·.2)
  pullHeads _ := none
  branch_names hname := by
    obtain ⟨r,hr,rfl⟩ := Option.map_eq_some_iff.mp hname
    exact h r (List.mem_of_find?_eq_some hr)
  pull_names hnone := nomatch hnone

/-- What Git makes of contents: names for new commits, merged trees, the triggers of the default
branch's workflows, and the rewrite of a range that holds merges. -/
structure GitTools where
  naming : CommitGraph.Naming CommitOid
  named : ∀ taken : List CommitOid,taken.length < naming.room → validateOid (naming.mint taken) = .ok ()
  pick : Option CommitOid → CommitOid → CommitOid → Option CommitOid
  ciTriggers : BranchSnapshot → String → Except RebaseError (List String)
  rewriteMerges : Bool → CommitHistory → CommitOid → CommitOid → CommitOid → Except RebaseError Worktree

section Objects

variable (repository : Repository) (history : CommitHistory)

def fetchExact (snapshot : BranchSnapshot) : Except RebaseError Unit :=
  Guard.refuse (decide (repository.branches snapshot.name ≠ some snapshot.oid))
    (decision "rebase_stale_lease" "remote branch moved since discovery; refusing to simulate or force it"
      [("branch",snapshot.name),("expected_oid",snapshot.oid),
        ("actual_oid",(repository.branches snapshot.name).getD ""),("resumable","true")])

def fetchExactPullRequestHead (pr : PrNumber) (snapshot : BranchSnapshot) : Except RebaseError Unit :=
  Guard.refuse (decide (repository.pullHeads pr ≠ some snapshot.oid))
    (decision "rebase_stale_lease"
      "merged predecessor pull-request head moved or does not match the retained boundary"
      [("pr",toString pr),("expected_oid",snapshot.oid),
        ("actual_oid",(repository.pullHeads pr).getD ""),("resumable","true")])

def retainHistoricalTargetBase (historical current : BranchSnapshot) : Except RebaseError Unit := do
  Guard.refuse (decide (historical.oid ∉ history.names))
    (decision "rebase_historical_base_missing" ("the provider-retained old target generation is " ++
        "unavailable after fetching the current target branch")
      [("branch",historical.name),("historical_oid",historical.oid),("current_oid",current.oid),
        ("resumable","true"),("next","rediscover provider state; do not guess or weaken the lease")])
  Guard.refuse (decide (historical.oid ∉ history.history current.oid))
    (decision "rebase_target_history_changed"
      "the current target branch is not a descendant of the PR's retained base generation"
      [("branch",historical.name),("historical_oid",historical.oid),("current_oid",current.oid),
        ("resumable","true"),
        ("next","inspect the default-branch rewrite and rediscover before retrying")])

def fetchNewBase (candidate : PullRequestSnapshot) : PlannedBase → Except RebaseError Unit
  | .remote branch =>
      if branch.name ≠ candidate.base.name ∨ branch.oid ≠ candidate.base.oid then
        fetchExact repository branch
      else .ok ()
  | .simulated branch => Guard.refuse (decide (branch.oid ∉ history.names))
      (decision "rebase_simulated_parent_missing" "planned parent object is not retained locally" [])

def fetchRange : PlannedRangeBase → Except RebaseError Unit
  | .remoteBranch branch => fetchExact repository branch
  | .historicalTargetBranch branch current | .historicalSourceBranch branch current =>
      retainHistoricalTargetBase history branch current
  | .historicalParentBranch branch current => do
      fetchExact repository current
      retainHistoricalTargetBase history branch current
  | .pullRequestHead pr branch => fetchExactPullRequestHead repository pr branch

/-- Every object that the rewrite reads is there, at the revision that was discovered. -/
def fetchObjects (candidate : PullRequestSnapshot) (rangeSource : PlannedRangeBase)
    (newBase : PlannedBase) (workflowSource : BranchSnapshot) : Except RebaseError Unit := do
  fetchExact repository candidate.head
  fetchNewBase repository history candidate newBase
  fetchRange repository history rangeSource
  if workflowSource.name ≠ candidate.base.name ∨ workflowSource.oid ≠ candidate.base.oid then
    fetchExact repository workflowSource

end Objects

section Topology

def maxMergePreservingCommits : ℕ := 256

def collectRangeTopology (history : CommitHistory) (boundaries : List CommitOid) (head : CommitOid) :
    Except RebaseError (List TopologyCommit) := do
  let commits := history.range boundaries head
  Guard.refuse (decide (maxMergePreservingCommits < commits.length))
    (decision "rebase_topology_limit" "candidate topology exceeds the audited merge-preserving bound"
      [("commits",toString commits.length),("limit",toString maxMergePreservingCommits),
        ("resumable","true")])
  Guard.refuse (commits.any fun c => decide (2 < c.parents.length))
    (decision "rebase_unsupported_octopus"
      "merge-preserving rewrite supports only bounded two-parent topology" [("resumable","true")])
  return commits

def isMerge (c : TopologyCommit) : Bool := decide (c.parents.length = 2)

structure Inspection where
  rangeBase : CommitOid
  topology : List TopologyCommit
  ciTriggerWorkflows : List String

def Inspection.hasMerges (i : Inspection) : Bool := i.topology.any isMerge

def rangeAmbiguous (candidate : PullRequestSnapshot) : RebaseError :=
  decision "rebase_range_ambiguous"
    "candidate and exact provider base do not have one unambiguous merge base"
    [("pr",toString candidate.number),("resumable","true")]

def uniqueMergeBase (history : CommitHistory) (candidate : PullRequestSnapshot) :
    Except RebaseError CommitOid :=
  match history.mergeBases candidate.base.oid candidate.head.oid with
  | [rangeBase] => .ok rangeBase
  | _ => .error (rangeAmbiguous candidate)

variable (git : GitTools) (repository : Repository) (history : CommitHistory)
  (candidate : PullRequestSnapshot) (rangeSource : PlannedRangeBase) (newBase : PlannedBase)
  (workflowSource : BranchSnapshot)

def inspect : Except RebaseError Inspection := do
  fetchObjects repository history candidate rangeSource newBase workflowSource
  let ciTriggerWorkflows ← git.ciTriggers workflowSource newBase.branch.name
  let rangeBase ← uniqueMergeBase history candidate
  let topology ← collectRangeTopology history [rangeBase,newBase.branch.oid] candidate.head.oid
  Guard.refuse topology.isEmpty
    (decision "rebase_empty_patch_range" "candidate has no commits beyond its exact old base"
      [("pr",toString candidate.number),("resumable","true")])
  return ⟨rangeBase,topology,ciTriggerWorkflows⟩

/-- The commits that are replayed are those that this commit does not contain: on a planned base
the member's own boundary, on a remote one the base itself. -/
def replayUpstream : CommitOid :=
  if newBase.isSimulated then rangeSource.branch.oid else newBase.branch.oid

def changesOf (commits : List TopologyCommit) : List (Option CommitOid × CommitOid) :=
  commits.map fun c => (history.parentTree c,c.tree)

def rebaseConflict : RebaseError :=
  decision "rebase_conflict"
    "candidate-only commits do not rebase cleanly; no remote or provider mutation was attempted"
    [("pr",toString candidate.number),("resumable","true"),
      ("next","repair the branch and rerun the same command")]

def checkout (oid : CommitOid) : Except RebaseError Worktree :=
  match Checkout.of? history oid with
  | some worktree => .ok worktree
  | none => .error (decision "rebase_worktree_failed" "could not create an isolated temporary worktree" [])

def replayOnto (commits : List TopologyCommit) : Except RebaseError Worktree :=
  match (Checkout.of? history newBase.branch.oid).bind fun target =>
      target.replay git.naming git.pick (changesOf history commits) with
  | some rewritten => .ok rewritten
  | none => .error (rebaseConflict candidate)

/-- The rewritten head with the commits that were replayed to get there. A head that already
contains the new base is kept, unless a root that is squashed anyway is to be flattened. -/
def rewriteHead (flatten : Bool) (i : Inspection) : Except RebaseError (Worktree × List TopologyCommit) := do
  let worktree ← checkout history candidate.head.oid
  let upstream := replayUpstream rangeSource newBase
  let replayed := history.range [upstream] candidate.head.oid
  if newBase.branch.oid ∈ history.history candidate.head.oid ∧
      ¬ (flatten = true ∧ i.hasMerges = true) then
    return (worktree,[])
  else if i.hasMerges then
    return (← git.rewriteMerges flatten history newBase.branch.oid upstream candidate.head.oid,replayed)
  else
    return (← replayOnto git history candidate newBase replayed,replayed)

/-- The result is resolved and, where it is new, enumerated again; then the push is tried without
effect. -/
def verifyRewrite (worktree : Worktree) : Except RebaseError Unit := do
  validateOid worktree.head
  validateOid worktree.tree
  if worktree.head ≠ candidate.head.oid then
    let _ ← collectRangeTopology worktree.graph [newBase.branch.oid] worktree.head
  Guard.refuse (decide (repository.branches candidate.head.name ≠ some candidate.head.oid))
    (decision "rebase_push_preflight_failed"
      "push permission, branch ownership, or exact lease preflight failed" [])

structure Rewrite where
  plan : RebasePlan
  hasMerges : Bool
  replayed : List TopologyCommit
  history : CommitHistory

def prepareCandidate (owner : RepositoryId) (reason : BranchRewriteReason) (flatten : Bool) :
    Except RebaseError Rewrite := do
  preconditions owner candidate rangeSource newBase workflowSource
  let i ← inspect git repository history candidate rangeSource newBase workflowSource
  let (worktree,replayed) ← rewriteHead git history candidate rangeSource newBase flatten i
  verifyRewrite repository candidate newBase worktree
  return {
    plan := planOf candidate rangeSource newBase reason
      ⟨i.rangeBase,worktree.head,worktree.tree,i.topology.length,i.ciTriggerWorkflows⟩
    hasMerges := i.hasMerges
    replayed := replayed
    history := worktree.graph }

end Topology

section Specs

variable {git : GitTools} {repository : Repository} {history : CommitHistory}
  {candidate : PullRequestSnapshot} {rangeSource : PlannedRangeBase} {newBase : PlannedBase}
  {workflowSource : BranchSnapshot}

structure Enumerable (commits : List TopologyCommit) : Prop where
  length : commits.length ≤ maxMergePreservingCommits
  parents : ∀ c ∈ commits,c.parents.length ≤ 2

theorem Enumerable.sublist {commits commits' : List TopologyCommit} (h : Enumerable commits)
    (hsub : commits'.Sublist commits) : Enumerable commits' where
  length := hsub.length_le.trans h.length
  parents c hc := h.parents c (hsub.subset hc)

theorem collectRangeTopology_ok {boundaries : List CommitOid} {head : CommitOid}
    {commits : List TopologyCommit} : collectRangeTopology history boundaries head = .ok commits ↔
      commits = history.range boundaries head ∧ Enumerable (history.range boundaries head) := by
  unfold collectRangeTopology
  simp only [Guard.refuse_bind_eq_ok,decide_eq_false_iff_not,not_lt,List.any_eq_false,
    decide_eq_true_eq]
  constructor
  · intro h
    obtain ⟨hlength,hparents,h⟩ := h
    cases h
    exact ⟨rfl,hlength,hparents⟩
  · intro h
    obtain ⟨rfl,hlength,hparents⟩ := h
    exact ⟨hlength,hparents,rfl⟩

theorem uniqueMergeBase_ok {base : CommitOid} : uniqueMergeBase history candidate = .ok base ↔
    history.mergeBases candidate.base.oid candidate.head.oid = [base] := by
  unfold uniqueMergeBase
  split
  · rename_i rangeBase hbases
    rw [hbases]
    simp
  · rename_i hbases
    constructor
    · intro h
      cases h
    · intro h
      exact absurd h (hbases base)

/-- The commits between the boundaries and the head that the candidate is asked about. -/
def ownTopology (history : CommitHistory) (base target : CommitOid) (candidate : PullRequestSnapshot) :
    List TopologyCommit := history.range [base,target] candidate.head.oid

theorem inspect_ok {i : Inspection} :
    inspect git repository history candidate rangeSource newBase workflowSource = .ok i ↔
      fetchObjects repository history candidate rangeSource newBase workflowSource = .ok () ∧
      git.ciTriggers workflowSource newBase.branch.name = .ok i.ciTriggerWorkflows ∧
      history.mergeBases candidate.base.oid candidate.head.oid = [i.rangeBase] ∧
      i.topology = ownTopology history i.rangeBase newBase.branch.oid candidate ∧
      Enumerable i.topology ∧ i.topology ≠ [] := by
  unfold inspect
  rw [Guard.unit_bind_eq_ok]
  simp only [Guard.bind_eq_ok,uniqueMergeBase_ok,collectRangeTopology_ok]
  constructor
  · intro h
    obtain ⟨hfetch,triggers,htriggers,base,hbase,topology,⟨rfl,henum⟩,_,hempty,h⟩ := h
    cases h
    exact ⟨hfetch,htriggers,hbase,rfl,henum,by simpa using hempty⟩
  · intro h
    obtain ⟨hfetch,htriggers,hbase,htopology,henum,hempty⟩ := h
    refine ⟨hfetch,_,htriggers,_,hbase,i.topology,⟨htopology,?_⟩,(),by simpa using hempty,rfl⟩
    rw [htopology] at henum
    exact henum

theorem prepareCandidate_ok {owner : RepositoryId} {reason : BranchRewriteReason} {flatten : Bool}
    {r : Rewrite} :
    prepareCandidate git repository history candidate rangeSource newBase workflowSource owner reason
        flatten = .ok r ↔
      preconditions owner candidate rangeSource newBase workflowSource = .ok () ∧
      ∃ i,inspect git repository history candidate rangeSource newBase workflowSource = .ok i ∧
      ∃ worktree replayed,
        rewriteHead git history candidate rangeSource newBase flatten i = .ok (worktree,replayed) ∧
        verifyRewrite repository candidate newBase worktree = .ok () ∧
        r = ⟨planOf candidate rangeSource newBase reason
          ⟨i.rangeBase,worktree.head,worktree.tree,i.topology.length,i.ciTriggerWorkflows⟩,
          i.hasMerges,replayed,worktree.graph⟩ := by
  unfold prepareCandidate
  rw [Guard.unit_bind_eq_ok]
  simp only [Guard.bind_eq_ok,Prod.exists]
  refine and_congr Iff.rfl (exists_congr fun i => and_congr Iff.rfl (exists_congr fun w =>
    exists_congr fun replayed => and_congr Iff.rfl ?_))
  constructor
  · intro h
    obtain ⟨_,hverify,h⟩ := h
    cases h
    exact ⟨hverify,rfl⟩
  · intro h
    obtain ⟨hverify,rfl⟩ := h
    exact ⟨(),hverify,rfl⟩

theorem verifyRewrite_ok {worktree : Worktree} :
    verifyRewrite repository candidate newBase worktree = .ok () ↔
      validateOid worktree.head = .ok () ∧ validateOid worktree.tree = .ok () ∧
      (worktree.head ≠ candidate.head.oid →
        Enumerable (worktree.graph.range [newBase.branch.oid] worktree.head)) ∧
      repository.branches candidate.head.name = some candidate.head.oid := by
  unfold verifyRewrite
  rw [Guard.unit_bind_eq_ok,Guard.unit_bind_eq_ok]
  refine and_congr Iff.rfl (and_congr Iff.rfl ?_)
  by_cases hsame : worktree.head = candidate.head.oid
  · simp [hsame]
  · simp [hsame,Guard.bind_eq_ok,collectRangeTopology_ok]

section Rewrite

variable {flatten : Bool} {i : Inspection} {worktree : Worktree} {replayed : List TopologyCommit}

theorem checkout_ok {oid : CommitOid} : checkout history oid = .ok worktree ↔
    Checkout.of? history oid = some worktree := by
  unfold checkout
  cases Checkout.of? history oid with
  | none => simp
  | some s => simp

theorem rewriteHead_kept (hlinear : i.hasMerges = false)
    (h : newBase.branch.oid ∈ history.history candidate.head.oid) :
    rewriteHead git history candidate rangeSource newBase flatten i = .ok (worktree,replayed) ↔
      Checkout.of? history candidate.head.oid = some worktree ∧ replayed = [] := by
  unfold rewriteHead
  simp only [Guard.bind_eq_ok,checkout_ok]
  rw [hlinear]
  simp only [h,Bool.false_eq_true,and_false,not_false_iff,and_self,if_true]
  constructor
  · intro h
    obtain ⟨s,hs,h⟩ := h
    cases h
    exact ⟨hs,rfl⟩
  · intro h
    obtain ⟨hs,rfl⟩ := h
    exact ⟨_,hs,rfl⟩

theorem rewriteHead_replayed (hlinear : i.hasMerges = false)
    (h : newBase.branch.oid ∉ history.history candidate.head.oid) :
    rewriteHead git history candidate rangeSource newBase flatten i = .ok (worktree,replayed) ↔
      candidate.head.oid ∈ history.names ∧
      replayed = history.range [replayUpstream rangeSource newBase] candidate.head.oid ∧
      ∃ target,Checkout.of? history newBase.branch.oid = some target ∧
        target.replay git.naming git.pick (changesOf history replayed) = some worktree := by
  unfold rewriteHead replayOnto
  simp only [Guard.bind_eq_ok,checkout_ok]
  rw [hlinear]
  simp only [h,false_and,if_false,Bool.false_eq_true,Guard.bind_eq_ok]
  constructor
  · intro h
    obtain ⟨s,hs,w,hw,h⟩ := h
    cases h
    split at hw
    · rename_i rewritten hreplay
      cases hw
      obtain ⟨target,htarget,hreplay⟩ := Option.bind_eq_some_iff.mp hreplay
      obtain ⟨hgraph,hhead⟩ := Checkout.of?_eq_some hs
      exact ⟨hhead ▸ hgraph ▸ s.head_names,rfl,target,htarget,hreplay⟩
    · cases hw
  · intro h
    obtain ⟨hhead,rfl,target,htarget,hreplay⟩ := h
    obtain ⟨s,hs⟩ := Checkout.of?_of_names hhead
    refine ⟨s,hs,worktree,?_,rfl⟩
    rw [Option.bind_eq_some_iff.mpr ⟨target,htarget,hreplay⟩]

end Rewrite

end Specs

section Outcome

variable (git : GitTools) (repository : Repository) (history : CommitHistory)
  (candidate : PullRequestSnapshot) (rangeSource : PlannedRangeBase) (newBase : PlannedBase)
  (workflowSource : BranchSnapshot) (owner : RepositoryId)

structure Inspected (base : CommitOid) : Prop where
  conditions : preconditions owner candidate rangeSource newBase workflowSource = .ok ()
  fetched : fetchObjects repository history candidate rangeSource newBase workflowSource = .ok ()
  triggers : ∃ names,git.ciTriggers workflowSource newBase.branch.name = .ok names
  mergeBase : history.mergeBases candidate.base.oid candidate.head.oid = [base]
  enumerable : Enumerable (ownTopology history base newBase.branch.oid candidate)
  nonempty : ownTopology history base newBase.branch.oid candidate ≠ []
  linear : ∀ c ∈ ownTopology history base newBase.branch.oid candidate,isMerge c = false
  lease : repository.branches candidate.head.name = some candidate.head.oid

inductive Outcome (r : Rewrite) : Prop
  | kept {tree : CommitOid} : newBase.branch.oid ∈ history.history candidate.head.oid →
      r.plan.newHeadOid = candidate.head.oid → r.replayed = [] → r.history = history →
      history.treeOf candidate.head.oid = some tree → validateOid tree = .ok () → Outcome r
  | replayed {target worktree : Worktree} : newBase.branch.oid ∉ history.history candidate.head.oid →
      Checkout.of? history newBase.branch.oid = some target →
      r.replayed = history.range [replayUpstream rangeSource newBase] candidate.head.oid →
      target.replay git.naming git.pick (changesOf history r.replayed) = some worktree →
      r.plan.newHeadOid = worktree.head → r.history = worktree.graph →
      validateOid worktree.head = .ok () → validateOid worktree.tree = .ok () →
      Enumerable (worktree.graph.range [newBase.branch.oid] worktree.head) → Outcome r

variable {git repository history candidate rangeSource newBase workflowSource owner}
  {reason : BranchRewriteReason} {flatten : Bool} {r : Rewrite} {base : CommitOid}

theorem Inspected.head_names (h : Inspected git repository history candidate rangeSource newBase
    workflowSource owner base) : candidate.head.oid ∈ history.names := by
  obtain ⟨c,hc⟩ := List.exists_mem_of_ne_nil _ h.nonempty
  exact CommitGraph.names_of_history (CommitGraph.mem_range.mp hc).2.1

theorem of_prepared (h : prepareCandidate git repository history candidate rangeSource newBase
      workflowSource owner reason flatten = .ok r) (hlinear : r.hasMerges = false) :
    (∃ base,Inspected git repository history candidate rangeSource newBase workflowSource owner base) ∧
      Outcome git history candidate rangeSource newBase r := by
  obtain ⟨hconditions,i,hinspect,worktree,replayed,hrewrite,hverify,rfl⟩ := prepareCandidate_ok.mp h
  obtain ⟨hfetched,htriggers,hbase,htopology,henum,hnonempty⟩ := inspect_ok.mp hinspect
  obtain ⟨hhead,htree,hnew,hlease⟩ := verifyRewrite_ok.mp hverify
  have hlinear' : i.hasMerges = false := hlinear
  rw [htopology] at henum hnonempty
  have hinspected : Inspected git repository history candidate rangeSource newBase workflowSource owner
      i.rangeBase := by
    refine ⟨hconditions,hfetched,⟨_,htriggers⟩,hbase,henum,hnonempty,?_,hlease⟩
    rw [← htopology]
    simpa [Inspection.hasMerges] using hlinear'
  refine ⟨⟨_,hinspected⟩,?_⟩
  by_cases hin : newBase.branch.oid ∈ history.history candidate.head.oid
  · obtain ⟨hs,rfl⟩ := (rewriteHead_kept hlinear' hin).mp hrewrite
    obtain ⟨hgraph,hsame⟩ := Checkout.of?_eq_some hs
    have hholds := worktree.holds
    rw [hgraph,hsame] at hholds
    exact .kept hin hsame rfl hgraph hholds htree
  · obtain ⟨hnames,rfl,target,htarget,hreplay⟩ := (rewriteHead_replayed hlinear' hin).mp hrewrite
    obtain ⟨hgraph,hat⟩ := Checkout.of?_eq_some htarget
    obtain ⟨_,new,hgrown,_⟩ := Checkout.replay_grown hreplay
    have hmoved : worktree.head ≠ candidate.head.oid := by
      intro heq
      rcases hgrown.head with ⟨_,hsame⟩ | hfresh
      · rw [heq,hat] at hsame
        exact hin (hsame ▸ CommitGraph.history_self hnames)
      · exact hgrown.fresh hfresh (hgraph ▸ heq ▸ hnames)
    exact .replayed hin htarget rfl hreplay rfl rfl hhead htree (hnew hmoved)

theorem Inspected.kept (h : Inspected git repository history candidate rangeSource newBase workflowSource
      owner base) (hin : newBase.branch.oid ∈ history.history candidate.head.oid)
    (hhead : validateOid candidate.head.oid = .ok ()) {tree : CommitOid}
    (htree : history.treeOf candidate.head.oid = some tree) (hvalid : validateOid tree = .ok ()) :
    ∃ r,prepareCandidate git repository history candidate rangeSource newBase workflowSource owner reason
        flatten = .ok r ∧ r.hasMerges = false := by
  obtain ⟨triggers,htriggers⟩ := h.triggers
  obtain ⟨worktree,hs⟩ := Checkout.of?_of_names h.head_names
  obtain ⟨hgraph,hsame⟩ := Checkout.of?_eq_some hs
  have hlinear : Inspection.hasMerges ⟨base,ownTopology history base newBase.branch.oid candidate,triggers⟩ = false := by
    simpa [Inspection.hasMerges] using h.linear
  have htree' : worktree.tree = tree := by
    have hholds := worktree.holds
    rw [hgraph,hsame,htree] at hholds
    exact (Option.some.inj hholds).symm
  refine ⟨_,prepareCandidate_ok.mpr ⟨h.conditions,_,inspect_ok.mpr ⟨h.fetched,htriggers,h.mergeBase,rfl,
    h.enumerable,h.nonempty⟩,worktree,[],(rewriteHead_kept hlinear hin).mpr ⟨hs,rfl⟩,
    verifyRewrite_ok.mpr ⟨hsame ▸ hhead,htree' ▸ hvalid,fun hne => absurd hsame hne,h.lease⟩,rfl⟩,hlinear⟩

theorem Inspected.replayed (h : Inspected git repository history candidate rangeSource newBase
      workflowSource owner base) (hin : newBase.branch.oid ∉ history.history candidate.head.oid)
    {target worktree : Worktree} (htarget : Checkout.of? history newBase.branch.oid = some target)
    (hreplay : target.replay git.naming git.pick (changesOf history
      (history.range [replayUpstream rangeSource newBase] candidate.head.oid)) = some worktree)
    (hhead : validateOid worktree.head = .ok ()) (htree : validateOid worktree.tree = .ok ())
    (henum : Enumerable (worktree.graph.range [newBase.branch.oid] worktree.head)) :
    ∃ r,prepareCandidate git repository history candidate rangeSource newBase workflowSource owner reason
        flatten = .ok r ∧ r.hasMerges = false := by
  obtain ⟨triggers,htriggers⟩ := h.triggers
  have hlinear : Inspection.hasMerges ⟨base,ownTopology history base newBase.branch.oid candidate,triggers⟩ = false := by
    simpa [Inspection.hasMerges] using h.linear
  exact ⟨_,prepareCandidate_ok.mpr ⟨h.conditions,_,inspect_ok.mpr ⟨h.fetched,htriggers,h.mergeBase,rfl,
    h.enumerable,h.nonempty⟩,worktree,_,(rewriteHead_replayed hlinear hin).mpr
    ⟨h.head_names,rfl,target,htarget,hreplay⟩,verifyRewrite_ok.mpr ⟨hhead,htree,fun _ => henum,h.lease⟩,
    rfl⟩,hlinear⟩

end Outcome

end PhysicalRebase
end Cara
