import Cara.PhysicalReplay

/-! The commits that a rebase is asked to replay beside those that the plan of a rewrite counts. -/
namespace Cara
namespace PhysicalRebase

section Asked

variable (git : GitTools) (repository : Repository) (history : CommitHistory)
  (candidate : PullRequestSnapshot) (rangeSource : PlannedRangeBase) (newBase : PlannedBase)
  (workflowSource : BranchSnapshot) (owner : RepositoryId) (flatten : Bool)

/-- A linear candidate that does not contain its new base yet: `git rebase` is run on it. -/
structure Rebased (i : Inspection) : Prop where
  conditions : preconditions owner candidate rangeSource newBase workflowSource = .ok ()
  inspected : inspect git repository history candidate rangeSource newBase workflowSource = .ok i
  linear : i.hasMerges = false
  moved : newBase.branch.oid ∉ history.history candidate.head.oid

/-- The commits of the head that the upstream of the rebase does not contain. -/
def askedToReplay : List TopologyCommit :=
  history.range [replayUpstream rangeSource newBase] candidate.head.oid

/-- Of the provider base and the new base, the one that the rebase does not exclude shares nothing with
the head that the other lacks. -/
def BoundariesAgree : Prop :=
  if newBase.isSimulated = true then
    ∀ k ∈ history.history candidate.head.oid,k ∈ history.history newBase.branch.oid →
      k ∈ history.history candidate.base.oid
  else ∀ k ∈ history.history candidate.head.oid,k ∈ history.history candidate.base.oid →
    k ∈ history.history newBase.branch.oid

variable {git repository history candidate rangeSource newBase workflowSource owner flatten} {i : Inspection}

theorem boundary_of_preconditions
    (h : preconditions owner candidate rangeSource newBase workflowSource = .ok ()) :
    rangeSource.branch.oid = candidate.base.oid := by
  have hfirst := (Guard.unit_bind_eq_ok.mp h).1
  rw [Guard.refuse_eq_ok,decide_eq_false_iff_not] at hfirst
  by_contra hne
  exact hfirst (by simp [hne])

/-- A unique merge base excludes of the head what the provider base does. -/
theorem mem_rangeBase_iff (h : history.mergeBases candidate.base.oid candidate.head.oid = [i.rangeBase])
    {k : CommitOid} (hk : k ∈ history.history candidate.head.oid) :
    k ∈ history.history i.rangeBase ↔ k ∈ history.history candidate.base.oid := by
  have hbase := CommitGraph.mem_mergeBases.mp (h ▸ List.mem_singleton_self i.rangeBase)
  exact ⟨fun hin => CommitGraph.history_trans hbase.1 hin,fun hin => CommitGraph.mem_of_mergeBases_eq h hin hk⟩

theorem rewriteHead_asks (h : Rebased git repository history candidate rangeSource newBase workflowSource owner i) :
    rewriteHead git history candidate rangeSource newBase flatten i =
      (replayOnto git history candidate newBase (askedToReplay history candidate rangeSource newBase)).map
        (·,askedToReplay history candidate rangeSource newBase) := by
  obtain ⟨_,_,_,htopology,_,hnonempty⟩ := inspect_ok.mp h.inspected
  obtain ⟨c,hc⟩ := List.exists_mem_of_ne_nil _ hnonempty
  have hhead : candidate.head.oid ∈ history.names :=
    CommitGraph.names_of_history (CommitGraph.mem_range.mp (htopology ▸ hc)).2.1
  obtain ⟨s,hs⟩ := Checkout.of?_of_names hhead
  have hkept : ¬(newBase.branch.oid ∈ history.history candidate.head.oid ∧ ¬(flatten = true ∧ i.hasMerges = true)) :=
    fun hin => h.moved hin.1
  unfold rewriteHead
  rw [checkout_ok.mpr hs]
  dsimp only [bind,Except.bind]
  rw [if_neg hkept,h.linear]
  show (replayOnto git history candidate newBase (askedToReplay history candidate rangeSource newBase) >>=
    fun w => pure (w,askedToReplay history candidate rangeSource newBase)) = _
  cases replayOnto git history candidate newBase (askedToReplay history candidate rangeSource newBase) <;> rfl

theorem asked_eq_topology_iff
    (h : Rebased git repository history candidate rangeSource newBase workflowSource owner i) :
    askedToReplay history candidate rangeSource newBase = i.topology ↔
      BoundariesAgree history candidate newBase := by
  obtain ⟨_,_,hbase,htopology,_,_⟩ := inspect_ok.mp h.inspected
  rw [htopology]
  unfold askedToReplay ownTopology BoundariesAgree replayUpstream
  rw [CommitGraph.range_eq_iff,boundary_of_preconditions h.conditions]
  simp only [forall_eq,List.mem_cons,List.not_mem_nil,or_false,forall_eq_or_imp]
  have hshared := fun k hk => mem_rangeBase_iff (i := i) hbase (k := k) hk
  split
  · constructor
    · intro hsame k hhead htarget
      by_contra hout
      exact ((hsame k).mp ⟨hhead,hout⟩).2.2 htarget
    · intro hagree k
      refine and_congr_right fun hhead => ?_
      rw [hshared k hhead]
      exact ⟨fun hout => ⟨hout,fun htarget => hout (hagree k hhead htarget)⟩,And.left⟩
  · constructor
    · intro hsame k hhead hin
      by_contra hout
      exact ((hsame k).mp ⟨hhead,hout⟩).2.1 ((hshared k hhead).mpr hin)
    · intro hagree k
      refine and_congr_right fun hhead => ?_
      rw [hshared k hhead]
      exact ⟨fun hout => ⟨fun hin => hout (hagree k hhead hin),hout⟩,And.right⟩

/-- The rebase is asked for the counted commits exactly where the two boundaries agree on the head. -/
theorem replayed_range_iff
    (h : Rebased git repository history candidate rangeSource newBase workflowSource owner i) :
    (i.topology = history.range [i.rangeBase,newBase.branch.oid] candidate.head.oid ∧
      rewriteHead git history candidate rangeSource newBase flatten i =
        (replayOnto git history candidate newBase (askedToReplay history candidate rangeSource newBase)).map
          (·,askedToReplay history candidate rangeSource newBase)) ∧
      (∀ reason r,prepareCandidate git repository history candidate rangeSource newBase workflowSource owner
        reason flatten = .ok r → r.replayed = askedToReplay history candidate rangeSource newBase ∧
          r.plan.commitCount = i.topology.length) ∧
      (askedToReplay history candidate rangeSource newBase = i.topology ↔
        BoundariesAgree history candidate newBase) := by
  refine ⟨⟨(inspect_ok.mp h.inspected).2.2.2.1,rewriteHead_asks h⟩,fun reason r hr => ?_,asked_eq_topology_iff h⟩
  obtain ⟨_,found,hfound,worktree,replayed,hrewrite,_,rfl⟩ := prepareCandidate_ok.mp hr
  cases hfound.symm.trans h.inspected
  rw [rewriteHead_asks h] at hrewrite
  cases hreplay : replayOnto git history candidate newBase (askedToReplay history candidate rangeSource newBase) with
  | error e =>
    rw [hreplay] at hrewrite
    cases hrewrite
  | ok rewritten =>
    rw [hreplay] at hrewrite
    cases hrewrite
    exact ⟨rfl,rfl⟩

end Asked

section Promoted

def oldMain : CommitOid := "d000000000000000000000000000000000000000"
def landedMain : CommitOid := "d111111111111111111111111111111111111111"
def landedHead : CommitOid := "b000000000000000000000000000000000000000"
def promotedHead : CommitOid := "b111111111111111111111111111111111111111"

/-- The predecessor at `landedHead` landed on the default branch as one new commit. -/
def promotedHistory : CommitHistory where
  commits := [⟨landedMain,[oldMain],landedHead⟩,⟨promotedHead,[landedHead],promotedHead⟩,
    ⟨landedHead,[oldMain],landedHead⟩,⟨oldMain,[],oldMain⟩]
  closed := by
    refine .cons ?_ ?_ (.cons ?_ ?_ (.cons ?_ ?_ (.cons ?_ ?_ .nil))) <;> decide +kernel

def promotedRepository : Repository where
  history := promotedHistory
  branches name := if name = "main" then some landedMain else if name = "two" then some promotedHead else none
  pullHeads pr := if pr = 1 then some landedHead else none
  branch_names h := by
    have hmain : landedMain ∈ promotedHistory.names := by decide +kernel
    have htwo : promotedHead ∈ promotedHistory.names := by decide +kernel
    split_ifs at h
    · exact Option.some.inj h ▸ hmain
    · exact Option.some.inj h ▸ htwo
  pull_names h := by
    have hone : landedHead ∈ promotedHistory.names := by decide +kernel
    split_ifs at h
    exact Option.some.inj h ▸ hone

def promotedGit : GitTools where
  naming := .first [] List.nodup_nil
  named _ h := absurd h (Nat.not_lt_zero _)
  pick _ _ _ := none
  ciTriggers _ _ := .ok []
  rewriteMerges _ _ _ _ _ := .error (decision "rebase_merge_replay_conflict" "not rewritten" [])

def promotedOwner : RepositoryId := ⟨"team","app"⟩

def landedDefault : BranchSnapshot := ⟨promotedOwner,"main",landedMain⟩

def promotedRoot : PullRequestSnapshot where
  number := 2
  state := .open
  head := ⟨promotedOwner,"two",promotedHead⟩
  base := ⟨promotedOwner,"one",landedHead⟩
  autoMerge := { enabled := false }

def promotedRange : PlannedRangeBase := .pullRequestHead 1 promotedRoot.base

def promotedInspection : Inspection := ⟨landedHead,[⟨promotedHead,[landedHead],promotedHead⟩],[]⟩

theorem promoted_rebased : Rebased promotedGit promotedRepository promotedHistory promotedRoot promotedRange
    (.remote landedDefault) landedDefault promotedOwner promotedInspection where
  conditions := by decide +kernel
  inspected := inspect_ok.mpr ⟨by decide +kernel,rfl,by decide +kernel,by decide +kernel,
    ⟨by decide +kernel,by decide +kernel⟩,by decide +kernel⟩
  linear := by decide +kernel
  moved := by decide +kernel

theorem replayed_range_promoted :
    (promotedInspection.topology = promotedHistory.range [landedHead,landedMain] promotedHead ∧
      rewriteHead promotedGit promotedHistory promotedRoot promotedRange (.remote landedDefault) false
          promotedInspection =
        (replayOnto promotedGit promotedHistory promotedRoot (.remote landedDefault)
          (askedToReplay promotedHistory promotedRoot promotedRange (.remote landedDefault))).map
            (·,askedToReplay promotedHistory promotedRoot promotedRange (.remote landedDefault))) ∧
      (∀ reason r,prepareCandidate promotedGit promotedRepository promotedHistory promotedRoot promotedRange
        (.remote landedDefault) landedDefault promotedOwner reason false = .ok r →
          r.replayed = askedToReplay promotedHistory promotedRoot promotedRange (.remote landedDefault) ∧
          r.plan.commitCount = promotedInspection.topology.length) ∧
      (askedToReplay promotedHistory promotedRoot promotedRange (.remote landedDefault) =
        promotedInspection.topology ↔ BoundariesAgree promotedHistory promotedRoot (.remote landedDefault)) :=
  replayed_range_iff promoted_rebased

/-- The plan of the promoted root counts its own commit; the rebase is asked for the predecessor's too. -/
theorem promoted_replays_predecessor :
    Rebased promotedGit promotedRepository promotedHistory promotedRoot promotedRange
      (.remote landedDefault) landedDefault promotedOwner promotedInspection ∧
    promotedInspection.topology.map (·.name) = [promotedHead] ∧
    (askedToReplay promotedHistory promotedRoot promotedRange (.remote landedDefault)).map (·.name) =
      [landedHead,promotedHead] :=
  ⟨promoted_rebased,by decide +kernel,by decide +kernel⟩

end Promoted

end PhysicalRebase
end Cara
