import Cara.Sync.RootAuthority

/-! The order of a whole drain: roots are squash-merged one behind the other, and a successor is
touched only behind the proof that its predecessor landed. -/
namespace Cara
namespace Sync

open Generation (CommitRelation)
open RequiredRuns (RequiredContextsRead HeadRunLineage RequiredRunsAssessment)
open Cara.Graph (Indexed)
open Prog (Meets Uses Maintains recordWhere)

/-- The pull requests that were submitted to a squash merge, in order. -/
def squashed (t : Talk) : List PrNumber := t.filterMap fun e => match e.1 with
  | .squashMerge _ expected => some expected.number
  | _ => none

def Shown (t : Talk) (number : PrNumber) (s : PullRequestSnapshot) : Prop :=
  s.number = number ∧ ∃ e ∈ t,e.2 = .pullRequest s ∨ ∃ r : GitHubMutationReceipt,
    e.2 = .receipt r ∧ r.after = s

/-- The pull request was observed merged into the default branch, and a merge commit that the
provider reported was observed in it. -/
structure Delivered (status : StatusOutput) (t : Talk) (number : PrNumber) : Prop where
  merged : ∃ s,Shown t number s ∧ s.state = .merged ∧ s.base.name = status.defaultBranch
  reached : ∃ commit head relation,
    (.mergeCommitOid status.repository number,.mergeCommit (some commit)) ∈ t ∧
    (.branchHeadOid status.repository status.defaultBranch,.oid head) ∈ t ∧
    (.compareCommits status.repository commit head,.relation relation) ∈ t ∧
    containsBase relation = true

/-- What may be asked behind a conversation: squash merges go along the members, at most so many,
and a successor is promoted or merged only when every root before it is delivered. -/
def InOrder (status : StatusOutput) (members : List PrNumber) (limit : ℕ) (h : Talk) :
    SyncRequest → Prop
  | .squashMerge _ expected => squashed h ++ [expected.number] <+: members ∧
      expected.number ∉ squashed h ∧ (squashed h).length < limit ∧
      ∀ m ∈ squashed h,Delivered status h m
  | .setBase _ expected base => squashed h ++ [expected.number] <+: members ∧ squashed h ≠ [] ∧
      base = status.defaultBranch ∧ ∀ m ∈ squashed h,Delivered status h m
  | _ => True

/-- Answers about a pull request carry its number, and a merge commit is reported for every root
with a successor. -/
def Reports (members : List PrNumber) : SyncRequest → SyncAnswer → Prop
  | .refetchPullRequest _ number,.pullRequest s => s.number = number
  | .ensureMarkedComment _ expected _ _,.receipt r => r.after.number = expected.number
  | .mergeCommitOid _ number,.mergeCommit commit => commit = none → members.getLast? = some number
  | _,_ => True

section Growth

variable {status : StatusOutput} {members : List PrNumber} {limit : ℕ} {h h' t : Talk}
  {number : PrNumber}

theorem squashed_append : squashed (h ++ t) = squashed h ++ squashed t :=
  List.filterMap_append

theorem squashed_unmerging (ht : ∀ e ∈ t,Unmerging e.1) : squashed t = [] := by
  rw [squashed,List.filterMap_eq_nil_iff]
  intro e he
  have hplain := ht e he
  split
  · next hq =>
    rw [hq] at hplain
    exact hplain.elim
  · rfl

theorem Shown.mono {s : PullRequestSnapshot} (hs : Shown h number s) (hgrown : h <+: h') :
    Shown h' number s := by
  obtain ⟨hnumber,e,he,hshows⟩ := hs
  exact ⟨hnumber,e,hgrown.subset he,hshows⟩

theorem Delivered.mono (hd : Delivered status h number) (hgrown : h <+: h') :
    Delivered status h' number := by
  obtain ⟨s,hs,hmerged,hbase⟩ := hd.merged
  obtain ⟨commit,head,relation,hcommit,hhead,hrelation,hcontains⟩ := hd.reached
  exact ⟨⟨s,hs.mono hgrown,hmerged,hbase⟩,commit,head,relation,hgrown.subset hcommit,
    hgrown.subset hhead,hgrown.subset hrelation,hcontains⟩

theorem InOrder.plain (h : Talk) (q : SyncRequest) (hq : Plain q) :
    InOrder status members limit h q := by
  cases q <;> first | exact hq.elim | trivial

end Growth

/-- Each pull request is kept under its number, and the bound on merges stays. -/
structure Kept (limit : ℕ) (p : SyncProgress) : Prop where
  indexed : Indexed p.current
  bounded : p.maxRootMerges = limit

section Kept

variable {limit : ℕ} {p : SyncProgress} {members : List PrNumber} {status : StatusOutput}
  {repository : RepositoryId} {ok : Talk → SyncRequest → Prop}

theorem Kept.see (hp : Kept limit p) {number : PrNumber} {s : PullRequestSnapshot}
    (hs : s.number = number) : Kept limit (p.see number s) := by
  refine ⟨?_,hp.bounded⟩
  intro n q hq
  rw [SyncProgress.see,Std.ExtTreeMap.getElem?_insert] at hq
  split at hq
  · next heq =>
    cases hq
    rw [hs]
    simpa using heq
  · exact hp.indexed n q hq

theorem Kept.record (hp : Kept limit p) (receipt : GitHubMutationReceipt) (summary : String) :
    Kept limit (p.record receipt summary) :=
  ⟨(hp.see rfl : Kept limit (p.see receipt.after.number receipt.after)).indexed,hp.bounded⟩

variable (hok : ∀ h q,Plain q → ok h q)
include hok

theorem ask_maintains {α : Type} {q : SyncRequest} {pr : Option PrNumber}
    {value : SyncAnswer → Option α} (hq : Plain q) : Maintains (recordWhere (Reports members)) ok
      (Kept limit) (ask q pr value) fun v => ∃ a,Reports members q a ∧ value a = some v := by
  constructor
  intro h p hp
  apply (ask_heard (hok h q hq)).mono
  · rintro h' v p' ⟨rfl,a,hfit,-,hv⟩
    exact ⟨⟨a,hfit,hv⟩,hp⟩
  · exact fun _ _ _ => trivial

theorem refetch_maintains (number : PrNumber) : Maintains (recordWhere (Reports members)) ok
    (Kept limit) (refetchPullRequest repository number) fun s => s.number = number := by
  have hplain : Plain (.refetchPullRequest repository number) := trivial
  apply (ask_maintains hok hplain).mono
  rintro s ⟨a,hfit,ha⟩
  rw [pullRequest?_eq_some.mp ha] at hfit
  exact hfit

omit hok in
theorem currentOf_maintains (number : PrNumber) : Maintains (recordWhere (Reports members)) ok
    (Kept limit) (currentOf number) fun s => s.number = number := by
  constructor
  intro h p hp
  apply (currentOf_heard number).mono
  · rintro h' s p' ⟨-,rfl,hs⟩
    exact ⟨hp.indexed number s hs,hp⟩
  · exact fun _ _ _ => trivial

omit hok in
theorem preconditionOf_maintains (number : PrNumber) : Maintains (recordWhere (Reports members)) ok
    (Kept limit) (preconditionOf number) fun e => e.number = number :=
  (currentOf_maintains number).bind fun _ hs => .pure hs

omit hok in
theorem ensureMutationCapacity_maintains (reserve : ℕ) :
    Maintains (recordWhere (Reports members)) ok (Kept limit) (ensureMutationCapacity reserve)
      fun _ => True := by
  apply Maintains.get.bind
  intro p _
  split
  · exact .pure trivial
  · exact .throw _

theorem assessWithLineage_maintains (current : PullRequestSnapshot)
    (contexts : RequiredContextsRead) (lineage : Option HeadRunLineage) :
    Maintains (recordWhere (Reports members)) ok (Kept limit)
      (assessWithLineage current contexts lineage) fun _ => True := by
  apply (ask_maintains hok (q := .nowUnix) trivial).bind
  intro now _
  exact Maintains.get.bind fun _ _ => .pure trivial

theorem assessRequiredRuns_maintains (current : PullRequestSnapshot)
    (contexts : RequiredContextsRead) : Maintains (recordWhere (Reports members)) ok (Kept limit)
      (assessRequiredRuns repository current contexts) fun _ => True := by
  apply Maintains.get.bind
  intro p _
  dsimp only
  split
  · split
    · exact assessWithLineage_maintains hok _ _ _
    · apply (ask_maintains hok (q := .headRunLineage repository (.ofSnapshot current)) trivial).bind
      intro lineage _
      exact assessWithLineage_maintains hok _ _ _
  · exact assessWithLineage_maintains hok _ _ _

theorem refetchCiSnapshot_maintains (number : PrNumber) :
    Maintains (recordWhere (Reports members)) ok (Kept limit) (refetchCiSnapshot repository number)
      fun _ => True := by
  apply (preconditionOf_maintains number).bind
  intro expected _
  apply (refetch_maintains hok number).bind
  intro observed hobserved
  dsimp only
  split
  · apply (Maintains.modify fun p hp => hp.see hobserved).bind
    exact fun _ _ => .pure trivial
  · exact .throw _

theorem discoverRequiredContexts_maintains (branch : String) (number : PrNumber) :
    Maintains (recordWhere (Reports members)) ok (Kept limit)
      (discoverRequiredContexts repository branch number) fun _ => True := by
  apply Maintains.get.bind
  intro p _
  split
  · exact .pure trivial
  · apply Maintains.bind (W := fun _ => True)
    · apply (ask_maintains hok (q := .branchRequiredContexts repository branch) trivial).bind
      exact fun _ _ => .pure trivial
    · intro read _
      apply (Maintains.modify fun p hp => ⟨hp.indexed,hp.bounded⟩).bind
      exact fun _ _ => .pure trivial

theorem reexamine_maintains (policy : RequiredContextsRead) (number : PrNumber) (forced : Bool)
    (current : PullRequestSnapshot) : Maintains (recordWhere (Reports members)) ok (Kept limit)
      (reexamine repository policy number forced current) fun _ => True := by
  apply (assessWithLineage_maintains hok current policy none).bind
  intro first _
  split
  · apply (refetchCiSnapshot_maintains hok number).bind
    intro again _
    apply (assessWithLineage_maintains hok again policy none).bind
    intro second _
    split
    · apply (preconditionOf_maintains number).bind
      intro expected _
      apply (ask_maintains hok (q := .headRunLineage repository expected) trivial).bind
      exact fun _ _ => .pure trivial
    · exact .pure trivial
  · exact .pure trivial

theorem diagnose_maintains (policy : RequiredContextsRead) (number : PrNumber)
    (current : PullRequestSnapshot) (disposition : CiDisposition) :
    Maintains (recordWhere (Reports members)) ok (Kept limit)
      (diagnose repository policy number current disposition) fun _ => True := by
  unfold diagnose
  split
  · apply (preconditionOf_maintains number).bind
    intro expected _
    apply (ask_maintains hok (q := .failedRunsForPullRequest repository expected) trivial).bind
    intro runs _
    dsimp only
    split
    · exact .pure trivial
    · apply (preconditionOf_maintains number).bind
      intro expected _
      apply (ask_maintains hok (q := .failedRunDiagnostics repository expected _) trivial).bind
      exact fun _ _ => .pure trivial
  · exact .pure trivial

theorem observeCi_maintains (number : PrNumber) : Maintains (recordWhere (Reports members)) ok
    (Kept limit) (observeCi repository number) fun _ => True := by
  apply (refetchCiSnapshot_maintains hok number).bind
  intro current _
  apply Maintains.get.bind
  intro p _
  apply (discoverRequiredContexts_maintains hok _ number).bind
  intro policy _
  apply (reexamine_maintains hok policy number _ current).bind
  intro examined _
  apply (assessWithLineage_maintains hok _ policy _).bind
  intro assessment _
  exact (diagnose_maintains hok policy number _ _).bind fun _ _ => .pure trivial

theorem retriggerRequiredRuns_maintains (number : PrNumber) (checkSuiteId : ℕ)
    (contexts : RequiredContextsRead) : Maintains (recordWhere (Reports members)) ok (Kept limit)
      (retriggerRequiredRuns repository number checkSuiteId contexts) fun _ => True := by
  apply (currentOf_maintains number).bind
  intro before _
  apply (ensureMutationCapacity_maintains 1).bind
  intro _ _
  apply (preconditionOf_maintains number).bind
  intro expected _
  apply Maintains.bind (W := fun _ => True)
  · apply Maintains.lift
    intro h
    exact .query (hok h _ trivial) (fun _ _ _ _ _ => trivial) fun _ _ _ _ _ => trivial
  · intro outcome _
    split
    · exact .pure trivial
    · next receipt =>
      apply (Maintains.modify fun p hp => hp.record receipt _).bind
      intro _ _
      apply (refetch_maintains hok number).bind
      intro refreshed hrefreshed
      split
      · exact .pure trivial
      · apply (Maintains.modify fun p hp => hp.see hrefreshed).bind
        intro _ _
        apply (ask_maintains hok (q := .headRunLineage repository (.ofSnapshot refreshed))
          trivial).bind
        intro lineage _
        exact (assessWithLineage_maintains hok _ contexts _).bind fun _ _ => .pure trivial

theorem verifyRequiredRuns_maintains (caravanId number : PrNumber) :
    Maintains (recordWhere (Reports members)) ok (Kept limit)
      (verifyRequiredRuns repository caravanId number) fun _ => True := by
  apply (currentOf_maintains number).bind
  intro current _
  apply Maintains.get.bind
  intro p _
  apply (discoverRequiredContexts_maintains hok _ number).bind
  intro contexts _
  apply (assessRequiredRuns_maintains hok current contexts).bind
  intro assessment _
  apply Maintains.bind (W := fun _ => True)
  · apply Maintains.get.bind
    intro p _
    split
    · exact (retriggerRequiredRuns_maintains hok number _ contexts).bind fun _ _ => .pure trivial
    · exact .pure trivial
  · exact fun decided _ => .modify fun p hp => ⟨hp.indexed,hp.bounded⟩

/-- Further reads end with a snapshot that was there or one that was read. -/
theorem rereadUntil_heard (number : PrNumber) (wanted : PullRequestSnapshot → Bool) (left : ℕ)
    (observed : PullRequestSnapshot) {h : Talk} (hp : Kept limit p) :
    Meets (recordWhere (Reports members)) ok (rereadUntil repository number wanted left observed)
      (fun h' r p' => Kept limit p' ∧ h <+: h' ∧ (r.1 = observed ∨ Shown h' number r.1))
      (fun _ _ => True) h p := by
  induction left generalizing h observed p with
  | zero => exact .pure ⟨hp,List.prefix_rfl,.inl rfl⟩
  | succ left ih =>
    rw [rereadUntil]
    split
    · exact .pure ⟨hp,List.prefix_rfl,.inl rfl⟩
    · apply (refetch_heard (fun h q hq => hok h q (hq.plain q)) number).bind
      rintro t again p' ⟨rfl,hfit,rfl⟩
      apply (modify_heard _).bind
      rintro t - p' ⟨rfl,rfl⟩
      apply (ih again (hp.see hfit)).bind
      rintro t' r p' ⟨hp',hgrown,hr⟩
      refine .pure ⟨hp',(List.prefix_append _ _).trans hgrown,.inr ?_⟩
      rcases hr with hr | hr
      · rw [hr]
        exact ⟨hfit,(.refetchPullRequest repository number,.pullRequest again),
          hgrown.subset (by simp),.inl rfl⟩
      · exact hr

end Kept

section Landing

variable {status : StatusOutput} {fits : SyncRequest → SyncAnswer → Prop}
  {ok : Talk → SyncRequest → Prop} {members : List PrNumber} {limit : ℕ} {h : Talk}
  {p : SyncProgress} (hok : ∀ h q,Plain q → ok h q)

theorem authorizeRoot_uses (caravanId number : PrNumber) (landed : Option CommitOid)
    (stackless : Bool) : Uses Plain (authorizeRoot status caravanId number landed stackless) := by
  apply Uses.bind ((readExactRootGeneration_uses number _).weaken Reading.plain)
  intro observed
  apply Uses.bind (ask_uses trivial)
  intro observedDefault
  apply Uses.bind (refuteContainment_uses number _ _ _)
  intro _
  apply Uses.bind ((branchRequiredContexts_uses _ _).weaken Reading.plain)
  intro policy
  apply Uses.bind ((assessRequiredRuns_uses _ _).weaken Reading.plain)
  intro assessment
  apply Uses.bind (Uses.modify _)
  intro _
  apply Uses.bind Uses.get
  intro facts
  have hwait (block : RootMergeBlock) (detail : Option String) : Uses Plain (do
      recordMergeWait number block detail
      return (none : Option Authorized)) :=
    Uses.bind (recordMergeWait_uses number _ _) fun _ => Uses.pure _
  dsimp only
  split
  · exact Uses.throw _
  · exact hwait _ _
  · split
    · exact hwait _ _
    · split
      · exact hwait _ _
      · split
        · exact Uses.throw _
        · split
          · exact Uses.throw _
          · exact Uses.pure _

include hok

/-- Requests other than squash merges leave the order where it was. -/
theorem unsquashed_of_uses {α : Type} {m : SyncM α} {post : Talk → α → SyncProgress → Prop}
    (hm : Meets (recordWhere fits) ok m post (fun _ _ => True) h p) (hu : Uses Plain m) :
    Meets (recordWhere fits) ok m
      (fun h' a p' => post h' a p' ∧ h <+: h' ∧ squashed h' = squashed h)
      (fun _ _ => True) h p := by
  apply (hm.and (hu.grows hok p)).mono
  · rintro h' a p' ⟨hpost,t,rfl,ht⟩
    refine ⟨hpost,List.prefix_append _ _,?_⟩
    rw [squashed_append,squashed_unmerging fun e he => (ht e he).1.unmerging,List.append_nil]
  · exact fun _ _ _ => trivial

/-- A reported commit is compared with the default head that was read. -/
theorem defaultContains_heard (number : PrNumber) (mergeCommit : Option CommitOid) :
    Meets (recordWhere fits) ok (defaultContains status number mergeCommit)
      (fun h' r p' => p' = p ∧ h <+: h' ∧ ∀ commit,mergeCommit = some commit → ∃ head relation,
        (.branchHeadOid status.repository status.defaultBranch,.oid head) ∈ h' ∧
        (.compareCommits status.repository commit head,.relation relation) ∈ h' ∧
        r.2 = containsBase relation)
      (fun _ _ => True) h p := by
  apply (ask_heard (hok h (.branchHeadOid status.repository status.defaultBranch) trivial)).bind
  rintro h₁ head p₁ ⟨rfl,a,-,rfl,ha⟩
  rw [oid?_eq_some.mp ha]
  cases mergeCommit with
  | none => exact .pure ⟨rfl,List.prefix_append _ _,fun commit hc => by cases hc⟩
  | some commit =>
    apply (ask_heard (hok _ (.compareCommits status.repository commit head) trivial)).bind
    rintro h₂ relation p₂ ⟨rfl,b,-,rfl,hb⟩
    rw [relation?_eq_some.mp hb]
    refine .pure ⟨rfl,(List.prefix_append _ _).trans (List.prefix_append _ _),?_⟩
    intro c hc
    cases hc
    exact ⟨head,relation,by simp,by simp,rfl⟩

theorem confirmReachable_heard (number : PrNumber) (mergeCommit : Option CommitOid) (left : ℕ) :
    Meets (recordWhere fits) ok (confirmReachable status number mergeCommit left)
      (fun h' _ p' => p' = p ∧ h <+: h' ∧ ∀ commit,mergeCommit = some commit → ∃ head relation,
        (.branchHeadOid status.repository status.defaultBranch,.oid head) ∈ h' ∧
        (.compareCommits status.repository commit head,.relation relation) ∈ h' ∧
        containsBase relation = true)
      (fun _ _ => True) h p := by
  have hfound {h' : Talk} {contained : Bool} (hcontained : contained = true)
      (hall : ∀ commit,mergeCommit = some commit → ∃ head relation,
        (.branchHeadOid status.repository status.defaultBranch,.oid head) ∈ h' ∧
        (.compareCommits status.repository commit head,.relation relation) ∈ h' ∧
        contained = containsBase relation) (commit : CommitOid) (hc : mergeCommit = some commit) :
      ∃ head relation,
        (.branchHeadOid status.repository status.defaultBranch,.oid head) ∈ h' ∧
        (.compareCommits status.repository commit head,.relation relation) ∈ h' ∧
        containsBase relation = true := by
    obtain ⟨head,relation,hhead,hrelation,hcontains⟩ := hall commit hc
    exact ⟨head,relation,hhead,hrelation,hcontains.symm.trans hcontained⟩
  induction left generalizing h with
  | zero =>
    apply (defaultContains_heard hok number mergeCommit).bind
    rintro h' ⟨head,contained⟩ p' ⟨rfl,hgrown,hall⟩
    dsimp only
    split
    · next hcontained => exact .pure ⟨rfl,hgrown,hfound hcontained hall⟩
    · exact .throw trivial
  | succ left ih =>
    apply (defaultContains_heard hok number mergeCommit).bind
    rintro h' ⟨head,contained⟩ p' ⟨rfl,hgrown,hall⟩
    dsimp only
    split
    · next hcontained => exact .pure ⟨rfl,hgrown,hfound hcontained hall⟩
    · apply ih.bind
      rintro t r p' ⟨rfl,hmore,hlast⟩
      exact .pure ⟨rfl,hgrown.trans hmore,hlast⟩

/-- A landing that is confirmed is delivered, unless it is the last and no commit was reported. -/
theorem confirmLanding_delivers (caravanId number : PrNumber) (remaining : List PrNumber)
    (a : Authorized) (hp : Kept limit p)
    (hshown : ∀ s,p.current[number]? = some s → Shown h number s) :
    Meets (recordWhere (Reports members)) ok (confirmLanding status caravanId number remaining a)
      (fun h' _ p' => Kept limit p' ∧ h <+: h' ∧
        (members.getLast? ≠ some number → Delivered status h' number))
      (fun _ _ => True) h p := by
  apply (currentOf_heard number).bind
  rintro h₁ current p₁ ⟨rfl,rfl,hcurrent⟩
  apply (rereadUntil_heard hok number _ _ current hp).bind
  rintro h₂ ⟨observed,more⟩ p₂ ⟨hp₂,hgrown,hobserved⟩
  have hobserved : Shown h₂ number observed := by
    rcases hobserved with heq | hobserved
    · rw [show observed = current from heq]
      exact (hshown current hcurrent).mono hgrown
    · exact hobserved
  dsimp only
  split
  · exact .throw trivial
  · next hmerged =>
    split
    · exact .throw trivial
    · next hbase =>
      apply (ask_heard (hok h₂ (.mergeCommitOid status.repository number) trivial)).bind
      rintro h₃ mergeCommit p₃ ⟨rfl,answer,hfit,rfl,hanswer⟩
      rw [mergeCommit?_eq_some.mp hanswer] at hfit ⊢
      apply (confirmReachable_heard hok number mergeCommit _).bind
      rintro h₄ ⟨head,reads⟩ p₄ ⟨rfl,hgrown₄,hreached⟩
      refine .modify ⟨⟨hp₂.indexed,hp₂.bounded⟩,
        hgrown.trans ((List.prefix_append _ _).trans hgrown₄),?_⟩
      intro hlast
      obtain ⟨commit,rfl⟩ : ∃ commit,mergeCommit = some commit := by
        cases mergeCommit with
        | none => exact absurd (hfit rfl) hlast
        | some commit => exact ⟨commit,rfl⟩
      obtain ⟨head',relation,hhead,hrelation,hcontains⟩ := hreached commit rfl
      exact {
        merged := ⟨observed,hobserved.mono ((List.prefix_append _ _).trans hgrown₄),
          not_not.mp hmerged,not_not.mp hbase⟩
        reached := ⟨commit,head',relation,hgrown₄.subset (by simp),hhead,hrelation,hcontains⟩ }

end Landing

section Drain

variable {w : SyncWire} {status : StatusOutput} {members landed : List PrNumber} {limit : ℕ}
  {h : Talk} {p : SyncProgress}

/-- The roots that were squash-merged so far, with the members that remain. -/
structure Drained (status : StatusOutput) (members : List PrNumber) (limit : ℕ)
    (landed remaining : List PrNumber) (h : Talk) (p : SyncProgress) : Prop where
  kept : Kept limit p
  members : landed ++ remaining = members
  order : squashed h = landed
  delivered : ∀ m ∈ landed,Delivered status h m

theorem Drained.later {remaining : List PrNumber} {h' : Talk} {p' : SyncProgress}
    (hd : Drained status members limit landed remaining h p) (hp : Kept limit p')
    (hgrown : h <+: h') (horder : squashed h' = squashed h) :
    Drained status members limit landed remaining h' p' where
  kept := hp
  members := hd.members
  order := horder.trans hd.order
  delivered m hm := (hd.delivered m hm).mono hgrown

theorem Drained.ahead {n : PrNumber} {rest : List PrNumber}
    (hd : Drained status members limit landed (n::rest) h p) : squashed h ++ [n] <+: members := by
  refine ⟨rest,?_⟩
  rw [hd.order,List.append_assoc]
  exact hd.members

theorem Drained.unmerged {n : PrNumber} {rest : List PrNumber}
    (hd : Drained status members limit landed (n::rest) h p) (hnodup : members.Nodup) :
    n ∉ squashed h := by
  rw [hd.order]
  intro hn
  rw [← hd.members] at hnodup
  exact List.disjoint_of_nodup_append hnodup hn (List.mem_cons_self ..)

theorem Drained.not_last {n next : PrNumber} {rest : List PrNumber}
    (hd : Drained status members limit landed (n::next::rest) h p) (hnodup : members.Nodup) :
    members.getLast? ≠ some n := by
  rw [← hd.members] at hnodup ⊢
  have hrest := (List.nodup_append.mp hnodup).2.1
  rw [List.getLast?_append_of_ne_nil _ (by simp),List.getLast?_cons_cons]
  intro hlast
  exact (List.nodup_cons.mp hrest).1 (List.mem_of_getLast? hlast)

/-- The squash merge of the next root, behind which it is delivered when another follows it. -/
theorem submitRoot_delivers {number : PrNumber} {rest : List PrNumber} {s : PullRequestSnapshot}
    (hd : Drained status members limit landed (number::rest) h p) (hnodup : members.Nodup)
    (hlimit : landed.length < limit) (hs : p.current[number]? = some s) (hshown : Shown h number s)
    (caravanId : PrNumber) (remaining : List PrNumber) (a : Authorized) :
    Meets (recordWhere (Reports members)) (InOrder status members limit)
      (submitRoot status caravanId number remaining a)
      (fun h' _ p' => Kept limit p' ∧ h <+: h' ∧ squashed h' = landed ++ [number] ∧
        (members.getLast? ≠ some number → Delivered status h' number))
      (fun _ _ => True) h p := by
  have hok : ∀ h q,Plain q → InOrder status members limit h q := InOrder.plain
  have hexpected : (PullRequestPrecondition.ofSnapshot s).number = number := hshown.1
  have hallowed : InOrder status members limit h
      (.squashMerge status.repository (.ofSnapshot s)) := by
    refine ⟨?_,?_,?_,?_⟩
    · rw [hexpected]
      exact hd.ahead
    · rw [hexpected]
      exact hd.unmerged hnodup
    · rw [hd.order]
      exact hlimit
    · rw [hd.order]
      exact hd.delivered
  apply (ensureMutationCapacity_heard 1).bind
  rintro h₁ - p₁ ⟨rfl,rfl⟩
  apply (preconditionOf_heard number).bind
  rintro h₂ expected p₂ ⟨rfl,rfl,s',hs',rfl⟩
  obtain rfl : s = s' := Option.some.inj (hs.symm.trans hs')
  apply (ask_heard hallowed).bind
  rintro h₃ receipt p₃ ⟨rfl,answer,-,rfl,hanswer⟩
  rw [receipt?_eq_some.mp hanswer]
  apply (modify_heard _).bind
  rintro h₄ - p₄ ⟨rfl,rfl⟩
  have hnext : squashed (h₂ ++ [(.squashMerge status.repository (.ofSnapshot s),
      .receipt receipt)]) = landed ++ [number] := by
    rw [squashed_append,hd.order]
    show landed ++ [(PullRequestPrecondition.ofSnapshot s).number] = _
    rw [hexpected]
  have hseen (q : PullRequestSnapshot)
      (hq : (p₃.see receipt.after.number receipt.after).current[number]? = some q) :
      Shown (h₂ ++ [(.squashMerge status.repository (.ofSnapshot s),.receipt receipt)]) number q := by
    rw [SyncProgress.see,Std.ExtTreeMap.getElem?_insert] at hq
    split at hq
    · next heq =>
      cases hq
      exact ⟨by simpa using heq,(.squashMerge status.repository (.ofSnapshot s),.receipt receipt),
        by simp,.inr ⟨receipt,rfl,rfl⟩⟩
    · obtain rfl : s = q := Option.some.inj (hs.symm.trans hq)
      exact hshown.mono (List.prefix_append _ _)
  apply (unsquashed_of_uses hok (confirmLanding_delivers hok caravanId number remaining a
    (hd.kept.record receipt _) hseen) (confirmLanding_uses caravanId number remaining a)).mono
  · rintro h' u p' ⟨⟨hp',-,hdelivered⟩,hgrown,horder⟩
    exact ⟨hp',(List.prefix_append _ _).trans hgrown,horder.trans hnext,hdelivered⟩
  · exact fun _ _ _ => trivial

/-- A root that lands is the next in order, and delivered when another follows it. -/
theorem mergeRoot_delivers {number : PrNumber} {rest : List PrNumber}
    (hd : Drained status members limit landed (number::rest) h p) (hnodup : members.Nodup)
    (hlimit : landed.length < limit) (caravanId : PrNumber) (remaining : List PrNumber)
    (landedDefault : Option CommitOid) (stackless : Bool) :
    Meets (recordWhere (Reports members)) (InOrder status members limit)
      (mergeRoot w status caravanId number remaining landedDefault stackless)
      (fun h' r p' => r = true → Kept limit p' ∧ h <+: h' ∧ squashed h' = landed ++ [number] ∧
        (members.getLast? ≠ some number → Delivered status h' number))
      (fun _ _ => True) h p := by
  have hok : ∀ h q,Plain q → InOrder status members limit h q := InOrder.plain
  apply (unsquashed_of_uses hok (authorizeRoot_heard hok caravanId number landedDefault stackless)
    (authorizeRoot_uses caravanId number landedDefault stackless)).bind
  rintro h₁ r p₁ ⟨⟨-,hauthority⟩,hgrown₁,horder₁⟩
  cases r with
  | none => exact .pure fun hfalse => by cases hfalse
  | some a =>
    obtain ⟨-,hnumber,hcurrent₁,hbounded₁⟩ := hauthority a rfl
    dsimp only
    apply (unsquashed_of_uses hok (auditRoot_heard hok number a) (auditRoot_uses number a)).bind
    rintro h₂ audited p₂ ⟨haudited,hgrown₂,horder₂⟩
    cases audited with
    | false => exact .pure fun hfalse => by cases hfalse
    | true =>
      obtain ⟨s,receipt,marker,body,tail,hs,hcomment,hh₂,-,⟨key,hkey,hcurrent₂⟩,hbounded₂⟩ :=
        haudited rfl
      rw [hcurrent₁,Std.ExtTreeMap.getElem?_insert_self,Option.some_inj] at hs
      have hreceipt : receipt.after.number = number := by
        rw [← hs] at hcomment
        exact hcomment.trans hnumber
      have hkeyed : key = number := hkey.elim id fun hkey => hkey.trans hreceipt
      rw [hkeyed] at hcurrent₂
      have hkept₂ : Kept limit p₂ := by
        have hsame : Kept limit ((p.see number a.observed).see number receipt.after) :=
          (hd.kept.see hnumber).see hreceipt
        refine ⟨?_,hbounded₂.trans (hbounded₁.trans hd.kept.bounded)⟩
        rw [hcurrent₂,hcurrent₁]
        exact hsame.indexed
      have hd₂ := hd.later hkept₂ (hgrown₁.trans hgrown₂) (horder₂.trans horder₁)
      have hat : p₂.current[number]? = some receipt.after := by
        rw [hcurrent₂,Std.ExtTreeMap.getElem?_insert_self]
      have hshown : Shown h₂ number receipt.after := by
        refine ⟨hreceipt,(.ensureMarkedComment status.repository (.ofSnapshot s) marker body,
          .receipt receipt),?_,.inr ⟨receipt,rfl,rfl⟩⟩
        rw [hh₂]
        simp
      apply (submitRoot_delivers hd₂ hnodup hlimit hat hshown caravanId remaining a).bind
      rintro h' - p' ⟨hp',hgrown',hrest⟩
      exact .pure fun _ => ⟨hp',(hgrown₁.trans hgrown₂).trans hgrown',hrest⟩

/-- The promotion of the successor, when a root is delivered before it. -/
theorem promoteRoot_inOrder {next : PrNumber} {rest : List PrNumber}
    (hd : Drained status members limit landed (next::rest) h p) (hlanded : landed ≠ [])
    (predecessorMerged : Bool) :
    Meets (recordWhere (Reports members)) (InOrder status members limit)
      (promoteRoot status next predecessorMerged)
      (fun h' _ p' => Drained status members limit landed (next::rest) h' p') (fun _ _ => True) h p := by
  have hok : ∀ h q,Plain q → InOrder status members limit h q := InOrder.plain
  apply (unsquashed_of_uses hok (readExactRootGeneration_heard (fun h q hq => hok h q (hq.plain q))
    next status.defaultBranch)
    ((readExactRootGeneration_uses next _).weaken Reading.plain)).bind
  rintro h₁ ⟨observed,reads⟩ p₁ ⟨⟨rfl,-,hnumber,-⟩,hgrown₁,horder₁⟩
  have hkept₁ : Kept limit (p.see next observed) := hd.kept.see hnumber
  have hd₁ := hd.later hkept₁ hgrown₁ horder₁
  dsimp only
  split
  · exact .modify (hd₁.later ⟨hkept₁.indexed,hkept₁.bounded⟩ List.prefix_rfl rfl)
  · apply (ensureMutationCapacity_heard 1).bind
    rintro h₂ - p₂ ⟨rfl,rfl⟩
    apply (preconditionOf_heard next).bind
    rintro h₃ expected p₃ ⟨rfl,rfl,s,hs,rfl⟩
    have hexpected : (PullRequestPrecondition.ofSnapshot s).number = next :=
      hkept₁.indexed next s hs
    have hallowed : InOrder status members limit h₃
        (.setBase status.repository (.ofSnapshot s) status.defaultBranch) := by
      refine ⟨?_,?_,rfl,?_⟩
      · rw [hexpected]
        exact hd₁.ahead
      · rw [hd₁.order]
        exact hlanded
      · rw [hd₁.order]
        exact hd₁.delivered
    apply (ask_heard hallowed).bind
    rintro h₄ receipt p₄ ⟨rfl,answer,-,rfl,hanswer⟩
    rw [receipt?_eq_some.mp hanswer]
    apply (modify_heard _).bind
    rintro h₅ - p₅ ⟨rfl,hp₅⟩
    have hkept₅ : Kept limit p₅ := by
      rw [hp₅]
      exact hkept₁.record receipt _
    have hasked : squashed (h₃ ++ [(.setBase status.repository (.ofSnapshot s) status.defaultBranch,
        .receipt receipt)]) = squashed h₃ := by
      rw [squashed_append]
      exact List.append_nil _
    have hd₅ := hd₁.later hkept₅ (List.prefix_append _ _) hasked
    apply (currentOf_heard next).bind
    rintro h₆ current p₆ ⟨rfl,rfl,-⟩
    apply (unsquashed_of_uses hok (rereadUntil_heard hok next _ _ current hkept₅)
      ((rereadUntil_uses next _ _ current).weaken Reading.plain)).bind
    rintro h₇ ⟨again,more⟩ p₇ ⟨⟨hkept₇,-,-⟩,hgrown₇,horder₇⟩
    dsimp only
    split
    · exact .throw trivial
    · split
      · exact .throw trivial
      · exact .pure (hd₅.later hkept₇ hgrown₇ horder₇)

theorem advanceHead_inOrder {next : PrNumber} {rest : List PrNumber}
    (hd : Drained status members limit landed (next::rest) h p) (hlanded : landed ≠ [])
    (caravanId root : PrNumber) :
    Meets (recordWhere (Reports members)) (InOrder status members limit)
      (advanceHead status caravanId root next)
      (fun h' _ p' => Drained status members limit landed (next::rest) h' p') (fun _ _ => True) h p := by
  have hok : ∀ h q,Plain q → InOrder status members limit h q := InOrder.plain
  apply (promoteRoot_inOrder hd hlanded true).bind
  intro h₁ _ p₁ hd₁
  apply (modify_heard _).bind
  rintro h₂ - p₂ ⟨rfl,hp₂⟩
  have hkept₂ : Kept limit p₂ := by
    rw [hp₂]
    exact ⟨hd₁.kept.indexed,hd₁.kept.bounded⟩
  have hd₂ := hd₁.later hkept₂ List.prefix_rfl rfl
  apply (unsquashed_of_uses hok ((observeCi_maintains hok next).meets h₂ p₂ hkept₂)
    (observeCi_uses next)).bind
  rintro h₃ observation p₃ ⟨⟨-,hkept₃⟩,hgrown₃,horder₃⟩
  apply (modify_heard _).bind
  rintro h₄ - p₄ ⟨rfl,hp₄⟩
  have hkept₄ : Kept limit p₄ := by
    rw [hp₄]
    exact ⟨hkept₃.indexed,hkept₃.bounded⟩
  have hd₄ := hd₂.later hkept₄ hgrown₃ horder₃
  apply (unsquashed_of_uses hok ((verifyRequiredRuns_maintains hok caravanId next).meets h₄ p₄
    hkept₄) (verifyRequiredRuns_uses caravanId next)).mono
  · rintro h' u p' ⟨⟨-,hkept⟩,hgrown,horder⟩
    exact hd₄.later hkept hgrown horder
  · exact fun _ _ _ => trivial

theorem drainRoots_inOrder {remaining : List PrNumber} (hnodup : members.Nodup)
    (hd : Drained status members limit landed remaining h p) (caravanId : PrNumber)
    (stackless : Bool) (landedDefault : Option CommitOid) :
    Meets (recordWhere (Reports members)) (InOrder status members limit)
      (drainRoots w status caravanId stackless landed.length landedDefault remaining)
      (fun _ _ _ => True) (fun _ _ => True) h p := by
  induction remaining generalizing landed landedDefault h p with
  | nil => exact .pure trivial
  | cons root rest ih =>
    apply get_heard.bind
    rintro h₁ v p₁ ⟨rfl,rfl,rfl⟩
    split
    · exact .modify trivial
    · next hbudget =>
      have hlimit : landed.length < limit := by
        rw [hd.kept.bounded] at hbudget
        omega
      apply (mergeRoot_delivers hd hnodup hlimit caravanId _ landedDefault stackless).bind
      intro h₂ done p₂ hdone
      cases done with
      | false => exact .pure trivial
      | true =>
        obtain ⟨hkept₂,hgrown₂,horder₂,hdelivered₂⟩ := hdone rfl
        apply get_heard.bind
        rintro h₃ v p₃ ⟨rfl,rfl,rfl⟩
        cases rest with
        | nil => exact .pure trivial
        | cons next rest =>
          have hd₃ : Drained status members limit (landed ++ [root]) (next::rest) h₃ p₃ := {
            kept := hkept₂
            members := by
              rw [List.append_assoc]
              exact hd.members
            order := horder₂
            delivered := by
              intro m hm
              rcases List.mem_append.mp hm with hm | hm
              · exact (hd.delivered m hm).mono hgrown₂
              · rw [List.mem_singleton.mp hm]
                exact hdelivered₂ (hd.not_last hnodup) }
          apply (advanceHead_inOrder hd₃ (by simp) caravanId root).bind
          intro h₄ _ p₄ hd₄
          have hcount : landed.length + 1 = (landed ++ [root]).length := by simp
          rw [hcount]
          exact ih hd₄ _

/-- Where every answer carries the number asked for and a merge commit is reported for every root
with a successor, a drain lands along the caravan and touches no successor without proof. -/
theorem drainCaravanRoots_inOrder {c : Caravan} {stackless : Bool} (hp : Indexed p.current)
    (hnodup : c.members.Nodup) {r : Option (Except SyncError (Unit × SyncProgress))} {t : Talk}
    (hrun : Prog.Run Prog.record ((drainCaravanRoots w status stackless c).run p).run [] r t)
    (hreports : ∀ e ∈ t,Reports c.members e.1 e.2) {before after : Talk} {q : SyncRequest}
    {a : SyncAnswer} (ht : t = before ++ (q,a)::after) :
    InOrder status c.members p.maxRootMerges before q := by
  have hd : Drained status c.members p.maxRootMerges [] c.members [] p := {
    kept := ⟨hp,rfl⟩
    members := rfl
    order := rfl
    delivered := fun _ hm => by cases hm }
  have hmeets : Meets (recordWhere (Reports c.members)) (InOrder status c.members p.maxRootMerges)
      (drainCaravanRoots w status stackless c) (fun _ _ _ => True) (fun _ _ => True) [] p :=
    drainRoots_inOrder hnodup hd c.id stackless none
  have hat : t = [] ++ before ++ (q,a)::after := ht
  exact hmeets.gives.requests hrun hreports hat

end Drain

section Sample

def drainRoot : PullRequestSnapshot := pairMember 1 ⟨acme,"main","m0"⟩

def drainNext : PullRequestSnapshot := pairMember 2 ⟨acme,"feature-1","h1"⟩

def drainMerged : PullRequestSnapshot := { drainRoot with state := .merged }

def drainAudit : String × String :=
  squashMergeAudit pairWire pairStatus 1 drainRoot ⟨acme,"main","m0"⟩ {
    candidate := drainRoot.head
    target := ⟨acme,"main","m0"⟩
    identical := true
    targetReachableFromCandidate := true }

/-- The first root lands; this is what is heard of its merge commit before the second is read. -/
def landingTalk (postflight : Talk) : Talk := [
  (.refetchPullRequest acme 1,.pullRequest drainRoot),
  (.branchHeadOid acme "main",.oid "m0"),
  (.branchRequiredContexts acme "main",.contexts pairForge.policy),
  (.nowUnix,.clock 0),
  (.ensureMarkedComment acme (.ofSnapshot drainRoot) drainAudit.1 drainAudit.2,
    .receipt ⟨.comment,none,drainRoot,none⟩),
  (.verifyPullRequestWithChecks acme (.ofSnapshot drainRoot),.done),
  (.verifyBranchHead acme "main" "m0",.done),
  (.branchRequiredContexts acme "main",.contexts pairForge.policy),
  (.squashMerge acme (.ofSnapshot drainRoot),.receipt ⟨.squashMerge,none,drainMerged,none⟩)] ++
  postflight ++ [(.refetchPullRequest acme 2,.pullRequest drainNext)]

/-- The successor's retarget, which the provider then rejects. -/
def nextPromotion : SyncRequest × SyncAnswer :=
  (.setBase acme (.ofSnapshot drainNext) "main",.failed (.other "rejected"))

/-- No merge commit, and a default branch that has not moved. -/
def unreported : Talk := [
  (.mergeCommitOid acme 1,.mergeCommit none),
  (.branchHeadOid acme "main",.oid "m0")]

def reported : Talk := [
  (.mergeCommitOid acme 1,.mergeCommit (some "merge-1")),
  (.branchHeadOid acme "main",.oid "merge-1"),
  (.compareCommits acme "merge-1" "merge-1",.relation .identical)]

theorem landingTalk_runs {postflight : Talk} (h : (((drainCaravanRoots pairWire pairStatus false
      pairCaravan).run pairProgress).run.replay
        ((landingTalk postflight ++ [nextPromotion]).map Prod.snd)).map (·.2) =
          some (landingTalk postflight ++ [nextPromotion])) :
    ∃ r,Prog.Run Prog.record ((drainCaravanRoots pairWire pairStatus false pairCaravan).run
      pairProgress).run [] r (landingTalk postflight ++ [nextPromotion]) := by
  obtain ⟨⟨r,t⟩,hr,rfl⟩ := Option.map_eq_some_iff.mp h
  exact ⟨r,Prog.run_of_replay hr []⟩

/-- Without a reported merge commit the successor is promoted all the same. -/
theorem unreported_promotes : (∃ r,Prog.Run Prog.record ((drainCaravanRoots pairWire pairStatus false
      pairCaravan).run pairProgress).run [] r (landingTalk unreported ++ [nextPromotion])) ∧
    ¬ InOrder pairStatus pairCaravan.members pairProgress.maxRootMerges (landingTalk unreported)
      nextPromotion.1 := by
  refine ⟨landingTalk_runs (by decide +kernel),?_⟩
  rintro ⟨-,-,-,hdelivered⟩
  obtain ⟨commit,head,relation,hcommit,-⟩ := (hdelivered 1 (by decide)).reached
  simp [landingTalk,unreported] at hcommit

theorem reported_inOrder : InOrder pairStatus pairCaravan.members pairProgress.maxRootMerges
    (landingTalk reported) nextPromotion.1 := by
  obtain ⟨r,hrun⟩ := @landingTalk_runs reported (by decide +kernel)
  have hindexed : Indexed pairStatus.analysis.pullRequests := by
    rw [(Graph.analyzeForActor_kept pair_green.analyzed).pullRequests]
    exact Graph.collectPullRequests_indexed _
  refine drainCaravanRoots_inOrder hindexed (by decide) hrun ?_ rfl
  intro e he
  simp only [landingTalk,reported,nextPromotion,List.mem_append,List.mem_cons,List.not_mem_nil,
    or_false] at he
  rcases he with (((rfl | rfl | rfl | rfl | rfl | rfl | rfl | rfl | rfl) | rfl | rfl | rfl) | rfl) | rfl
  all_goals first | trivial | rfl | exact fun h => by cases h

end Sample

end Sync
end Cara
