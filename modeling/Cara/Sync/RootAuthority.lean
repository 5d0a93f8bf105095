import Cara.Lib.Recorded
import Cara.Sync.WholeDrain

/-! What a root landing has read when it submits the squash merge: every run of one landing,
whatever the provider answers. -/
namespace Cara
namespace Sync

open Generation (CommitRelation)
open RequiredRuns (RequiredContextsRead HeadRunLineage RequiredRunsAssessment RequiredRunsInput)
open Prog (Meets Uses recordWhere)

/-- Requests with their answers, oldest first. -/
abbrev Talk := List (SyncRequest × SyncAnswer)

section Decoded

variable {a : SyncAnswer}

theorem pullRequest?_eq_some {s : PullRequestSnapshot} : a.pullRequest? = some s ↔
    a = .pullRequest s := by cases a <;> simp [SyncAnswer.pullRequest?]

theorem receipt?_eq_some {r : GitHubMutationReceipt} : a.receipt? = some r ↔ a = .receipt r := by
  cases a <;> simp [SyncAnswer.receipt?]

theorem oid?_eq_some {oid : CommitOid} : a.oid? = some oid ↔ a = .oid oid := by
  cases a <;> simp [SyncAnswer.oid?]

theorem relation?_eq_some {r : CommitRelation} : a.relation? = some r ↔ a = .relation r := by
  cases a <;> simp [SyncAnswer.relation?]

theorem contexts?_eq_some {r : RequiredContextsRead} : a.contexts? = some r ↔ a = .contexts r := by
  cases a <;> simp [SyncAnswer.contexts?]

theorem clock?_eq_some {n : ℕ} : a.clock? = some n ↔ a = .clock n := by
  cases a <;> simp [SyncAnswer.clock?]

theorem done?_eq_some {u : Unit} : a.done? = some u ↔ a = .done := by
  cases a <;> simp [SyncAnswer.done?]

theorem mergeCommit?_eq_some {c : Option CommitOid} : a.mergeCommit? = some c ↔
    a = .mergeCommit c := by cases a <;> simp [SyncAnswer.mergeCommit?]

end Decoded

section Heard

variable {fits : SyncRequest → SyncAnswer → Prop} {ok : Talk → SyncRequest → Prop} {h : Talk}
  {p : SyncProgress}

theorem call_heard {α : Type} {q : SyncRequest} {onError : MutationError → SyncError}
    {value : SyncAnswer → Option α} (hok : ok h q) :
    Meets (recordWhere fits) ok (StateT.lift (call q onError value) : SyncM α)
      (fun h' v p' => p' = p ∧ ∃ a,fits q a ∧ h' = h ++ [(q,a)] ∧ value a = some v)
      (fun _ _ => True) h p := by
  apply Meets.lift
  refine .query hok ?_ fun _ _ _ _ _ => trivial
  intro a h' v hstep hvalue
  refine ⟨rfl,a,hstep.1,hstep.2,?_⟩
  split at hvalue
  · cases hvalue
  · cases hvalue
  · obtain ⟨v',hv,heq⟩ := Option.map_eq_some_iff.mp hvalue
    cases heq
    exact hv

theorem ask_heard {α : Type} {q : SyncRequest} {pr : Option PrNumber}
    {value : SyncAnswer → Option α} (hok : ok h q) :
    Meets (recordWhere fits) ok (ask q pr value)
      (fun h' v p' => p' = p ∧ ∃ a,fits q a ∧ h' = h ++ [(q,a)] ∧ value a = some v)
      (fun _ _ => True) h p := call_heard hok

theorem get_heard : Meets (recordWhere fits) ok (get : SyncM SyncProgress)
    (fun h' v p' => h' = h ∧ v = p ∧ p' = p) (fun _ _ => True) h p := .get ⟨rfl,rfl,rfl⟩

theorem modify_heard (f : SyncProgress → SyncProgress) :
    Meets (recordWhere fits) ok (modify f : SyncM Unit) (fun h' _ p' => h' = h ∧ p' = f p)
      (fun _ _ => True) h p := .modify ⟨rfl,rfl⟩

theorem currentOf_heard (number : PrNumber) : Meets (recordWhere fits) ok (currentOf number)
    (fun h' s p' => h' = h ∧ p' = p ∧ p.current[number]? = some s) (fun _ _ => True) h p := by
  apply get_heard.bind
  rintro h' v p' ⟨rfl,rfl,rfl⟩
  split
  · next s hs => exact .pure ⟨rfl,rfl,hs⟩
  · exact .lift .crashed

theorem preconditionOf_heard (number : PrNumber) :
    Meets (recordWhere fits) ok (preconditionOf number)
      (fun h' e p' => h' = h ∧ p' = p ∧ ∃ s,p.current[number]? = some s ∧ e = .ofSnapshot s)
      (fun _ _ => True) h p := by
  apply (currentOf_heard number).bind
  rintro h' s p' ⟨rfl,rfl,hs⟩
  exact .pure ⟨rfl,rfl,s,hs,rfl⟩

theorem ensureMutationCapacity_heard (reserve : ℕ) :
    Meets (recordWhere fits) ok (ensureMutationCapacity reserve) (fun h' _ p' => h' = h ∧ p' = p)
      (fun _ _ => True) h p := by
  apply get_heard.bind
  rintro h' v p' ⟨rfl,rfl,rfl⟩
  split
  · exact .pure ⟨rfl,rfl⟩
  · exact .throw trivial

end Heard

section Generation

variable {fits : SyncRequest → SyncAnswer → Prop} {ok : Talk → SyncRequest → Prop} {h : Talk}
  {p : SyncProgress} (hok : ∀ h q,Reading q → ok h q)
include hok

theorem refetch_heard {repository : RepositoryId} (number : PrNumber) :
    Meets (recordWhere fits) ok (refetchPullRequest repository number)
      (fun h' s p' => p' = p ∧ fits (.refetchPullRequest repository number) (.pullRequest s) ∧
        h' = h ++ [(.refetchPullRequest repository number,.pullRequest s)])
      (fun _ _ => True) h p := by
  apply (ask_heard (hok h (.refetchPullRequest repository number) trivial)).mono
  · rintro h' s p' ⟨rfl,a,hfit,rfl,ha⟩
    rw [pullRequest?_eq_some.mp ha] at hfit ⊢
    exact ⟨rfl,hfit,rfl⟩
  · exact fun _ _ _ => trivial

theorem rereadHead_heard {repository : RepositoryId} (number : PrNumber) (expected : CommitOid)
    (left : ℕ) (observed : PullRequestSnapshot) :
    Meets (recordWhere fits) ok (rereadHead repository number expected left observed)
      (fun h' r p' => p' = p ∧ h <+: h' ∧ (r.1 = observed ∨
        fits (.refetchPullRequest repository number) (.pullRequest r.1) ∧
          (.refetchPullRequest repository number,.pullRequest r.1) ∈ h'))
      (fun _ _ => True) h p := by
  induction left generalizing h observed with
  | zero => exact .pure ⟨rfl,List.prefix_rfl,.inl rfl⟩
  | succ left ih =>
    rw [rereadHead]
    split
    · exact .pure ⟨rfl,List.prefix_rfl,.inl rfl⟩
    · apply (refetch_heard hok number).bind
      rintro h' again p' ⟨rfl,hfit,rfl⟩
      apply (ih again).bind
      rintro h'' r p'' ⟨rfl,hgrown,hr⟩
      refine .pure ⟨rfl,(List.prefix_append _ _).trans hgrown,.inr ?_⟩
      rcases hr with hr | hr
      · rw [hr]
        exact ⟨hfit,hgrown.subset (by simp)⟩
      · exact hr

/-- The generation read is an answer of this read, and what the tick keeps of the root. -/
theorem readExactRootGeneration_heard {repository : RepositoryId} (number : PrNumber)
    (defaultBranch : String) :
    Meets (recordWhere fits) ok (readExactRootGeneration repository number defaultBranch)
      (fun h' r p' => p' = p.see number r.1 ∧ h <+: h' ∧
        fits (.refetchPullRequest repository number) (.pullRequest r.1) ∧
        (.refetchPullRequest repository number,.pullRequest r.1) ∈ h')
      (fun _ _ => True) h p := by
  apply get_heard.bind
  rintro h' v p' ⟨rfl,rfl,rfl⟩
  apply (refetch_heard hok number).bind
  rintro t first p' ⟨rfl,hfit,rfl⟩
  dsimp only
  split
  · apply (modify_heard _).bind
    rintro t - p' ⟨rfl,rfl⟩
    exact .pure ⟨rfl,List.prefix_append _ _,hfit,by simp⟩
  · apply (rereadHead_heard hok number _ _ first).bind
    rintro t r p' ⟨rfl,hgrown,hr⟩
    split
    · exact .throw trivial
    · split
      · exact .throw trivial
      · apply (modify_heard _).bind
        rintro t' - p' ⟨rfl,rfl⟩
        refine .pure ⟨rfl,(List.prefix_append _ _).trans hgrown,?_⟩
        rcases hr with hr | hr
        · rw [hr]
          exact ⟨hfit,hgrown.subset (by simp)⟩
        · exact hr

end Generation

section Reads

variable {status : StatusOutput} {fits : SyncRequest → SyncAnswer → Prop}
  {ok : Talk → SyncRequest → Prop} {h : Talk} {p : SyncProgress}
  (hok : ∀ h q,Plain q → ok h q)
include hok

theorem refuteContainment_heard (number : PrNumber) (observed : PullRequestSnapshot)
    (observedDefault : CommitOid) (candidates : List PullRequestSnapshot) :
    Meets (recordWhere fits) ok (refuteContainment status number observed observedDefault candidates)
      (fun h' _ p' => p' = p ∧ h <+: h' ∧ ∀ c ∈ candidates,∃ relation,
        (.compareCommits status.repository c.head.oid observed.head.oid,.relation relation) ∈ h' ∧
          containsBase relation = false)
      (fun _ _ => True) h p := by
  induction candidates generalizing h with
  | nil => exact .pure ⟨rfl,List.prefix_rfl,fun _ hc => by cases hc⟩
  | cons candidate rest ih =>
    apply (ask_heard (hok h (.compareCommits status.repository candidate.head.oid
      observed.head.oid) trivial)).bind
    rintro h' relation p' ⟨rfl,a,-,rfl,ha⟩
    rw [relation?_eq_some.mp ha]
    apply (ask_heard (hok _ (.compareCommits status.repository candidate.head.oid
      observedDefault) trivial)).bind
    rintro h'' toDefault p'' ⟨rfl,a',-,rfl,-⟩
    split
    · exact .throw trivial
    · next hcontained =>
      apply (ih).mono
      · rintro t - p' ⟨rfl,hgrown,hrest⟩
        refine ⟨rfl,?_,?_⟩
        · exact ((List.prefix_append _ _).trans (List.prefix_append _ _)).trans hgrown
        · intro c hc
          rcases List.mem_cons.mp hc with rfl | hc
          · exact ⟨relation,hgrown.subset (by simp),by simpa using hcontained⟩
          · exact hrest c hc
      · exact fun _ _ _ => trivial

/-- The assessment of a snapshot under a policy, by some lineage and a clock that was read. -/
structure Assessed (grace : ℕ) (h : Talk) (current : PullRequestSnapshot)
    (contexts : RequiredContextsRead) (r : RequiredRunsAssessment) : Prop where
  made : ∃ lineage now,(.nowUnix,.clock now) ∈ h ∧ r = RequiredRuns.assess {
    pr := current.number
    head := current.head
    base := current.base
    contexts := contexts
    lineage := lineage
    checks := current.checks
    headPublishedAt := headPublishedAt current lineage
    clock := ⟨now,grace⟩ }

theorem assessWithLineage_heard (current : PullRequestSnapshot)
    (contexts : RequiredContextsRead) (lineage : Option HeadRunLineage) :
    Meets (recordWhere fits) ok (assessWithLineage current contexts lineage)
      (fun h' r p' => p' = p ∧ h <+: h' ∧ Assessed p.requiredRunsGraceSecs h' current contexts r)
      (fun _ _ => True) h p := by
  apply (ask_heard (hok h .nowUnix trivial)).bind
  rintro h' now p' ⟨rfl,a,-,rfl,ha⟩
  rw [clock?_eq_some.mp ha]
  apply get_heard.bind
  rintro t v p' ⟨rfl,rfl,rfl⟩
  exact .pure ⟨rfl,List.prefix_append _ _,lineage,now,by simp,rfl⟩

theorem assessRequiredRuns_heard {repository : RepositoryId} (current : PullRequestSnapshot)
    (contexts : RequiredContextsRead) :
    Meets (recordWhere fits) ok (assessRequiredRuns repository current contexts)
      (fun h' r p' => p' = p ∧ h <+: h' ∧ Assessed p.requiredRunsGraceSecs h' current contexts r)
      (fun _ _ => True) h p := by
  apply get_heard.bind
  rintro h' v p' ⟨rfl,rfl,rfl⟩
  dsimp only
  split
  · split
    · exact assessWithLineage_heard hok current contexts _
    · apply (ask_heard (hok h' (.headRunLineage repository (.ofSnapshot current)) trivial)).bind
      rintro t lineage p' ⟨rfl,a,-,rfl,-⟩
      apply (assessWithLineage_heard hok current contexts _).mono
      · rintro t' r p' ⟨rfl,hgrown,hr⟩
        exact ⟨rfl,(List.prefix_append _ _).trans hgrown,hr⟩
      · exact fun _ _ _ => trivial
  · exact assessWithLineage_heard hok current contexts _

theorem branchRequiredContexts_heard {repository : RepositoryId} (branch : String)
    (pr : Option PrNumber) :
    Meets (recordWhere fits) ok (branchRequiredContexts repository branch pr)
      (fun h' r p' => p' = p ∧ ∃ read,r = read.normalized ∧
        h' = h ++ [(.branchRequiredContexts repository branch,.contexts read)])
      (fun _ _ => True) h p := by
  apply (ask_heard (hok h (.branchRequiredContexts repository branch) trivial)).bind
  rintro h' read p' ⟨rfl,a,-,rfl,ha⟩
  rw [contexts?_eq_some.mp ha]
  exact .pure ⟨rfl,read,rfl,rfl⟩

/-- The audit comment is on record, and the tick knows its pull request as the receipt shows
it: under its own number, or the number that was asked for. -/
theorem ensureOperationComment_heard {repository : RepositoryId} (number : PrNumber)
    (operation marker body : String) :
    Meets (recordWhere fits) ok (ensureOperationComment repository number operation marker body)
      (fun h' _ p' => ∃ s receipt,p.current[number]? = some s ∧
        fits (.ensureMarkedComment repository (.ofSnapshot s) marker body) (.receipt receipt) ∧
        h' = h ++ [(.ensureMarkedComment repository (.ofSnapshot s) marker body,.receipt receipt)] ∧
        (∃ key,(key = number ∨ key = receipt.after.number) ∧
          p'.current = p.current.insert key receipt.after) ∧
        p'.maxRootMerges = p.maxRootMerges)
      (fun _ _ => True) h p := by
  apply (ensureMutationCapacity_heard 1).bind
  rintro h' - p' ⟨rfl,rfl⟩
  apply (preconditionOf_heard number).bind
  rintro t expected p ⟨rfl,rfl,s,hs,rfl⟩
  apply (call_heard (hok t (.ensureMarkedComment repository (.ofSnapshot s) marker body)
    trivial)).bind
  rintro h' receipt p' ⟨rfl,a,hfit,rfl,ha⟩
  rw [receipt?_eq_some.mp ha] at hfit ⊢
  split
  · exact .modify ⟨s,receipt,hs,hfit,rfl,⟨number,.inl rfl,rfl⟩,rfl⟩
  · exact .modify ⟨s,receipt,hs,hfit,rfl,⟨receipt.after.number,.inr rfl,rfl⟩,rfl⟩

/-- What the gates of a landing have established when they let a root pass. -/
structure Authority (status : StatusOutput) (p : SyncProgress) (number : PrNumber)
    (landed : Option CommitOid) (stackless : Bool) (a : Authorized) (h : Talk) : Prop where
  seen : (.refetchPullRequest status.repository number,.pullRequest a.observed) ∈ h
  isOpen : a.observed.state = .open
  undrafted : a.observed.draft = false
  based : a.observed.base.name = status.defaultBranch
  accepted : forgeRefuses a.observed = false
  defaultRead : (.branchHeadOid status.repository status.defaultBranch,.oid a.defaultBefore.oid) ∈ h
  proven : a.proof ∈ status.analysis.cumulativeTrees
  candidate : a.proof.candidate = a.observed.head
  target : a.proof.target.name = status.defaultBranch ∧ a.proof.target.oid = a.defaultBefore.oid
  identical : stackless = false → a.proof.identical = true
  retained : stackless = false → a.proof.targetReachableFromCandidate = true ∨
    landed = some a.defaultBefore.oid
  policyRead : ∃ read,a.policy = read.normalized ∧
    (.branchRequiredContexts status.repository status.defaultBranch,.contexts read) ∈ h
  complete : a.policy.complete = true
  green : ∃ r,Assessed p.requiredRunsGraceSecs h a.observed a.policy r ∧ isGreen r.status = true
  compared : ∀ c ∈ unmergedAncestors status number,∃ relation,
    (.compareCommits status.repository c.head.oid a.observed.head.oid,.relation relation) ∈ h ∧
      containsBase relation = false

omit hok in
theorem mergeGate_eligible {observed : PullRequestSnapshot} {facts : RootMergeFacts}
    (hgate : mergeGate observed facts = .eligible) : observed.state = .open ∧
      observed.draft = false ∧ observed.base.name = facts.defaultBranch ∧
      facts.requiredRunsSatisfied = true := by
  unfold mergeGate at hgate
  split_ifs at hgate with h₁ h₂ h₃ h₄ h₅ h₆ h₇
  simp only [not_or,not_not,Bool.not_eq_true] at h₂ h₄ h₇
  exact ⟨h₄.1,h₄.2,h₂,by simpa using h₇⟩

omit hok in
theorem rootTreeProof_some {observed : PullRequestSnapshot} {oid : CommitOid}
    {proof : CumulativeTreeProof} (h : rootTreeProof status observed oid = some proof) :
    proof ∈ status.analysis.cumulativeTrees ∧ proof.candidate = observed.head ∧
      proof.target.name = status.defaultBranch ∧ proof.target.oid = oid := by
  have hmatch := List.find?_some h
  rw [decide_eq_true_eq] at hmatch
  exact ⟨List.mem_of_find?_eq_some h,hmatch⟩

theorem authorizeRoot_heard (caravanId number : PrNumber) (landed : Option CommitOid)
    (stackless : Bool) :
    Meets (recordWhere fits) ok (authorizeRoot status caravanId number landed stackless)
      (fun h' r p' => h <+: h' ∧ ∀ a,r = some a → Authority status p number landed stackless a h' ∧
        fits (.refetchPullRequest status.repository number) (.pullRequest a.observed) ∧
        p'.current = p.current.insert number a.observed ∧ p'.maxRootMerges = p.maxRootMerges)
      (fun _ _ => True) h p := by
  have hwait (block : RootMergeBlock) (detail : Option String) {h' : Talk} {p' : SyncProgress}
      (hgrown : h <+: h') : Meets (recordWhere fits) ok (do
        recordMergeWait number block detail
        return (none : Option Authorized))
        (fun h' r p' => h <+: h' ∧ ∀ a,r = some a →
          Authority status p number landed stackless a h' ∧
          fits (.refetchPullRequest status.repository number) (.pullRequest a.observed) ∧
          p'.current = p.current.insert number a.observed ∧ p'.maxRootMerges = p.maxRootMerges)
        (fun _ _ => True) h' p' := by
    apply (modify_heard _).bind
    rintro t - p'' ⟨rfl,-⟩
    exact .pure ⟨hgrown,fun a ha => by cases ha⟩
  apply (readExactRootGeneration_heard (fun h q hq => hok h q (hq.plain q)) number _).bind
  rintro h₁ ⟨observed,reads⟩ p₁ ⟨rfl,hgrown₁,hfit,hseen⟩
  apply (ask_heard (hok h₁ (.branchHeadOid status.repository status.defaultBranch) trivial)).bind
  rintro h₂ observedDefault p₂ ⟨rfl,answer,-,rfl,hanswer⟩
  rw [oid?_eq_some.mp hanswer]
  apply (refuteContainment_heard hok number observed observedDefault _).bind
  rintro h₃ - p₃ ⟨rfl,hgrown₃,hcompared⟩
  apply (branchRequiredContexts_heard hok _ _).bind
  rintro h₄ policy p₄ ⟨rfl,read,hpolicy,rfl⟩
  apply (assessRequiredRuns_heard hok observed policy).bind
  rintro h₅ assessment p₅ ⟨rfl,hgrown₅,hassessed⟩
  apply (modify_heard _).bind
  rintro h₆ - p₆ ⟨rfl,rfl⟩
  apply get_heard.bind
  rintro h₇ facts p₇ ⟨rfl,rfl,rfl⟩
  have hgrown₄ : h₃ <+: h₇ := (List.prefix_append _ _).trans hgrown₅
  have hgrown₂ := hgrown₃.trans hgrown₄
  have hgrown : h <+: h₇ := (hgrown₁.trans (List.prefix_append _ _)).trans hgrown₂
  dsimp only
  split
  · exact .throw trivial
  · exact hwait _ _ hgrown
  · next hgate =>
    obtain ⟨hopen,hdraft,hbase,hgreen⟩ := mergeGate_eligible hgate
    simp only [Bool.and_eq_true,decide_eq_true_eq] at hgreen
    split
    · exact hwait _ _ hgrown
    · next proof hproof =>
      obtain ⟨hmem,hcandidate,htarget⟩ := rootTreeProof_some hproof
      split
      · exact hwait _ _ hgrown
      · next hidentical =>
        split
        · exact .throw trivial
        · next hretained =>
          split
          · exact .throw trivial
          · next haccepted =>
            refine .pure ⟨hgrown,?_⟩
            intro a ha
            cases ha
            refine ⟨?_,hfit,rfl,rfl⟩
            exact {
              seen := hgrown₂.subset (List.mem_append_left _ hseen)
              isOpen := hopen
              undrafted := hdraft
              based := hbase
              accepted := by simpa using haccepted
              defaultRead := hgrown₂.subset (by simp)
              proven := hmem
              candidate := hcandidate
              target := htarget
              identical := by
                intro hstackless
                simpa [hstackless] using hidentical
              retained := by
                intro hstackless
                simpa [hstackless,retainedPatchSetHolds,or_iff_not_imp_left] using hretained
              policyRead := ⟨read,hpolicy,hgrown₅.subset (by simp)⟩
              complete := hgreen.1.1
              green := ⟨assessment,hassessed,hgreen.2⟩
              compared := by
                intro c hc
                obtain ⟨relation,hrelation,hcontained⟩ := hcompared c hc
                exact ⟨relation,hgrown₄.subset hrelation,hcontained⟩ }

structure Reverified (status : StatusOutput) (a : Authorized) (h : Talk) : Prop where
  unchanged : (.verifyPullRequestWithChecks status.repository (.ofSnapshot a.observed),.done) ∈ h
  defaultHeld : (.verifyBranchHead status.repository status.defaultBranch a.defaultBefore.oid,
    .done) ∈ h
  policyHeld : ∃ read,a.policy = read.normalized ∧
    (.branchRequiredContexts status.repository status.defaultBranch,.contexts read) ∈ h

theorem auditRoot_heard {w : SyncWire} (number : PrNumber) (a : Authorized) :
    Meets (recordWhere fits) ok (auditRoot w status number a)
      (fun h' r p' => r = true → ∃ s receipt marker body tail,p.current[number]? = some s ∧
        fits (.ensureMarkedComment status.repository (.ofSnapshot s) marker body)
          (.receipt receipt) ∧
        h' = h ++ (.ensureMarkedComment status.repository (.ofSnapshot s) marker body,
          .receipt receipt)::tail ∧ Reverified status a tail ∧
        (∃ key,(key = number ∨ key = receipt.after.number) ∧
          p'.current = p.current.insert key receipt.after) ∧
        p'.maxRootMerges = p.maxRootMerges)
      (fun _ _ => True) h p := by
  apply (ensureOperationComment_heard hok number _ _ _).bind
  rintro h₁ - p₁ ⟨s,receipt,hs,hfit,rfl,hcurrent,hmax⟩
  apply (ask_heard (hok _ (.verifyPullRequestWithChecks status.repository
    (.ofSnapshot a.observed)) trivial)).bind
  rintro h₂ u₂ p₂ ⟨rfl,verified,-,rfl,hverified⟩
  rw [done?_eq_some.mp hverified]
  apply (ask_heard (hok _ (.verifyBranchHead status.repository status.defaultBranch
    a.defaultBefore.oid) trivial)).bind
  rintro h₃ u₃ p₃ ⟨rfl,held,-,rfl,hheld⟩
  rw [done?_eq_some.mp hheld]
  apply (branchRequiredContexts_heard hok _ _).bind
  rintro h₄ final p₄ ⟨rfl,read,hfinal,rfl⟩
  split
  · apply (modify_heard _).bind
    intro t _ p' _
    exact .pure fun hfalse => by cases hfalse
  · next hpolicy =>
    refine .pure fun _ => ?_
    simp only [not_or,not_not] at hpolicy
    refine ⟨s,receipt,_,_,_,hs,hfit,by simp only [List.append_assoc,List.singleton_append]; rfl,
      ⟨by simp,by simp,read,hpolicy.2.symm.trans hfinal,by simp⟩,hcurrent,hmax⟩

end Reads

section Authorised

variable (status : StatusOutput) (p : SyncProgress) (number : PrNumber)
  (landed : Option CommitOid) (stackless : Bool)

/-- The conversation before a squash merge: the gates passed on one authorized generation, then
the audit comment, then the same facts once more. -/
structure Audited (a : Authorized) (before preflight tail : Talk) : Prop where
  split : ∃ expected marker body receipt,before = preflight ++
    (.ensureMarkedComment status.repository expected marker body,.receipt receipt)::tail
  authority : Authority status p number landed stackless a preflight
  reverified : Reverified status a tail

variable {status p number landed stackless}

end Authorised

section Sample

def evictedSnapshot : RepositorySnapshot where
  repository := acme
  defaultBranch := ⟨acme,"main","m0"⟩
  pullRequests := [pairMember 1 ⟨acme,"main","m0"⟩,
    { pairMember 3 ⟨acme,"main","m0"⟩ with labels := {"caravan-evicted"} }]

def evictedStatus : StatusOutput where
  repository := acme
  defaultBranch := "main"
  analysis := (Graph.analyzeForActor cleanChecker evictedSnapshot .caravan).toOption.getD
    (Graph.deriveForActor evictedSnapshot .caravan)
  headMergeActor := .caravan
  maxRootMergesPerTick := 1

def evictedRoot : PullRequestSnapshot := pairMember 1 ⟨acme,"main","m0"⟩

def evictedProgress : SyncProgress := .new evictedStatus "tick" 16

end Sample

end Sync
end Cara
