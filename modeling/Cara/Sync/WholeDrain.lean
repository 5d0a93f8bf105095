import Cara.Lib.Total
import Cara.Sync.RootMergeCalls

/-! One drain of a whole green caravan against a provider that answers truthfully and on which
every squash merge succeeds. All tree proofs were collected against the default head of the
discovery, which the first landing moves. -/
namespace Cara
namespace Graph

section Trees

variable {δ : Type} {checker : CompatibilityChecker δ} {a b : GraphAnalysis}

def treesOf (checker : CompatibilityChecker δ) : CompatibilityAnalysisTask → List CumulativeTreeProof
  | .cumulativeTree candidate target =>
      match checker.cumulativeTree candidate target with
      | .ok proof => proof.toList
      | .error _ => []
  | _ => []

theorem execute_trees (task : CompatibilityAnalysisTask) (h : (task.execute checker a).2 = none) :
    (task.execute checker a).1.cumulativeTrees = a.cumulativeTrees ++ treesOf checker task := by
  cases task with
  | fleet candidate target prs message =>
    simp only [CompatibilityAnalysisTask.execute,treesOf,List.append_nil]
    cases checker.check candidate target with
    | error e => rfl
    | ok report =>
      simp only [recordCompatibility]
      cases (if report.outcome = .clean then Except.ok ()
        else checker.squashEquivalence report.candidate report.target) <;> rfl
  | cumulativeTree candidate target =>
    simp only [CompatibilityAnalysisTask.execute,treesOf] at h ⊢
    cases hproof : checker.cumulativeTree candidate target with
    | error e =>
      rw [hproof] at h
      cases h
    | ok proof => rfl
  | admissionCandidate candidate target pr =>
    simp only [CompatibilityAnalysisTask.execute,treesOf,List.append_nil]
    cases checker.check candidate target <;> rfl

variable {snapshot : RepositorySnapshot} {actor : HeadMergeActor}

theorem analyzeForActor_trees (h : analyzeForActor checker snapshot actor = .ok b) :
    b.cumulativeTrees = (compatibilityTasks snapshot (deriveForActor snapshot actor)).flatMap
      (treesOf checker) := by
  have hcollects := analyzeForActor_collects (f := GraphAnalysis.cumulativeTrees)
    (fun _ task htask => execute_trees task htask) h
  have hbare : (deriveForActor snapshot actor).cumulativeTrees = [] := rfl
  rw [hcollects,hbare,List.nil_append]

theorem candidateTasks_not_tree {candidate target : BranchSnapshot} (selected : ℕ)
    (numbers : List PrNumber) :
    .cumulativeTree candidate target ∉ candidateTasks snapshot a selected numbers := by
  induction numbers generalizing selected with
  | nil => simp [candidateTasks]
  | cons number rest ih =>
    rw [candidateTasks]
    split
    · exact ih _
    · split
      · exact ih _
      · split
        · exact ih _
        · split
          · exact ih _
          · simp [ih]

/-- Trees are proven for caravan heads and against the discovered default branch alone. -/
theorem mem_compatibilityTasks_tree {candidate target : BranchSnapshot}
    (h : .cumulativeTree candidate target ∈ compatibilityTasks snapshot a) :
    target = snapshot.defaultBranch ∧ ∃ c ∈ a.fleet.caravans, ∃ n ∈ c.head,
      headBranch a n = some candidate := by
  unfold compatibilityTasks at h
  rcases List.mem_append.mp h with h | h
  · rcases List.mem_append.mp h with h | h
    · obtain ⟨c,hc,h⟩ := List.mem_flatMap.mp h
      unfold caravanTasks at h
      split at h
      case h_1 => cases h
      case h_2 head branch hhead =>
        rcases List.mem_append.mp h with h | h
        · simp only [List.mem_cons,CompatibilityAnalysisTask.cumulativeTree.injEq,reduceCtorEq,
            List.not_mem_nil,or_false,false_or] at h
          obtain ⟨n,hn,hbranch⟩ := Option.bind_eq_some_iff.mp hhead
          obtain ⟨branch',hbranch',hpair⟩ := Option.map_eq_some_iff.mp hbranch
          cases hpair
          exact ⟨h.2,c,hc,_,hn,by rw [hbranch',h.1]⟩
        · obtain ⟨pair,-,h⟩ := List.mem_filterMap.mp h
          obtain ⟨child,-,h⟩ := Option.bind_eq_some_iff.mp h
          obtain ⟨parent,-,h⟩ := Option.map_eq_some_iff.mp h
          cases h
    · obtain ⟨entry,-,h⟩ := List.mem_flatMap.mp h
      obtain ⟨other,-,h⟩ := List.mem_filterMap.mp h
      split at h
      · cases h
      · obtain ⟨head,-,h⟩ := Option.bind_eq_some_iff.mp h
        obtain ⟨tail,-,h⟩ := Option.bind_eq_some_iff.mp h
        obtain ⟨branch,-,h⟩ := Option.bind_eq_some_iff.mp h
        obtain ⟨branch',-,h⟩ := Option.map_eq_some_iff.mp h
        cases h
  · exact absurd h (candidateTasks_not_tree _ _)

theorem headTree_mem {c : Caravan} {n : PrNumber} {branch : BranchSnapshot}
    (hc : c ∈ a.fleet.caravans) (hn : c.head = some n) (hbranch : headBranch a n = some branch) :
    .cumulativeTree branch snapshot.defaultBranch ∈ compatibilityTasks snapshot a := by
  apply List.mem_append_left
  apply List.mem_append_left
  apply List.mem_flatMap.mpr
  refine ⟨c,hc,?_⟩
  simp [caravanTasks,hn,hbranch]

/-- The checker proves the two branches that it was asked about. -/
def Honest (checker : CompatibilityChecker δ) : Prop :=
  ∀ candidate target proof,checker.cumulativeTree candidate target = .ok (some proof) →
    proof.candidate = candidate ∧ proof.target = target

theorem mem_treesOf {task : CompatibilityAnalysisTask} {proof : CumulativeTreeProof}
    (h : proof ∈ treesOf checker task) : ∃ candidate target,
      task = .cumulativeTree candidate target ∧
        checker.cumulativeTree candidate target = .ok (some proof) := by
  cases task with
  | fleet candidate target prs message => cases h
  | admissionCandidate candidate target pr => cases h
  | cumulativeTree candidate target =>
    refine ⟨candidate,target,rfl,?_⟩
    simp only [treesOf] at h
    split at h
    · next found hfound =>
      rw [Option.mem_toList] at h
      rw [hfound,h]
    · cases h

theorem mem_cumulativeTrees (h : analyzeForActor checker snapshot actor = .ok b)
    {proof : CumulativeTreeProof} : proof ∈ b.cumulativeTrees ↔ ∃ candidate target,
      .cumulativeTree candidate target ∈
        compatibilityTasks snapshot (deriveForActor snapshot actor) ∧
      checker.cumulativeTree candidate target = .ok (some proof) := by
  rw [analyzeForActor_trees h,List.mem_flatMap]
  constructor
  · rintro ⟨task,htask,hmem⟩
    obtain ⟨candidate,target,rfl,hproof⟩ := mem_treesOf hmem
    exact ⟨candidate,target,htask,hproof⟩
  · rintro ⟨candidate,target,htask,hproof⟩
    refine ⟨_,htask,?_⟩
    simp only [treesOf,hproof,Option.toList_some,List.mem_singleton]

/-- Every collected tree has the discovered default branch as its target. -/
theorem cumulativeTrees_target (hhonest : Honest checker)
    (h : analyzeForActor checker snapshot actor = .ok b) {proof : CumulativeTreeProof}
    (hproof : proof ∈ b.cumulativeTrees) : proof.target = snapshot.defaultBranch := by
  obtain ⟨candidate,target,htask,hchecked⟩ := (mem_cumulativeTrees h).mp hproof
  rw [(hhonest candidate target proof hchecked).2]
  exact (mem_compatibilityTasks_tree htask).1

end Trees

end Graph

namespace Sync

open Generation (CommitRelation)
open RequiredRuns (RequiredContextsRead HeadRunLineage)
open Prog (Meets Uses Succeeds Reaches)

structure Forge where
  repository : RepositoryId
  defaultBranch : String
  policy : RequiredContextsRead
  lineage : PullRequestPrecondition → HeadRunLineage
  relation : CommitOid → CommitOid → CommitRelation
  mergeCommit : PrNumber → CommitOid
  mergedAt : PrNumber → Option String

structure World where
  pulls : PullRequestMap
  defaultHead : CommitOid

namespace World

variable (f : Forge) (w : World)

def notFound : SyncAnswer := .failed (.provider "pull request not found")

/-- The answer of a request about one pull request that changes nothing. -/
def about (number : PrNumber) (answer : PullRequestSnapshot → SyncAnswer → Prop) (a : SyncAnswer) :
    Prop :=
  match w.pulls[number]? with
  | none => a = notFound
  | some p => answer p a

def ReceiptOf (p : PullRequestSnapshot) (a : SyncAnswer) : Prop :=
  ∃ receipt : GitHubMutationReceipt,receipt.after = p ∧ a = .receipt receipt

/-- A write on one pull request, with the default head behind it. -/
def writes (number : PrNumber) (change : PullRequestSnapshot → PullRequestSnapshot)
    (head : CommitOid) (a : SyncAnswer) (w' : World) : Prop :=
  match w.pulls[number]? with
  | none => w' = w ∧ a = notFound
  | some p => w' = ⟨w.pulls.insert number (change p),head⟩ ∧ ReceiptOf (change p) a

def verified (expected : PullRequestPrecondition) (p : PullRequestSnapshot) : SyncAnswer :=
  if .ofSnapshot p = expected then .done
  else .failed (.stalePrecondition expected (.ofSnapshot p)
    (changedPreconditionFields expected (.ofSnapshot p)))

def Merged (number : PrNumber) : Prop := ∃ p,w.pulls[number]? = some p ∧ p.state = .merged

def mergedBy (number : PrNumber) (p : PullRequestSnapshot) : PullRequestSnapshot :=
  { p with state := .merged,mergedAt := f.mergedAt number }

def retargeted (base : String) (p : PullRequestSnapshot) : PullRequestSnapshot :=
  { p with base := ⟨f.repository,base,w.defaultHead⟩ }

/-- Reads are truthful, writes of a base and squash merges succeed, and a squash merge moves
the default branch to its commit. What no drain of a green caravan depends on is refused. -/
def Step (q : SyncRequest) (a : SyncAnswer) (w' : World) : Prop :=
  match q with
  | .refetchPullRequest _ number => w' = w ∧ w.about number (fun p a => a = .pullRequest p) a
  | .verifyPullRequestWithChecks _ expected =>
      w' = w ∧ w.about expected.number (fun p a => a = verified expected p) a
  | .ensureMarkedComment _ expected _ _ => w' = w ∧ w.about expected.number ReceiptOf a
  | .branchHeadOid .. => w' = w ∧ a = .oid w.defaultHead
  | .verifyBranchHead _ branch expected => w' = w ∧ a = if expected = w.defaultHead then .done
      else .failed (.branchHeadMismatch branch expected w.defaultHead)
  | .compareCommits _ base head => w' = w ∧ a = .relation (f.relation base head)
  | .branchRequiredContexts .. => w' = w ∧ a = .contexts f.policy
  | .headRunLineage _ expected => w' = w ∧ a = .lineage (f.lineage expected)
  | .mergeCommitOid _ number => w' = w ∧ w.about number
      (fun p a => a = .mergeCommit (if p.state = .merged then some (f.mergeCommit number) else none)) a
  | .nowUnix => w' = w ∧ ∃ now,a = .clock now
  | .squashMerge _ expected => w.writes expected.number (mergedBy f expected.number)
      (f.mergeCommit expected.number) a w'
  | .setBase _ expected base => w.writes expected.number (w.retargeted f base) w.defaultHead a w'
  | _ => w' = w ∧ a = .failed (.other "not part of a drain")

variable {f w}

theorem Step.plain {q : SyncRequest} {a : SyncAnswer} {w' : World} (hq : Plain q)
    (h : w.Step f q a w') : w' = w := by
  cases q <;> first | exact h.1 | exact hq.elim

theorem receiptOf_exists (p : PullRequestSnapshot) : ∃ a,ReceiptOf p a :=
  ⟨_,⟨.comment,none,p,none⟩,rfl,rfl⟩

theorem about_exists (number : PrNumber) (answer : PullRequestSnapshot → SyncAnswer → Prop)
    (h : ∀ p,∃ a,answer p a) : ∃ a,w.about number answer a := by
  unfold about
  cases w.pulls[number]? with
  | none => exact ⟨_,rfl⟩
  | some p => exact h p

theorem writes_exists (number : PrNumber) (change : PullRequestSnapshot → PullRequestSnapshot)
    (head : CommitOid) : ∃ a w',w.writes number change head a w' := by
  unfold writes
  cases w.pulls[number]? with
  | none => exact ⟨notFound,w,rfl,rfl⟩
  | some p =>
    obtain ⟨a,ha⟩ := receiptOf_exists (change p)
    exact ⟨a,_,rfl,ha⟩

theorem step_exists (f : Forge) (w : World) (q : SyncRequest) : ∃ a w',w.Step f q a w' := by
  cases q
  case refetchPullRequest repository number =>
    obtain ⟨a,ha⟩ := w.about_exists number (fun p a => a = .pullRequest p) fun p => ⟨_,rfl⟩
    exact ⟨a,w,rfl,ha⟩
  case verifyPullRequestWithChecks repository expected =>
    obtain ⟨a,ha⟩ := w.about_exists expected.number (fun p a => a = verified expected p)
      fun p => ⟨_,rfl⟩
    exact ⟨a,w,rfl,ha⟩
  case ensureMarkedComment repository expected marker body =>
    obtain ⟨a,ha⟩ := w.about_exists expected.number ReceiptOf receiptOf_exists
    exact ⟨a,w,rfl,ha⟩
  case mergeCommitOid repository number =>
    obtain ⟨a,ha⟩ := w.about_exists number (fun p a => a = .mergeCommit
      (if p.state = .merged then some (f.mergeCommit number) else none)) fun p => ⟨_,rfl⟩
    exact ⟨a,w,rfl,ha⟩
  case nowUnix => exact ⟨.clock 0,w,rfl,0,rfl⟩
  case squashMerge repository expected => exact w.writes_exists _ _ _
  case setBase repository expected base => exact w.writes_exists _ _ _
  all_goals exact ⟨_,w,rfl,rfl⟩

/-- After a write a pull request is merged if it was, or if the write merged it. -/
theorem writes_merged {number n : PrNumber} {change : PullRequestSnapshot → PullRequestSnapshot}
    {head : CommitOid} {a : SyncAnswer} {w' : World} (h : w.writes number change head a w')
    (hn : w'.Merged n) : w.Merged n ∨ n = number ∧ ∃ p,w.pulls[number]? = some p ∧
      (change p).state = .merged := by
  unfold writes at h
  split at h
  · rw [h.1] at hn
    exact .inl hn
  · next p hp =>
    obtain ⟨q,hq,hmerged⟩ := hn
    rw [h.1] at hq
    by_cases heq : n = number
    · subst heq
      rw [Std.ExtTreeMap.getElem?_insert_self,Option.some_inj] at hq
      exact .inr ⟨rfl,p,hp,hq ▸ hmerged⟩
    · refine .inl ⟨q,?_,hmerged⟩
      rwa [Std.ExtTreeMap.getElem?_insert,if_neg (by simpa using Ne.symm heq)] at hq

end World

section AtMostOne

/-- Nothing has landed on the discovered head, or one member has and the head moved. -/
inductive Landed (discovered : CommitOid) (members : List PrNumber) (w : World) : Prop
  | nothing (head : w.defaultHead = discovered) (still : ∀ n ∈ members,¬ w.Merged n)
  | one (k : PrNumber) (head : w.defaultHead ≠ discovered)
      (still : ∀ n ∈ members,n ≠ k → ¬ w.Merged n)

/-- A squash merge needs the default branch where it was discovered. -/
def Bound (discovered : CommitOid) (w : World) (q : SyncRequest) : Prop :=
  Unmerging q ∨ w.defaultHead = discovered

variable {f : Forge} {d : CommitOid} {members : List PrNumber} {w w' : World} {q : SyncRequest}
  {a : SyncAnswer}

theorem Landed.unmerged (h : Landed d members w) (hhead : w'.defaultHead = w.defaultHead)
    (hstill : ∀ n,w'.Merged n → w.Merged n) : Landed d members w' := by
  cases h with
  | nothing head still => exact .nothing (hhead.trans head) fun n hn hm => still n hn (hstill n hm)
  | one k head still =>
    exact .one k (hhead.symm ▸ head) fun n hn hk hm => still n hn hk (hstill n hm)

theorem Landed.step (hmoves : ∀ n,f.mergeCommit n ≠ d) (hq : Bound d w q)
    (hstep : w.Step f q a w') (h : Landed d members w) : Landed d members w' := by
  by_cases hplain : Plain q
  · rw [hstep.plain hplain]
    exact h
  cases q
  case squashMerge repository expected =>
    have hhead : w.defaultHead = d := hq.elim (fun hq => hq.elim) fun hq => hq
    cases h with
    | one k head still => exact absurd hhead head
    | nothing head still =>
      by_cases hknown : w.pulls[expected.number]? = none
      · have hsame : w' = w := by
          have hwrites : w.writes expected.number _ _ a w' := hstep
          unfold World.writes at hwrites
          rw [hknown] at hwrites
          exact hwrites.1
        rw [hsame]
        exact .nothing head still
      · refine .one expected.number ?_ ?_
        · have hwrites : w.writes expected.number _ _ a w' := hstep
          unfold World.writes at hwrites
          split at hwrites
          · next hnone => exact absurd hnone hknown
          · rw [hwrites.1]
            exact hmoves expected.number
        · intro n hn hne hmerged
          rcases World.writes_merged hstep hmerged with hbefore | ⟨heq,-⟩
          · exact still n hn hbefore
          · exact hne heq
  case setBase repository expected base =>
    refine h.unmerged ?_ ?_
    · have hwrites : w.writes expected.number _ _ a w' := hstep
      unfold World.writes at hwrites
      split at hwrites <;> rw [hwrites.1]
    · intro n hmerged
      rcases World.writes_merged hstep hmerged with hbefore | ⟨rfl,p,hp,hstate⟩
      · exact hbefore
      · exact ⟨p,hp,hstate⟩
  all_goals exact absurd trivial hplain

variable {wire : SyncWire} {status : StatusOutput} {p : SyncProgress}

theorem still_of_uses {α : Type} {m : SyncM α} (hm : Uses Plain m) (w : World) (p : SyncProgress) :
    Meets (World.Step f) (Bound d) m (fun w' _ _ => w' = w) (fun _ _ => True) w p := by
  have hkeeps : Meets (World.Step f) (Bound d) m (fun w' _ _ => w' = w) (fun w' _ => w' = w) w p :=
    hm.keeps (I := fun w' => w' = w) (fun _ q _ hq => .inl (Plain.unmerging q hq))
      (fun _ _ _ _ hq hstep hs => (hstep.plain hq).trans hs) rfl p
  exact hkeeps.mono (fun _ _ _ h => h) fun _ _ _ => trivial

theorem bound_of_uses {α : Type} {m : SyncM α} (hm : Uses Unmerging m) (w : World)
    (p : SyncProgress) :
    Meets (World.Step f) (Bound d) m (fun _ _ _ => True) (fun _ _ => True) w p :=
  hm.keeps (fun _ _ _ hq => .inl hq) (fun _ _ _ _ _ _ _ => trivial) trivial p

theorem rootTreeProof_target {observed : PullRequestSnapshot} {observedDefault : CommitOid}
    {proof : CumulativeTreeProof} (h : rootTreeProof status observed observedDefault = some proof) :
    proof ∈ status.analysis.cumulativeTrees ∧ proof.target.oid = observedDefault := by
  have hmatch := List.find?_some h
  rw [decide_eq_true_eq] at hmatch
  exact ⟨List.mem_of_find?_eq_some h,hmatch.2.2⟩

variable (htrees : ∀ proof ∈ status.analysis.cumulativeTrees,proof.target.oid = d)
include htrees

/-- No root is authorized once the default branch has moved from where it was discovered. -/
theorem authorizeRoot_bound (caravanId number : PrNumber) (landed : Option CommitOid)
    (stackless : Bool) : Meets (World.Step f) (Bound d)
      (authorizeRoot status caravanId number landed stackless)
      (fun w' r _ => r.isSome = true → w'.defaultHead = d) (fun _ _ => True) w p := by
  have hplain {α : Type} {m : SyncM α} (hm : Uses Reading m) (w : World) (p : SyncProgress) :
      Meets (World.Step f) (Bound d) m (fun w' _ _ => w' = w) (fun _ _ => True) w p :=
    still_of_uses (hm.weaken Reading.plain) w p
  apply (hplain (readExactRootGeneration_uses number _) w p).bind
  rintro w' ⟨observed,reads⟩ p rfl
  have hread : Meets (World.Step f) (Bound d) (ask (.branchHeadOid status.repository
      status.defaultBranch) (some number) SyncAnswer.oid?)
      (fun w'' oid _ => w'' = w' ∧ oid = w'.defaultHead) (fun _ _ => True) w' p := by
    apply Meets.lift
    refine .query (.inl trivial) ?_ fun _ _ _ _ _ => trivial
    rintro a w'' oid ⟨rfl,rfl⟩ hoid
    cases hoid
    exact ⟨rfl,rfl⟩
  apply hread.bind
  rintro w'' observedDefault p ⟨rfl,rfl⟩
  apply (still_of_uses (refuteContainment_uses number observed _ _) w'' p).bind
  rintro w' - p rfl
  apply (hplain (branchRequiredContexts_uses _ _) w' p).bind
  rintro w'' policy p rfl
  apply (hplain (assessRequiredRuns_uses observed policy) w'' p).bind
  rintro w' assessment p rfl
  apply Meets.bind (K := fun w'' _ _ => w'' = w') (.modify rfl)
  rintro w'' - p rfl
  apply Meets.bind (K := fun w' _ _ => w' = w'') (.get rfl)
  rintro w' facts p rfl
  have hwait (block : RootMergeBlock) (detail : Option String) (p : SyncProgress) :
      Meets (World.Step f) (Bound d) (do
        recordMergeWait number block detail
        return (none : Option Authorized))
        (fun w' r _ => r.isSome = true → w'.defaultHead = d) (fun _ _ => True) w' p :=
    Meets.bind (K := fun _ _ _ => True) (.modify trivial) fun _ _ _ _ =>
      .pure fun h => by cases h
  dsimp only
  split
  · exact .throw trivial
  · exact hwait _ _ _
  · split
    · exact hwait _ _ _
    · next proof hproof =>
      split
      · exact hwait _ _ _
      · split
        · exact .throw trivial
        · split
          · exact .throw trivial
          · refine .pure fun _ => ?_
            obtain ⟨hmem,htarget⟩ := rootTreeProof_target hproof
            rw [← htarget]
            exact htrees proof hmem

theorem mergeRoot_bound (caravanId number : PrNumber) (remaining : List PrNumber)
    (landed : Option CommitOid) (stackless : Bool) : Meets (World.Step f) (Bound d)
      (mergeRoot wire status caravanId number remaining landed stackless)
      (fun _ _ _ => True) (fun _ _ => True) w p := by
  apply (authorizeRoot_bound htrees caravanId number landed stackless).bind
  intro w' authorized p hhead
  cases authorized with
  | none => exact .pure trivial
  | some a =>
    dsimp only
    apply (still_of_uses (auditRoot_uses number a) w' p).bind
    rintro w'' audited p rfl
    cases audited with
    | false => exact .pure trivial
    | true =>
      have hhead : w''.defaultHead = d := hhead rfl
      refine Meets.bind (K := fun _ _ _ => True) ?_ fun _ _ _ _ => .pure trivial
      apply (still_of_uses (ensureMutationCapacity_uses 1) w'' p).bind
      rintro w' - p rfl
      apply (still_of_uses (preconditionOf_uses number) w' p).bind
      rintro w'' expected p rfl
      apply Meets.bind (K := fun _ _ _ => True) (.lift (.query (.inr hhead)
        (fun _ _ _ _ _ => trivial) fun _ _ _ _ _ => trivial))
      intro w' receipt p _
      apply bound_of_uses
      apply Uses.bind (Uses.modify _)
      intro _
      exact (confirmLanding_uses caravanId number remaining a).weaken Plain.unmerging

theorem drainRoots_bound (caravanId : PrNumber) (stackless : Bool) (merged : ℕ)
    (landed : Option CommitOid) (remaining : List PrNumber) : Meets (World.Step f) (Bound d)
      (drainRoots wire status caravanId stackless merged landed remaining)
      (fun _ _ _ => True) (fun _ _ => True) w p := by
  induction remaining generalizing merged landed w p with
  | nil => exact .pure trivial
  | cons root rest ih =>
    apply Meets.bind (K := fun _ _ _ => True) (.get trivial)
    intro w budget p _
    split
    · exact .modify trivial
    · apply (mergeRoot_bound htrees caravanId root (root::rest) landed stackless).bind
      intro w done p _
      cases done with
      | false => exact .pure trivial
      | true =>
        apply Meets.bind (K := fun _ _ _ => True) (.get trivial)
        intro w progress p _
        cases rest with
        | nil => exact .pure trivial
        | cons next rest =>
          apply (bound_of_uses (advanceHead_uses caravanId root next) w p).bind
          intro w _ p _
          exact ih _ _

theorem drainCaravanRoots_atMostOne {c : Caravan} {stackless : Bool} {t : World}
    (hmoves : ∀ n,f.mergeCommit n ≠ d) (hs : Landed d c.members w)
    (hstop : Prog.Stops (World.Step f)
      ((drainCaravanRoots wire status stackless c).run p).run w t) : Landed d c.members t := by
  have hmeets : Meets (World.Step f) (Bound d) (drainRoots wire status c.id stackless 0 none c.members)
      (fun _ _ _ => True) (fun _ _ => True) w p :=
    drainRoots_bound htrees c.id stackless 0 none c.members
  have hgives : Prog.Gives (World.Step f) (Bound d) ((drainCaravanRoots wire status stackless c).run p)
      (fun _ _ => True) (fun _ _ => True) w := hmeets.gives
  exact hgives.stops (fun _ _ _ _ hq hstep h => h.step hmoves hq hstep) hs hstop

end AtMostOne

section Green

structure Ready (f : Forge) (p : SyncProgress) (s : PullRequestSnapshot) : Prop where
  isOpen : s.state = .open
  undrafted : s.draft = false
  unarmed : s.autoMerge.enabled = false
  accepted : forgeRefuses s = false
  green : ∀ lineage now,lineage = (p.ci.reverse.find? fun item => decide (item.pr = s.number)).bind
      (·.generationLineage) ∨ lineage = some (f.lineage (.ofSnapshot s)) →
    isGreen (RequiredRuns.assess {
      pr := s.number
      head := s.head
      base := s.base
      contexts := f.policy.normalized
      lineage := lineage
      checks := s.checks
      headPublishedAt := headPublishedAt s lineage
      clock := ⟨now,p.requiredRunsGraceSecs⟩ }).status = true

/-- A whole caravan that is open and green under one complete policy, discovered just before
the drain, whose tree the checker proves identical against every default head that the drain
can reach. -/
structure GreenCaravan {δ : Type} (f : Forge) (checker : CompatibilityChecker δ)
    (snapshot : RepositorySnapshot) (status : StatusOutput) (w : World) (p : SyncProgress)
    (c : Caravan) : Prop where
  actor : status.headMergeActor = .caravan
  analyzed : Graph.analyzeForActor checker snapshot .caravan = .ok status.analysis
  defaultBranch : status.defaultBranch = f.defaultBranch
  discovered : snapshot.defaultBranch = ⟨f.repository,f.defaultBranch,w.defaultHead⟩
  caravan : c ∈ status.analysis.fleet.caravans
  pulls : w.pulls = status.analysis.pullRequests
  current : p.current = w.pulls
  member : ∀ n ∈ c.members,∃ s,w.pulls[n]? = some s ∧ s.number = n ∧ Ready f p s
  root : ∀ n ∈ c.head,∀ s,w.pulls[n]? = some s → s.base.name = f.defaultBranch
  policy : f.policy.normalized.complete = true ∧ f.policy.branch = f.defaultBranch
  alone : ∀ n ∈ c.members,∀ s,w.pulls[n]? = some s → ∀ other ∈ unmergedAncestors status n,
    containsBase (f.relation other.head.oid s.head.oid) = false
  honest : Graph.Honest checker
  trees : ∀ n ∈ c.members,∀ s,w.pulls[n]? = some s → ∀ head,head = w.defaultHead ∨
    (∃ k ∈ c.members,head = f.mergeCommit k) → ∃ proof,
      checker.cumulativeTree s.head ⟨f.repository,f.defaultBranch,head⟩ = .ok (some proof) ∧
      proof.identical = true ∧ (head = w.defaultHead → proof.targetReachableFromCandidate = true)
  moves : ∀ n,f.mergeCommit n ≠ w.defaultHead
  contained : ∀ n ∈ c.members,containsBase (f.relation (f.mergeCommit n) (f.mergeCommit n)) = true
  budget : c.members.length ≤ p.maxRootMerges
  capacity : p.completedMutationCount + 3 * c.members.length ≤ p.mutationLimit

/-- The drain always returns, and every member has landed then. -/
def DrainsAll (f : Forge) (wire : SyncWire) (status : StatusOutput) (stackless : Bool) (w : World)
    (p : SyncProgress) (c : Caravan) : Prop :=
  ∀ r t,Prog.Run (World.Step f) ((drainCaravanRoots wire status stackless c).run p).run w r t →
    (∃ p',r = some (.ok ((),p'))) ∧ ∀ n ∈ c.members,t.Merged n

variable {δ : Type} {f : Forge} {checker : CompatibilityChecker δ} {snapshot : RepositorySnapshot}
  {status : StatusOutput} {w : World} {p : SyncProgress} {c : Caravan} {wire : SyncWire}
  {stackless : Bool}

theorem GreenCaravan.not_drainsAll (h : GreenCaravan f checker snapshot status w p c)
    (hlong : 1 < c.members.length) : ¬ DrainsAll f wire status stackless w p c := by
  intro hdrains
  have htrees : ∀ proof ∈ status.analysis.cumulativeTrees,proof.target.oid = w.defaultHead := by
    intro proof hproof
    rw [Graph.cumulativeTrees_target h.honest h.analyzed hproof,h.discovered]
  have hnodup : c.members.Nodup := by
    have hcaravan : c ∈ (Graph.deriveForActor snapshot .caravan).fleet.caravans :=
      (Graph.analyzeForActor_kept h.analyzed).caravans ▸ h.caravan
    exact Graph.members_nodup hcaravan
  have hstart : Landed w.defaultHead c.members w := by
    refine .nothing rfl ?_
    rintro n hn ⟨s,hs,hmerged⟩
    obtain ⟨s',hs',-,hready⟩ := h.member n hn
    rw [hs,Option.some_inj] at hs'
    have hopen := hready.isOpen
    rw [← hs',hmerged] at hopen
    cases hopen
  obtain ⟨r,t,hrun⟩ := Prog.exists_run (World.step_exists f)
    ((drainCaravanRoots wire status stackless c).run p).run w
  have hend := drainCaravanRoots_atMostOne htrees h.moves hstart hrun.stops
  have hall := (hdrains r t hrun).2
  obtain ⟨a,b,rest,hmembers⟩ : ∃ a b rest,c.members = a::b::rest := by
    match hm : c.members,hlong with
    | a::b::rest,_ => exact ⟨a,b,rest,rfl⟩
  have hne : a ≠ b := by
    rintro rfl
    rw [hmembers] at hnodup
    simp at hnodup
  have ha : a ∈ c.members := by simp [hmembers]
  have hb : b ∈ c.members := by simp [hmembers]
  cases hend with
  | nothing head still => exact still a ha (hall a ha)
  | one k head still =>
    by_cases hk : a = k
    · exact still b hb (fun hbk => hne (hk.trans hbk.symm)) (hall b hb)
    · exact still a ha hk (hall a ha)

structure Holding (n : PrNumber) (s : PullRequestSnapshot) (room : ℕ) (p : SyncProgress) : Prop where
  current : p.current[n]? = some s
  room : p.completedMutationCount + room ≤ p.mutationLimit

variable {n : PrNumber} {s s' : PullRequestSnapshot} {room : ℕ}

theorem Holding.see (h : Holding n s room p) : Holding n s' room (p.see n s') :=
  ⟨Std.ExtTreeMap.getElem?_insert_self,h.room⟩

theorem Holding.already (h : Holding n s room p) (kind : MutationKind) (summary : String) :
    Holding n s room (p.already kind n summary) := by
  refine ⟨h.current,?_⟩
  have hcount : (p.already kind n summary).completedMutationCount = p.completedMutationCount := by
    simp [SyncProgress.already,SyncProgress.push,SyncProgress.completedMutationCount]
  rw [hcount]
  exact h.room

theorem Holding.record (h : Holding n s (room + 1) p) {receipt : GitHubMutationReceipt}
    (hafter : receipt.after = s') (hnumber : s'.number = n) (summary : String) :
    Holding n s' room (p.record receipt summary) := by
  have hroom := h.room
  constructor
  · show (p.current.insert receipt.after.number receipt.after)[n]? = some s'
    rw [hafter,hnumber]
    exact Std.ExtTreeMap.getElem?_insert_self
  · have hcount : (p.record receipt summary).completedMutationCount = p.completedMutationCount + 1 := by
      simp [SyncProgress.record,SyncProgress.see,SyncProgress.push,
        SyncProgress.completedMutationCount]
    have hlimit : (p.record receipt summary).mutationLimit = p.mutationLimit := rfl
    omega

theorem Holding.mono {room' : ℕ} (h : Holding n s room p) (hroom : room' ≤ room) :
    Holding n s room' p := by
  have := h.room
  exact ⟨h.current,by omega⟩

section Steps

/-- A request that this provider answers in one way and that changes nothing. -/
theorem ask_reaches {α : Type} {request : SyncRequest} {affectedPr : Option PrNumber}
    {value : SyncAnswer → Option α} {v : α} (a : SyncAnswer)
    (hanswer : ∀ b w',w.Step f request b w' ↔ w' = w ∧ b = a) (hvalue : value a = some v)
    (hfailed : ∀ e,a ≠ .failed e) (hrefused : ∀ e,a ≠ .refused e) :
    Reaches (World.Step f) (ask request affectedPr value) w p w v p := by
  apply Succeeds.query
  · exact ⟨a,w,(hanswer a w).mpr ⟨rfl,rfl⟩⟩
  · intro b w' hstep
    obtain ⟨rfl,rfl⟩ := (hanswer b w').mp hstep
    refine ⟨v,?_,rfl,rfl,rfl⟩
    cases b
    case failed e => exact absurd rfl (hfailed e)
    case refused e => exact absurd rfl (hrefused e)
    all_goals exact congrArg (Option.map Except.ok) hvalue

theorem refetch_reaches {repository : RepositoryId} (hs : w.pulls[n]? = some s) :
    Reaches (World.Step f) (refetchPullRequest repository n) w p w s p := by
  refine ask_reaches (.pullRequest s) ?_ rfl (by simp) (by simp)
  intro b w'
  simp [World.Step,World.about,hs]

theorem compare_reaches {repository : RepositoryId} {base head : CommitOid} :
    Reaches (World.Step f) (ask (.compareCommits repository base head) (some n)
      SyncAnswer.relation?) w p w (f.relation base head) p :=
  ask_reaches (.relation (f.relation base head)) (fun _ _ => Iff.rfl) rfl (by simp) (by simp)

theorem branchHead_reaches {repository : RepositoryId} {branch : String} :
    Reaches (World.Step f) (ask (.branchHeadOid repository branch) (some n) SyncAnswer.oid?)
      w p w w.defaultHead p :=
  ask_reaches (.oid w.defaultHead) (fun _ _ => Iff.rfl) rfl (by simp) (by simp)

theorem branchRequiredContexts_reaches {repository : RepositoryId} {branch : String} :
    Reaches (World.Step f) (branchRequiredContexts repository branch (some n)) w p w
      f.policy.normalized p := by
  have hread : Reaches (World.Step f) (ask (.branchRequiredContexts repository branch) (some n)
      SyncAnswer.contexts?) w p w f.policy p :=
    ask_reaches (.contexts f.policy) (fun _ _ => Iff.rfl) rfl (by simp) (by simp)
  exact hread.bind (Reaches.pure _)

theorem currentOf_reaches (hs : p.current[n]? = some s) :
    Reaches (World.Step f) (currentOf n) w p w s p := by
  apply Reaches.get.bind
  rw [hs]
  exact Reaches.pure _

theorem preconditionOf_reaches (hs : p.current[n]? = some s) :
    Reaches (World.Step f) (preconditionOf n) w p w (.ofSnapshot s) p :=
  (currentOf_reaches hs).bind (Reaches.pure _)

theorem ensureMutationCapacity_reaches {reserve : ℕ}
    (h : p.completedMutationCount + reserve ≤ p.mutationLimit) :
    Reaches (World.Step f) (ensureMutationCapacity reserve) w p w () p := by
  apply Reaches.get.bind
  rw [if_pos h]
  exact Reaches.pure _

theorem rootChangedFields_self (s : PullRequestSnapshot) (defaultBranch : String) :
    rootChangedFields s s defaultBranch = [] := by
  simp [rootChangedFields,changedPreconditionFields_self]

theorem readExactRootGeneration_reaches {repository : RepositoryId} {defaultBranch : String}
    (hs : w.pulls[n]? = some s) (hcurrent : p.current[n]? = some s) :
    Reaches (World.Step f) (readExactRootGeneration repository n defaultBranch) w p w (s,1)
      (p.see n s) := by
  apply Reaches.get.bind
  apply (refetch_reaches hs).bind
  rw [hcurrent]
  dsimp only
  have hsame : Reaches (World.Step f) (rereadHead repository n s.head.oid
      (rootAutoMergeConfirmationReads - 1) s) w p w (s,0) p := by
    rw [show rootAutoMergeConfirmationReads - 1 = 1 + 1 from rfl,rereadHead,if_pos rfl]
    exact Reaches.pure _
  apply hsame.bind
  dsimp only
  rw [if_neg (by simp),if_neg (by simp [rootChangedFields_self])]
  exact (Reaches.modify _).bind (Reaches.pure _)

theorem refuteContainment_reaches {observed : PullRequestSnapshot} {observedDefault : CommitOid}
    {others : List PullRequestSnapshot}
    (halone : ∀ other ∈ others,containsBase (f.relation other.head.oid observed.head.oid) = false) :
    Reaches (World.Step f) (refuteContainment status n observed observedDefault others) w p w () p := by
  induction others with
  | nil => exact Reaches.pure _
  | cons other rest ih =>
    apply compare_reaches.bind
    apply compare_reaches.bind
    rw [halone other List.mem_cons_self]
    exact ih fun other hother => halone other (List.mem_cons_of_mem _ hother)

theorem assessWithLineage_succeeds {contexts : RequiredContextsRead}
    {lineage : Option HeadRunLineage} {post : World → RequiredRuns.RequiredRunsAssessment →
      SyncProgress → Prop}
    (hpost : ∀ now,post w (RequiredRuns.assess {
      pr := s.number
      head := s.head
      base := s.base
      contexts := contexts
      lineage := lineage
      checks := s.checks
      headPublishedAt := headPublishedAt s lineage
      clock := ⟨now,p.requiredRunsGraceSecs⟩ }) p) :
    Succeeds (World.Step f) (assessWithLineage s contexts lineage) post w p := by
  have hclock : Succeeds (World.Step f) (ask .nowUnix none SyncAnswer.clock?)
      (fun w' _ p' => w' = w ∧ p' = p) w p := by
    refine Succeeds.query ⟨.clock 0,w,rfl,0,rfl⟩ ?_
    rintro a w' ⟨rfl,now,rfl⟩
    exact ⟨now,rfl,rfl,rfl⟩
  apply hclock.bind
  rintro w' now p' ⟨rfl,rfl⟩
  exact Reaches.get.bind (Succeeds.pure (hpost now))

/-- A ready member is assessed as green, whichever lineage is used. -/
theorem Ready.assessed (h : Ready f p s) {repository : RepositoryId} :
    Succeeds (World.Step f) (assessRequiredRuns repository s f.policy.normalized)
      (fun w' assessment p' => w' = w ∧ p' = p ∧ isGreen assessment.status = true) w p := by
  apply Reaches.get.bind
  dsimp only
  split
  · split
    · next lineage hlineage =>
      exact assessWithLineage_succeeds fun now =>
        ⟨rfl,rfl,h.green (some lineage) now (.inl hlineage.symm)⟩
    · have hread : Reaches (World.Step f) (ask (.headRunLineage repository (.ofSnapshot s))
          (some s.number) SyncAnswer.lineage?) w p w (f.lineage (.ofSnapshot s)) p :=
        ask_reaches (.lineage (f.lineage (.ofSnapshot s))) (fun _ _ => Iff.rfl) rfl (by simp)
          (by simp)
      apply hread.bind
      exact assessWithLineage_succeeds fun now => ⟨rfl,rfl,h.green _ now (.inr rfl)⟩
  · exact assessWithLineage_succeeds fun now => ⟨rfl,rfl,h.green _ now (.inl rfl)⟩

theorem authorizeRoot_succeeds {proof : CumulativeTreeProof} (caravanId : PrNumber)
    (landed : Option CommitOid) (hs : w.pulls[n]? = some s) (hheld : Holding n s room p)
    (hready : Ready f (p.see n s) s) (hbase : s.base.name = status.defaultBranch)
    (hpolicy : f.policy.normalized.complete = true ∧ f.policy.branch = status.defaultBranch)
    (halone : ∀ other ∈ unmergedAncestors status n,
      containsBase (f.relation other.head.oid s.head.oid) = false)
    (hproof : rootTreeProof status s w.defaultHead = some proof) (hidentical : proof.identical = true)
    (hreachable : proof.targetReachableFromCandidate = true) :
    Succeeds (World.Step f) (authorizeRoot status caravanId n landed stackless)
      (fun w' r p' => w' = w ∧ Holding n s room p' ∧ r = some ⟨s,1,proof,f.policy.normalized,
        ⟨status.repository,status.defaultBranch,w.defaultHead⟩⟩) w p := by
  apply (readExactRootGeneration_reaches hs hheld.current).bind
  apply branchHead_reaches.bind
  dsimp only
  rw [hproof]
  apply (refuteContainment_reaches halone).bind
  apply branchRequiredContexts_reaches.bind
  apply (hready.assessed).bind
  rintro w' assessment p' ⟨rfl,rfl,hgreen⟩
  apply (Reaches.modify _).bind
  apply Reaches.get.bind
  have hcomplete : (f.policy.normalized.complete && decide (f.policy.normalized.branch =
      status.defaultBranch) && isGreen assessment.status) = true := by
    have hbranch : f.policy.normalized.branch = f.policy.branch := rfl
    rw [hpolicy.1,hgreen,hbranch,hpolicy.2]
    simp
  have hgate (q : SyncProgress) : mergeGate s {
      defaultBranch := status.defaultBranch
      checksPassing := true
      requiredRunsSatisfied := true
      conflictFreeWithDefault := (some proof).any (·.identical) || headIsConflictFreeWithDefault status s
      externalAutoMerge := q.externalAutoMergePolicy } = .eligible := by
    simp [mergeGate,hready.isOpen,hbase,hready.unarmed,hready.undrafted,hidentical]
  dsimp only
  rw [hcomplete,hgate]
  dsimp only
  rw [if_neg (by simp [hidentical]),if_neg (by simp [retainedPatchSetHolds,hreachable]),
    if_neg (by simp [hready.accepted])]
  have hseen : Holding n s room (p.see n s) := hheld.see
  exact Succeeds.pure ⟨rfl,⟨hseen.current,hseen.room⟩,rfl⟩

theorem verified_self (s : PullRequestSnapshot) : World.verified (.ofSnapshot s) s = .done := by
  simp [World.verified]

/-- The audit of an authorized root is posted, and nothing has changed behind it. -/
theorem auditRoot_succeeds {a : Authorized} (hs : w.pulls[n]? = some s) (hnumber : s.number = n)
    (hheld : Holding n s (room + 1) p) (hobserved : a.observed = s)
    (hdefault : a.defaultBefore.oid = w.defaultHead) (hpolicy : a.policy = f.policy.normalized)
    (hcomplete : f.policy.normalized.complete = true) :
    Succeeds (World.Step f) (auditRoot wire status n a)
      (fun w' r p' => w' = w ∧ Holding n s room p' ∧ r = true) w p := by
  have hcomment : Succeeds (World.Step f) (ensureOperationComment status.repository n "squash merge"
      (squashMergeAudit wire status n a.observed a.defaultBefore a.proof).1
      (squashMergeAudit wire status n a.observed a.defaultBefore a.proof).2)
      (fun w' _ p' => w' = w ∧ Holding n s room p') w p := by
    apply (ensureMutationCapacity_reaches (hheld.mono (by omega)).room).bind
    apply (preconditionOf_reaches hheld.current).bind
    have hposted : Succeeds (World.Step f) (StateT.lift (call (.ensureMarkedComment status.repository
        (.ofSnapshot s) (squashMergeAudit wire status n a.observed a.defaultBefore a.proof).1
        (squashMergeAudit wire status n a.observed a.defaultBefore a.proof).2)
        (fun error => ({
          category := .executionFailure
          code := "github_operation_comment_failed"
          message := "squash merge" ++ " audit comment failed before the irreversible transition: " ++
            error.display } : SyncError)) SyncAnswer.receipt?) : SyncM GitHubMutationReceipt)
        (fun w' receipt p' => w' = w ∧ receipt.after = s ∧ p' = p) w p := by
      have habout (a : SyncAnswer) : w.about (PullRequestPrecondition.ofSnapshot s).number
          World.ReceiptOf a ↔ World.ReceiptOf s a := by
        have hn : (PullRequestPrecondition.ofSnapshot s).number = n := hnumber
        simp [World.about,hn,hs]
      apply Succeeds.query
      · obtain ⟨a,ha⟩ := World.receiptOf_exists s
        exact ⟨a,w,rfl,(habout a).mpr ha⟩
      · rintro a w' ⟨rfl,ha⟩
        obtain ⟨receipt,hafter,rfl⟩ := (habout a).mp ha
        exact ⟨receipt,rfl,rfl,hafter,rfl⟩
    apply hposted.bind
    rintro w' receipt p' ⟨rfl,hafter,rfl⟩
    split
    · apply Succeeds.modify
      refine ⟨rfl,?_⟩
      rw [hafter]
      exact ((hheld.mono (by omega)).already _ _).see
    · exact Succeeds.modify ⟨rfl,hheld.record hafter hnumber _⟩
  apply hcomment.bind
  rintro w' - p' ⟨rfl,hheld'⟩
  have hverified : Reaches (World.Step f) (ask (.verifyPullRequestWithChecks status.repository
      (.ofSnapshot a.observed)) (some n) SyncAnswer.done?) w' p' w' () p' := by
    refine ask_reaches .done ?_ rfl (by simp) (by simp)
    intro b w''
    have hn : (PullRequestPrecondition.ofSnapshot s).number = n := hnumber
    simp [World.Step,World.about,hobserved,hn,hs,verified_self]
  have hbranch : Reaches (World.Step f) (ask (.verifyBranchHead status.repository
      status.defaultBranch a.defaultBefore.oid) (some n) SyncAnswer.done?) w' p' w' () p' := by
    refine ask_reaches .done ?_ rfl (by simp) (by simp)
    intro b w''
    simp [World.Step,hdefault]
  apply hverified.bind
  apply hbranch.bind
  apply branchRequiredContexts_reaches.bind
  rw [if_neg (by simp [hcomplete,hpolicy])]
  exact Succeeds.pure ⟨rfl,hheld',rfl⟩

theorem submitRoot_succeeds {a : Authorized} (caravanId : PrNumber) (remaining : List PrNumber)
    (hs : w.pulls[n]? = some s) (hnumber : s.number = n) (hheld : Holding n s 1 p)
    (hreads : a.reads = 1) (hbase : s.base.name = status.defaultBranch)
    (hcontained : containsBase (f.relation (f.mergeCommit n) (f.mergeCommit n)) = true) :
    Succeeds (World.Step f) (submitRoot status caravanId n remaining a)
      (fun w' _ _ => w'.Merged n) w p := by
  apply (ensureMutationCapacity_reaches hheld.room).bind
  apply (preconditionOf_reaches hheld.current).bind
  have hn : (PullRequestPrecondition.ofSnapshot s).number = n := hnumber
  have hsquashed : Succeeds (World.Step f) (ask (.squashMerge status.repository (.ofSnapshot s))
      (some n) SyncAnswer.receipt?) (fun w' receipt p' => w' = ⟨w.pulls.insert n
        (World.mergedBy f n s),f.mergeCommit n⟩ ∧ receipt.after = World.mergedBy f n s ∧ p' = p) w p := by
    have hwrites (b : SyncAnswer) (w' : World) : w.Step f (.squashMerge status.repository
        (.ofSnapshot s)) b w' ↔ w' = ⟨w.pulls.insert n (World.mergedBy f n s),f.mergeCommit n⟩ ∧
          World.ReceiptOf (World.mergedBy f n s) b := by
      simp [World.Step,World.writes,hn,hs]
    apply Succeeds.query
    · obtain ⟨b,hb⟩ := World.receiptOf_exists (World.mergedBy f n s)
      exact ⟨b,_,(hwrites b _).mpr ⟨rfl,hb⟩⟩
    · intro b w' hstep
      obtain ⟨hw,receipt,hafter,rfl⟩ := (hwrites b w').mp hstep
      exact ⟨receipt,rfl,hw,hafter,rfl⟩
  apply hsquashed.bind
  rintro w' receipt p' ⟨rfl,hafter,rfl⟩
  apply (Reaches.modify _).bind
  have hheld' := hheld.record hafter hnumber
    "squash-merged the promoted caravan root into the exact default branch"
  apply (currentOf_reaches hheld'.current).bind
  rw [hreads,show rootMergeConfirmationReads - 1 = 1 + 1 from rfl,rereadUntil,
    if_pos (by simp [World.mergedBy])]
  apply (Reaches.pure _).bind
  dsimp only
  rw [if_neg (by simp [World.mergedBy]),if_neg (by simpa [World.mergedBy] using hbase)]
  have hcommit : Reaches (World.Step f) (ask (.mergeCommitOid status.repository n) (some n)
      SyncAnswer.mergeCommit?) ⟨w.pulls.insert n (World.mergedBy f n s),f.mergeCommit n⟩
      (p'.record receipt "squash-merged the promoted caravan root into the exact default branch")
      ⟨w.pulls.insert n (World.mergedBy f n s),f.mergeCommit n⟩ (some (f.mergeCommit n))
      (p'.record receipt "squash-merged the promoted caravan root into the exact default branch") := by
    refine ask_reaches (.mergeCommit (some (f.mergeCommit n))) ?_ rfl (by simp) (by simp)
    intro b w''
    simp [World.Step,World.about,World.mergedBy]
  apply hcommit.bind
  have hcontains {q : SyncProgress} : Reaches (World.Step f) (defaultContains status n
      (some (f.mergeCommit n))) ⟨w.pulls.insert n (World.mergedBy f n s),f.mergeCommit n⟩ q
      ⟨w.pulls.insert n (World.mergedBy f n s),f.mergeCommit n⟩ (f.mergeCommit n,true) q := by
    apply branchHead_reaches.bind
    apply compare_reaches.bind
    dsimp only
    rw [hcontained]
    exact Reaches.pure _
  have hconfirmed {q : SyncProgress} {left : ℕ} : Reaches (World.Step f) (confirmReachable status n
      (some (f.mergeCommit n)) left) ⟨w.pulls.insert n (World.mergedBy f n s),f.mergeCommit n⟩ q
      ⟨w.pulls.insert n (World.mergedBy f n s),f.mergeCommit n⟩ (f.mergeCommit n,1) q := by
    cases left <;> exact hcontains.bind (Reaches.pure _)
  apply hconfirmed.bind
  exact Succeeds.modify ⟨_,Std.ExtTreeMap.getElem?_insert_self,rfl⟩

end Steps

theorem GreenCaravan.root_lands (h : GreenCaravan f checker snapshot status w p c)
    (hmembers : c.members = [n]) : Succeeds (World.Step f)
      (mergeRoot wire status c.id n [n] none stackless) (fun w' landed _ => landed = true ∧ w'.Merged n)
      w p := by
  have hn : n ∈ c.members := by simp [hmembers]
  have hhead : c.head = some n := by simp [Caravan.head,hmembers]
  obtain ⟨s,hs,hnumber,hready⟩ := h.member n hn
  obtain ⟨proof,hchecked,hidentical,hreachable⟩ := h.trees n hn s hs w.defaultHead (.inl rfl)
  have hbranch : Graph.headBranch (Graph.deriveForActor snapshot .caravan) n = some s.head := by
    rw [h.pulls,(Graph.analyzeForActor_kept h.analyzed).pullRequests] at hs
    simp [Graph.headBranch,hs]
  have htask : .cumulativeTree s.head snapshot.defaultBranch ∈
      Graph.compatibilityTasks snapshot (Graph.deriveForActor snapshot .caravan) :=
    Graph.headTree_mem ((Graph.analyzeForActor_kept h.analyzed).caravans ▸ h.caravan) hhead hbranch
  rw [← h.discovered] at hchecked
  have hmem : proof ∈ status.analysis.cumulativeTrees :=
    (Graph.mem_cumulativeTrees h.analyzed).mpr ⟨_,_,htask,hchecked⟩
  have hproof : rootTreeProof status s w.defaultHead = some proof := by
    have hmatches : (status.analysis.cumulativeTrees.find? fun proof => decide (proof.candidate =
        s.head ∧ proof.target.name = status.defaultBranch ∧ proof.target.oid = w.defaultHead)).isSome := by
      rw [List.find?_isSome]
      refine ⟨proof,hmem,?_⟩
      obtain ⟨hcandidate,htarget⟩ := h.honest _ _ proof hchecked
      simp [hcandidate,htarget,h.discovered,h.defaultBranch]
    obtain ⟨found,hfound⟩ := Option.isSome_iff_exists.mp hmatches
    have hcandidate := List.find?_some hfound
    rw [decide_eq_true_eq] at hcandidate
    obtain ⟨candidate,target,-,hfoundChecked⟩ :=
      (Graph.mem_cumulativeTrees h.analyzed).mp (List.mem_of_find?_eq_some hfound)
    have htarget := Graph.cumulativeTrees_target h.honest h.analyzed (List.mem_of_find?_eq_some hfound)
    obtain ⟨hc,ht⟩ := h.honest candidate target found hfoundChecked
    rw [← hc,← ht,hcandidate.1,htarget,hchecked] at hfoundChecked
    rw [rootTreeProof,hfound]
    simpa using hfoundChecked.symm
  have hroom := h.capacity
  have hheld : Holding n s 2 p := by
    refine ⟨h.current ▸ hs,?_⟩
    simp only [hmembers,List.length_singleton] at hroom
    omega
  apply Succeeds.bind (authorizeRoot_succeeds c.id none hs hheld
    ⟨hready.isOpen,hready.undrafted,hready.unarmed,hready.accepted,hready.green⟩
    (h.defaultBranch ▸ h.root n hhead s hs) (h.defaultBranch ▸ h.policy) (h.alone n hn s hs) hproof
    hidentical (hreachable rfl))
  rintro w' authorized p' ⟨rfl,hheld',rfl⟩
  apply Succeeds.bind (auditRoot_succeeds hs hnumber hheld' rfl rfl rfl h.policy.1)
  rintro w'' audited p'' ⟨rfl,hheld'',rfl⟩
  apply Succeeds.bind (submitRoot_succeeds c.id [n] hs hnumber hheld'' rfl
    (h.defaultBranch ▸ h.root n hhead s hs) (h.contained n hn))
  intro w' _ p' hmerged
  exact Succeeds.pure ⟨rfl,hmerged⟩

theorem GreenCaravan.drainsAll (h : GreenCaravan f checker snapshot status w p c)
    (hshort : c.members.length ≤ 1) : DrainsAll f wire status stackless w p c := by
  intro r t hrun
  have hsucceeds : Succeeds (World.Step f) (drainCaravanRoots wire status stackless c)
      (fun w' _ _ => ∀ n ∈ c.members,w'.Merged n) w p := by
    unfold drainCaravanRoots
    match hmembers : c.members with
    | [] => exact Succeeds.pure (by simp)
    | [n] =>
      apply Reaches.get.bind
      have hbudget := h.budget
      rw [hmembers,List.length_singleton] at hbudget
      rw [if_neg (by omega)]
      apply (h.root_lands hmembers).bind
      rintro w' landed p' ⟨rfl,hmerged⟩
      apply Reaches.get.bind
      exact Succeeds.pure (by simpa using hmerged)
    | a::b::rest =>
      rw [hmembers] at hshort
      simp at hshort
  obtain ⟨_,p',hr,hmerged⟩ := hsucceeds.run hrun
  exact ⟨⟨p',hr⟩,hmerged⟩

/-- A whole green caravan drains in one tick exactly if it has at most one member: the trees were
proven against the discovered head alone, which the first landing moves. -/
theorem drainCaravanRoots_drainsAll_iff (h : GreenCaravan f checker snapshot status w p c) :
    DrainsAll f wire status stackless w p c ↔ c.members.length ≤ 1 := by
  constructor
  · intro hdrains
    by_contra hlong
    exact h.not_drainsAll (by omega) hdrains
  · exact h.drainsAll

section Sample

def pairMember (number : PrNumber) (base : BranchSnapshot) : PullRequestSnapshot where
  number := number
  state := .open
  head := ⟨acme,"feature-" ++ toString number,"h" ++ toString number⟩
  base := base
  labels := {"caravan"}
  autoMerge := .disabled

def pairSnapshot : RepositorySnapshot where
  repository := acme
  defaultBranch := ⟨acme,"main","m0"⟩
  pullRequests := [pairMember 1 ⟨acme,"main","m0"⟩,pairMember 2 ⟨acme,"feature-1","h1"⟩]

/-- Everything merges cleanly, and every head contains every default branch. -/
def cleanChecker : CompatibilityChecker Unit where
  prepare _ := .ok ()
  check candidate target := .ok ⟨candidate,target,.clean,none⟩
  cumulativeTree candidate target := .ok (some {
    candidate := candidate
    target := target
    identical := true
    targetReachableFromCandidate := true })
  squashEquivalence _ _ := .ok ()

def pairStatus : StatusOutput where
  repository := acme
  defaultBranch := "main"
  analysis := (Graph.analyzeForActor cleanChecker pairSnapshot .caravan).toOption.getD
    (Graph.deriveForActor pairSnapshot .caravan)
  headMergeActor := .caravan
  maxRootMergesPerTick := 2

def pairForge : Forge where
  repository := acme
  defaultBranch := "main"
  policy := { branch := "main",isProtected := true,contexts := [],checks := [],complete := true }
  lineage _ := { headSha := "",checkSuites := [],workflowRuns := [],complete := true }
  relation base head := if base = head then .identical else .diverged
  mergeCommit number := "merge-" ++ toString number
  mergedAt _ := none

def pairWorld : World := ⟨pairStatus.analysis.pullRequests,"m0"⟩

def pairProgress : SyncProgress := .new pairStatus "tick" 16

def pairCaravan : Caravan := ⟨1,[1,2],false⟩

theorem pair_green : GreenCaravan pairForge cleanChecker pairSnapshot pairStatus pairWorld pairProgress
    pairCaravan := by
  have hanalyzed : Graph.analyzeForActor cleanChecker pairSnapshot .caravan =
      .ok pairStatus.analysis := by
    have hok : (Graph.analyzeForActor cleanChecker pairSnapshot .caravan).isOk = true := by
      decide +kernel
    unfold pairStatus
    cases h : Graph.analyzeForActor cleanChecker pairSnapshot .caravan with
    | ok a => rfl
    | error e =>
      rw [h] at hok
      cases hok
  have hfirst : pairWorld.pulls[1]? = some (pairMember 1 ⟨acme,"main","m0"⟩) := by decide +kernel
  have hsecond : pairWorld.pulls[2]? = some (pairMember 2 ⟨acme,"feature-1","h1"⟩) := by
    decide +kernel
  have hready (number : PrNumber) (base : BranchSnapshot) :
      Ready pairForge pairProgress (pairMember number base) := by
    refine ⟨rfl,rfl,rfl,rfl,?_⟩
    intro lineage now _
    rfl
  refine {
    actor := rfl
    analyzed := hanalyzed
    defaultBranch := rfl
    discovered := rfl
    caravan := by decide +kernel
    pulls := rfl
    current := rfl
    member := ?_
    root := ?_
    policy := by decide +kernel
    alone := ?_
    honest := ?_
    trees := ?_
    moves := ?_
    contained := ?_
    budget := by decide
    capacity := by decide }
  · intro n hn
    rcases List.mem_pair.mp hn with rfl | rfl
    · exact ⟨_,hfirst,rfl,hready _ _⟩
    · exact ⟨_,hsecond,rfl,hready _ _⟩
  · intro n hn s hs
    cases hn
    rw [hfirst,Option.some_inj] at hs
    rw [← hs]
    rfl
  · intro n hn s _ other hother
    have hnone : unmergedAncestors pairStatus n = [] := by
      rcases List.mem_pair.mp hn with rfl | rfl <;> decide +kernel
    rw [hnone] at hother
    cases hother
  · intro candidate target proof hproof
    cases hproof
    exact ⟨rfl,rfl⟩
  · intro n _ s _ head _
    exact ⟨_,rfl,rfl,fun _ => rfl⟩
  · intro n hn
    have hlength : ("merge-" ++ toString n).length = ("m0" : String).length := congrArg String.length hn
    have hprefix : ("merge-" : String).length = 6 := by decide
    have hhead : ("m0" : String).length = 2 := by decide
    rw [String.length_append] at hlength
    omega
  · intro n _
    simp [pairForge,containsBase]

def pairWire : SyncWire where
  toWire := Github.Documents.wire {}
  nativeMergeAudit _ := []
  squashMergeAudit _ := []

/-- Two members, all green, every tree proven and every merge successful: only the first lands. -/
theorem pair_not_drained : GreenCaravan pairForge cleanChecker pairSnapshot
    pairStatus pairWorld pairProgress pairCaravan ∧ pairCaravan.members.length ≤
      pairProgress.maxRootMerges ∧
      ¬ DrainsAll pairForge pairWire pairStatus false pairWorld pairProgress pairCaravan :=
  ⟨pair_green,by decide,pair_green.not_drainsAll (by decide)⟩

theorem pair_drains_iff :
    DrainsAll pairForge pairWire pairStatus false pairWorld pairProgress pairCaravan ↔
      pairCaravan.members.length ≤ 1 :=
  drainCaravanRoots_drainsAll_iff pair_green

end Sample

end Green

end Sync
end Cara
