import Cara.ConcatRuns
import Cara.Lib.JsonText

/-! The outcome of a concatenation: all or nothing, except where the provider leaves the base of the
source root half undone. -/
namespace Cara
namespace Concat

open PhysicalRebase (PreparedRebase AtomicRebaseReceipt headMove)
open Sync (GitHubMutationReceipt)
open Prog (Gives Run)
open AtomicRefs (Store moved)

/-- The output is of a fleet in which the source caravan follows the target caravan: every
source branch is at its planned head, and the source root targets the target tail. -/
structure Concatenated (input : ConcatInput) (out : ConcatOutput) (t : World) : Prop where
  source : out.plan.sourceCaravan = input.sourceHeadPr
  tail : out.plan.targetMembers.getLast? = some input.targetTailPr
  members : out.physical.receipts.map (fun r => (r.pr,r.branch,r.oldHeadOid)) =
    out.plan.members.map fun m => (m.pr,m.branch,m.oldHeadOid)
  heads : ∀ r ∈ out.physical.receipts,t.heads r.branch = some r.newHeadOid
  base : ∃ first,out.plan.members.head? = some first ∧ first.targetPr = input.targetTailPr ∧
    t.bases input.sourceHeadPr = first.targetBranch
  observed : ∃ fleet,t.fleet = some fleet ∧ ∃ c ∈ fleet.caravans,
    c.members = out.plan.targetMembers ++ out.plan.sourceMembers

/-- A new result is of a complete concatenation, and an error that says so left every branch
head and the base of the source root as they were. -/
def AllOrNothing (input : ConcatInput) (s : World) (r : Except ConcatError ConcatOutput) (t : World) :
    Prop :=
  match r with
  | .ok out => out.idempotent = false → Concatenated input out t
  | .error e => mutated e = some false →
      t.heads = s.heads ∧ t.bases input.sourceHeadPr = s.bases input.sourceHeadPr

/-- The provider has applied an edit of the source root's base that it never confirmed, every
branch head is back where it was, and Git has answered the last call about that. -/
structure HalfUndone (root : PrNumber) (s t : World) : Prop where
  edited : t.bases root ≠ s.bases root
  unconfirmed : t.unconfirmed = true
  restored : t.heads = s.heads
  answered : t.gitFailed = false

section Outcome

variable {s u : World} {input : ConcatInput} {items : List PreparedRebase} {plan : ConcatPlan}

/-- What an error says agrees with what the world is left in. -/
def Judged (root : PrNumber) (s t : World) (e : ConcatError) : Prop :=
  (mutated e = some false → t.heads = s.heads ∧ t.bases root = s.bases root) ↔ ¬HalfUndone root s t

theorem judged_of_base {root : PrNumber} {t : World} {e : ConcatError}
    (hbase : t.bases root = s.bases root) (h : mutated e = some false → t.heads = s.heads) :
    Judged root s t e :=
  ⟨fun _ hhalf => hhalf.edited hbase,fun _ hmutated => ⟨h hmutated,hbase⟩⟩

theorem judged_of_mutated {root : PrNumber} {t : World} {e : ConcatError}
    (he : mutated e = some true) (h : ¬HalfUndone root s t) : Judged root s t e := by
  refine ⟨fun _ => h,fun _ hmutated => ?_⟩
  rw [he] at hmutated
  cases hmutated

/-- After the rewrite, with the base as it was or edited without confirmation: the heads are
undone, and the error denies a write exactly when none is left or the base is. -/
theorem rollbackPhysicalError_gives {root : PrNumber} {α : Type} {post : World → α → Prop} (target : String)
    (hverified : Verified s.heads items) (hheads : u.heads = moved s.heads (items.map headMove))
    (hitems : items ≠ []) (hbases : u.bases root = s.bases root ∨
      u.bases root = target ∧ u.unconfirmed = true ∧ u.gitFailed = false)
    (source : ConcatError) (code : String) :
    Gives Step Always (rollbackPhysicalError items plan source code : Io α) post (Judged root s) u := by
  unfold rollbackPhysicalError
  refine .bind (rollback_gives hverified hheads hitems).attempt ?_
  intro t r h
  cases r with
  | ok rollback =>
    obtain ⟨hrestored,hkept,hunconfirmed,hanswered⟩ := h
    apply Gives.throw
    rcases hbases with hbase | ⟨_,hlost,hgit⟩
    · exact judged_of_base ((congrFun hkept root).trans hbase) fun _ => hrestored
    · constructor
      · exact fun hclaim hhalf => hhalf.edited (hclaim rfl).2
      · intro hhalf _
        refine ⟨hrestored,?_⟩
        by_contra hedited
        exact hhalf ⟨hedited,hunconfirmed.trans hlost,hrestored,hanswered hgit⟩
  | error rollback =>
    exact .throw (judged_of_mutated rfl fun hhalf => h.2 ⟨hhalf.restored,hhalf.answered⟩)

/-- After a confirmed base edit both systems are undone, the base first. -/
theorem rollbackCompleteTransaction_gives {root : PrNumber} {α : Type} {post : World → α → Prop}
    {repository : RepositoryId} {membership : GitHubMutationReceipt}
    (hverified : Verified s.heads items) (hheads : u.heads = moved s.heads (items.map headMove))
    (hitems : items ≠ []) (hconfirmed : u.unconfirmed = false)
    (hnumber : membership.after.number = root) (source : ConcatError) (code : String) :
    Gives Step Always (rollbackCompleteTransaction items plan repository membership (s.bases root) source
      code : Io α) post (Judged root s) u := by
  unfold rollbackCompleteTransaction commitSourceRoot
  refine .bind (setBase_gives _ _).attempt ?_
  intro t r h
  have edited (hedited : Edited u t membership.after.number (s.bases root)) :
      t.bases root = s.bases root := by
    rw [hedited.bases,hnumber]
    exact Function.update_self ..
  cases r with
  | error error =>
    refine .throw (judged_of_mutated rfl ?_)
    rcases h with hsame | ⟨hedited,_⟩
    · intro hhalf
      have hunconfirmed := hhalf.unconfirmed
      rw [hsame.unconfirmed hconfirmed] at hunconfirmed
      cases hunconfirmed
    · exact fun hhalf => hhalf.edited (edited hedited)
  | ok membershipRollback =>
    have hbase := edited h.1
    refine .bind (rollback_gives hverified (h.1.heads.trans hheads) hitems).attempt ?_
    intro v r hrollback
    cases r with
    | ok physicalRollback =>
      exact .throw (judged_of_base ((congrFun hrollback.2.1 root).trans hbase) fun _ => hrollback.1)
    | error rollback =>
      exact .throw (judged_of_base ((congrFun hrollback.1 root).trans hbase) fun h => nomatch h)

theorem expect_gives {α : Type} {value : Option α} {bad : World → ConcatError → Prop} :
    Gives Step Always (expect value) (fun t a => t = u ∧ value = some a) bad u := by
  cases value with
  | none => exact .crashed
  | some a => exact .pure ⟨rfl,rfl⟩

theorem identity_gives {request : Request} (hrequest : request = .newOperation ∨ request = .newEvent)
    {bad : World → ConcatError → Prop} :
    Gives Step Always (identity request) (fun t _ => t = u) bad u := by
  refine .query trivial ?_ ?_
  · intro a t r ht _
    rcases hrequest with rfl | rfl <;> cases ht <;> rfl
  · intro a t e ht he
    rcases hrequest with rfl | rfl <;> cases ht <;> cases he

/-- The last calls change nothing, and a failed hook says nothing of writes. -/
theorem complete_gives (status final : LiveStatus) (input : ConcatInput) (physical : AtomicRebaseReceipt)
    (membership : GitHubMutationReceipt) (concatenated : Caravan) :
    Gives Step Always (complete status final plan input physical membership concatenated)
      (fun t out => t = u ∧ out.idempotent = false ∧ out.plan = plan ∧ out.physical = physical)
      (fun t e => t = u ∧ mutated e = none) u := by
  unfold complete
  refine .bind (identity_gives (.inl rfl)) ?_
  rintro t operation rfl
  refine .bind (identity_gives (.inr rfl)) ?_
  rintro t stamp rfl
  refine .bind (K := fun v _ => v = t) (.query trivial ?_ ?_) ?_
  · intro a v deliveries hv _
    cases hv
    rfl
  · intro a v e hv he
    cases hv with
    | dispatched event result =>
      cases result with
      | ok deliveries => cases he
      | error failure =>
        cases he
        exact ⟨rfl,rfl⟩
  · rintro v deliveries rfl
    exact .pure ⟨rfl,rfl,rfl,rfl⟩

/-- A result that is a concatenation, with nothing half undone. -/
def Done (input : ConcatInput) (s t : World) (out : ConcatOutput) : Prop :=
  (out.idempotent = false → Concatenated input out t) ∧ ¬HalfUndone input.sourceHeadPr s t

structure Committing (status : LiveStatus) (input : ConcatInput) (s : World) (plan : ConcatPlan)
    (first : ConcatMemberPlan) (items : List PreparedRebase) (physical : AtomicRebaseReceipt) : Prop where
  reports : Reports s status
  plans : PlansFrom status input plan
  first : plan.members.head? = some first
  prepared : List.Forall₂ (PreparedFor status) plan.sourceMembers items
  receipts : physical.receipts = items.map fun item => PhysicalRebase.receiptFromPlan item.plan
  verified : Verified s.heads items
  nonempty : items ≠ []

section Committing

variable {status : LiveStatus} {first : ConcatMemberPlan} {physical : AtomicRebaseReceipt}

/-- Prepared members and their plans name the same pull requests, branches and heads. -/
theorem planned_eq {numbers : List PrNumber} {members : List ConcatMemberPlan} (hreports : Reports s status)
    (hprepared : List.Forall₂ (PreparedFor status) numbers items)
    (hdescribes : List.Forall₂ (Describes status) numbers members) :
    items.map (fun item => (item.plan.pr,item.plan.branch,item.plan.oldHeadOid)) =
      members.map fun m => (m.pr,m.branch,m.oldHeadOid) := by
  induction hprepared generalizing members with
  | nil =>
    cases hdescribes
    rfl
  | cons hitem _ ih =>
    cases hdescribes with
    | cons hmember hrest =>
      obtain ⟨candidate,hcandidate,hpr,hbranch,hhead⟩ := hitem.described
      obtain ⟨candidate',hcandidate',hpr',hbranch',hhead',_⟩ := hmember
      rw [hcandidate,Option.some.injEq] at hcandidate'
      rw [List.map_cons,List.map_cons,ih hrest,hpr,hbranch,hhead,hpr',hbranch',hhead',
        ← hcandidate',hreports.number _ _ hcandidate]

namespace Committing

theorem originalBase (h : Committing status input s plan first items physical) :
    first.oldBase.name = s.bases input.sourceHeadPr := by
  obtain ⟨c,hc,hmembers⟩ := h.plans.caravan
  have hnamed := h.reports.named c (List.mem_of_find?_eq_some hc)
  have hid := List.find?_some hc
  rw [decide_eq_true_eq] at hid
  rw [hid,h.plans.source,hmembers] at hnamed
  have hdescribes := h.plans.members
  have hfirst := h.first
  generalize plan.sourceMembers = numbers,plan.members = members at hnamed hdescribes hfirst
  cases hdescribes with
  | nil => cases hnamed
  | cons hmember _ =>
    cases hnamed
    cases hfirst
    obtain ⟨candidate,hcandidate,_,_,_,hbase⟩ := hmember
    rw [hbase]
    exact h.reports.base _ _ hcandidate

theorem receipts_eq (h : Committing status input s plan first items physical) :
    physical.receipts.map (fun r => (r.pr,r.branch,r.oldHeadOid)) =
      plan.members.map fun m => (m.pr,m.branch,m.oldHeadOid) := by
  rw [h.receipts,List.map_map]
  exact planned_eq h.reports h.prepared h.plans.members

theorem atNew (h : Committing status input s plan first items physical)
    (hheads : u.heads = moved s.heads (items.map headMove)) :
    ∀ r ∈ physical.receipts,u.heads r.branch = some r.newHeadOid := by
  rw [h.receipts,hheads]
  intro r hr
  obtain ⟨item,hitem,rfl⟩ := List.mem_map.mp hr
  exact h.verified.atNew item hitem

theorem target (h : Committing status input s plan first items physical) :
    first.targetPr = input.targetTailPr := by
  obtain ⟨tail,htail,hnumber,_⟩ := h.plans.first first h.first
  exact hnumber.trans (h.reports.number _ _ htail)

end Committing

/-- The concatenated caravan is observed, or both systems are undone. -/
theorem verifyTopology_gives {membership : GitHubMutationReceipt}
    (h : Committing status input s plan first items physical)
    (hheads : u.heads = moved s.heads (items.map headMove))
    (hbase : u.bases input.sourceHeadPr = first.targetBranch) (hconfirmed : u.unconfirmed = false)
    (hnumber : membership.after.number = input.sourceHeadPr) :
    Gives Step Always (verifyTopology status plan input items physical membership first.oldBase.name)
      (Done input s) (Judged input.sourceHeadPr s) u := by
  unfold verifyTopology
  rw [h.originalBase]
  have undone (source : ConcatError) (code : String) {v : World} (hsame : Same u v) :
      Gives Step Always (rollbackCompleteTransaction items plan status.repository membership
        (s.bases input.sourceHeadPr) source code : Io ConcatOutput) (Done input s)
        (Judged input.sourceHeadPr s) v :=
    rollbackCompleteTransaction_gives h.verified (hsame.heads.trans hheads) h.nonempty
      (hsame.unconfirmed hconfirmed) hnumber source code
  have hread : Gives Step Always readStatus
      (fun t live => Same u t ∧ t.fleet = some live.analysis.fleet) (fun t _ => Same u t) u := by
    refine .query trivial ?_ ?_
    · intro a t live ht hlive
      cases ht with
      | status _ =>
        cases hlive
        exact ⟨⟨rfl,rfl,id⟩,rfl⟩
      | statusFailed => cases hlive
    · intro a t e ht he
      cases ht with
      | status _ => cases he
      | statusFailed => exact .refl _
  refine .bind hread.attempt ?_
  intro v r hv
  cases r with
  | error error => exact undone error _ hv
  | ok final =>
    obtain ⟨hsame,hfleet⟩ := hv
    dsimp only
    cases hfind : final.analysis.fleet.caravans.find? fun c => decide (c.members = plan.newOrdering) with
    | none => exact undone (unexpectedTopology final.analysis.fleet) _ hsame
    | some concatenated =>
      have notHalf {t : World} (ht : t = v) : ¬HalfUndone input.sourceHeadPr s t := by
        intro hhalf
        have hunconfirmed := hhalf.unconfirmed
        rw [ht,hsame.unconfirmed hconfirmed] at hunconfirmed
        cases hunconfirmed
      have hmembers := List.find?_some hfind
      rw [decide_eq_true_eq,h.plans.ordering] at hmembers
      apply (complete_gives status final input physical membership concatenated).mono
      · rintro t out ⟨ht,_,hplan,hphysical⟩
        refine ⟨fun _ => ?_,notHalf ht⟩
        rw [ht]
        constructor
        · rw [hplan]
          exact h.plans.source
        · rw [hplan]
          exact h.plans.tail
        · rw [hplan,hphysical]
          exact h.receipts_eq
        · rw [hphysical]
          exact h.atNew (hsame.heads.trans hheads)
        · rw [hplan]
          exact ⟨first,h.first,h.target,(congrFun hsame.bases _).trans hbase⟩
        · rw [hplan]
          exact ⟨_,hfleet,concatenated,List.mem_of_find?_eq_some hfind,hmembers⟩
      · rintro t e ⟨ht,he⟩
        refine ⟨fun _ => notHalf ht,fun _ hmutated => ?_⟩
        rw [he] at hmutated
        cases hmutated

theorem commitMembership_gives (h : Committing status input s plan first items physical)
    (hu : Rewritten s u items) :
    Gives Step Always (commitMembership status plan input first items physical) (Done input s)
      (Judged input.sourceHeadPr s) u := by
  unfold commitMembership
  have undone (source : ConcatError) (code : String) {v : World} (hsame : Same u v) :
      Gives Step Always (rollbackPhysicalError items plan source code : Io ConcatOutput) (Done input s)
        (Judged input.sourceHeadPr s) v :=
    rollbackPhysicalError_gives first.targetBranch h.verified (hsame.heads.trans hu.heads) h.nonempty
      (.inl (congrFun (hsame.bases.trans hu.bases) _)) source code
  refine .bind (reading_status.gives u (.refl u)).attempt ?_
  intro v r hv
  cases r with
  | error error => exact undone error _ hv
  | ok postRewrite =>
    obtain ⟨hsame,hreports⟩ := hv
    dsimp only
    split
    · exact undone staleRewrite _ hsame
    · refine .bind (expect_gives (u := v)) ?_
      rintro t sourceRoot ⟨rfl,hroot⟩
      have hnumber : (PullRequestPrecondition.ofSnapshot sourceRoot).number = input.sourceHeadPr :=
        (hreports.number _ _ hroot).trans h.plans.source
      refine .bind (setBase_gives _ _).attempt ?_
      intro w r hw
      cases r with
      | error error =>
        rcases hw with hsame' | ⟨hedited,hlost⟩
        · exact undone _ _ (hsame.trans hsame')
        · apply rollbackPhysicalError_gives first.targetBranch h.verified
            (hedited.heads.trans (hsame.heads.trans hu.heads)) h.nonempty
          exact .inr ⟨by rw [hedited.bases,hnumber,Function.update_self],hlost,hedited.gitFailed⟩
      | ok membership =>
        obtain ⟨hedited,hconfirmed,hafter⟩ := hw
        apply verifyTopology_gives h (hedited.heads.trans (hsame.heads.trans hu.heads))
          (by rw [hedited.bases,hnumber,Function.update_self]) hconfirmed (hafter.trans hnumber)

end Committing

theorem leased_of_prepared {numbers : List PrNumber} (h : List.Forall₂ (PreparedFor status) numbers items) :
    ∀ item ∈ items,Leased item := by
  induction h with
  | nil => exact fun _ h => nomatch h
  | cons hitem _ ih =>
    intro item hmem
    rcases List.mem_cons.mp hmem with rfl | hmem
    · exact ⟨hitem.lease,hitem.satisfied,hitem.valid⟩
    · exact ih item hmem

theorem executeReviewed_gives (w : ConcatWire) (repositoryPath : String) (input : ConcatExecuteInput) :
    Gives Step Always (executeReviewed w repositoryPath input) (Done input.intent s)
      (Judged input.intent.sourceHeadPr s) s := by
  have judged {t : World} (h : Same s t) (e : ConcatError) : Judged input.intent.sourceHeadPr s t e :=
    judged_of_base (congrFun h.bases _) fun _ => h.heads
  unfold executeReviewed
  refine .bind (((reading_any rfl : Reading s (acquireWriter "concat") _).gives s (.refl s)).mono
    (fun _ _ h => h.1) fun _ e h => judged h e) ?_
  intro t _ ht
  refine .bind ((reading_status.gives t ht).mono (fun _ _ h => h) fun _ e h => judged h e) ?_
  rintro t status ⟨ht,hreports⟩
  refine .bind (((reading_plan w status input.intent).gives t ht).mono (fun _ _ h => h)
    fun _ e h => judged h e) ?_
  rintro t plan ⟨ht,hplans⟩
  refine .bind (K := fun t' _ => t' = t) (.refuseIf (fun _ => rfl) fun _ => judged ht _) ?_
  rintro t _ rfl
  refine .bind expect_gives ?_
  rintro t first ⟨rfl,hfirst⟩
  refine .bind (((reading_concat hplans first).gives t ht).mono (fun _ _ h => h)
    fun _ e h => judged h e) ?_
  rintro t items ⟨ht,hprepared⟩
  refine .bind ((apply_gives (leased_of_prepared hprepared)).mono (fun _ _ h => h) ?_) ?_
  · rintro u e ⟨hbases,hheads⟩
    exact judged_of_base (congrFun (hbases.trans ht.bases) _) fun he => (hheads he).trans ht.heads
  · rintro u physical ⟨hreceipts,hu⟩
    have hverified : Verified s.heads items := ht.heads ▸ hu.verified
    apply commitMembership_gives ⟨hreports,hplans,hfirst,hprepared,hreceipts,hverified,hu.nonempty⟩
    exact ⟨hverified,ht.heads ▸ hu.heads,hu.bases.trans ht.bases,hu.nonempty⟩

theorem recordedOutput_idempotent {planHash : String} {records : List (Journal.JournalRecord ConcatEvidence)}
    {out : ConcatOutput} (h : recordedOutput planHash records = .ok (some out)) : out.idempotent = true := by
  induction records with
  | nil => cases h
  | cons record rest ih =>
    cases record with
    | hookDelivery => exact ih h
    | event version event =>
      unfold recordedOutput at h
      cases hplan : event.detail.plan with
      | none =>
        rw [hplan] at h
        exact ih h
      | some plan =>
        rw [hplan] at h
        cases plan with
        | error source => cases h
        | ok plan =>
          dsimp only at h
          split at h
          · exact ih h
          · obtain ⟨_,_,h⟩ := Guard.bind_eq_ok.mp h
            obtain ⟨_,_,h⟩ := Guard.bind_eq_ok.mp h
            obtain ⟨_,_,h⟩ := Guard.bind_eq_ok.mp h
            obtain ⟨_,_,h⟩ := Guard.bind_eq_ok.mp h
            cases h
            rfl

theorem existingReceipt_gives (planHash : String) : Gives Step Always (existingReceipt planHash)
    (fun t found => t = s ∧ ∀ out,found = some out → out.idempotent = true) (fun t _ => t = s) s := by
  unfold existingReceipt
  refine .bind (K := fun t _ => t = s) (.query trivial ?_ ?_) ?_
  · intro a t log ht _
    cases ht
    rfl
  · intro a t e ht _
    cases ht
    rfl
  · rintro t log rfl
    refine .ofResult ?_ fun _ _ => rfl
    intro found hfound
    refine ⟨rfl,?_⟩
    rintro out rfl
    exact recordedOutput_idempotent hfound

theorem execute_gives (w : ConcatWire) (repositoryPath : String) (input : ConcatExecuteInput) :
    Gives Step Always (execute w repositoryPath input) (Done input.intent s)
      (Judged input.intent.sourceHeadPr s) s := by
  unfold execute
  refine .bind ((existingReceipt_gives input.expectedPlanHash).mono (fun _ _ h => h) ?_) ?_
  · rintro t e rfl
    exact judged_of_base rfl fun _ => rfl
  · rintro t found ⟨rfl,hfound⟩
    cases found with
    | none => exact executeReviewed_gives w repositoryPath input
    | some out =>
      refine .pure ⟨fun hnew => ?_,fun hhalf => hhalf.edited rfl⟩
      rw [hfound out rfl] at hnew
      cases hnew

end Outcome

/-- Over every run of one call: it is all or nothing when and only when the provider does not
leave the source root half undone. -/
theorem all_or_nothing_iff (w : ConcatWire) (repositoryPath : String) (input : ConcatExecuteInput)
    {heads : Store String CommitOid} {bases : PrNumber → String} {r : Except ConcatError ConcatOutput}
    {t : World}
    (h : Run Step (execute w repositoryPath input).run { heads := heads,bases := bases } (some r) t) :
    AllOrNothing input.intent { heads := heads,bases := bases } r t ↔
      ¬HalfUndone input.intent.sourceHeadPr { heads := heads,bases := bases } t := by
  have hgives := execute_gives (s := { heads := heads,bases := bases }) w repositoryPath input
  cases r with
  | ok out =>
    obtain ⟨hconcatenated,hhalf⟩ := hgives.run h
    exact ⟨fun _ => hhalf,fun _ => hconcatenated⟩
  | error e => exact hgives.run_error h

section Samples

instance (s : World) (live : LiveStatus) : Decidable (Reports s live) :=
  decidable_of_iff ((∀ entry ∈ live.analysis.pullRequests.toList,entry.2.number = entry.1 ∧
      entry.2.base.name = s.bases entry.1) ∧ ∀ c ∈ live.analysis.fleet.caravans,c.members.head? = some c.id) <| by
    constructor
    · rintro ⟨hrows,hnamed⟩
      refine ⟨fun n p hp => ?_,fun n p hp => ?_,hnamed⟩
      · exact (hrows (n,p) (Std.ExtTreeMap.mem_toList_iff_getElem?_eq_some.mpr hp)).1
      · exact (hrows (n,p) (Std.ExtTreeMap.mem_toList_iff_getElem?_eq_some.mpr hp)).2
    · rintro ⟨hnumber,hbase,hnamed⟩
      refine ⟨fun entry hentry => ?_,hnamed⟩
      have hp := Std.ExtTreeMap.mem_toList_iff_getElem?_eq_some.mp hentry
      exact ⟨hnumber _ _ hp,hbase _ _ hp⟩

/-- The world after a call with this answer; a failed write was applied or not. -/
def perform (s : World) : Request → Answer → Bool → Option World
  | .journal _,.log _,_ | .acquireWriter _,.done _,_ | .fetchBranches _,.done _,_
  | .compatibility ..,.report _,_ | .prepareCandidate ..,.prepared _,_ | .retainedHead _,.head _,_
  | .retainRange _,.done _,_ | .pushDryRun _,.done _,_ | .newOperation,.identity ..,_
  | .newEvent,.identity ..,_ | .dispatch _,.delivered _,_ => some s
  | .status,.status (.ok live),_ =>
      if Reports s live then some { s with fleet := some live.analysis.fleet } else none
  | .remoteHead branch,.advertised (.ok head),_ =>
      if head = s.heads branch then some { s with gitFailed := false } else none
  | .push moves,.done (.ok ()),_ =>
      if ∀ m ∈ moves,s.heads m.key = some m.old then
        some { s with heads := moved s.heads moves,gitFailed := false } else none
  | .refetch _ number,.pullRequest (.ok p),_ =>
      if p.number = number ∧ p.base.name = s.bases number then some { s with unconfirmed := false }
      else none
  | .editBase _ number base,.edited (.ok _),_ => some
      { s with bases := Function.update s.bases number base,unconfirmed := true,gitFailed := false }
  | .editBase _ number base,.edited (.error _),true => some
      { s with bases := Function.update s.bases number base,unconfirmed := true,gitFailed := false }
  | _,_,_ => none

theorem perform_step {s t : World} {q : Request} {a : Answer} {applied : Bool}
    (h : perform s q a applied = some t) : Step s q a t := by
  unfold perform at h
  split at h
  case h_12 => -- a status that reports the bases
    split at h
    · next hreports =>
      cases h
      exact .status hreports
    · cases h
  case h_13 =>
    split at h
    · next hhead =>
      cases h
      rw [hhead]
      exact .head ..
    · cases h
  case h_14 =>
    split at h
    · next hready =>
      cases h
      exact .pushed (.made hready)
    · cases h
  case h_15 =>
    split at h
    · next hp =>
      cases h
      exact .refetched _ hp.1 hp.2
    · cases h
  case h_17 =>
    cases h
    exact .editLost ..
  all_goals
    cases h
    try constructor

/-- The run in which the calls meet these answers in turn, when they are as many. -/
def simulate {α : Type} : Prog Request Answer α → World → List (Answer × Bool) → Option (α × World)
  | .done a,s,[] => some (a,s)
  | .ask q k,s,(a,applied)::rest => (perform s q a applied).bind fun t => simulate (k a) t rest
  | _,_,_ => none

theorem run_of_simulate {α : Type} {p : Prog Request Answer α} {s t : World} {script : List (Answer × Bool)}
    {r : α} (h : simulate p s script = some (r,t)) : Run Step p s (some r) t := by
  induction p generalizing s script with
  | done a =>
    cases script with
    | nil =>
      cases h
      exact .done ..
    | cons _ _ => cases h
  | abort => cases h
  | ask q k ih =>
    cases script with
    | nil => cases h
    | cons entry rest =>
      obtain ⟨u,hu,hrest⟩ := Option.bind_eq_some_iff.mp h
      exact .ask (perform_step hu) (ih _ hrest)

def sampleRepositoryValue (r : RepositoryId) : JsonValue :=
  .obj [("owner",.str r.owner),("name",.str r.name)]

def sampleBranchValue (b : BranchSnapshot) : JsonValue :=
  .obj [("repository",sampleRepositoryValue b.repository),("name",.str b.name),("oid",.str b.oid)]

def sampleMemberValue (m : ConcatMemberPlan) : JsonValue :=
  .obj [("pr",.num m.pr),("branch",.str m.branch),("old_head_oid",.str m.oldHeadOid),
    ("old_base",sampleBranchValue m.oldBase),("target_pr",.num m.targetPr),
    ("target_branch",.str m.targetBranch),("target_head_oid",.str m.targetHeadOid),
    ("requires_rewrite",.bool m.requiresRewrite)]

def sampleNumbersValue (numbers : List PrNumber) : JsonValue := .arr (numbers.map .num)

/-- The serializer of plans, whose texts the kernel runs. -/
def sampleWire : ConcatWire where
  planJson plan := (JsonValue.text none (.obj [("schema_version",.num plan.schemaVersion),
    ("repository",sampleRepositoryValue plan.repository),("source_caravan",.num plan.sourceCaravan),
    ("target_caravan",.num plan.targetCaravan),("source_members",sampleNumbersValue plan.sourceMembers),
    ("target_members",sampleNumbersValue plan.targetMembers),
    ("old_ordering",.arr (plan.oldOrdering.map sampleNumbersValue)),
    ("new_ordering",sampleNumbersValue plan.newOrdering),
    ("members",.arr (plan.members.map sampleMemberValue)),("actor",.str plan.actor),
    ("reason",.str plan.reason),("plan_hash",.str plan.planHash),
    ("rollback_heads",.arr (plan.rollbackHeads.map sampleBranchValue))])).flatMap String.utf8EncodeChar

def sampleOid (c : Char) : CommitOid := String.ofList (List.replicate 40 c)

def sampleBranch (name : String) (c : Char) : BranchSnapshot := ⟨⟨"cara","vans"⟩,name,sampleOid c⟩

def samplePr (number : PrNumber) (head base : BranchSnapshot) : PullRequestSnapshot :=
  { number := number,state := .open,head := head,base := base,labels := {"caravan"}
    autoMerge := .disabled }

/-- A fleet of two pull requests, of which the second is seen with this head and base. -/
def sampleStatus (caravans : List Caravan) (head base : BranchSnapshot) : LiveStatus where
  repository := ⟨"cara","vans"⟩
  defaultBranch := "main"
  analysis := {
    fleet := { repository := ⟨"cara","vans"⟩,defaultBranch := sampleBranch "main" 'a',caravans := caravans }
    pullRequests := ((∅ : PullRequestMap).insert 1
      (samplePr 1 (sampleBranch "target" 'b') (sampleBranch "main" 'a'))).insert 2 (samplePr 2 head base) }
  healthy := true

def apart : List Caravan := [⟨1,[1],false⟩,⟨2,[2],false⟩]

def sampleInput : ConcatInput := ⟨2,1,"operator","land together"⟩

def samplePlan : ConcatPlan :=
  let status := sampleStatus apart (sampleBranch "source" 'c') (sampleBranch "main" 'a')
  sealPlan sampleWire (unsealedPlan status sampleInput ⟨2,[2],false⟩ ⟨1,[1],false⟩
    [(memberPlan 2 (samplePr 2 (sampleBranch "source" 'c') (sampleBranch "main" 'a'))
      (samplePr 1 (sampleBranch "target" 'b') (sampleBranch "main" 'a')),sampleBranch "source" 'c')])

def sampleExecute : ConcatExecuteInput := ⟨sampleInput,samplePlan.planHash⟩

def sampleHeads (branch : String) : Option CommitOid :=
  (["main","target","source"].zip ['a','b','c']).lookup branch |>.map sampleOid

/-- The answers up to the atomic push and the status after it. -/
def rewriteScript : List (Answer × Bool) :=
  [(.log (.ok ⟨[],100,0,false,⟨"events-v1.jsonl",false,0,0⟩⟩),true),(.done (.ok ()),true),
    (.status (.ok (sampleStatus apart (sampleBranch "source" 'c') (sampleBranch "main" 'a'))),true),
    (.done (.ok ()),true),
    (.report (.ok ⟨sampleBranch "source" 'c',sampleBranch "target" 'b',.clean,none⟩),true),
    (.prepared (.ok ⟨sampleOid 'a',sampleOid 'd',sampleOid 'e',1,[]⟩),true),
    (.head (.ok (sampleOid 'd')),true),(.advertised (.ok (some (sampleOid 'c'))),true),
    (.advertised (.ok (some (sampleOid 'a'))),true),(.advertised (.ok (some (sampleOid 'b'))),true),
    (.done (.ok ()),true),(.done (.ok ()),true),
    (.status (.ok (sampleStatus apart (sampleBranch "source" 'd') (sampleBranch "main" 'a'))),true),
    (.pullRequest (.ok (samplePr 2 (sampleBranch "source" 'd') (sampleBranch "main" 'a'))),true)]

/-- The base edit is applied without an answer, and the heads are pushed back. -/
def lostEdit : List (Answer × Bool) :=
  rewriteScript ++ [(.edited (.error (.timeout "gh timed out")),true),(.done (.ok ()),true)]

/-- The base edit is answered and the concatenated caravan observed. -/
def completed : List (Answer × Bool) :=
  rewriteScript ++ [(.edited (.ok none),true),
    (.pullRequest (.ok (samplePr 2 (sampleBranch "source" 'd') (sampleBranch "target" 'b'))),true),
    (.status (.ok (sampleStatus [⟨1,[1,2],false⟩] (sampleBranch "source" 'd')
      (sampleBranch "target" 'b'))),true),
    (.identity "o1" "1",true),(.identity "e1" "1",true),(.delivered (.ok []),true)]

def sampleWorld : World := { heads := sampleHeads,bases := fun _ => "main" }

/-- What one answered call comes to: its result's idempotence or denial of writes, the base of
the source root and whether it is confirmed. -/
def summary (script : List (Answer × Bool)) : Option (Except (Option Bool) Bool × String × Bool) :=
  (simulate (execute sampleWire "vans" sampleExecute).run sampleWorld script).map fun r =>
    ((r.1.map (·.idempotent)).mapError mutated,r.2.bases 2,r.2.unconfirmed)

/-- One evaluation for both scripts, which share the digest of the plan. -/
theorem summary_scripts : summary lostEdit = some (.error (some false),"target",true) ∧
    summary completed = some (.ok false,"target",false) := by
  decide +kernel

theorem run_of_summary {script : List (Answer × Bool)} {x : Except (Option Bool) Bool × String × Bool}
    (h : summary script = some x) : ∃ r t,
      Run Step (execute sampleWire "vans" sampleExecute).run sampleWorld (some r) t ∧
        (r.map (·.idempotent)).mapError mutated = x.1 ∧ t.bases 2 = x.2.1 ∧ t.unconfirmed = x.2.2 := by
  obtain ⟨⟨r,t⟩,hrun,hx⟩ := Option.map_eq_some_iff.mp h
  exact ⟨r,t,run_of_simulate hrun,congrArg Prod.fst hx,congrArg (·.2.1) hx,congrArg (·.2.2) hx⟩

/-- The edit was applied, its answer lost: the error denies a write while the base is the
target's. -/
theorem lostEdit_half_concatenated : ∃ r t,
    Run Step (execute sampleWire "vans" sampleExecute).run sampleWorld (some r) t ∧
      ¬AllOrNothing sampleInput sampleWorld r t := by
  obtain ⟨r,t,hrun,hresult,hbase,_⟩ := run_of_summary summary_scripts.1
  refine ⟨r,t,hrun,?_⟩
  cases r with
  | ok out => cases hresult
  | error e =>
    intro hclaim
    have hdenied : mutated e = some false := Except.error.inj hresult
    have hkept : t.bases 2 = "main" := (hclaim hdenied).2
    rw [hbase] at hkept
    exact absurd hkept (by decide)

theorem all_or_nothing_completed : ∃ out t,
    Run Step (execute sampleWire "vans" sampleExecute).run sampleWorld (some (.ok out)) t ∧
      out.idempotent = false ∧ AllOrNothing sampleInput sampleWorld (.ok out) t := by
  obtain ⟨r,t,hrun,hresult,_,hconfirmed⟩ := run_of_summary summary_scripts.2
  cases r with
  | error e => cases hresult
  | ok out =>
    refine ⟨out,t,hrun,Except.ok.inj hresult,?_⟩
    apply (all_or_nothing_iff sampleWire "vans" sampleExecute hrun).mpr
    intro hhalf
    have hunconfirmed := hhalf.unconfirmed
    rw [hconfirmed] at hunconfirmed
    cases hunconfirmed

end Samples

end Concat
end Cara
