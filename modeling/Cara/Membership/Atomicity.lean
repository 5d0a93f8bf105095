import Cara.Membership.EnvelopeRuns
import Cara.Membership.PreflightAgreement

/-! When an envelope that reports a rollback left the provider as it was. -/
namespace Cara
namespace Membership

open Check (CheckOutput CheckResult)
open Prog
open Sync (GitHubMutationReceipt MutationError)

variable {δ : Type}

def MembershipFailure.isRolledBack : MembershipFailure δ → Bool
  | .error e => match e.details with
      | some (.rolledBack ..) => true
      | _ => false
  | .panic _ => false

section Quiet

variable {α β : Type} {w : World}

structure Quiet (w : World) (m : MembershipIo δ α) : Prop where
  gives : Gives Step anyRequest m (fun t _ => t = w) (fun t e => t = w ∧ e.isRolledBack = false) w

namespace Quiet

theorem pure (a : α) : Quiet w (pure a : MembershipIo δ α) := ⟨.pure rfl⟩

theorem bind {m : MembershipIo δ β} {f : β → MembershipIo δ α} (hm : Quiet w m)
    (hf : ∀ b,Quiet w (f b)) : Quiet w (m >>= f) := by
  constructor
  apply hm.gives.bind
  intro t b ht
  rw [ht]
  exact (hf b).gives

theorem ofResult {r : Except (MembershipFailure δ) α} (h : ∀ e,r = .error e → e.isRolledBack = false) :
    Quiet w (ofResult r) := ⟨.ofResult (fun _ _ => rfl) fun e he => ⟨rfl,h e he⟩⟩

theorem refuseIf (condition : Bool) {e : MembershipFailure δ} (h : e.isRolledBack = false) :
    Quiet w (refuseIf condition e) := ⟨.refuseIf (fun _ => rfl) fun _ => ⟨rfl,h⟩⟩

theorem mapError {ε : Type} {m : Fallible ProviderRequest ProviderAnswer ε α} {f : ε → MembershipFailure δ}
    (hw : w.Settled) (h : Only (fun q => q.isRead = true) m) (hf : ∀ e,(f e).isRolledBack = false) :
    Quiet w (Prog.mapError f m) := by
  have hreads : Gives Step anyRequest m (fun t _ => t = w) (fun t _ => t = w) w := by
    apply h.keeps (I := fun t => t = w) (fun _ _ _ _ => trivial) ?_ rfl
    intro s q a t hq hstep hs
    rw [hs] at hstep
    obtain ⟨ht,_⟩ | ⟨ht,_⟩ := hstep.of_read hq
    · exact ht
    · rw [ht,afterRead_settled hw]
  constructor
  constructor
  rw [holds_mapError]
  apply hreads.holds.mono
  intro t r hr
  cases r with
  | ok a => exact hr
  | error e => exact ⟨hr,hf e⟩

theorem preflightCall {call : ProviderIo α} (around : Surroundings δ) (hw : w.Settled)
    (h : Only (fun q => q.isRead = true) call) : Quiet w (Membership.preflightCall around [] call) :=
  .mapError hw h fun _ => rfl

theorem ofCheck (r : CheckResult δ α) : Quiet w (Membership.ofCheck r) := by
  apply ofResult
  intro e he
  cases r with
  | ok a => cases he
  | error failure =>
    cases he
    cases failure with
    | panic message => rfl
    | error e =>
      obtain ⟨category,code,message,details⟩ := e
      cases details <;> rfl

end Quiet

theorem ask_only {request : ProviderRequest} (value : ProviderAnswer → Option α)
    (h : request.isRead = true) : Only (fun q => q.isRead = true) (ask request value) := .query h

variable {status : StatusOutput} {request : MembershipRequest} {around : Surroundings δ}

theorem preflightRepository_quiet (hw : w.Settled) :
    Quiet w (preflightRepository status request around) := by
  apply (Quiet.preflightCall around hw (ask_only labelsOf rfl)).bind
  intro labels
  apply (Quiet.refuseIf _ rfl).bind
  intro _
  apply (Quiet.refuseIf _ rfl).bind
  intro _
  split
  · exact .pure ()
  · have hallowed : Quiet w (autoMergeAllowed status around) := by
      unfold autoMergeAllowed
      split
      · exact .preflightCall around hw (ask_only flagOf rfl)
      · exact .pure true
    apply hallowed.bind
    intro allowed
    apply (Quiet.refuseIf _ rfl).bind
    intro _
    apply (Quiet.preflightCall around hw (ask_only flagOf rfl)).bind
    intro isProtected
    exact .refuseIf _ rfl

theorem validateRequest_quiet (e : MembershipFailure δ) (h : validateRequest request = .error e) :
    e.isRolledBack = false := by
  unfold validateRequest Guard.refuse at h
  split at h
  · cases h
    rfl
  · split at h
    · cases h
      rfl
    · cases h

theorem validatePriorityLabel_quiet (e : MembershipFailure δ)
    (h : validatePriorityLabel request = .error e) : e.isRolledBack = false := by
  unfold validatePriorityLabel Guard.refuse at h
  split at h
  · cases h
  · split at h
    · cases h
      rfl
    · cases h

theorem preflightRequest_quiet (hw : w.Settled) : Quiet w (preflightRequest status request around) := by
  apply (Quiet.ofResult validateRequest_quiet).bind
  intro _
  apply (Quiet.ofCheck _).bind
  intro _
  apply (preflightRepository_quiet hw).bind
  intro _
  apply (Quiet.ofResult validatePriorityLabel_quiet).bind
  intro _
  apply (Quiet.ofCheck _).bind
  intro target
  apply Quiet.bind
  · apply Quiet.refuseIf
    unfold postRebaseMoved
    split <;> rfl
  · intro _
    apply Quiet.bind
    · apply Quiet.ofResult
      intro e he
      unfold refuseCapacity at he
      split at he
      · cases he
      · cases he
        rfl
    · intro _
      exact .pure target

theorem preflightCandidate_quiet (hw : w.Settled)
    (hreads : ∀ status candidate eligibility target,
      Only (fun q => q.isRead = true) (around.rereads status candidate eligibility target))
    (target : Option JoinTarget) (candidate : PullRequestSnapshot) :
    Quiet w (preflightCandidate status request around target candidate) := by
  apply (Quiet.ofCheck _).bind
  intro _
  apply (Quiet.ofCheck _).bind
  intro eligibility
  apply (Quiet.mapError hw (hreads status candidate eligibility target) fun _ => rfl).bind
  intro _
  exact .pure eligibility

end Quiet

section Execute

variable {w : World} {status : StatusOutput} {request : MembershipRequest} {around : Surroundings δ}

structure Unedited (w : World) : Prop where
  applied : w.applied = []
  readBack : w.readBack = false

theorem Unedited.settled (h : Unedited w) : w.Settled := .inl h.applied

/-- A rolled back envelope: nothing else was created, and the pull requests are as they were exactly
when the first edit was read back and no foreign auto-merge request was touched. -/
structure RolledBack (n : PrNumber) (w t : World) : Prop where
  created : t.created = w.created
  restored : t.pulls = w.pulls ↔
    t.Settled ∧ ((w.pulls n).autoMerge = .other → t.applied.any PullEdit.isAutoMerge = false)

theorem TakenBack.rolledBack {n : PrNumber} {w v t : World} {rs : List GitHubMutationReceipt}
    (hw : Unedited w) (hv : Trail n w rs v) (h : TakenBack n w rs v t) : RolledBack n w t := by
  have happlied : t.applied.any PullEdit.isAutoMerge = rs.any isAutoMergeReceipt := by
    rw [h.applied,hv.applied,hw.applied]
    simp
  refine ⟨h.created.trans hv.created,?_⟩
  rw [happlied]
  have hothers : ∀ k,k ≠ n → t.pulls k = w.pulls k := fun k hk => (h.others k hk).trans (hv.others hk)
  have hpull := h.pull
  cases hauto : rs.any isAutoMergeReceipt with
  | false =>
    rw [hauto,if_neg (by simp),hv.autoMerge hauto] at hpull
    refine ⟨fun _ => ⟨h.settled,fun _ => rfl⟩,fun _ => ?_⟩
    funext k
    by_cases hk : k = n
    · rw [hk,hpull]
    · exact hothers k hk
  | true =>
    rw [hauto,if_pos rfl] at hpull
    constructor
    · intro hsame
      refine ⟨h.settled,fun hother => ?_⟩
      rw [hsame] at hpull
      have hsettle := congrArg Controls.autoMerge hpull
      exact absurd hother ((AutoMergeSetting.settle_eq_iff _).mp hsettle.symm)
    · intro hkept
      have hsettle : (w.pulls n).autoMerge.settle = (w.pulls n).autoMerge :=
        (AutoMergeSetting.settle_eq_iff _).mpr fun hother => absurd (hkept.2 hother) (by simp)
      funext k
      by_cases hk : k = n
      · rw [hk,hpull,hsettle]
      · exact hothers k hk

theorem rollback_gives {n : PrNumber} {base : List GitHubMutationReceipt} {s : ExecutionState}
    {w t : World} (hw : Unedited w) (hbare : ∀ receipt ∈ base,receipt.before = none)
    (h : Stopped n base w s t) :
    Gives Step anyRequest (rollbackMembershipEnvelope s) (fun t _ => RolledBack n w t)
      (fun _ _ => True) t := by
  obtain ⟨v,hat,ht⟩ := h
  obtain ⟨rs,hreceipts,htrail,hshows⟩ := hat.trail
  have hsettled : v.Settled := htrail.settled hw.settled
  have hbare' : ∀ receipt ∈ base.reverse,receipt.before = none := by simpa using hbare
  rw [rollbackMembershipEnvelope,hreceipts,List.reverse_append]
  rcases ht with rfl | ⟨e,rfl,heffective⟩
  · exact (takeBack_gives htrail hbare' s.current hat.number hsettled rfl rfl).mono
      (fun _ _ htaken => htaken.rolledBack hw htrail) fun _ _ h => h
  · by_cases hrs : rs = []
    · rw [htrail.same hrs] at heffective ⊢
      rw [hrs,List.reverse_nil,List.nil_append,takeBack_bare hbare']
      refine .pure ⟨rfl,?_⟩
      have hchanged : (w.edit n e).pulls ≠ w.pulls := by
        intro hsame
        exact heffective (by rw [← edit_pulls_self,hsame])
      have hlost : ¬ (w.edit n e).Settled := by
        intro hs
        rcases hs with hs | hs
        · rw [edit_applied] at hs
          simp at hs
        · exact absurd (hw.readBack.symm.trans hs) (by simp)
      exact ⟨fun h => absurd h hchanged,fun h => absurd h.1 hlost⟩
    · exact (takeBack_refused htrail hrs s.current hat.number (hshows hrs) heffective).mono
        (fun _ _ h => h.elim) fun _ _ h => h

theorem executeEnvelope_gives {candidate : PullRequestSnapshot} {eligibility : CheckOutput}
    {name : String} {receipts : List GitHubMutationReceipt} (hw : Unedited w)
    (hbare : ∀ receipt ∈ receipts,receipt.before = none) :
    Gives Step anyRequest (executeEnvelope status request candidate eligibility name
        (createdState request around candidate receipts) : MembershipIo δ ExecutionState)
      (fun _ _ => True) (fun t e => e.isRolledBack = true → RolledBack candidate.number w t) w := by
  have hstart : AtStep candidate.number receipts w (createdState request around candidate receipts) w :=
    ⟨⟨[],(List.append_nil _).symm,.nil w,fun h => absurd rfl h⟩,rfl⟩
  apply (envelope_gives status request candidate eligibility name hw.settled hstart).attempt.bind
  intro t r hr
  cases r with
  | ok s => exact .pure trivial
  | error failure =>
    obtain ⟨s,source⟩ := failure
    apply (rollback_gives hw hbare hr).attempt.bind
    intro t r hr
    cases r with
    | ok rollback => exact .throw fun _ => hr
    | error e => exact .throw fun h => by cases h

def Found (status : StatusOutput) (candidate : PullRequestSnapshot) : Prop :=
  ∃ number,status.currentPr = some number ∧ status.analysis.pullRequests[number]? = some candidate

theorem candidateOf_found {candidate : PullRequestSnapshot}
    (h : candidateOf (δ := δ) status = .ok candidate) : Found status candidate := by
  unfold candidateOf at h
  split at h
  · cases h
  · rename_i number hcurrent
    split at h
    · cases h
    · rename_i found hfound
      cases h
      exact ⟨number,hcurrent,hfound⟩

theorem candidateOf_quiet (e : MembershipFailure δ) (h : candidateOf status = .error e) :
    e.isRolledBack = false := by
  unfold candidateOf at h
  split at h
  · cases h
    rfl
  · split at h
    · cases h
      rfl
    · cases h

abbrev ReadsOnly (around : Surroundings δ) : Prop :=
  ∀ status candidate eligibility target,
    Only (fun q => q.isRead = true) (around.rereads status candidate eligibility target)

theorem executeCandidate_gives {receipts : List GitHubMutationReceipt} (hreads : ReadsOnly around)
    (hw : Unedited w) (hbare : ∀ receipt ∈ receipts,receipt.before = none) (target : Option JoinTarget)
    (base : String) :
    Gives Step anyRequest (executeCandidate status request around target base receipts)
      (fun _ _ => True) (fun t e => e.isRolledBack = true →
        ∃ candidate,Found status candidate ∧ RolledBack candidate.number w t) w := by
  have hquiet : ∀ {t : World} {e : MembershipFailure δ},t = w ∧ e.isRolledBack = false →
      e.isRolledBack = true →
      ∃ candidate,Found status candidate ∧ RolledBack candidate.number w t := by
    intro t e h he
    rw [h.2] at he
    cases he
  apply Gives.ofResult_bind
  · intro candidate hcandidate
    have hfound := candidateOf_found hcandidate
    apply ((preflightCandidate_quiet hw.settled hreads target candidate).gives.mono (fun _ _ h => h)
      fun _ _ h => hquiet h).bind
    intro t eligibility ht
    rw [ht]
    apply ((executeEnvelope_gives hw hbare).mono (fun _ _ h => h)
      fun _ _ h he => ⟨candidate,hfound,h he⟩).bind
    intro t s _
    exact .pure trivial
  · exact fun e he => hquiet ⟨rfl,candidateOf_quiet e he⟩

/-- What holds of a call that reports a rollback exactly when nothing is changed. -/
def Reverted (status : StatusOutput) (w t : World) : Prop :=
  ∃ candidate,Found status candidate ∧ t.Settled ∧
    ((w.pulls candidate.number).autoMerge = .other → t.applied.any PullEdit.isAutoMerge = false)

theorem Found.unique {a b : PullRequestSnapshot} (ha : Found status a) (hb : Found status b) : a = b := by
  obtain ⟨m,hm,ha⟩ := ha
  obtain ⟨n,hn,hb⟩ := hb
  rw [Option.some_inj.mp (hm.symm.trans hn)] at ha
  exact Option.some_inj.mp (ha.symm.trans hb)

theorem createPullRequest_gives (hw : Unedited w) (head base : String) :
    Gives Step anyRequest (createPullRequest head base)
      (fun t receipt => Unedited t ∧ t.created ≠ [] ∧ receipt.before = none) (fun _ _ => True) w := by
  apply Gives.query_bind trivial
  · intro a t stdout hstep hd
    have ht : Unedited t ∧ t.created ≠ [] := by
      cases hstep with
      | read hq _ => cases hq
      | failed e => cases hd
      | created n c a => exact ⟨⟨hw.applied,hw.readBack⟩,by simp [World.create]⟩
    split
    · exact .throw trivial
    · apply Gives.query_bind trivial
      · intro a t' after hstep _
        obtain ⟨h,_⟩ | ⟨h,_⟩ := hstep.of_read rfl
        · exact .pure ⟨h ▸ ht.1,h ▸ ht.2,rfl⟩
        · rw [afterRead_settled ht.1.settled] at h
          exact .pure ⟨h ▸ ht.1,h ▸ ht.2,rfl⟩
      · exact fun _ _ _ _ _ => trivial
  · exact fun _ _ _ _ _ => trivial

theorem execute_gives (hreads : ReadsOnly around) (hw : Unedited w) (hcreated : w.created = []) :
    Gives Step anyRequest (execute status request around) (fun _ _ => True)
      (fun t e => e.isRolledBack = true → (t.pulls = w.pulls ∧ t.created = [] ↔ Reverted status w t)) w := by
  apply ((preflightRequest_quiet hw.settled).gives.mono (fun _ _ h => h) ?_).bind
  · intro t target ht
    rw [ht]
    cases hcurrent : status.currentPr with
    | some number =>
      have hdiscovered : discoverOrCreate status request around (desiredBase status target) =
          pure (status,[]) := by
        unfold discoverOrCreate
        rw [hcurrent]
        rfl
      rw [hdiscovered]
      show Gives _ _ (executeCandidate status request around target (desiredBase status target) []) _ _ _
      apply (executeCandidate_gives hreads hw (by simp) target (desiredBase status target)).mono
        fun _ _ h => h
      intro t e h he
      obtain ⟨candidate,hfound,hrolled⟩ := h he
      rw [hrolled.created,hcreated,and_iff_left rfl,hrolled.restored]
      constructor
      · exact fun h => ⟨candidate,hfound,h⟩
      · intro h
        obtain ⟨other,hother,h⟩ := h
        rw [hother.unique hfound] at h
        exact h
    | none =>
      have hnot : ∀ t : World,¬ Reverted status w t := by
        intro t h
        obtain ⟨_,⟨number,hnumber,_⟩,_⟩ := h
        rw [hcurrent] at hnumber
        cases hnumber
      have hfound : Gives Step anyRequest (discoverOrCreate status request around
          (desiredBase status target)) (fun t found => Unedited t ∧ t.created ≠ [] ∧
            ∀ receipt ∈ found.2,receipt.before = none) (fun _ e => e.isRolledBack = false) w := by
        unfold discoverOrCreate
        rw [hcurrent]
        apply Gives.bind (K := fun t _ => t = w)
        · exact .refuseIf (fun _ => rfl) fun _ => rfl
        · intro t _ ht
          rw [ht]
          split
          · exact .throw rfl
          · rename_i branch _
            have hcall : Gives Step anyRequest (preflightCall around [] (createPullRequest branch
                (desiredBase status target))) (fun t receipt => Unedited t ∧ t.created ≠ [] ∧
                  receipt.before = none) (fun _ e => e.isRolledBack = false) w := by
              constructor
              rw [preflightCall,holds_mapError]
              apply (createPullRequest_gives hw branch (desiredBase status target)).holds.mono
              intro t r hr
              cases r with
              | ok a => exact hr
              | error e => rfl
            apply hcall.bind
            intro t receipt h
            exact .pure ⟨h.1,h.2.1,by simpa using h.2.2⟩
      apply (hfound.mono (fun _ _ h => h) ?_).bind
      · intro t found h
        apply (executeCandidate_gives hreads h.1 h.2.2 target (desiredBase status target)).mono
          fun _ _ h => h
        intro u e hrolled he
        obtain ⟨candidate,_,hrolled⟩ := hrolled he
        refine iff_of_false ?_ (hnot u)
        intro hsame
        exact h.2.1 (hrolled.created.symm.trans hsame.2)
      · intro t e h he
        rw [h] at he
        cases he
  · intro t e h he
    rw [h.2] at he
    cases he

/-- The provider is as it was before a call that reports a rollback if and only if the pull request
existed, an edit that was applied was read back, and no merge method but squash was replaced. -/
theorem execute_rolledBack_iff {t : World} {e : MembershipFailure δ} (hreads : ReadsOnly around)
    (hw : Unedited w) (hcreated : w.created = [])
    (hrun : Run Step (execute status request around).run w (some (.error e)) t)
    (he : e.isRolledBack = true) :
    t.pulls = w.pulls ∧ t.created = [] ↔ Reverted status w t :=
  (execute_gives hreads hw hcreated).run_error hrun he

end Execute

section Samples

/-- The world along a conversation in which edits whose answer is lost are applied, or are not. -/
def follow (applies : Bool) (w : World) : List (ProviderRequest × ProviderAnswer) → Option World
  | [] => some w
  | (.edit n e,.failed _)::rest => follow applies (if applies then w.edit n e else w) rest
  | (.refetch n,.pull p)::rest =>
      if p.number = n ∧ p.base.name = (w.pulls n).base ∧ p.labels = (w.pulls n).labels ∧
          p.autoMerge.enabled = (w.pulls n).autoMerge.enabled ∧
          p.autoMerge.mergeMethod = (w.pulls n).autoMerge.method then follow applies w.observe rest
      else none
  | (.repositoryLabels,.labels _)::rest => follow applies w rest
  | (.branchIsProtected _,.flag _)::rest => follow applies w rest
  | _::_ => none

theorem steps_of_follow {applies : Bool} {w u : World} {t : List (ProviderRequest × ProviderAnswer)}
    (h : follow applies w t = some u) : Steps Step w t u := by
  fun_induction follow applies w t with
  | case1 =>
    cases h
    exact .nil _
  | case2 w n e err rest ih =>
    refine .cons ?_ (ih h)
    split
    · exact .edited _
    · exact .failed err
  | case3 w n p rest hshows ih =>
    obtain ⟨hnumber,hbase,hlabels,henabled,hmethod⟩ := hshows
    exact .cons (.read rfl ⟨hnumber,hbase,hlabels,henabled,hmethod⟩) (ih h)
  | case4 => cases h
  | case5 w labels rest ih => exact .cons (.read rfl trivial) (ih h)
  | case6 w branch value rest ih => exact .cons (.read rfl trivial) (ih h)
  | case7 => cases h

def sampleSurroundings : Surroundings Unit where
  checker := sampleChecker []
  operationId := "operation"
  capacityRefusal _ _ _ := none
  rereads _ _ _ _ := pure ()

/-- A candidate that is stacked on another starts a caravan of its own. -/
def sampleRequest : MembershipRequest where
  operation := .new

def sampleWorld : World where
  pulls _ := ⟨"a",∅,.off⟩

def baseFails : List ProviderAnswer :=
  [.labels {"caravan","caravan-evicted","caravan-force"},.flag true,.pull (samplePull 2 "b" "a" ∅),
    .failed (.other "connection reset")]

def play (applies : Bool) :
    Option (Option (Except (MembershipFailure Unit) MembershipOutput) × World) :=
  ((execute (sampleStatus stacked 2) sampleRequest sampleSurroundings).run.replay baseFails).bind fun out =>
    (follow applies sampleWorld out.2).map fun w => (out.1,w)

theorem run_of_play {applies : Bool} {r : Option (Except (MembershipFailure Unit) MembershipOutput)}
    {t : World} (h : play applies = some (r,t)) :
    Run Step (execute (sampleStatus stacked 2) sampleRequest sampleSurroundings).run sampleWorld r t := by
  obtain ⟨⟨r',conversation⟩,hreplay,h⟩ := Option.bind_eq_some_iff.mp h
  obtain ⟨w,hfollow,h⟩ := Option.map_eq_some_iff.mp h
  cases h
  exact run_of_steps hreplay (steps_of_follow hfollow)

def reportsRollback : Option (Except (MembershipFailure Unit) MembershipOutput) → Bool
  | some (.error e) => e.isRolledBack
  | _ => false

/-- The base that was changed without an answer stays changed under a reported rollback. -/
theorem execute_rolledBack_baseChanged : ∃ e t,
    Run Step (execute (sampleStatus stacked 2) sampleRequest sampleSurroundings).run sampleWorld
      (some (.error e)) t ∧
    e.isRolledBack = true ∧ (sampleWorld.pulls 2).base = "a" ∧ (t.pulls 2).base = "main" := by
  have hplayed : ((play true).any fun out => reportsRollback out.1 &&
      decide ((out.2.pulls 2).base = "main")) = true := by decide +kernel
  obtain ⟨⟨r,t⟩,hplay,hresult⟩ := (Option.any_eq_true _ _).mp hplayed
  obtain ⟨hreports,hbase⟩ := Bool.and_eq_true_iff.mp hresult
  rcases r with _ | e | out
  · cases hreports
  · exact ⟨e,t,run_of_play hplay,hreports,rfl,of_decide_eq_true hbase⟩
  · cases hreports

/-- An edit that the provider refused leaves nothing behind. -/
theorem execute_rolledBack_iff_refused : ∃ e t,
    Run Step (execute (sampleStatus stacked 2) sampleRequest sampleSurroundings).run sampleWorld
      (some (.error e)) t ∧
    (t.pulls = sampleWorld.pulls ∧ t.created = [] ↔ Reverted (sampleStatus stacked 2) sampleWorld t) ∧
    t.applied = [] := by
  have hplayed : ((play false).any fun out => reportsRollback out.1 && decide (out.2.applied = [])) =
      true := by decide +kernel
  obtain ⟨⟨r,t⟩,hplay,hresult⟩ := (Option.any_eq_true _ _).mp hplayed
  obtain ⟨hreports,happlied⟩ := Bool.and_eq_true_iff.mp hresult
  rcases r with _ | e | out
  · cases hreports
  · have hrun := run_of_play hplay
    exact ⟨e,t,hrun,execute_rolledBack_iff (fun _ _ _ _ => .pure ()) ⟨rfl,rfl⟩ rfl hrun hreports,
      of_decide_eq_true happlied⟩
  · cases hreports

end Samples

end Membership
end Cara
