import Cara.Github.StackMergeOutcome
import Cara.Github.StackLandRuns

/-! Whose merge request a receipt follows. The UUID of the answer to the one write is
sealed before the answer is classified; it is compared here with what that answer says about
the request it names. -/
namespace Cara
namespace Github

open Prog (Yields yields_bind_ok yields_attempt_bind yields_ofResult_bind yields_send_bind
  yields_mapError yields_pure)

variable (w : Wire) (repository : RepositoryId)

def identified (response : Response) : Prop :=
  ∃ uuid, (parsedResponse w response).uuid = some uuid ∧ validAsyncUuid uuid = true

/-- An unsuccessful answer names a request that is not the plan's own. -/
def ForeignAnswer (plan : StackAsyncMergePlan) (response : Response) : Prop :=
  identified w response ∧ succeeded response = false ∧
    providerRequestMatchesPlan (parsedResponse w response) plan = false

/-- A kept checkpoint comes from a successful answer, or from one whose head, method and
action are those of the plan. -/
def OwnRequest (plan : StackAsyncMergePlan) (response : Response)
    (kept : Option StackMergeCheckpoint) : Prop :=
  ∀ checkpoint ∈ kept, succeeded response = true ∨ ∃ top, plan.selected.getLast? = some top ∧
    (parsedResponse w response).expectedHeadSha = some top.head.oid ∧
    (parsedResponse w response).mergeMethod = some mergeMethodValue ∧
    (parsedResponse w response).mergeAction = some mergeActionValue

theorem providerRequestMatchesPlan_iff (provider : ProviderAsyncMergeResult)
    (plan : StackAsyncMergePlan) : providerRequestMatchesPlan provider plan = true ↔
      ∃ top, plan.selected.getLast? = some top ∧ provider.expectedHeadSha = some top.head.oid ∧
        provider.mergeMethod = some mergeMethodValue ∧
        provider.mergeAction = some mergeActionValue := by
  unfold providerRequestMatchesPlan
  cases plan.selected.getLast? with
  | none => simp
  | some top => simp

theorem stackMergeCheckpoint_isSome_iff (plan : StackAsyncMergePlan)
    (request : StackMergeRequestIdentity) (response : Response) :
    (stackMergeCheckpoint w repository plan request (parsedResponse w response)).isSome = true ↔
      identified w response := by
  unfold stackMergeCheckpoint identified
  cases (parsedResponse w response).uuid with
  | none => simp
  | some uuid => by_cases hvalid : validAsyncUuid uuid = true <;> simp [Option.filter,hvalid]

theorem ownRequest_iff {plan : StackAsyncMergePlan} {response : Response}
    {kept : Option StackMergeCheckpoint} (hkept : kept.isSome = true ↔ identified w response) :
    OwnRequest w plan response kept ↔ ¬ ForeignAnswer w plan response := by
  have hmatches := providerRequestMatchesPlan_iff (parsedResponse w response) plan
  constructor
  · intro hown hforeign
    obtain ⟨hidentified,hfailed,hother⟩ := hforeign
    obtain ⟨checkpoint,hcheckpoint⟩ := Option.isSome_iff_exists.mp (hkept.mpr hidentified)
    rcases hown checkpoint hcheckpoint with hsucceeded | hsame
    · simp [hfailed] at hsucceeded
    · rw [hmatches.mpr hsame] at hother
      cases hother
  · intro hclear checkpoint hcheckpoint
    have hidentified : identified w response := hkept.mp (by rw [hcheckpoint]; rfl)
    by_cases hsucceeded : succeeded response = true
    · exact Or.inl hsucceeded
    · right
      apply hmatches.mp
      by_contra hother
      exact hclear ⟨hidentified,Bool.eq_false_of_not_eq_true hsucceeded,
        Bool.eq_false_of_not_eq_true hother⟩

/-- What follows the write: reads, and a receipt that keeps the checkpoint it was given. -/
structure KeepsCheckpoint (checkpoint : Option StackMergeCheckpoint) (t : Conversation)
    (receipt : StackMergeReceipt) : Prop where
  reads : ∀ e ∈ t, e.1.isRead = true
  kept : receipt.checkpoint = checkpoint

theorem keeps_terminal {input : StackMergeReceiptInput} {t : Conversation}
    {receipt : StackMergeReceipt}
    (h : Yields (terminalStackMergeReceipt w input) t (.ok receipt)) :
    KeepsCheckpoint input.checkpoint t receipt := by
  refine ⟨(terminalStackMergeReceipt_readOnly w input).requests h,?_⟩
  obtain ⟨observed,t₁,_,rfl,-,h⟩ := (yields_attempt_bind _ _ _).mp h
  cases observed with
  | error e =>
    cases ((yields_pure _ _).mp h).2
    rfl
  | ok o =>
    cases ((yields_pure _ _).mp h).2
    rfl

theorem keeps_rediscovered {input : StackMergeReceiptInput} {t : Conversation}
    {receipt : StackMergeReceipt}
    (h : Yields (rediscoveredReceipt w input) t (.ok receipt)) :
    KeepsCheckpoint input.checkpoint t receipt := by
  refine ⟨(rediscoveredReceipt_readOnly w input).requests h,?_⟩
  obtain ⟨observed,t₁,_,rfl,-,h⟩ := (yields_attempt_bind _ _ _).mp h
  cases observed with
  | error e =>
    cases ((yields_pure _ _).mp h).2
    rfl
  | ok o =>
    cases ((yields_pure _ _).mp h).2
    rfl

theorem keeps_live {input : StackMergeReceiptInput} {t : Conversation}
    {receipt : StackMergeReceipt}
    (h : Yields (pure (stackMergeReceipt w input) : Io StackMergeError StackMergeReceipt) t
      (.ok receipt)) : KeepsCheckpoint input.checkpoint t receipt := by
  obtain ⟨ht,hreceipt⟩ := (yields_pure _ _).mp h
  cases hreceipt
  refine ⟨?_,rfl⟩
  rw [ht]
  simp

/-- Reads, the one write of a call, and reads again; the checkpoint kept from it exists exactly
when the write's answer is identified. -/
inductive Submits (h : Conversation) (kept : Option StackMergeCheckpoint) : Prop
  | answered (past : Conversation) (pr : PrNumber) (sha : CommitOid) (response : Response)
      (t : Conversation) :
      h = past ++ (.nativeStackMergeSubmit repository pr sha mergeMethodValue mergeActionValue,
        response)::t →
      (∀ e ∈ past, e.1.isRead = true) → (∀ e ∈ t, e.1.isRead = true) →
      (kept.isSome = true ↔ identified w response) → Submits h kept

theorem Submits.after_reads {past h : Conversation} {kept : Option StackMergeCheckpoint}
    (hpast : ∀ e ∈ past, e.1.isRead = true) (hsubmits : Submits w repository h kept) :
    Submits w repository (past ++ h) kept := by
  obtain ⟨before,pr,sha,response,t,hsplit,hbefore,ht,hkept⟩ := hsubmits
  refine .answered (past ++ before) pr sha response t ?_ ?_ ht hkept
  · rw [hsplit,List.append_assoc]
  · intro e he
    rcases List.mem_append.mp he with he | he
    · exact hpast e he
    · exact hbefore e he

theorem nativeStackMergeSubmitUnlocked_submits {plan : StackAsyncMergePlan} {h : Conversation}
    {receipt : StackMergeReceipt}
    (hrun : Yields (nativeStackMergeSubmitUnlocked w repository plan) h (.ok receipt)) :
    Submits w repository h receipt.checkpoint := by
  obtain ⟨_,-,hread⟩ := (yields_ofResult_bind _ _ _).mp hrun
  obtain ⟨actual,past,_,ht,hactual,hbody⟩ := (yields_bind_ok _ _ _).mp hread
  have hpast : ∀ e ∈ past, e.1.isRead = true :=
    (nativeStackGeneration_readOnly w repository _).requests ((yields_mapError _ _ _).mp hactual)
  split at hbody
  · cases ((Prog.yields_throw _ _).mp hbody).2
  · split at hbody
    · exact absurd hbody (Prog.yields_crashed _)
    case h_2 identity _ =>
      obtain ⟨response,t,hsplit,hanswer⟩ := (yields_send_bind _ _ _).mp hbody
      -- every arm below is handed the same checkpoint, whatever it checks itself
      have hkeeps : KeepsCheckpoint (stackMergeCheckpoint w repository plan
          { identity with githubRequestId := requestIdOf response } (parsedResponse w response))
          t receipt := by
        dsimp only at hanswer
        split at hanswer
        · exact keeps_terminal w hanswer
        · exact keeps_terminal w hanswer
        · split at hanswer
          · exact keeps_live w hanswer
          · exact keeps_rediscovered w hanswer
        · split at hanswer
          · exact keeps_live w hanswer
          · exact keeps_rediscovered w hanswer
        · exact keeps_rediscovered w hanswer
      refine .answered past _ _ response t (by rw [ht,hsplit]) hpast hkeeps.reads ?_
      rw [hkeeps.kept]
      exact stackMergeCheckpoint_isSome_iff w repository plan _ response

theorem nativeStackMergeSubmitLocked_submits {plan : StackAsyncMergePlan}
    {lock : StackBranchLockGeneration} {h : Conversation} {receipt : StackLockedMergeReceipt}
    (hrun : Yields (nativeStackMergeSubmitLocked w repository plan lock) h (.ok receipt)) :
    Submits w repository h (receipt.checkpoint.map StackLockedMergeCheckpoint.merge) := by
  obtain ⟨_,-,hverify⟩ := (yields_ofResult_bind _ _ _).mp hrun
  obtain ⟨_,past,_,ht,hlock,hsubmit⟩ := (yields_bind_ok _ _ _).mp hverify
  obtain ⟨merge,hmerge,hmade⟩ := yields_return hsubmit
  have hpast : ∀ e ∈ past, e.1.isRead = true :=
    (nativeStackBranchLockVerify_readOnly w repository lock).requests
      ((yields_mapError _ _ _).mp hlock)
  have hsame : receipt.checkpoint.map StackLockedMergeCheckpoint.merge = merge.checkpoint := by
    rw [hmade]
    show (merge.checkpoint.map _).map StackLockedMergeCheckpoint.merge = merge.checkpoint
    rw [Option.map_map]
    exact Option.map_id_apply
  rw [ht,hsame]
  exact (nativeStackMergeSubmitUnlocked_submits w repository hmerge).after_reads w repository hpast

inductive SubmitCall where
  | unlocked (plan : StackAsyncMergePlan)
  | locked (plan : StackAsyncMergePlan) (lock : StackBranchLockGeneration)
  | land (checkpoint : StackLandCheckpoint)

namespace SubmitCall

def plan : SubmitCall → StackAsyncMergePlan
  | unlocked plan | locked plan _ => plan
  | land checkpoint => checkpoint.plan

def prog : SubmitCall → Io StackLandError (Option StackMergeCheckpoint)
  | unlocked plan => do
      return (← Prog.mapError .merge (nativeStackMergeSubmitUnlocked w repository plan)).checkpoint
  | locked plan lock => do
      let receipt ← Prog.mapError .merge (nativeStackMergeSubmitLocked w repository plan lock)
      return receipt.checkpoint.map StackLockedMergeCheckpoint.merge
  | land checkpoint => do
      let next ← nativeStackLandSubmit w repository checkpoint
      return next.merge.map StackLockedMergeCheckpoint.merge

end SubmitCall

theorem nativeStackLandSubmit_submits {c next : StackLandCheckpoint} {h : Conversation}
    (hrun : Yields (nativeStackLandSubmit w repository c) h (.ok next)) :
    h = [] ∨ Submits w repository h (next.merge.map StackLockedMergeCheckpoint.merge) := by
  obtain ⟨_,-,hbody⟩ := (yields_ofResult_bind _ _ _).mp hrun
  split at hbody
  · exact Or.inl ((yields_pure _ _).mp hbody).1
  · split at hbody
    · cases ((Prog.yields_throw _ _).mp hbody).2
    · split at hbody
      · exact absurd hbody (Prog.yields_crashed _)
      · right
        obtain ⟨receipt,hreceipt,hnext⟩ := yields_return hbody
        have hmerge : next.merge = receipt.checkpoint := by
          rw [hnext]
          unfold advance
          cases receipt.merge.status <;> rfl
        rw [hmerge]
        exact nativeStackMergeSubmitLocked_submits w repository
          ((yields_mapError _ _ _).mp hreceipt)

theorem submitCall_submits (call : SubmitCall) {h : Conversation}
    {kept : Option StackMergeCheckpoint}
    (hrun : Yields (call.prog w repository) h (.ok kept)) :
    h = [] ∨ Submits w repository h kept := by
  cases call with
  | unlocked plan =>
    obtain ⟨receipt,hreceipt,hkept⟩ := yields_return hrun
    rw [hkept]
    exact Or.inr (nativeStackMergeSubmitUnlocked_submits w repository
      ((yields_mapError _ _ _).mp hreceipt))
  | locked plan lock =>
    obtain ⟨receipt,hreceipt,hkept⟩ := yields_return hrun
    rw [hkept]
    exact Or.inr (nativeStackMergeSubmitLocked_submits w repository
      ((yields_mapError _ _ _).mp hreceipt))
  | land checkpoint =>
    obtain ⟨next,hnext,hkept⟩ := yields_return hrun
    rw [hkept]
    exact nativeStackLandSubmit_submits w repository hnext

theorem not_isSubmission_of_isRead {e : Command × Response} (h : e.1.isRead = true) :
    isSubmission e = false := by
  have hnone := countP_isSubmission_reads (t := [e]) (by simpa using h)
  simpa using hnone

/-- The answer to a submission of a conversation is the answer to its one write. -/
theorem Submits.identified_iff {h : Conversation} {kept : Option StackMergeCheckpoint}
    (hsubmits : Submits w repository h kept) {e : Command × Response} (he : e ∈ h)
    (hsubmission : isSubmission e = true) : kept.isSome = true ↔ identified w e.2 := by
  obtain ⟨past,pr,sha,response,t,hsplit,hpast,ht,hkept⟩ := hsubmits
  rw [hsplit] at he
  rcases List.mem_append.mp he with he | he
  · rw [not_isSubmission_of_isRead (hpast e he)] at hsubmission
    cases hsubmission
  · rcases List.mem_cons.mp he with rfl | he
    · exact hkept
    · rw [not_isSubmission_of_isRead (ht e he)] at hsubmission
      cases hsubmission

/-- In every run of a submitting call a kept UUID belongs to the plan's own request exactly
when the write is not answered, without success, about another one. -/
theorem kept_own_iff (call : SubmitCall) {h : Conversation} {kept : Option StackMergeCheckpoint}
    (hrun : Prog.Run Prog.record (call.prog w repository).run [] (some (.ok kept)) h)
    {e : Command × Response} (he : e ∈ h) (hsubmission : isSubmission e = true) :
    OwnRequest w call.plan e.2 kept ↔ ¬ ForeignAnswer w call.plan e.2 := by
  obtain ⟨_,rfl,hcall⟩ := Prog.converses_of_run hrun
  rcases submitCall_submits w repository call hcall with hnone | hsubmits
  · simp [hnone] at he
  · exact ownRequest_iff w (hsubmits.identified_iff w repository he hsubmission)

section Example

def openPullRequestText : String := singlePullRequestText "OPEN" "null"

def singleStackText : String :=
  "\x7b\"id\":30,\"number\":3,\"node_id\":\"ST_3\",\"base\":\x7b\"ref\":\"main\"\x7d,\"open\":true," ++
    "\"created_at\":\"2026-01-01T00:00:00Z\",\"pull_requests\":[\x7b\"number\":11," ++
    "\"state\":\"open\",\"draft\":false,\"merged_at\":null," ++
    "\"head\":\x7b\"ref\":\"feature\",\"sha\":\"c1\"\x7d\x7d]\x7d"

/-- A conflict answer about the request of another head. -/
def existingRequestText : String :=
  "\x7b\"status\":\"enqueued\",\"details\":\x7b\"uuid\":\"existing-uuid\"," ++
    "\"merge_method\":\"merge\",\"merge_action\":\"merge_queue\",\"expected_head_sha\":\"c9\"\x7d\x7d"

def existingRequestBody : AsyncMergeBody where
  field name := if name = "status" then some "enqueued" else none
  details name := if name = "uuid" then some "existing-uuid"
    else if name = "merge_method" then some "merge"
    else if name = "merge_action" then some "merge_queue"
    else if name = "expected_head_sha" then some "c9" else none

/-- The locked Stack of one open member, and the answer to its submission. -/
def submitDocuments : Documents where
  rulesets := landDocuments.rulesets
  gitRefs := [("\x7b\"object\":\x7b\"sha\":\"c0\"\x7d\x7d","c0")]
  snapshots := [(singleStackText,{
    id := 30
    number := 3
    nodeId := "ST_3"
    baseRef := "main"
    isOpen := true
    createdAt := "2026-01-01T00:00:00Z"
    pullRequests := [{
      number := 11
      state := "open"
      draft := false
      head := ⟨"feature","c1"⟩ }] })]
  pullRequests := [(openPullRequestText,{ landedPullRequest with state := .open, mergedAt := none })]
  asyncMerges := [(existingRequestText,existingRequestBody)]

def landLock : StackBranchLockGeneration := singleLock landLockName

def submittingCall : SubmitCall :=
  .land (StackLandCheckpoint.sealed submitDocuments.wire {
    schemaVersion := landSchemaVersion
    repository := ⟨"octo","repo"⟩
    plan := singlePlan
    phase := .submitting
    branchLock := some landLock })

/-- The lock, the Stack, its tip and its member, then the answer to the write. -/
def submitAnswers (code : Int) : List Response :=
  [.ok ⟨some 0,landRulesetText,""⟩,.ok ⟨some 0,singleStackText,""⟩,
    .ok ⟨some 0,"\x7b\"object\":\x7b\"sha\":\"c0\"\x7d\x7d",""⟩,
    .ok ⟨some 0,openPullRequestText,""⟩,.ok ⟨some code,existingRequestText,"gh: HTTP 409"⟩]

/-- The checkpoint and conversation of the landing with these answers. -/
def submitKept (code : Int) : Option (Option StackMergeCheckpoint × Conversation) :=
  match (submittingCall.prog submitDocuments.wire ⟨"octo","repo"⟩).run.replay
      (submitAnswers code) with
  | some (some (.ok kept),t) => some (kept,t)
  | _ => none

theorem run_of_submitKept {code : Int} {kept : Option StackMergeCheckpoint} {h : Conversation}
    (hreplay : submitKept code = some (kept,h)) :
    Prog.Run Prog.record (submittingCall.prog submitDocuments.wire ⟨"octo","repo"⟩).run []
      (some (.ok kept)) h := by
  unfold submitKept at hreplay
  split at hreplay
  case h_1 hresult =>
    cases hreplay
    exact Prog.run_of_replay hresult []
  · cases hreplay

theorem kept_own_iff_accepted : ∃ kept, ∃ h : Conversation, ∃ e ∈ h,
    kept.map StackMergeCheckpoint.uuid = some "existing-uuid" ∧
    (OwnRequest submitDocuments.wire submittingCall.plan e.2 kept ↔
      ¬ ForeignAnswer submitDocuments.wire submittingCall.plan e.2) := by
  have hplayed : ((submitKept 0).any fun r => decide (r.1.map StackMergeCheckpoint.uuid =
      some "existing-uuid" ∧ ∃ e ∈ r.2, isSubmission e = true)) = true := by
    decide +kernel
  obtain ⟨⟨kept,h⟩,hreplay,hresult⟩ := (Option.any_eq_true _ _).mp hplayed
  obtain ⟨hkept,e,he,hsubmission⟩ := of_decide_eq_true hresult
  exact ⟨kept,h,e,he,hkept,kept_own_iff _ _ submittingCall (run_of_submitKept hreplay) he
    hsubmission⟩

/-- Told of a conflict with an enqueued request for another head, method and action, the
landing goes on with that request's UUID. -/
theorem kept_foreign : ∃ kept h e,
    Prog.Run Prog.record (submittingCall.prog submitDocuments.wire ⟨"octo","repo"⟩).run []
      (some (.ok kept)) h ∧ e ∈ h ∧ isSubmission e = true ∧
    kept.map StackMergeCheckpoint.uuid = some "existing-uuid" ∧
    ¬ OwnRequest submitDocuments.wire submittingCall.plan e.2 kept := by
  have hplayed : ((submitKept 1).any fun r => decide (r.1.map StackMergeCheckpoint.uuid =
      some "existing-uuid" ∧ ∃ e ∈ r.2, isSubmission e = true ∧ succeeded e.2 = false ∧
      (parsedResponse submitDocuments.wire e.2).mergeMethod = some "merge")) = true := by
    decide +kernel
  obtain ⟨⟨kept,h⟩,hreplay,hresult⟩ := (Option.any_eq_true _ _).mp hplayed
  obtain ⟨hkept,e,he,hsubmission,hfailed,hmethod⟩ := of_decide_eq_true hresult
  refine ⟨kept,h,e,run_of_submitKept hreplay,he,hsubmission,hkept,?_⟩
  intro hown
  obtain ⟨checkpoint,hcheckpoint,-⟩ := Option.map_eq_some_iff.mp hkept
  rcases hown checkpoint hcheckpoint with hsucceeded | hsame
  · rw [hfailed] at hsucceeded
    cases hsucceeded
  · obtain ⟨_,_,_,hsquash,_⟩ := hsame
    rw [hmethod] at hsquash
    exact absurd hsquash (by decide)

end Example

end Github
end Cara
