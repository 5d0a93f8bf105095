import Cara.Github.StackMerge

/-! What the provider calls of a landing may do, whatever the answers: which of them delete
a ruleset or submit a merge, after which reads, and which receipts they return. -/
namespace Cara
namespace Github

open Prog (record Holds holds_bind holds_send holds_ofResult holds_mapError holds_attempt)

def Ordinary : Command → Prop
  | .deleteRuleset _ _ => False
  | .nativeStackMergeSubmit _ _ _ _ _ => False
  | _ => True

theorem ordinary_of_read (command : Command) (h : command.isRead = true) :
    Ordinary command := by
  cases command <;> trivial

variable (w : Wire) {repository : RepositoryId}

theorem ReadOnly.ordinary {ε α : Type} {p : Io ε α} (h : ReadOnly p) : Prog.Only Ordinary p :=
  h.weaken ordinary_of_read

theorem nativeStackBranchLockAcquire_ordinary (plan : StackBranchLockPlan) :
    Prog.Only Ordinary (nativeStackBranchLockAcquire w repository plan) := by
  apply Prog.Only.bind (Prog.Only.ofResult _)
  intro expected
  apply Prog.Only.bind (findStackBranchLock_readOnly w repository _).ordinary
  intro existing
  split
  · split
    · exact Prog.Only.pure _
    · exact Prog.Only.throw _
  · refine Prog.Only.bind (Prog.Only.send trivial) ?_
    intro response
    apply Prog.Only.bind
      (Prog.Only.attempt (findStackBranchLock_readOnly w repository _).ordinary)
    intro rediscovered
    split
    · split
      · exact Prog.Only.pure _
      · split
        · exact Prog.Only.throw _
        · exact Prog.Only.throw _
    · split
      · exact Prog.Only.throw _
      · exact Prog.Only.throw _
    · exact Prog.Only.throw _

/-- The conversation holds a read that shows exactly this lock generation. -/
def LockRead (repository : RepositoryId) (lock : StackBranchLockGeneration) (h : Conversation) :
    Prop :=
  ∃ output response observed, (.readRuleset repository lock.id,.ok output) ∈ h ∧
    output.isSuccess = true ∧ w.ruleset output.stdout = .ok response ∧
    observedLock repository response = .ok observed ∧
    { observed with selectedPullRequests := lock.selectedPullRequests } = lock

theorem LockRead.mono {lock : StackBranchLockGeneration} {h h' : Conversation}
    (hread : LockRead w repository lock h) (hle : h <+: h') : LockRead w repository lock h' := by
  obtain ⟨output,response,observed,hmem,hrest⟩ := hread
  exact ⟨output,response,observed,hle.subset hmem,hrest⟩

variable {ok : Conversation → Command → Prop} {crash : Conversation → Prop}

theorem readStackBranchLock_holds (hok : ∀ h q, Ordinary q → ok h q) (id : ℕ) (h : Conversation) :
    Holds record ok crash (readStackBranchLock w repository id) (fun h' r => h <+: h' ∧
      ∀ lock, r = .ok (some lock) → ∃ output response, (.readRuleset repository id,.ok output) ∈ h' ∧
        output.isSuccess = true ∧ w.ruleset output.stdout = .ok response ∧
        observedLock repository response = .ok lock) h := by
  unfold readStackBranchLock
  rw [holds_bind,holds_send]
  refine ⟨hok _ _ trivial,?_⟩
  intro response h' hstep
  have hnext : h' = h ++ [(_,response)] := hstep
  have hle : h <+: h' := hnext ▸ List.prefix_append _ _
  dsimp only
  split
  · exact ⟨hle,fun lock hlock => by cases hlock⟩
  case h_2 output =>
    split
    case isTrue hsuccess =>
      split
      · exact ⟨hle,fun lock hlock => by cases hlock⟩
      case h_2 decoded hdecoded =>
        rw [holds_bind,holds_ofResult]
        cases hobserved : observedLock repository decoded with
        | error e => exact ⟨hle,fun lock hlock => by cases hlock⟩
        | ok observed =>
          refine ⟨hle,?_⟩
          intro lock hlock
          cases hlock
          refine ⟨output,decoded,?_,hsuccess,hdecoded,hobserved⟩
          rw [hnext]
          simp
    · split
      · exact ⟨hle,fun lock hlock => by cases hlock⟩
      · exact ⟨hle,fun lock hlock => by cases hlock⟩

theorem nativeStackBranchLockVerify_holds (hok : ∀ h q, Ordinary q → ok h q)
    (expected : StackBranchLockGeneration) (h : Conversation) :
    Holds record ok crash (nativeStackBranchLockVerify w repository expected) (fun h' r =>
      h <+: h' ∧ ∀ lock, r = .ok lock → lock = expected ∧ LockRead w repository expected h') h := by
  unfold nativeStackBranchLockVerify
  rw [holds_bind]
  apply (readStackBranchLock_holds w hok expected.id h).mono
  intro h' r hr
  obtain ⟨hle,hread⟩ := hr
  cases r with
  | error e => exact ⟨hle,fun lock hlock => by cases hlock⟩
  | ok actual =>
    dsimp only
    split
    case isTrue hexact =>
      refine ⟨hle,?_⟩
      intro lock hlock
      cases hlock
      obtain ⟨observed,hactual,hbound⟩ := Option.map_eq_some_iff.mp hexact
      obtain ⟨output,response,hmem,hsuccess,hdecoded,hobserved⟩ := hread observed (by rw [hactual])
      exact ⟨rfl,output,response,observed,hmem,hsuccess,hdecoded,hobserved,hbound⟩
    · exact ⟨hle,fun lock hlock => by cases hlock⟩

theorem nativeStackBranchLockRelease_holds (hok : ∀ h q, Ordinary q → ok h q)
    (hcrash : ∀ h, crash h) (plan : StackBranchLockPlan) (expected : StackBranchLockGeneration)
    (hdelete : ∀ h, LockRead w repository expected h →
      ok h (.deleteRuleset repository expected.id)) (h : Conversation) :
    Holds record ok crash (nativeStackBranchLockRelease w repository plan expected)
      (fun _ _ => True) h := by
  unfold nativeStackBranchLockRelease
  rw [holds_bind,holds_ofResult]
  cases validateLockPlan repository plan with
  | error e => exact trivial
  | ok _ =>
    dsimp only
    rw [holds_bind]
    apply (readStackBranchLock_holds w hok expected.id h).mono
    intro h₁ r hr
    obtain ⟨-,hread⟩ := hr
    cases r with
    | error e => exact trivial
    | ok before =>
      dsimp only
      split
      · rw [holds_bind]
        apply ((findStackBranchLock_readOnly w repository _).ordinary.holds hok hcrash h₁).mono
        intro h₂ found _
        cases found with
        | error e => exact trivial
        | ok found => cases found <;> exact trivial
      case h_2 bound hbound =>
        split
        · exact trivial
        case isFalse hexact =>
          have hbefore : bound = expected := not_not.mp hexact
          rw [hbefore] at hbound
          obtain ⟨observed,hactual,hobservedBound⟩ := Option.map_eq_some_iff.mp hbound
          obtain ⟨output,response,hmem,hsuccess,hdecoded,hobserved⟩ :=
            hread observed (by rw [hactual])
          rw [holds_bind,holds_send]
          refine ⟨hdelete h₁ ⟨output,response,observed,hmem,hsuccess,hdecoded,hobserved,
            hobservedBound⟩,?_⟩
          intro answer h₂ _
          dsimp only
          rw [holds_bind,holds_attempt]
          apply ((remainingStackBranchLock_readOnly w repository expected).ordinary.holds hok hcrash
            h₂).mono
          intro h₃ after _
          cases after with
          | error e => exact trivial
          | ok after =>
            cases after with
            | none => exact trivial
            | some lock =>
              dsimp only
              split <;> exact trivial

/-- What landing relies on in a merge receipt: it belongs to the plan and a live submission
is identified. -/
structure ReceiptFor (repository : RepositoryId) (plan : StackAsyncMergePlan)
    (receipt : StackMergeReceipt) : Prop where
  repository_eq : receipt.repository = repository
  plan_eq : receipt.plan = plan
  checkpoint_plan : ∀ m, receipt.checkpoint = some m → m.plan = plan
  live : receipt.status = .submitted ∨ receipt.status = .pending ∨ receipt.status = .enqueued →
    receipt.checkpoint.isSome = true

theorem terminalStatusOf_not_live (plan : StackAsyncMergePlan) (observation : StackMergeObservation)
    (providerStatus : Option String) (providerSha : Option CommitOid) :
    terminalStatusOf plan observation providerStatus providerSha ∈
      ([.merged,.failed,.indeterminate] : List StackMergeStatus) := by
  unfold terminalStatusOf
  dsimp only
  split
  · decide
  · split
    · decide
    · split <;> decide

/-- A receipt of the plan whose status is not live, or whose submission is identified. -/
theorem stackMergeReceipt_for {plan : StackAsyncMergePlan} (input : StackMergeReceiptInput)
    (hrepository : input.repository = repository) (hinput : input.plan = plan)
    (hplan : ∀ m, input.checkpoint = some m → m.plan = plan)
    (hlive : input.status ∈ ([.merged,.failed,.indeterminate] : List StackMergeStatus) ∨
      input.checkpoint.isSome = true) :
    ReceiptFor repository plan (stackMergeReceipt w input) where
  repository_eq := hrepository
  plan_eq := hinput
  checkpoint_plan := hplan
  live := by
    intro hstatus
    have hstatus' : input.status = .submitted ∨ input.status = .pending ∨
        input.status = .enqueued := hstatus
    apply hlive.elim
    · intro hterminal
      obtain h | h | h := hstatus' <;> simp [h] at hterminal
    · exact id

theorem observeStackMerge_attempt_calls {α : Type} (plan : StackAsyncMergePlan)
    {f : Except StackMergeError StackMergeObservation → Io StackMergeError α}
    {post : Except StackMergeError α → Prop} (hf : ∀ r, Prog.Calls Ordinary (f r) post) :
    Prog.Calls Ordinary (Prog.attempt (observeStackMerge w repository plan) >>= f) post := by
  unfold Prog.Calls at *
  rw [holds_bind,holds_attempt]
  apply Holds.mono (observeStackMerge_readOnly w repository plan).ordinary
  intro _ r _
  exact hf r

theorem terminalStackMergeReceipt_calls (input : StackMergeReceiptInput)
    (hplan : ∀ m, input.checkpoint = some m → m.plan = input.plan) :
    Prog.Calls Ordinary (terminalStackMergeReceipt w input) fun r =>
      ∀ receipt, r = .ok receipt → ReceiptFor input.repository input.plan receipt := by
  apply observeStackMerge_attempt_calls
  intro observed
  split
  · intro receipt hreceipt
    cases hreceipt
    exact stackMergeReceipt_for w _ rfl rfl hplan (.inl (by simp))
  · intro receipt hreceipt
    cases hreceipt
    exact stackMergeReceipt_for w _ rfl rfl hplan (.inl (terminalStatusOf_not_live _ _ _ _))

theorem rediscoveredReceipt_calls (input : StackMergeReceiptInput)
    (hplan : ∀ m, input.checkpoint = some m → m.plan = input.plan) :
    Prog.Calls Ordinary (rediscoveredReceipt w input) fun r =>
      ∀ receipt, r = .ok receipt → ReceiptFor input.repository input.plan receipt := by
  apply observeStackMerge_attempt_calls
  intro observed
  split
  · intro receipt hreceipt
    cases hreceipt
    exact stackMergeReceipt_for w _ rfl rfl hplan (.inl (by simp))
  · intro receipt hreceipt
    cases hreceipt
    refine stackMergeReceipt_for w _ rfl rfl hplan (.inl ?_)
    dsimp only
    split <;> simp

theorem nativeStackMergeSubmitUnlocked_holds (hok : ∀ h q, Ordinary q → ok h q)
    (hcrash : ∀ h, crash h) (plan : StackAsyncMergePlan) {h : Conversation}
    (hput : ∀ h' pr sha, h <+: h' → ok h' (.nativeStackMergeSubmit repository pr sha
      mergeMethodValue mergeActionValue)) :
    Holds record ok crash (nativeStackMergeSubmitUnlocked w repository plan) (fun _ r =>
      ∀ receipt, r = .ok receipt → ReceiptFor repository plan receipt) h := by
  unfold nativeStackMergeSubmitUnlocked
  rw [holds_bind,holds_ofResult]
  cases validateMergePlan repository plan with
  | error e => exact fun receipt hreceipt => by cases hreceipt
  | ok _ =>
    dsimp only
    rw [holds_bind,holds_mapError]
    apply ((nativeStackGeneration_readOnly w repository _).ordinary.holds hok hcrash h).mono
    intro h₁ actual hactual
    cases actual with
    | error e => exact fun receipt hreceipt => by cases hreceipt
    | ok actual =>
      show Holds record ok crash (if actual ≠ some plan.before then _ else _) _ h₁
      split
      · exact fun receipt hreceipt => by cases hreceipt
      · split
        · exact hcrash h₁
        case h_2 identity hidentity =>
          rw [holds_bind,holds_send]
          refine ⟨hput h₁ _ _ hactual.1,?_⟩
          intro response h₂ _
          dsimp only
          have hplan : ∀ m, stackMergeCheckpoint w repository plan
              { identity with githubRequestId := requestIdOf response }
              (parsedResponse w response) = some m → m.plan = plan := by
            intro m hm
            obtain ⟨uuid,-,hsealed⟩ := Option.map_eq_some_iff.mp hm
            rw [← hsealed]
            rfl
          split
          · exact ((terminalStackMergeReceipt_calls w _ hplan).holds hok hcrash h₂).mono
              fun _ _ hr => hr.2
          · exact ((terminalStackMergeReceipt_calls w _ hplan).holds hok hcrash h₂).mono
              fun _ _ hr => hr.2
          · split
            case isTrue hsome =>
              intro receipt hreceipt
              cases hreceipt
              exact stackMergeReceipt_for w _ rfl rfl hplan (.inr hsome)
            · exact ((rediscoveredReceipt_calls w _ hplan).holds hok hcrash h₂).mono
                fun _ _ hr => hr.2
          · split
            case isTrue hsome =>
              intro receipt hreceipt
              cases hreceipt
              rw [Bool.and_eq_true] at hsome
              exact stackMergeReceipt_for w _ rfl rfl hplan (.inr hsome.1)
            · exact ((rediscoveredReceipt_calls w _ hplan).holds hok hcrash h₂).mono
                fun _ _ hr => hr.2
          · exact ((rediscoveredReceipt_calls w _ hplan).holds hok hcrash h₂).mono
              fun _ _ hr => hr.2

theorem nativeStackMergePollUnlocked_calls (checkpoint : StackMergeCheckpoint) :
    Prog.Calls Ordinary (nativeStackMergePollUnlocked w repository checkpoint) fun r =>
      ∀ receipt, r = .ok receipt → ReceiptFor repository checkpoint.plan receipt := by
  have hplan : ∀ m, some checkpoint = some m → m.plan = checkpoint.plan := by
    intro m hm
    cases hm
    rfl
  unfold nativeStackMergePollUnlocked Prog.Calls
  rw [holds_bind,holds_ofResult]
  cases validateCheckpoint w repository checkpoint with
  | error e => exact fun receipt hreceipt => by cases hreceipt
  | ok _ =>
    dsimp only
    rw [holds_bind,holds_send]
    refine ⟨trivial,?_⟩
    intro response _ _
    dsimp only
    split
    · exact terminalStackMergeReceipt_calls w _ hplan
    · split
      · intro receipt hreceipt
        cases hreceipt
        exact stackMergeReceipt_for w _ rfl rfl hplan (.inr rfl)
      · intro receipt hreceipt
        cases hreceipt
        exact stackMergeReceipt_for w _ rfl rfl hplan (.inr rfl)
      · exact terminalStackMergeReceipt_calls w _ hplan
      · exact terminalStackMergeReceipt_calls w _ hplan
      · exact terminalStackMergeReceipt_calls w _ hplan
      · intro receipt hreceipt
        cases hreceipt
        exact stackMergeReceipt_for w _ rfl rfl hplan (.inr rfl)

structure LockedReceiptFor (repository : RepositoryId) (plan : StackAsyncMergePlan)
    (receipt : StackLockedMergeReceipt) : Prop where
  verified : receipt.verify w = true
  merge : ReceiptFor repository plan receipt.merge
  checkpoint_plan : ∀ m, receipt.checkpoint = some m → m.merge.plan = plan
  live : receipt.merge.status = .submitted ∨ receipt.merge.status = .pending ∨
    receipt.merge.status = .enqueued → receipt.checkpoint.isSome = true

theorem lockedMergeReceipt_for {plan : StackAsyncMergePlan} {merge : StackMergeReceipt}
    (h : ReceiptFor repository plan merge) (lock : StackBranchLockGeneration) (verified : Bool) :
    LockedReceiptFor w repository plan (lockedMergeReceipt w repository merge lock verified) where
  verified := lockedMergeReceiptSeal.verify_sealed _ _
  merge := h
  checkpoint_plan := by
    intro m hm
    obtain ⟨checkpoint,hcheckpoint,hsealed⟩ := Option.map_eq_some_iff.mp hm
    rw [← hsealed]
    exact h.checkpoint_plan checkpoint hcheckpoint
  live := by
    intro hstatus
    have hsome := h.live hstatus
    show (Option.map _ merge.checkpoint).isSome = true
    rw [Option.isSome_map]
    exact hsome

theorem nativeStackMergeReobserveReleased_calls (checkpoint : StackLockedMergeCheckpoint) :
    Prog.Calls Ordinary (nativeStackMergeReobserveReleased w repository checkpoint) fun r =>
      ∀ receipt, r = .ok receipt →
        LockedReceiptFor w repository checkpoint.merge.plan receipt := by
  unfold nativeStackMergeReobserveReleased Prog.Calls
  rw [holds_bind,holds_ofResult]
  cases validateLockedCheckpoint w repository checkpoint with
  | error e => exact fun receipt hreceipt => by cases hreceipt
  | ok _ =>
    dsimp only
    rw [holds_bind]
    apply Holds.mono (nativeStackMergePollUnlocked_calls w checkpoint.merge)
    intro _ r hr
    cases r with
    | error e => exact fun receipt hreceipt => by cases hreceipt
    | ok merge =>
      intro receipt hreceipt
      cases hreceipt
      exact lockedMergeReceipt_for w (hr merge rfl) _ _

theorem nativeStackMergeReobserveUnidentified_calls (plan : StackAsyncMergePlan)
    (lock : StackBranchLockGeneration) :
    Prog.Calls Ordinary (nativeStackMergeReobserveUnidentified w repository plan lock) fun r =>
      ∀ receipt, r = .ok receipt → LockedReceiptFor w repository plan receipt := by
  unfold nativeStackMergeReobserveUnidentified
  split
  · exact trivial
  · unfold Prog.Calls
    rw [holds_bind]
    apply Holds.mono (terminalStackMergeReceipt_calls w _ fun m hm => by cases hm)
    intro _ r hr
    cases r with
    | error e => exact fun receipt hreceipt => by cases hreceipt
    | ok merge =>
      intro receipt hreceipt
      cases hreceipt
      exact lockedMergeReceipt_for w (hr merge rfl) _ _

theorem nativeStackMergePollLocked_calls (checkpoint : StackLockedMergeCheckpoint) :
    Prog.Calls Ordinary (nativeStackMergePollLocked w repository checkpoint) fun r =>
      ∀ receipt, r = .ok receipt →
        LockedReceiptFor w repository checkpoint.merge.plan receipt := by
  have hverify : ReadOnly (nativeStackBranchLockVerify w repository checkpoint.branchLock) := by
    apply Prog.Only.bind (readStackBranchLock_readOnly w repository _)
    intro actual
    dsimp only
    split
    · exact Prog.Only.pure _
    · exact Prog.Only.throw _
  unfold nativeStackMergePollLocked Prog.Calls
  rw [holds_bind,holds_ofResult]
  cases validateLockedCheckpoint w repository checkpoint with
  | error e => exact fun receipt hreceipt => by cases hreceipt
  | ok _ =>
    dsimp only
    rw [holds_bind,holds_attempt]
    apply Holds.mono hverify.ordinary
    intro _ lockResult _
    dsimp only
    rw [holds_bind]
    apply Holds.mono (nativeStackMergePollUnlocked_calls w checkpoint.merge)
    intro _ r hr
    cases r with
    | error e => exact fun receipt hreceipt => by cases hreceipt
    | ok merge =>
      have hmerge := hr merge rfl
      cases lockResult with
      | ok lock =>
        intro receipt hreceipt
        cases hreceipt
        exact lockedMergeReceipt_for w hmerge _ _
      | error e =>
        -- a lost lock rewrites only the status and the message of the receipt
        intro receipt hreceipt
        cases hreceipt
        apply lockedMergeReceipt_for w
        exact {
          repository_eq := hmerge.repository_eq
          plan_eq := hmerge.plan_eq
          checkpoint_plan := hmerge.checkpoint_plan
          live := by
            intro hstatus
            obtain h | h | h := hstatus <;> cases h }

/-- The lock covers every source ref of the whole Stack, is active and has no bypass. -/
def LockCovers (plan : StackAsyncMergePlan) (lock : StackBranchLockGeneration) : Prop :=
  lock.selectedRefs = sortedRefs (plan.before.topology.entries.map sourceRef) ∧
    (∀ entry ∈ plan.before.topology.entries, sourceRef entry ∈ lock.selectedRefs) ∧
    lock.enforcement = "active" ∧ lock.currentUserCanBypass = "never"

theorem lockCovers_of_validateMergeLock {plan : StackAsyncMergePlan}
    {lock : StackBranchLockGeneration} (h : validateMergeLock plan lock = .ok ()) :
    LockCovers plan lock := by
  unfold validateMergeLock at h
  split at h
  · cases h
  case isFalse hvalid =>
    simp only [not_or,not_not,ne_eq] at hvalid
    obtain ⟨-,-,hrefs,hactive,hbypass⟩ := hvalid
    refine ⟨hrefs,?_,hactive,hbypass⟩
    intro entry hentry
    rw [hrefs]
    exact List.mem_mergeSort.mpr (List.mem_map_of_mem hentry)

/-- The submission follows a fresh read of the exact covering lock. -/
theorem nativeStackMergeSubmitLocked_holds (hok : ∀ h q, Ordinary q → ok h q)
    (hcrash : ∀ h, crash h) (plan : StackAsyncMergePlan) (lock : StackBranchLockGeneration)
    (hput : ∀ h pr sha, LockCovers plan lock → LockRead w repository lock h →
      ok h (.nativeStackMergeSubmit repository pr sha mergeMethodValue mergeActionValue))
    (h : Conversation) :
    Holds record ok crash (nativeStackMergeSubmitLocked w repository plan lock) (fun _ r =>
      ∀ receipt, r = .ok receipt → LockedReceiptFor w repository plan receipt) h := by
  unfold nativeStackMergeSubmitLocked
  rw [holds_bind,holds_ofResult]
  cases hlock : validateMergeLock plan lock with
  | error e => exact fun receipt hreceipt => by cases hreceipt
  | ok _ =>
    dsimp only
    rw [holds_bind,holds_mapError]
    apply (nativeStackBranchLockVerify_holds w hok lock h).mono
    intro h₁ r hr
    cases r with
    | error e => exact fun receipt hreceipt => by cases hreceipt
    | ok fresh =>
      have hread := (hr.2 fresh rfl).2
      show Holds record ok crash (nativeStackMergeSubmitUnlocked w repository plan >>= _) _ h₁
      rw [holds_bind]
      apply (nativeStackMergeSubmitUnlocked_holds w hok hcrash plan fun h' pr sha hle =>
        hput h' pr sha (lockCovers_of_validateMergeLock hlock) (hread.mono w hle)).mono
      intro h₂ r hmerge
      cases r with
      | error e => exact fun receipt hreceipt => by cases hreceipt
      | ok merge =>
        intro receipt hreceipt
        cases hreceipt
        exact lockedMergeReceipt_for w (hmerge merge rfl) _ _

end Github
end Cara
