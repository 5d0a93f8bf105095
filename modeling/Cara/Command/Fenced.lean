import Cara.Command.Passes
import Mathlib.Data.List.Basic

/-! Which starts of a fenced write are authorised by a call of the fence of their own. -/
namespace Cara
namespace Command

section Statement

variable (fence : Fence) (runner : ProcessRunner) (request : CommandSpec) (first second : PassAnswers)

/-- Each start of the request follows an authorisation that no earlier start of it has used. -/
def StartsAuthorised (events : List Event) : Prop :=
  ∀ pre post,events = pre ++ .start request::post →
    ∃ a intent b,pre = a ++ .beforeWrite intent true::b ∧ .start request ∉ b

/-- The request declares the write that its arguments betray. -/
def marked : Bool := request.inferredWriteIntent.all fun inferred => decide (request.intent = inferred)

/-- The fence lets the write through and its child starts, ends with an authentication-shaped
failure, and the answers met under the fresh credential let it start again. -/
def restartsWrite (active : Bool) : Bool :=
  request.isWrite && marked request && (fence request.intent).isNone &&
    refreshes runner request first active &&
    starts { runner with githubAppAuthRetry := false } request second active

end Statement

section Runs

variable (w : ArgsWire) (fence : Fence) (runner : ProcessRunner) (request : CommandSpec)
  (first second : PassAnswers)

def Event.isQuiet : Event → Bool
  | .saved _ => true
  | .invalidateGithubAppAuthCache => true
  | _ => false

theorem quiet_of_saved {e : Event} (h : e.isSaved = true) : e.isQuiet = true := by
  cases e <;> simp_all [Event.isSaved,Event.isQuiet]

theorem start_notMem_quiet {events : List Event} (h : ∀ e ∈ events,e.isQuiet = true) :
    .start request ∉ events := fun hmem => by cases h _ hmem

theorem refreshes_starts {active : Bool} (h : refreshes runner request first active = true) :
    starts runner request first active = true := by
  unfold refreshes at h
  rw [Bool.and_eq_true,Bool.and_eq_true] at h
  exact h.1.1

inductive Shape (request : CommandSpec) : Bool → List Event → Prop
  | unstarted {before : List Event} (quiet : ∀ e ∈ before,e.isQuiet = true) : Shape request false before
  | once {before rest : List Event} (quiet : ∀ e ∈ before ++ rest,e.isQuiet = true) :
      Shape request false (before ++ .start request::rest)
  | twice {before between rest : List Event} (quiet : ∀ e ∈ before ++ (between ++ rest),e.isQuiet = true) :
      Shape request true (before ++ .start request::(between ++ .start request::rest))

theorem run_spec (m : Machine) :
    ∃ new,((run w runner request first second).after m).2.events = m.events ++ new ∧
      Shape request (refreshes runner request first m.active.isSome &&
        starts { runner with githubAppAuthRetry := false } request second m.active.isSome) new := by
  obtain ⟨before,rest,active,r,hsaved,hactive,hafter,hrefresh⟩ := pass_spec w runner request first m
  have hquiet : ∀ e ∈ before ++ rest,e.isQuiet = true := fun e he => quiet_of_saved (hsaved e he)
  unfold run
  rw [after_bind,hafter]
  cases hr : refreshes runner request first m.active.isSome with
  | false =>
    refine ⟨before ++ if starts runner request first m.active.isSome then .start request::rest else rest,?_,?_⟩
    · cases r with
      | error e => rfl
      | ok passed =>
        have hno : passed.refresh = false := by
          rw [← Bool.not_eq_true]
          intro hyes
          have := hrefresh.mp ⟨passed,rfl,hyes⟩
          rw [hr] at this
          cases this
        show ((if passed.refresh then _ else _ : Effect CommandOutput).after _).2.events = _
        rw [hno]
        rfl
    · rw [Bool.false_and]
      cases starts runner request first m.active.isSome with
      | false => exact .unstarted hquiet
      | true => exact .once hquiet
  | true =>
    have hstarts := refreshes_starts runner request first hr
    obtain ⟨passed,rfl,hyes⟩ := hrefresh.mpr hr
    obtain ⟨before',rest',active',r',hsaved',_,hafter',_⟩ :=
      pass_spec w { runner with githubAppAuthRetry := false } request second
        ⟨active,m.events ++ (before ++ .start request::rest) ++ [.invalidateGithubAppAuthCache]⟩
    have hquiet' : ∀ e ∈ before' ++ rest',e.isQuiet = true := fun e he => quiet_of_saved (hsaved' e he)
    rw [hstarts]
    show ∃ new,((if passed.refresh then _ else _ : Effect CommandOutput).after _).2.events = _ ∧ _
    rw [hyes]
    show ∃ new,((emit .invalidateGithubAppAuthCache >>= fun _ => _ : Effect CommandOutput).after
      ⟨active,m.events ++ (before ++ .start request::rest)⟩).2.events = _ ∧ _
    rw [after_bind,after_emit]
    show ∃ new,((pass w { runner with githubAppAuthRetry := false } request second >>= fun retried =>
      _ : Effect CommandOutput).after ⟨active,m.events ++ (before ++ .start request::rest) ++
        [.invalidateGithubAppAuthCache]⟩).2.events = _ ∧ _
    rw [after_bind,hafter']
    have hisSome : (Machine.mk active (m.events ++ (before ++ .start request::rest) ++
        [.invalidateGithubAppAuthCache])).active.isSome = m.active.isSome := hactive
    rw [hisSome,Bool.true_and]
    cases starts { runner with githubAppAuthRetry := false } request second m.active.isSome with
    | false =>
      refine ⟨before ++ .start request::(rest ++ .invalidateGithubAppAuthCache::(before' ++ rest')),?_,?_⟩
      · cases r' <;> simp [List.append_assoc]
      · refine .once fun e he => ?_
        rw [← List.append_assoc,List.mem_append,List.mem_cons] at he
        rcases he with he | rfl | he
        · exact hquiet e he
        · rfl
        · exact hquiet' e he
    | true =>
      refine ⟨before ++ .start request::((rest ++ .invalidateGithubAppAuthCache::before') ++
        .start request::rest'),?_,?_⟩
      · cases r' <;> simp [List.append_assoc]
      · refine .twice fun e he => ?_
        rw [List.append_assoc,← List.append_assoc,List.mem_append,List.cons_append,List.mem_cons] at he
        rcases he with he | rfl | he
        · exact hquiet e he
        · rfl
        · exact hquiet' e he

theorem authorised_iff_of_shape {restarted : Bool} {new : List Event} (intent : CommandIntent)
    (h : Shape request restarted new) :
    StartsAuthorised request (.beforeWrite intent true::new) ↔ restarted = false := by
  cases h with
  | unstarted quiet =>
    refine iff_of_true (fun pre post heq => ?_) rfl
    have hmem : Event.start request ∈ Event.beforeWrite intent true::new := by rw [heq]; simp
    rcases List.mem_cons.mp hmem with hmem | hmem
    · cases hmem
    · exact absurd hmem (start_notMem_quiet request quiet)
  | @once before rest quiet =>
    refine iff_of_true (fun pre post heq => ?_) rfl
    have hbefore : Event.start request ∉ before :=
      start_notMem_quiet request fun e he => quiet e (List.mem_append_left rest he)
    have hrest : Event.start request ∉ rest :=
      start_notMem_quiet request fun e he => quiet e (List.mem_append_right before he)
    have hprior : Event.start request ∉ Event.beforeWrite intent true::before := fun hmem =>
      (List.mem_cons.mp hmem).elim (fun he => by cases he) hbefore
    have heq' : (.beforeWrite intent true::before) ++ .start request::rest = pre ++ .start request::post := heq
    have hpre : Event.beforeWrite intent true::before = pre :=
      ((List.append_cons_inj_of_notMem hprior hrest).mp heq').1
    exact ⟨[],intent,before,hpre.symm,hbefore⟩
  | @twice before between rest quiet =>
    refine iff_of_false (fun hauthorised => ?_) (by decide)
    obtain ⟨a,intent',b,hsplit,hunused⟩ :=
      hauthorised (.beforeWrite intent true::(before ++ .start request::between)) rest (by simp)
    cases a with
    | nil =>
      cases hsplit
      exact hunused (by simp)
    | cons e a =>
      obtain ⟨_,hsplit⟩ := List.cons.inj hsplit
      have hmem : Event.beforeWrite intent' true ∈ before ++ .start request::between := by
        rw [hsplit]
        simp
      rcases List.mem_append.mp hmem with hmem | hmem
      · cases quiet _ (List.mem_append_left _ hmem)
      · rcases List.mem_cons.mp hmem with hmem | hmem
        · cases hmem
        · cases quiet _ (List.mem_append_right _ (List.mem_append_left _ hmem))

theorem declared_of_marked (hwrite : request.isWrite = true) (hmarked : marked request = true) :
    request.intent.isWrite = true := by
  unfold CommandSpec.isWrite at hwrite
  unfold marked at hmarked
  cases hinferred : request.inferredWriteIntent with
  | none =>
    rw [hinferred] at hwrite
    exact hwrite
  | some inferred =>
    rw [hinferred] at hwrite hmarked
    have hintent : request.intent = inferred := by simpa using hmarked
    rw [hintent]
    exact hwrite

theorem after_unmarked (m : Machine) (h : marked request = false) :
    ((fencedRun w fence runner request first second).after m).2 = m := by
  unfold marked at h
  cases hinferred : request.inferredWriteIntent with
  | none =>
    rw [hinferred] at h
    cases h
  | some inferred =>
    rw [hinferred] at h
    have hne : request.intent ≠ inferred := by simpa using h
    unfold fencedRun
    rw [hinferred]
    simp only [hne,ne_eq,not_false_eq_true,if_true]
    rfl

theorem after_marked (m : Machine) (h : marked request = true) :
    (fencedRun w fence runner request first second).after m =
      (do
        if request.intent.isWrite then beforeWrite fence request
        run w runner request first second : Effect CommandOutput).after m := by
  unfold marked at h
  unfold fencedRun
  cases hinferred : request.inferredWriteIntent with
  | none => rfl
  | some inferred =>
    rw [hinferred] at h
    have heq : request.intent = inferred := by simpa using h
    simp only [heq,ne_eq,not_true,if_false]

/-- Every start of the write is authorised by itself exactly where the call does not restart it. -/
theorem fencedRun_authorised_iff (active : Option SyncReceipt) :
    (request.isWrite = true → StartsAuthorised request
      ((fencedRun w fence runner request first second).after ⟨active,[]⟩).2.events) ↔
      restartsWrite fence runner request first second active.isSome = false := by
  unfold restartsWrite
  cases hwrite : request.isWrite with
  | false => simp
  | true =>
    rw [Bool.true_and]
    simp only [forall_const]
    cases hmarked : marked request with
    | false =>
      rw [after_unmarked w fence runner request first second _ hmarked]
      refine iff_of_true (fun pre post heq => ?_) rfl
      simp at heq
    | true =>
      rw [after_marked w fence runner request first second _ hmarked,
        declared_of_marked request hwrite hmarked,Bool.true_and]
      show StartsAuthorised request ((beforeWrite fence request >>= fun _ => _ : Effect CommandOutput).after
        ⟨active,[]⟩).2.events ↔ _
      unfold beforeWrite
      cases hfence : fence request.intent with
      | some message =>
        refine iff_of_true (fun pre post heq => ?_) rfl
        have hmem : Event.start request ∈ [Event.beforeWrite request.intent false] := by
          have : [Event.beforeWrite request.intent false] = pre ++ .start request::post := heq
          rw [this]
          simp
        cases List.mem_singleton.mp hmem
      | none =>
        obtain ⟨new,hnew,hshape⟩ := run_spec w runner request first second
          ⟨active,[.beforeWrite request.intent true]⟩
        rw [Option.isNone_none,Bool.true_and]
        show StartsAuthorised request ((run w runner request first second).after
          ⟨active,[.beforeWrite request.intent true]⟩).2.events ↔ _
        rw [hnew]
        exact authorised_iff_of_shape request request.intent hshape

end Runs

section Samples

def mergeRequest : CommandSpec :=
  { program := "gh",args := ["pr","merge","7","--squash"],io := some { intent := .providerWrite } }

def stream (text : String) : CapturedStream := ⟨⟨1024,text.length,false,text,text⟩,text,.ok text⟩

/-- A pass in App mode whose child ends with this status and diagnostic. -/
def appPass (code : ℤ) (stderr : String) : PassAnswers where
  used := 0
  now := 0
  appMode := .ok true
  repository := some ⟨"github.com","cara","vans",.https⟩
  selection := some (.appInstallation ⟨"token","cara",1,3600⟩)
  transportRefusal := none
  attemptSaved := .ok
  spawned := .ok 41
  child := .ended false (some code) .ok (.ok (stream "")) (.ok (stream stderr))
  outcomeSaved := .ok

/-- The fence is asked once, and the rejected token makes the merge start twice. -/
theorem retried_merge_unauthorised :
    ¬(mergeRequest.isWrite = true → StartsAuthorised mergeRequest
      ((fencedRun ⟨fun _ => []⟩ (fun _ => none) { timeout := 30000 } mergeRequest
        (appPass 1 "HTTP 401: Bad credentials") (appPass 0 "")).after ⟨none,[]⟩).2.events) := by
  intro h
  have hevents : ((fencedRun ⟨fun _ => []⟩ (fun _ => none) { timeout := 30000 } mergeRequest
      (appPass 1 "HTTP 401: Bad credentials") (appPass 0 "")).after ⟨none,[]⟩).2.events =
        [.beforeWrite .providerWrite true,.start mergeRequest,.invalidateGithubAppAuthCache,
          .start mergeRequest] := by
    decide +kernel
  rw [hevents] at h
  obtain ⟨a,intent,b,hsplit,hunused⟩ := h (by decide +kernel)
    [.beforeWrite .providerWrite true,.start mergeRequest,.invalidateGithubAppAuthCache] [] rfl
  cases a with
  | nil =>
    cases hsplit
    exact hunused (by simp)
  | cons e a =>
    obtain ⟨_,hsplit⟩ := List.cons.inj hsplit
    have hmem : Event.beforeWrite intent true ∈
        [Event.start mergeRequest,.invalidateGithubAppAuthCache] := by rw [hsplit]; simp
    simp at hmem

end Samples

end Command
end Cara
