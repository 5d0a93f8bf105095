import Cara.CiDispatch

/-! Sequences of CI starts with one binding, each of which may stop at any point. The
checkpoint file tells what may have been asked of the provider: an intent that was not
rejected forbids another request, and an observed successor only moves forward. -/
namespace Cara
namespace CiDispatch

open Sync (GitHubMutationReceipt)
open Prog (Gives Run Stops)

structure IsSuccessor (e old : CiExecution) : Prop where
  app : e.appId = old.appId
  slug : e.appSlug = old.appSlug
  workflow : e.workflowId = old.workflowId
  generation : e.pullRequest = old.pullRequest
  event : e.event = old.event
  later : old.runId < e.runId ∨
    e.runId = old.runId ∧ e.checkSuiteId = old.checkSuiteId ∧ old.runAttempt < e.runAttempt

def Reaches (e old : CiExecution) : Prop := e.sameExecution old = true ∨ IsSuccessor e old

section Order

variable {a b c : CiExecution}

theorem succeeds_iff : a.succeeds b = true ↔ IsSuccessor a b := by
  unfold CiExecution.succeeds
  simp only [Bool.and_eq_true,Bool.or_eq_true,decide_eq_true_eq]
  constructor
  · rintro ⟨⟨⟨⟨⟨happ,hslug⟩,hworkflow⟩,hgeneration⟩,hevent⟩,hlater⟩
    exact ⟨happ,hslug,hworkflow,hgeneration,hevent,hlater.imp id fun h => ⟨h.1.1,h.2,h.1.2⟩⟩
  · intro h
    exact ⟨⟨⟨⟨⟨h.app,h.slug⟩,h.workflow⟩,h.generation⟩,h.event⟩,
      h.later.imp id fun h => ⟨⟨h.1,h.2.2⟩,h.2.1⟩⟩

theorem IsSuccessor.trans (h : IsSuccessor a b) (h' : IsSuccessor b c) : IsSuccessor a c where
  app := h.app.trans h'.app
  slug := h.slug.trans h'.slug
  workflow := h.workflow.trans h'.workflow
  generation := h.generation.trans h'.generation
  event := h.event.trans h'.event
  later := by
    rcases h.later with hab | ⟨hrun,hsuite,hattempt⟩ <;>
      rcases h'.later with hbc | ⟨hrun',hsuite',hattempt'⟩
    · exact .inl (hbc.trans hab)
    · exact .inl (by omega)
    · exact .inl (by omega)
    · exact .inr ⟨hrun.trans hrun',hsuite.trans hsuite',hattempt'.trans hattempt⟩

structure SameExecution (e other : CiExecution) : Prop where
  app : e.appId = other.appId
  slug : e.appSlug = other.appSlug
  workflow : e.workflowId = other.workflowId
  run : e.runId = other.runId
  attempt : e.runAttempt = other.runAttempt
  suite : e.checkSuiteId = other.checkSuiteId
  generation : e.pullRequest = other.pullRequest
  event : e.event = other.event

theorem sameExecution_iff : a.sameExecution b = true ↔ SameExecution a b := by
  unfold CiExecution.sameExecution
  simp only [Bool.and_eq_true,decide_eq_true_eq]
  constructor
  · rintro ⟨⟨⟨⟨⟨⟨⟨happ,hslug⟩,hworkflow⟩,hrun⟩,hattempt⟩,hsuite⟩,hgeneration⟩,hevent⟩
    exact ⟨happ,hslug,hworkflow,hrun,hattempt,hsuite,hgeneration,hevent⟩
  · intro h
    exact ⟨⟨⟨⟨⟨⟨⟨h.app,h.slug⟩,h.workflow⟩,h.run⟩,h.attempt⟩,h.suite⟩,h.generation⟩,h.event⟩

theorem SameExecution.trans (h : SameExecution a b) (h' : SameExecution b c) : SameExecution a c :=
  ⟨h.app.trans h'.app,h.slug.trans h'.slug,h.workflow.trans h'.workflow,h.run.trans h'.run,
    h.attempt.trans h'.attempt,h.suite.trans h'.suite,h.generation.trans h'.generation,
    h.event.trans h'.event⟩

theorem SameExecution.before (h : SameExecution a b) (h' : IsSuccessor b c) : IsSuccessor a c where
  app := h.app.trans h'.app
  slug := h.slug.trans h'.slug
  workflow := h.workflow.trans h'.workflow
  generation := h.generation.trans h'.generation
  event := h.event.trans h'.event
  later := by rw [h.run,h.attempt,h.suite]; exact h'.later

theorem SameExecution.after (h : SameExecution b c) (h' : IsSuccessor a b) : IsSuccessor a c where
  app := h'.app.trans h.app
  slug := h'.slug.trans h.slug
  workflow := h'.workflow.trans h.workflow
  generation := h'.generation.trans h.generation
  event := h'.event.trans h.event
  later := by rw [← h.run,← h.attempt,← h.suite]; exact h'.later

theorem Reaches.trans (h : Reaches a b) (h' : Reaches b c) : Reaches a c := by
  rcases h with hab | hab <;> rcases h' with hbc | hbc
  · exact .inl (sameExecution_iff.mpr ((sameExecution_iff.mp hab).trans (sameExecution_iff.mp hbc)))
  · exact .inr ((sameExecution_iff.mp hab).before hbc)
  · exact .inr ((sameExecution_iff.mp hbc).after hab)
  · exact .inr (hab.trans hbc)

theorem Reaches.refl : Reaches a a := .inl (sameExecution_iff.mpr ⟨rfl,rfl,rfl,rfl,rfl,rfl,rfl,rfl⟩)

end Order

@[ext] structure Site where
  files : String → Option DispatchCheckpoint
  posts : ℕ

namespace Site

def put (s : Site) (key : String) (c : Option DispatchCheckpoint) : Site :=
  { s with files := Function.update s.files key c }

@[simp] theorem put_posts (s : Site) (key : String) (c : Option DispatchCheckpoint) :
    (s.put key c).posts = s.posts := rfl

@[simp] theorem put_same (s : Site) (key : String) (c : Option DispatchCheckpoint) :
    (s.put key c).files key = c := Function.update_self ..

theorem put_other (s : Site) {key k : String} (c : Option DispatchCheckpoint) (h : k ≠ key) :
    (s.put key c).files k = s.files k := Function.update_of_ne h ..

/-- One call to the environment. A failed write or removal may have happened, and a failed
request may have been applied unless its error says that nothing was written. -/
inductive Step : Site → Request → Answer → Site → Prop
  | loaded (s : Site) (key : String) : Step s (.load key) (.loaded (.ok (s.files key))) s
  | unread (s : Site) (key : String) (error : DispatchError) :
      Step s (.load key) (.loaded (.error error)) s
  | wrote (s : Site) (key : String) (c : DispatchCheckpoint) :
      Step s (.write key c) (.stored (.ok ())) (s.put key (some c))
  | unwritten (s : Site) (key : String) (c : DispatchCheckpoint) (error : DispatchError) :
      Step s (.write key c) (.stored (.error error)) s
  | writeLost (s : Site) (key : String) (c : DispatchCheckpoint) (error : DispatchError) :
      Step s (.write key c) (.stored (.error error)) (s.put key (some c))
  | removed (s : Site) (key : String) : Step s (.remove key) (.stored (.ok ())) (s.put key none)
  | unremoved (s : Site) (key : String) (error : DispatchError) :
      Step s (.remove key) (.stored (.error error)) s
  | removalLost (s : Site) (key : String) (error : DispatchError) :
      Step s (.remove key) (.stored (.error error)) (s.put key none)
  | preflighted (s : Site) (result : Except DispatchError Unit) :
      Step s .preflight (.preflighted result) s
  | requested (s : Site) (receipt : GitHubMutationReceipt) :
      Step s .request (.requested (.ok receipt)) { s with posts := s.posts + 1 }
  | refused (s : Site) (error : DispatchError) :
      Step s .request (.requested (.error error)) s
  | requestLost (s : Site) (error : DispatchError) : providerWriteAttempted error ≠ some false →
      Step s .request (.requested (.error error)) { s with posts := s.posts + 1 }

structure Sound (k : String) (s : Site) : Prop where
  vacant : s.files k = none → s.posts = 0
  once : s.posts ≤ 1
  rejected : ∀ c,s.files k = some c → c.rejectedBeforeWrite.isSome = true →
    s.posts = 0 ∧ c.observedSuccessor = none
  succeeded : ∀ c o,s.files k = some c → c.observedSuccessor = some o → IsSuccessor o c.selected

/-- The observed successor on file is the execution or one of its successors. -/
def Observed (k : String) (o : CiExecution) (s : Site) : Prop :=
  ∃ c o',s.files k = some c ∧ c.observedSuccessor = some o' ∧ Reaches o' o

def Names (k : String) (known : List CiExecution) (s : Site) : Prop :=
  ∀ c,s.files k = some c → c.selected ∈ known

/-- The calls that a dispatch of one execution makes, with the checkpoint they meet. -/
inductive Permitted (k : String) (x : CiExecution) (s : Site) : Request → Prop
  | load (key : String) : Permitted k x s (.load key)
  | preflight : Permitted k x s .preflight
  | archive {key : String} (c : DispatchCheckpoint) : key ≠ k → Permitted k x s (.write key c)
  | intent {c : DispatchCheckpoint} : s.files k = none → c.selected = x →
      c.observedSuccessor = none → c.rejectedBeforeWrite = none → Permitted k x s (.write k c)
  | successor {c : DispatchCheckpoint} : s.files k = some c → c.rejectedBeforeWrite = none →
      IsSuccessor x c.selected → (∀ o,c.observedSuccessor = some o → Reaches x o) →
      Permitted k x s (.write k { c with observedSuccessor := some x })
  | receipt {c : DispatchCheckpoint} (r : GitHubMutationReceipt) : s.files k = some c →
      c.rejectedBeforeWrite = none → c.observedSuccessor = none →
      Permitted k x s (.write k { c with providerReceipt := some r })
  | rejection {c : DispatchCheckpoint} (code : String) : s.files k = some c → s.posts = 0 →
      c.observedSuccessor = none →
      Permitted k x s (.write k { c with rejectedBeforeWrite := some code })
  | retire {c : DispatchCheckpoint} : s.files k = some c → c.rejectedBeforeWrite.isSome = true →
      Permitted k x s (.remove k)
  | request {c : DispatchCheckpoint} : s.files k = some c → c.rejectedBeforeWrite = none →
      c.observedSuccessor = none → s.posts = 0 → Permitted k x s .request

inductive Change (k : String) (x : CiExecution) (s s' : Site) : Prop
  | none : s'.files k = s.files k → s'.posts = s.posts → Change k x s s'
  | intent {c : DispatchCheckpoint} : s.files k = .none → s'.files k = some c → s'.posts = s.posts →
      c.selected = x → c.observedSuccessor = .none → c.rejectedBeforeWrite = .none → Change k x s s'
  | successor {c c' : DispatchCheckpoint} : s.files k = some c → s'.files k = some c' →
      s'.posts = s.posts → c'.selected = c.selected → c'.observedSuccessor = some x →
      c'.rejectedBeforeWrite = .none → IsSuccessor x c.selected →
      (∀ o,c.observedSuccessor = some o → Reaches x o) → Change k x s s'
  | unobserved {c c' : DispatchCheckpoint} : s.files k = some c → s'.files k = some c' →
      s'.posts = s.posts → c'.selected = c.selected → c.observedSuccessor = .none →
      c'.observedSuccessor = .none → (c'.rejectedBeforeWrite.isSome = true → s.posts = 0) →
      Change k x s s'
  | retire {c : DispatchCheckpoint} : s.files k = some c → c.rejectedBeforeWrite.isSome = true →
      s'.files k = .none → s'.posts = s.posts → Change k x s s'
  | request {c : DispatchCheckpoint} : s.files k = some c → s'.files k = some c → s.posts = 0 →
      s'.posts = 1 → c.rejectedBeforeWrite = .none → c.observedSuccessor = .none → Change k x s s'

variable {k : String} {x : CiExecution} {s s' : Site} {q : Request} {a : Answer}

theorem Step.write_cases {key : String} {c : DispatchCheckpoint} (h : Step s (.write key c) a s') :
    s' = s ∨ s' = s.put key (some c) := by
  cases h with
  | wrote => exact .inr rfl
  | unwritten => exact .inl rfl
  | writeLost => exact .inr rfl

theorem Step.remove_cases {key : String} (h : Step s (.remove key) a s') :
    s' = s ∨ s' = s.put key none := by
  cases h with
  | removed => exact .inr rfl
  | unremoved => exact .inl rfl
  | removalLost => exact .inr rfl

theorem Permitted.change (hq : Permitted k x s q) (h : Step s q a s') : Change k x s s' := by
  cases hq with
  | load key => cases h <;> exact .none rfl rfl
  | preflight => cases h; exact .none rfl rfl
  | archive c hkey =>
    rcases h.write_cases with rfl | rfl
    · exact .none rfl rfl
    · exact .none (put_other s _ (Ne.symm hkey)) rfl
  | intent hfile hselected hobserved hrejected =>
    rcases h.write_cases with rfl | rfl
    · exact .none rfl rfl
    · exact .intent hfile (put_same ..) rfl hselected hobserved hrejected
  | successor hfile hrejected hsuccessor hreaches =>
    rcases h.write_cases with rfl | rfl
    · exact .none rfl rfl
    · exact .successor hfile (put_same ..) rfl rfl rfl hrejected hsuccessor hreaches
  | @receipt c r hfile hrejected hobserved =>
    rcases h.write_cases with rfl | rfl
    · exact .none rfl rfl
    · refine .unobserved hfile (put_same ..) rfl rfl hobserved hobserved ?_
      show c.rejectedBeforeWrite.isSome = true → _
      rw [hrejected]
      exact fun h => nomatch h
  | rejection code hfile hposts hobserved =>
    rcases h.write_cases with rfl | rfl
    · exact .none rfl rfl
    · exact .unobserved hfile (put_same ..) rfl rfl hobserved hobserved fun _ => hposts
  | retire hfile hrejected =>
    rcases h.remove_cases with rfl | rfl
    · exact .none rfl rfl
    · exact .retire hfile hrejected (put_same ..) rfl
  | request hfile hrejected hobserved hposts =>
    cases h with
    | requested receipt => exact .request hfile hfile hposts (by rw [hposts]) hrejected hobserved
    | refused error => exact .none rfl rfl
    | requestLost error _ => exact .request hfile hfile hposts (by rw [hposts]) hrejected hobserved

theorem Change.sound (h : Change k x s s') (hs : Sound k s) : Sound k s' := by
  cases h with
  | none hfile hposts =>
    refine ⟨?_,?_,?_,?_⟩
    · rw [hfile,hposts]; exact hs.vacant
    · rw [hposts]; exact hs.once
    · rw [hfile,hposts]; exact hs.rejected
    · rw [hfile]; exact hs.succeeded
  | intent hfile hfile' hposts _ hobserved hrejected =>
    refine ⟨?_,?_,?_,?_⟩
    · rw [hfile']; exact fun h => nomatch h
    · rw [hposts]; exact hs.once
    · intro c hc hr
      rw [hfile',Option.some.injEq] at hc
      rw [← hc,hrejected] at hr
      cases hr
    · intro c o hc ho
      rw [hfile',Option.some.injEq] at hc
      rw [← hc,hobserved] at ho
      cases ho
  | successor hfile hfile' hposts hselected hobserved hrejected hsuccessor _ =>
    refine ⟨?_,?_,?_,?_⟩
    · rw [hfile']; exact fun h => nomatch h
    · rw [hposts]; exact hs.once
    · intro c hc hr
      rw [hfile',Option.some.injEq] at hc
      rw [← hc,hrejected] at hr
      cases hr
    · intro c o hc ho
      rw [hfile',Option.some.injEq] at hc
      rw [← hc,hobserved,Option.some.injEq] at ho
      rw [← hc,← ho,hselected]
      exact hsuccessor
  | unobserved hfile hfile' hposts hselected _ hobserved hrejected =>
    refine ⟨?_,?_,?_,?_⟩
    · rw [hfile']; exact fun h => nomatch h
    · rw [hposts]; exact hs.once
    · intro c hc hr
      rw [hfile',Option.some.injEq] at hc
      rw [← hc] at hr ⊢
      exact ⟨hposts.trans (hrejected hr),hobserved⟩
    · intro c o hc ho
      rw [hfile',Option.some.injEq] at hc
      rw [← hc,hobserved] at ho
      cases ho
  | retire hfile hrejected hfile' hposts =>
    refine ⟨?_,?_,?_,?_⟩
    · exact fun _ => hposts.trans (hs.rejected _ hfile hrejected).1
    · rw [hposts]; exact hs.once
    · rw [hfile']; exact fun _ h => nomatch h
    · rw [hfile']; exact fun _ _ h => nomatch h
  | request hfile hfile' hbefore hposts hrejected hobserved =>
    refine ⟨?_,hposts.le,?_,?_⟩
    · rw [hfile']; exact fun h => nomatch h
    · intro c hc hr
      rw [hfile',Option.some.injEq] at hc
      rw [← hc,hrejected] at hr
      cases hr
    · intro c o hc ho
      rw [hfile',Option.some.injEq] at hc
      rw [← hc,hobserved] at ho
      cases ho

/-- A durable successor stays on file or gives way to a later one. -/
theorem Change.observed {o : CiExecution} (h : Change k x s s') (hs : Sound k s)
    (ho : Observed k o s) : Observed k o s' := by
  obtain ⟨c₀,o',hc₀,hobs,hreach⟩ := ho
  have known {c : DispatchCheckpoint} (hc : s.files k = some c) : c = c₀ :=
    Option.some.inj (hc.symm.trans hc₀)
  cases h with
  | none hfile _ => exact ⟨c₀,o',hfile.trans hc₀,hobs,hreach⟩
  | intent hfile => rw [hfile] at hc₀; cases hc₀
  | @successor c c' hfile hfile' _ _ hobserved _ _ hreaches =>
    rw [known hfile] at hreaches
    exact ⟨c',x,hfile',hobserved,(hreaches o' hobs).trans hreach⟩
  | unobserved hfile _ _ _ hobserved =>
    rw [known hfile,hobs] at hobserved
    cases hobserved
  | retire hfile hrejected =>
    have hnone := (hs.rejected _ hfile hrejected).2
    rw [known hfile,hobs] at hnone
    cases hnone
  | request hfile _ _ _ _ hobserved =>
    rw [known hfile,hobs] at hobserved
    cases hobserved

theorem Change.names {known : List CiExecution} (h : Change k x s s') (hx : x ∈ known)
    (hs : Names k known s) : Names k known s' := by
  intro c hc
  cases h with
  | none hfile _ => exact hs c (hfile.symm.trans hc)
  | intent _ hfile' _ hselected =>
    rw [hfile',Option.some.injEq] at hc
    rw [← hc,hselected]
    exact hx
  | successor hfile hfile' _ hselected =>
    rw [hfile',Option.some.injEq] at hc
    rw [← hc,hselected]
    exact hs _ hfile
  | unobserved hfile hfile' _ hselected =>
    rw [hfile',Option.some.injEq] at hc
    rw [← hc,hselected]
    exact hs _ hfile
  | retire _ _ hfile' => rw [hfile'] at hc; cases hc
  | request hfile hfile' =>
    rw [hfile',Option.some.injEq] at hc
    rw [← hc]
    exact hs _ hfile

end Site

open Site

section Calls

variable {w : DispatchWire} {binding : DispatchBinding} {x : CiExecution} {operationId k : String}
  {s : Site}

structure Answers (k : String) (x : CiExecution) (s : Site) (r : DispatchResult) : Prop where
  successor : r.disposition = .successorObserved → ∃ c,s.files k = some c ∧ IsSuccessor x c.selected
  advances : ∀ o,Observed k o s → Reaches x o

theorem write_gives {key : String} {c : DispatchCheckpoint} (hq : Permitted k x s (.write key c)) :
    Gives Step (Permitted k x) (write key c) (fun s' _ => s' = s.put key (some c)) (fun _ _ => True) s := by
  apply Gives.query hq
  · intro a s' r hstep hdecode
    cases hstep with
    | wrote => rfl
    | unwritten => cases hdecode
    | writeLost => cases hdecode
  · exact fun _ _ _ _ _ => trivial

theorem remove_gives {key : String} (hq : Permitted k x s (.remove key)) :
    Gives Step (Permitted k x) (remove key) (fun s' _ => s' = s.put key none) (fun _ _ => True) s := by
  apply Gives.query hq
  · intro a s' r hstep hdecode
    cases hstep with
    | removed => rfl
    | unremoved => cases hdecode
    | removalLost => cases hdecode
  · exact fun _ _ _ _ _ => trivial

theorem load_gives (key : String) :
    Gives Step (Permitted k x) (load key) (fun s' c => s' = s ∧ c = s.files key) (fun _ _ => True) s := by
  apply Gives.query (.load key)
  · intro a s' r hstep hdecode
    cases hstep with
    | loaded =>
      cases hdecode
      exact ⟨rfl,rfl⟩
    | unread => cases hdecode
  · exact fun _ _ _ _ _ => trivial

theorem preflight_gives :
    Gives Step (Permitted k x) preflight (fun s' _ => s' = s) (fun _ _ => True) s := by
  apply Gives.query .preflight
  · intro a s' r hstep _
    cases hstep
    rfl
  · exact fun _ _ _ _ _ => trivial

theorem refuseIf_gives (condition : Bool) (e : DispatchError) :
    Gives Step (Permitted k x) (Prog.refuseIf condition e) (fun s' _ => s' = s ∧ condition = false)
      (fun _ _ => True) s := by
  apply Gives.ofResult
  · intro _ h
    cases condition with
    | false => exact ⟨rfl,rfl⟩
    | true => cases h
  · exact fun _ _ => trivial

/-- The request itself, from an intent that stands alone. An answer that is no refusal
leaves the intent as it is. -/
theorem request_gives {c : DispatchCheckpoint} (hfile : s.files k = some c)
    (hrejected : c.rejectedBeforeWrite = none) (hobserved : c.observedSuccessor = none)
    (hposts : s.posts = 0) :
    Gives Step (Permitted k x) (Prog.attempt request : Io _) (fun s' r => s'.files k = some c ∧
        ∀ e,r = .error e → providerWriteAttempted e = some false → s'.posts = 0)
      (fun _ _ => True) s := by
  constructor
  unfold request
  rw [Prog.holds_attempt,Prog.holds_query]
  refine ⟨.request hfile hrejected hobserved hposts,?_⟩
  intro a s' hstep
  cases hstep with
  | requested receipt => exact ⟨hfile,fun _ h => nomatch h⟩
  | refused error => exact ⟨hfile,fun _ _ _ => hposts⟩
  | requestLost error hattempted =>
    refine ⟨hfile,?_⟩
    intro e he
    cases he
    exact fun h => absurd h hattempted

theorem freshDisposition_gives :
    Gives Step (Permitted k x) (freshDisposition x)
      (fun s' d => s' = s ∧ d ≠ .successorObserved) (fun _ _ => True) s := by
  unfold freshDisposition
  split
  · exact Gives.pure ⟨rfl,fun h => nomatch h⟩
  · apply Gives.bind (refuseIf_gives _ _)
    intro s' _ h
    rw [h.1]
    apply Gives.bind preflight_gives
    intro s'' _ h
    exact Gives.pure ⟨h,fun h => nomatch h⟩

theorem dispatchFresh_gives {s₀ : Site} (hfile : s.files k = none) (hposts : s.posts = 0)
    (hquiet : ∀ o,¬Observed k o s₀) :
    Gives Step (Permitted k x) (dispatchFresh binding x operationId k)
      (fun _ r => Answers k x s₀ r) (fun _ _ => True) s := by
  unfold dispatchFresh
  apply Gives.bind freshDisposition_gives
  rintro s' disposition ⟨hsame,hdisposition⟩
  rw [hsame]
  have hanswers (receipt : Option GitHubMutationReceipt) :
      Answers k x s₀ ⟨disposition,operationId,receipt⟩ :=
    ⟨fun h => absurd h hdisposition,fun o h => absurd h (hquiet o)⟩
  apply Gives.bind (write_gives (c := intent binding x operationId disposition)
    (.intent hfile rfl rfl rfl))
  intro s' _ hwritten
  rw [hwritten]
  split
  · exact Gives.pure (hanswers none)
  · apply Gives.bind (request_gives (put_same ..) rfl rfl hposts)
    rintro s' r ⟨hintent,hrefused⟩
    cases r with
    | error e =>
      dsimp only
      split
      · next hattempted =>
        apply Gives.bind (write_gives (.rejection e.code hintent (hrefused e rfl hattempted) rfl))
        exact fun _ _ _ => Gives.throw trivial
      · exact Gives.throw trivial
    | ok receipt =>
      apply Gives.bind (write_gives (.receipt receipt hintent rfl rfl))
      exact fun _ _ _ => Gives.pure (hanswers (some receipt))

theorem reconcile_gives {c : DispatchCheckpoint} (hfile : s.files k = some c)
    (hrejected : c.rejectedBeforeWrite = none) (hkind : c.disposition ≠ .successorObserved) :
    Gives Step (Permitted k x) (reconcile x k c) (fun _ r => Answers k x s r) (fun _ _ => True) s := by
  unfold reconcile
  apply Gives.bind (refuseIf_gives _ _)
  rintro s' _ ⟨hsame,hregressed⟩
  rw [hsame]
  have hreaches : ∀ o,c.observedSuccessor = some o → Reaches x o := by
    intro o ho
    rw [ho] at hregressed
    simp only [Option.any_some,Bool.and_eq_false_iff,Bool.not_eq_false'] at hregressed
    exact hregressed.imp id succeeds_iff.mp
  have hadvances : ∀ o,Observed k o s → Reaches x o := by
    rintro o ⟨c',o',hc',ho',hreach⟩
    rw [hfile,Option.some.injEq] at hc'
    rw [← hc'] at ho'
    exact (hreaches o' ho').trans hreach
  split
  · next hsucceeds =>
    have hsuccessor := succeeds_iff.mp hsucceeds
    apply Gives.bind (write_gives (.successor hfile hrejected hsuccessor hreaches))
    exact fun _ _ _ => Gives.pure ⟨fun _ => ⟨c,hfile,hsuccessor⟩,hadvances⟩
  · split
    · exact Gives.pure ⟨fun h => absurd h hkind,hadvances⟩
    · exact Gives.throw trivial

theorem archiveKey_ne (w : DispatchWire) (bytes encoded : List UInt8) :
    archiveKey w bytes ≠ startKey w encoded := by
  intro h
  have hchars := congrArg (fun t => t.toList.drop 3 |>.head?) h
  simp [archiveKey,startKey] at hchars

/-- The checkpoint file of a binding; a binding without a text has none. -/
def checkpointKey (w : DispatchWire) (binding : DispatchBinding) : Option String :=
  (w.bindingJson binding).toOption.map (startKey w)

theorem dispatch_gives (hkey : checkpointKey w binding = some k) (hs : Sound k s) :
    Gives Step (Permitted k x) (dispatch w binding x operationId) (fun _ r => Answers k x s r)
      (fun _ _ => True) s := by
  unfold dispatch
  apply Gives.bind (refuseIf_gives _ _)
  intro s' _ h
  rw [h.1]
  apply Gives.bind (K := fun s' encoded => s' = s ∧ startKey w encoded = k)
  · unfold checkpointKey at hkey
    cases htext : w.bindingJson binding with
    | error message => rw [htext] at hkey; cases hkey
    | ok text =>
      rw [htext] at hkey
      exact Gives.pure ⟨rfl,Option.some.inj hkey⟩
  rintro s' encoded ⟨hsame,rfl⟩
  rw [hsame]
  apply Gives.bind (load_gives _)
  rintro s' saved ⟨hsame,hsaved⟩
  rw [hsame]
  cases saved with
  | none =>
    apply dispatchFresh_gives hsaved.symm (hs.vacant hsaved.symm)
    rintro o ⟨c,_,hc,_⟩
    rw [← hsaved] at hc
    cases hc
  | some c =>
    apply Gives.bind (refuseIf_gives _ _)
    rintro s' _ ⟨hsame,hidentity⟩
    rw [hsame]
    simp only [Bool.or_eq_false_iff,decide_eq_false_iff_not] at hidentity
    split
    · next hrejected => exact reconcile_gives hsaved.symm hrejected hidentity.2
    · next code hrejected =>
      have hsome : c.rejectedBeforeWrite.isSome = true := by rw [hrejected]; rfl
      obtain ⟨hposts,hobserved⟩ := hs.rejected c hsaved.symm hsome
      apply Gives.bind (K := fun s' _ => s' = s)
      · cases w.checkpointJson c with
        | error message => exact Gives.throw trivial
        | ok bytes => exact Gives.pure rfl
      intro s' bytes hsame
      rw [hsame]
      have hother := archiveKey_ne w bytes encoded
      apply Gives.bind (write_gives (.archive c hother))
      intro s' _ hwritten
      rw [hwritten]
      have hstill : (s.put (archiveKey w bytes) (some c)).files (startKey w encoded) = some c := by
        rw [put_other s _ hother.symm]
        exact hsaved.symm
      apply Gives.bind (remove_gives (.retire hstill hsome))
      intro s' _ hwritten
      rw [hwritten]
      refine dispatchFresh_gives (put_same ..) ?_ ?_
      · exact hposts
      rintro o ⟨c',o',hc',ho',_⟩
      rw [← hsaved,Option.some.injEq] at hc'
      rw [← hc',hobserved] at ho'
      cases ho'

structure Call where
  selected : CiExecution
  operationId : String
  outcome : Option (Except DispatchError DispatchResult)

inductive Happens (w : DispatchWire) (binding : DispatchBinding) : Site → Call → Site → Prop
  | returned {s s' : Site} {x : CiExecution} {operationId : String}
      {r : Except DispatchError DispatchResult} :
      Run Step (dispatch w binding x operationId).run s (some r) s' →
      Happens w binding s ⟨x,operationId,some r⟩ s'
  | stopped {s s' : Site} {x : CiExecution} {operationId : String} :
      Stops Step (dispatch w binding x operationId).run s s' →
      Happens w binding s ⟨x,operationId,none⟩ s'

inductive Calls (w : DispatchWire) (binding : DispatchBinding) : Site → List Call → Site → Prop
  | nil (s : Site) : Calls w binding s [] s
  | cons {s s' t : Site} {c : Call} {calls : List Call} : Happens w binding s c s' →
      Calls w binding s' calls t → Calls w binding s (c::calls) t

/-- The checkpoint file that a call with this binding reads. -/
def checkpointOf (w : DispatchWire) (binding : DispatchBinding) (s : Site) : Option DispatchCheckpoint :=
  (checkpointKey w binding).bind s.files

def Call.Returned (c : Call) (r : DispatchResult) : Prop := c.outcome = some (.ok r)

variable {c : Call} {calls : List Call} {s' : Site}

theorem Happens.stops (h : Happens w binding s c s') :
    Stops Step (dispatch w binding c.selected c.operationId).run s s' := by
  cases h with
  | returned hrun => exact hrun.stops
  | stopped hstop => exact hstop

theorem Happens.answers {r : DispatchResult} (hkey : checkpointKey w binding = some k)
    (hs : Sound k s) (h : Happens w binding s c s') (hr : c.Returned r) : Answers k c.selected s r := by
  cases h with
  | returned hrun =>
    cases hr
    exact (dispatch_gives hkey hs).run hrun
  | stopped => cases hr

/-- Facts that permitted calls keep survive a dispatch that returns and one that stops. -/
theorem Happens.keeps {I : Site → Prop} (hkey : checkpointKey w binding = some k)
    (hs : Sound k s) (h : Happens w binding s c s')
    (hI : ∀ s s',Sound k s → Change k c.selected s s' → I s → I s') (hi : I s) :
    Sound k s' ∧ I s' := by
  refine (dispatch_gives hkey hs).stops (I := fun s => Sound k s ∧ I s) ?_ ⟨hs,hi⟩ h.stops
  rintro t q a t' hq hstep ⟨hsound,hi⟩
  have hchange := hq.change hstep
  exact ⟨hchange.sound hsound,hI t t' hsound hchange hi⟩

theorem Calls.keeps {I : Site → Prop} (hkey : checkpointKey w binding = some k)
    (hs : Sound k s) (h : Calls w binding s calls s')
    (hI : ∀ c ∈ calls,∀ s s',Sound k s → Change k c.selected s s' → I s → I s') (hi : I s) :
    Sound k s' ∧ I s' := by
  induction h with
  | nil s => exact ⟨hs,hi⟩
  | cons hfirst _ ih =>
    obtain ⟨hs',hi'⟩ := hfirst.keeps hkey hs (hI _ List.mem_cons_self) hi
    exact ih hs' (fun c hc => hI c (List.mem_cons_of_mem _ hc)) hi'

/-- Every call after a durable observation that returns is for that successor or a later one. -/
theorem Calls.advances {o : CiExecution} (hkey : checkpointKey w binding = some k) (hs : Sound k s)
    (ho : Observed k o s) (h : Calls w binding s calls s') :
    ∀ c ∈ calls,∀ r,c.Returned r → Reaches c.selected o := by
  induction h with
  | nil s => exact fun c hc => nomatch hc
  | cons hfirst _ ih =>
    intro c hc r hr
    rcases List.mem_cons.mp hc with rfl | hc
    · exact (hfirst.answers hkey hs hr).advances o ho
    · obtain ⟨hs',ho'⟩ := hfirst.keeps hkey hs (fun _ _ hs h => h.observed hs) ho
      exact ih hs' ho' c hc r hr

theorem Happens.unkeyed (hkey : checkpointKey w binding = none) (h : Happens w binding s c s') :
    s' = s ∧ ∀ r,¬c.Returned r := by
  have hrefused : Gives Step (fun _ _ => False) (dispatch w binding c.selected c.operationId)
      (fun _ _ => False) (fun s' _ => s' = s) s := by
    unfold dispatch
    apply Gives.bind (K := fun s' _ => s' = s)
    · exact Gives.ofResult (fun _ _ => rfl) fun _ _ => rfl
    intro s' _ hsame
    rw [hsame]
    unfold checkpointKey at hkey
    cases htext : w.bindingJson binding with
    | error message => exact Gives.throw rfl
    | ok text => rw [htext] at hkey; cases hkey
  refine ⟨hrefused.stops (I := fun s' => s' = s) (fun _ _ _ _ h => h.elim) rfl h.stops,?_⟩
  intro r hr
  cases h with
  | returned hrun =>
    cases hr
    exact hrefused.run hrun
  | stopped => cases hr

/-- From a binding that was never started, however its dispatches are cut: at most one start
may have reached the provider, a successor is reported only for a later run of the execution on
file, which an earlier call selected, and a durable successor never gives way to anything that
is not that successor or one of its own. -/
theorem dispatch_once {s₀ : Site} (hfresh : checkpointOf w binding s₀ = none) (hposts : s₀.posts = 0)
    (h : Calls w binding s₀ calls s) :
    s.posts ≤ 1 ∧
    (∀ c s' r,Happens w binding s c s' → c.Returned r → r.disposition = .successorObserved →
      ∃ saved,checkpointOf w binding s = some saved ∧ IsSuccessor c.selected saved.selected ∧
        ∃ c₀ ∈ calls,c₀.selected = saved.selected) ∧
    ∀ saved o,checkpointOf w binding s = some saved → saved.observedSuccessor = some o →
      ∀ later s',Calls w binding s later s' → ∀ c ∈ later,∀ r,c.Returned r →
        Reaches c.selected o := by
  cases hkey : checkpointKey w binding with
  | none =>
    have hsame : s = s₀ := by
      clear hfresh hposts
      induction h with
      | nil s => rfl
      | cons hfirst _ ih => exact ih.trans (hfirst.unkeyed hkey).1
    have hnone : checkpointOf w binding s = none := by
      unfold checkpointOf
      rw [hkey]
      rfl
    refine ⟨by rw [hsame,hposts]; exact Nat.zero_le 1,?_,?_⟩
    · exact fun c s' r hc hr _ => absurd hr ((hc.unkeyed hkey).2 r)
    · intro saved o hsaved
      rw [hnone] at hsaved
      cases hsaved
  | some k =>
    have hfile (t : Site) : checkpointOf w binding t = t.files k := by
      unfold checkpointOf
      rw [hkey]
      rfl
    rw [hfile] at hfresh
    have hs₀ : Sound k s₀ := by
      refine ⟨fun _ => hposts,by omega,?_,?_⟩
      · intro c hc
        rw [hfresh] at hc
        cases hc
      · intro c o hc
        rw [hfresh] at hc
        cases hc
    have hnames₀ : Names k (calls.map (·.selected)) s₀ := by
      intro c hc
      rw [hfresh] at hc
      cases hc
    obtain ⟨hs,hnames⟩ := h.keeps hkey hs₀
      (fun c hc _ _ _ hchange => hchange.names (List.mem_map_of_mem hc)) hnames₀
    refine ⟨hs.once,?_,?_⟩
    · intro c s' r hc hr hobserved
      obtain ⟨saved,hsaved,hsuccessor⟩ := (hc.answers hkey hs hr).successor hobserved
      obtain ⟨c₀,hc₀,hselected⟩ := List.mem_map.mp (hnames saved hsaved)
      exact ⟨saved,(hfile s).trans hsaved,hsuccessor,c₀,hc₀,hselected⟩
    · intro saved o hsaved ho later s' hlater
      rw [hfile] at hsaved
      exact hlater.advances hkey hs ⟨saved,o,hsaved,ho,Reaches.refl⟩

end Calls

section Lost

def lostPull : WorkflowPullRequestBinding := ⟨7,"h1","topic","b1","main"⟩

def lostRun (runAttempt : ℕ) (status conclusion : String) (restartRequired : Bool) : CiExecution where
  appId := 15368
  appSlug := "github-actions"
  workflowId := 3
  workflowName := "ci"
  contexts := ["test"]
  restartRequired := restartRequired
  runId := 40
  runAttempt := runAttempt
  checkSuiteId := 9
  pullRequest := lostPull
  event := "pull_request"
  status := status
  conclusion := conclusion

def lostFailed : CiExecution := lostRun 1 "completed" "failure" true

def lostRetry : CiExecution := lostRun 2 "in_progress" "" false

def lostBinding : DispatchBinding := ⟨⟨"cara","vans"⟩,lostPull,[7],3⟩

def lostWire : DispatchWire := ⟨fun _ => .ok [],fun _ => .ok [],fun _ => "00"⟩

def lostResponse : DispatchError where
  category := .timeout
  code := "lost_response"
  message := "the response was lost"

def lostIntent : DispatchCheckpoint := intent lostBinding lostFailed "first" .requested

def lostFresh : Site := ⟨fun _ => none,0⟩

def lostAsked : Site := ⟨(lostFresh.put "ci-start-00" (some lostIntent)).files,1⟩

def lostObserved : Site :=
  lostAsked.put "ci-start-00" (some { lostIntent with observedSuccessor := some lostRetry })

/-- The first call asks and loses the response; the second sees the next attempt. -/
theorem lost_calls : Calls lostWire lostBinding lostFresh
    [⟨lostFailed,"first",some (.error lostResponse)⟩,
      ⟨lostRetry,"second",some (.ok ⟨.successorObserved,"first",none⟩)⟩] lostObserved := by
  have hasked : Happens lostWire lostBinding lostFresh
      ⟨lostFailed,"first",some (.error lostResponse)⟩ lostAsked := by
    apply Happens.returned
    apply Prog.run_of_steps (show Prog.replay _ [.loaded (.ok none),.preflighted (.ok ()),
      .stored (.ok ()),.requested (.error lostResponse)] = some (_,_) from rfl)
    exact .cons (.loaded _ _) (.cons (.preflighted _ _) (.cons (.wrote _ _ _)
      (.cons (.requestLost _ _ (by decide)) (.nil _))))
  have hobserved : Happens lostWire lostBinding lostAsked
      ⟨lostRetry,"second",some (.ok ⟨.successorObserved,"first",none⟩)⟩ lostObserved := by
    apply Happens.returned
    apply Prog.run_of_steps (show Prog.replay _ [.loaded (.ok (some lostIntent)),.stored (.ok ())] =
      some (_,_) from rfl)
    exact .cons (.loaded _ _) (.cons (.wrote _ _ _) (.nil _))
  exact .cons hasked (.cons hobserved (.nil _))

/-- After the lost response nothing but the observed attempt or a later one is answered. -/
theorem dispatch_once_lost : lostObserved.posts ≤ 1 ∧
    ∀ later s',Calls lostWire lostBinding lostObserved later s' → ∀ c ∈ later,∀ r,c.Returned r →
      Reaches c.selected lostRetry := by
  obtain ⟨hposts,_,hlater⟩ := dispatch_once rfl rfl lost_calls
  exact ⟨hposts,hlater _ lostRetry rfl rfl⟩

end Lost

end CiDispatch
end Cara
