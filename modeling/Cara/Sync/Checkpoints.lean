import Cara.Github.StackLandOrder
import Cara.Sync.NativeDrain

/-! One checkout's environment: its durable checkpoint files, which change as requested or
refuse, and the provider, whose Stack calls are runs of the adapter. -/
namespace Cara
namespace Sync

open Github (StackLandCheckpoint StackGeneration Wire Io)
open Prog (Gives Meets Only Uses)

abbrev Files := String → Option StackLandCheckpoint

abbrev Log := List (SyncRequest × SyncAnswer)

def Grew (P : SyncRequest → Prop) (log log' : Log) : Prop :=
  ∃ rows,log' = log ++ rows ∧ ∀ row ∈ rows,P row.1

theorem Grew.single {P : SyncRequest → Prop} {log log' : Log} {request : SyncRequest}
    {answer : SyncAnswer} (h : log' = log ++ [(request,answer)]) (hP : P request) :
    Grew P log log' := ⟨[(request,answer)],h,by simpa using hP⟩

theorem Grew.trans {P : SyncRequest → Prop} {a b c : Log} (h : Grew P a b) (h' : Grew P b c) :
    Grew P a c := by
  obtain ⟨rows,hb,hrows⟩ := h
  obtain ⟨rows',hc,hrows'⟩ := h'
  refine ⟨rows ++ rows',by rw [hc,hb,List.append_assoc],?_⟩
  intro row hrow
  obtain hrow | hrow := List.mem_append.mp hrow
  · exact hrows row hrow
  · exact hrows' row hrow

theorem Grew.isPrefix {P : SyncRequest → Prop} {a b : Log} (h : Grew P a b) : a <+: b := by
  obtain ⟨rows,hb,_⟩ := h
  rw [hb]
  exact List.prefix_append a rows

theorem Grew.mono {P P' : SyncRequest → Prop} {a b : Log} (h : Grew P a b)
    (himp : ∀ q,P q → P' q) : Grew P' a b := by
  obtain ⟨rows,hb,hrows⟩ := h
  exact ⟨rows,hb,fun row hrow => himp _ (hrows row hrow)⟩

/-- An answer of the adapter call: some conversation with the provider ends in the result. -/
def Returns {ε α : Type} (p : Io ε α) (result : α) : Prop :=
  ∃ h, Prog.Run Prog.record p.run [] (some (.ok result)) h

def Refusal : SyncAnswer → Prop
  | .failed _ | .refused _ => True
  | _ => False

/-- The checkpoint that a landing request acts on, with the adapter call that answers it. -/
def landing? (w : Wire) : SyncRequest → Option (StackLandCheckpoint × Io Github.StackLandError StackLandCheckpoint)
  | .nativeStackLandLock repository c => some (c,Github.nativeStackLandLock w repository c)
  | .nativeStackLandSubmit repository c => some (c,Github.nativeStackLandSubmit w repository c)
  | .nativeStackLandPoll repository c => some (c,Github.nativeStackLandPoll w repository c)
  | .nativeStackLandReobserveReleased repository c =>
      some (c,Github.nativeStackLandReobserveReleased w repository c)
  | .nativeStackLandRelease repository c => some (c,Github.nativeStackLandRelease w repository c)
  | _ => none

/-- What the checkpoint files are after a request. A refused write may have happened. -/
def fileStep (files : Files) (refused : Prop) (files' : Files) : SyncRequest → Prop
  | .write key c => files' = Function.update files key (some c) ∨ (refused ∧ files' = files)
  | .remove key => files' = Function.update files key none ∨ (refused ∧ files' = files)
  | _ => files' = files

def Truthful (w : Wire) (files : Files) (request : SyncRequest) (answer : SyncAnswer) : Prop :=
  match request with
  | .load key => answer = .stored (files key)
  | .listKeys => ∃ keys, answer = .keys keys ∧
      ∀ key, key ∈ keys ↔ Text.startsWith key "land-" = true ∧ (files key).isSome = true
  | .nativeStackGeneration repository number => ∃ generation, answer = .generation generation ∧
      Returns (Github.nativeStackGeneration w repository number) generation
  | request => ∀ row ∈ landing? w request, ∃ c, answer = .checkpoint c ∧ Returns row.2 c

structure Site where
  files : Files
  log : Log := []

structure Site.Step (w : Wire) (s : Site) (request : SyncRequest) (answer : SyncAnswer) (s' : Site) :
    Prop where
  files : fileStep s.files (Refusal answer) s'.files request
  log : s'.log = s.log ++ [(request,answer)]
  truthful : Refusal answer ∨ Truthful w s.files request answer

def Free (_ : Site) (_ : SyncRequest) : Prop := True

section Plans

variable (w : Wire) {repository : RepositoryId} {c : StackLandCheckpoint}

/-- The landing call returns a checkpoint of the same plan. -/
def PlanKept (c : StackLandCheckpoint) (p : Io Github.StackLandError StackLandCheckpoint) : Prop :=
  Prog.Calls (fun _ => True) p fun r => ∀ c',r = .ok c' → c'.plan = c.plan

theorem PlanKept.pure {c' : StackLandCheckpoint} (h : c'.plan = c.plan) :
    PlanKept c (Pure.pure c') := by
  intro c'' hc''
  cases hc''
  exact h

theorem PlanKept.throw (e : Github.StackLandError) : PlanKept c (throw e) :=
  fun c' hc' => by cases hc'

theorem PlanKept.bind {ε α : Type} {p : Io ε α} {f : ε → Github.StackLandError}
    {g : α → Io Github.StackLandError StackLandCheckpoint} (hg : ∀ a,PlanKept c (g a)) :
    PlanKept c (Prog.mapError f p >>= g) := by
  apply Prog.Calls.bind (m := fun _ => True)
  · apply Prog.Calls.mono (Prog.Only.mapError (Prog.only_all p))
    intro r _
    cases r with
    | ok a => trivial
    | error e => exact fun c' hc' => by cases hc'
  · exact fun a _ => hg a

theorem PlanKept.validated {p : Io Github.StackLandError StackLandCheckpoint} (h : PlanKept c p) :
    PlanKept c (Prog.ofResult (Github.validateLand w repository c) >>= fun _ => p) := by
  apply Prog.Calls.bind (m := fun _ => True)
  · show Prog.Calls _ (Prog.ofResult _) _
    unfold Prog.Calls
    rw [Prog.holds_ofResult]
    cases Github.validateLand w repository c with
    | ok a => trivial
    | error e => exact fun c' hc' => by cases hc'
  · exact fun _ _ => h

theorem advance_plan (receipt : Github.StackLockedMergeReceipt) :
    (Github.advance w c receipt).plan = c.plan := by
  unfold Github.advance
  cases receipt.merge.status <;> rfl

theorem nativeStackLandLock_plan : PlanKept c (Github.nativeStackLandLock w repository c) := by
  apply PlanKept.validated
  split
  · exact .pure rfl
  · apply PlanKept.bind
    intro receipt
    split
    · exact .throw _
    · exact .pure rfl

theorem nativeStackLandSubmit_plan : PlanKept c (Github.nativeStackLandSubmit w repository c) := by
  apply PlanKept.validated
  split
  · exact .pure rfl
  · split
    · exact .throw _
    · split
      · trivial
      · apply PlanKept.bind
        exact fun receipt => .pure (advance_plan w receipt)

theorem nativeStackLandPoll_plan : PlanKept c (Github.nativeStackLandPoll w repository c) := by
  apply PlanKept.validated
  split
  · exact .pure rfl
  · split
    · apply PlanKept.bind
      exact fun receipt => .pure (advance_plan w receipt)
    · exact .throw _

theorem nativeStackLandReobserveReleased_plan :
    PlanKept c (Github.nativeStackLandReobserveReleased w repository c) := by
  apply PlanKept.validated
  split
  · exact .throw _
  · apply PlanKept.bind
    intro receipt
    split <;> exact .pure rfl

theorem nativeStackLandRelease_plan : PlanKept c (Github.nativeStackLandRelease w repository c) := by
  apply PlanKept.validated
  split
  · exact .pure rfl
  · split
    · apply PlanKept.bind
      exact fun receipt => .pure rfl
    · exact .throw _

/-- Every landing request is answered with a checkpoint of the same plan. -/
theorem landing_plan {request : SyncRequest} {files : Files} {answer : SyncAnswer}
    (htruth : Truthful w files request answer)
    {row : StackLandCheckpoint × Io Github.StackLandError StackLandCheckpoint}
    (hrow : landing? w request = some row) {c' : StackLandCheckpoint}
    (hanswer : answer = .checkpoint c') : c'.plan = row.1.plan := by
  have hkept : PlanKept row.1 row.2 := by
    cases request <;> simp only [landing?,Option.some.injEq,reduceCtorEq] at hrow <;> subst hrow
    · exact nativeStackLandLock_plan w
    · exact nativeStackLandSubmit_plan w
    · exact nativeStackLandPoll_plan w
    · exact nativeStackLandReobserveReleased_plan w
    · exact nativeStackLandRelease_plan w
  have hreturned : ∃ c'',answer = .checkpoint c'' ∧ Returns row.2 c'' := by
    cases request <;> simp only [landing?,Option.some.injEq,reduceCtorEq] at hrow <;>
      exact htruth row (by simp [landing?,hrow])
  obtain ⟨c'',hsame,h,hrun⟩ := hreturned
  rw [hanswer] at hsame
  cases hsame
  exact (hkept.holds (fun _ _ _ => trivial) (fun _ => trivial) []).run hrun |>.2 c' rfl

end Plans

section Rules

variable {w : Wire} {s : Site} {ok : Site → SyncRequest → Prop} {bad : Site → SyncError → Prop}

/-- A call succeeds only on a truthful answer of the expected kind. -/
theorem gives_call {α : Type} {request : SyncRequest} {onError : MutationError → SyncError}
    {value : SyncAnswer → Option α} {post : Site → α → Prop} (hok : ok s request)
    (h : ∀ a s' r,Site.Step w s request a s' → fileStep s.files False s'.files request →
      Truthful w s.files request a → value a = some r → post s' r)
    (hbad : ∀ a s' e,Site.Step w s request a s' → bad s' e) :
    Gives (Site.Step w) ok (call request onError value) post bad s := by
  apply Gives.query hok
  · intro a s' r hstep hdecode
    have hread : value a = some r ∧ ¬ Refusal a := by
      cases a <;> simp_all [Refusal]
    have htruth := hstep.truthful.resolve_left hread.2
    refine h a s' r hstep ?_ htruth hread.1
    have hfiles := hstep.files
    have hrefused : Refusal a = False := eq_false hread.2
    rw [hrefused] at hfiles
    exact hfiles
  · exact fun a s' e hstep _ => hbad a s' e hstep

theorem gives_load {key : String} {post : Site → Option StackLandCheckpoint → Prop}
    (hok : ok s (.load key))
    (h : ∀ s',s'.files = s.files → Grew (· = .load key) s.log s'.log → post s' (s.files key))
    (hbad : ∀ s' e,s'.files = s.files → Grew (· = .load key) s.log s'.log → bad s' e) :
    Gives (Site.Step w) ok (storeCall (.load key) stored?) post bad s := by
  apply gives_call hok
  · intro a s' r hstep hfiles htruth hvalue
    have hanswer : a = .stored (s.files key) := htruth
    rw [hanswer] at hvalue
    cases hvalue
    exact h s' hfiles (.single hstep.log rfl)
  · exact fun a s' e hstep => hbad s' e hstep.files (.single hstep.log rfl)

theorem gives_listKeys {post : Site → List String → Prop} (hok : ok s .listKeys)
    (h : ∀ s' keys,s'.files = s.files →
      (∀ key,key ∈ keys ↔ Text.startsWith key "land-" = true ∧ (s.files key).isSome = true) →
      post s' keys)
    (hbad : ∀ s' e,s'.files = s.files → bad s' e) :
    Gives (Site.Step w) ok (storeCall .listKeys keys?) post bad s := by
  apply gives_call hok
  · intro a s' r hstep hfiles htruth hvalue
    obtain ⟨keys,hanswer,hkeys⟩ := htruth
    rw [hanswer] at hvalue
    cases hvalue
    exact h s' _ hfiles hkeys
  · exact fun a s' e hstep => hbad s' e hstep.files

/-- A save archives the operation's evidence and then writes the file. -/
def Saves (key : String) (c : StackLandCheckpoint) (request : SyncRequest) : Prop :=
  request = .archive (nativeKey c.plan.operationId) c ∨ request = .write key c

/-- A saved checkpoint is what the file holds; a refused save may have left the old one. -/
theorem gives_saveNative {key : String} {c : StackLandCheckpoint} {post : Site → Unit → Prop}
    (harchive : ok s (.archive (nativeKey c.plan.operationId) c))
    (hwrite : ∀ s',s'.files = s.files → Grew (Saves key c) s.log s'.log → ok s' (.write key c))
    (h : ∀ s',s'.files = Function.update s.files key (some c) → Grew (Saves key c) s.log s'.log →
      post s' ())
    (hbad : ∀ s' e,s'.files = s.files ∨ s'.files = Function.update s.files key (some c) →
      Grew (Saves key c) s.log s'.log → bad s' e) :
    Gives (Site.Step w) ok (saveNative key c) post bad s := by
  apply Gives.bind (K := fun s' _ => s'.files = s.files ∧ Grew (Saves key c) s.log s'.log)
  · apply gives_call harchive
    · exact fun a s' r hstep hfiles _ _ => ⟨hfiles,.single hstep.log (.inl rfl)⟩
    · exact fun a s' e hstep => hbad s' e (.inl hstep.files) (.single hstep.log (.inl rfl))
  · intro s₁ _ h₁
    obtain ⟨hsame,hgrew⟩ := h₁
    apply gives_call (hwrite s₁ hsame hgrew)
    · intro a s' r hstep hfiles _ _
      have hsaved : s'.files = Function.update s₁.files key (some c) :=
        hfiles.resolve_right fun hrefused => hrefused.1
      rw [hsame] at hsaved
      exact h s' hsaved (hgrew.trans (.single hstep.log (.inr rfl)))
    · intro a s' e hstep
      have hlog := hgrew.trans (.single hstep.log (.inr rfl))
      obtain hwritten | ⟨_,hkept⟩ := hstep.files
      · exact hbad s' e (.inr (hwritten.trans (by rw [hsame]))) hlog
      · exact hbad s' e (.inl (hkept.trans hsame)) hlog

theorem gives_remove {key : String} {post : Site → Unit → Prop} (hok : ok s (.remove key))
    (h : ∀ s',s'.files = Function.update s.files key none → post s' ())
    (hbad : ∀ s' e,bad s' e) :
    Gives (Site.Step w) ok (storeCall (.remove key) SyncAnswer.done?) post bad s := by
  apply gives_call hok
  · exact fun a s' r _ hfiles _ _ => h s' (hfiles.resolve_right fun hrefused => hrefused.1)
  · exact fun a s' e _ => hbad s' e

/-- A landing call answers with a checkpoint of the same plan and leaves the files alone. -/
theorem gives_landCall {request : SyncRequest}
    {row : StackLandCheckpoint × Io Github.StackLandError StackLandCheckpoint}
    (hrow : landing? w request = some row) {post : Site → StackLandCheckpoint → Prop}
    (hok : ok s request)
    (h : ∀ s' c,s'.files = s.files → s'.log = s.log ++ [(request,.checkpoint c)] →
      c.plan = row.1.plan → Returns row.2 c → post s' c)
    (hbad : ∀ a s' e,s'.files = s.files → s'.log = s.log ++ [(request,a)] → bad s' e) :
    Gives (Site.Step w) ok (storeCall request SyncAnswer.checkpoint?) post bad s := by
  have hframe : ∀ {refused : Prop} {files' : Files},fileStep s.files refused files' request →
      files' = s.files := by
    intro refused files' hfiles
    cases request <;> first | exact hfiles | cases hrow
  apply gives_call hok
  · intro a s' r hstep hfiles htruth hvalue
    have hreturned : ∃ c,a = .checkpoint c ∧ Returns row.2 c := by
      cases request <;> simp only [landing?,Option.some.injEq,reduceCtorEq] at hrow <;>
        exact htruth row (by simp [landing?,hrow])
    obtain ⟨c,hanswer,hreturns⟩ := hreturned
    have hplan := landing_plan w htruth hrow hanswer
    have hlog := hstep.log
    rw [hanswer] at hvalue hlog
    cases hvalue
    exact h s' _ (hframe hfiles) hlog hplan hreturns
  · exact fun a s' e hstep => hbad a s' e (hframe hstep.files) hstep.log

end Rules

section Requests

variable {allowed : SyncRequest → Prop}

theorem call_only {α : Type} {request : SyncRequest} {onError : MutationError → SyncError}
    {value : SyncAnswer → Option α} (h : allowed request) :
    Only allowed (call request onError value) := by
  apply Only.bind (Only.send h)
  intro a
  split
  · exact Only.ofResult _
  · exact Only.crashed

theorem saveNative_only {key : String} {c : StackLandCheckpoint}
    (harchive : allowed (.archive (nativeKey c.plan.operationId) c)) (hwrite : allowed (.write key c)) :
    Only allowed (saveNative key c) :=
  Only.bind (call_only harchive) fun _ => call_only hwrite

def SyncRequest.touches : SyncRequest → Option String
  | .write key _ | .remove key => some key
  | _ => none

theorem Site.Step.spares {w : Wire} {s s' : Site} {request : SyncRequest} {answer : SyncAnswer}
    (h : Site.Step w s request answer s') {key : String} (hspares : request.touches ≠ some key) :
    s'.files key = s.files key := by
  have hfiles := h.files
  cases request <;> first
    | exact congrFun hfiles key
    | (obtain hwritten | ⟨_,hkept⟩ := hfiles
       · rw [hwritten]
         apply Function.update_of_ne
         intro hsame
         exact hspares (by rw [hsame]; rfl)
       · rw [hkept])

end Requests

section Play

/-- The checkpoint directory as a list of files. -/
abbrev Dir := List (String × StackLandCheckpoint)

def Dir.files (d : Dir) : Files := fun key => d.lookup key

def Dir.without (d : Dir) (key : String) : Dir := d.filter fun file => decide (file.1 ≠ key)

/-- The file system answers what it is asked; the provider's part is left to a script. -/
def Dir.answer (d : Dir) : SyncRequest → Option (SyncAnswer × Dir)
  | .load key => some (.stored (d.files key),d)
  | .listKeys => some (.keys ((d.map Prod.fst).filter fun key => Text.startsWith key "land-"),d)
  | .write key c => some (.done,(key,c)::d.without key)
  | .remove key => some (.done,d.without key)
  | .archive .. => some (.done,d)
  | _ => none

/-- A scripted answer is for a request that no adapter call determines. -/
def scripted (w : Wire) : SyncRequest → Bool
  | .nativeStackGeneration .. => false
  | request => (landing? w request).isNone

/-- The run of a process over a directory with scripted provider answers. -/
def playSite {α : Type} (w : Wire) : Prog SyncRequest SyncAnswer α → Dir → List SyncAnswer →
    Option (Option α × Dir × Log)
  | .done a,d,[] => some (some a,d,[])
  | .abort,d,[] => some (none,d,[])
  | .ask q k,d,answers =>
      match d.answer q with
      | some (a,d') => (playSite w (k a) d' answers).map fun r => (r.1,r.2.1,(q,a)::r.2.2)
      | none => match answers with
        | a::answers =>
            if scripted w q then
              (playSite w (k a) d answers).map fun r => (r.1,r.2.1,(q,a)::r.2.2)
            else none
        | [] => none
  | _,_,_ => none

variable {w : Wire} {d d' : Dir}

theorem Dir.lookup_without (d : Dir) (key key' : String) :
    (d.without key).lookup key' = if key' = key then none else d.lookup key' := by
  induction d with
  | nil => simp [Dir.without]
  | cons file d ih =>
    unfold Dir.without at ih ⊢
    by_cases hfile : file.1 = key
    · rw [List.filter_cons_of_neg (by simp [hfile]),ih]
      by_cases hkey : key' = key
      · simp [hkey]
      · rw [if_neg hkey,if_neg hkey,List.lookup_cons,hfile,beq_false_of_ne hkey]
    · rw [List.filter_cons_of_pos (by simp [hfile]),List.lookup_cons,List.lookup_cons,ih]
      by_cases hkey : key' = key
      · rw [hkey,if_pos rfl,if_pos rfl,beq_false_of_ne fun h : key = file.1 => hfile h.symm]
      · rw [if_neg hkey,if_neg hkey]

theorem Dir.lookup_isSome (d : Dir) (key : String) :
    (d.lookup key).isSome = true ↔ key ∈ d.map Prod.fst := by
  induction d with
  | nil => simp
  | cons file d ih =>
    rw [List.lookup_cons]
    by_cases hkey : key = file.1
    · simp [hkey]
    · rw [beq_false_of_ne hkey]
      simp [hkey,ih]

theorem Dir.answer_step {request : SyncRequest} {answer : SyncAnswer}
    (h : d.answer request = some (answer,d')) (log : Log) :
    Site.Step w ⟨d.files,log⟩ request answer ⟨d'.files,log ++ [(request,answer)]⟩ := by
  cases request <;> simp only [Dir.answer,Option.some.injEq,Prod.mk.injEq,reduceCtorEq] at h <;>
    obtain ⟨rfl,rfl⟩ := h
  case load key => exact ⟨rfl,rfl,.inr rfl⟩
  case listKeys =>
    refine ⟨rfl,rfl,.inr ⟨_,rfl,?_⟩⟩
    intro key
    show _ ↔ _ ∧ (d.lookup key).isSome = true
    rw [Dir.lookup_isSome,List.mem_filter]
    exact and_comm
  case write key c =>
    refine ⟨.inl ?_,rfl,.inr fun row hrow => by cases hrow⟩
    funext key'
    show List.lookup key' ((key,c)::d.without key) = _
    rw [List.lookup_cons,Dir.lookup_without,Function.update_apply]
    by_cases hkey : key' = key
    · simp [hkey]
    · rw [beq_false_of_ne hkey,if_neg hkey,if_neg hkey]
      rfl
  case archive => exact ⟨rfl,rfl,.inr fun row hrow => by cases hrow⟩
  case remove key =>
    refine ⟨.inl ?_,rfl,.inr fun row hrow => by cases hrow⟩
    funext key'
    show List.lookup key' (d.without key) = _
    rw [Dir.lookup_without,Function.update_apply]
    by_cases hkey : key' = key <;> simp [hkey,Dir.files]

theorem scripted_step {request : SyncRequest} (h : scripted w request = true)
    (hanswer : d.answer request = none) (answer : SyncAnswer) (log : Log) :
    Site.Step w ⟨d.files,log⟩ request answer ⟨d.files,log ++ [(request,answer)]⟩ := by
  have hnone : landing? w request = none := by
    cases request <;> first | rfl | simpa [scripted] using h
  refine ⟨?_,rfl,.inr ?_⟩
  · cases request <;> first | rfl | simp [Dir.answer] at hanswer
  · cases request
    case nativeStackGeneration => cases h
    case load => cases hanswer
    case listKeys => cases hanswer
    all_goals exact fun row hrow => by rw [hnone] at hrow; cases hrow

theorem run_of_playSite {α : Type} {p : Prog SyncRequest SyncAnswer α} {answers : List SyncAnswer}
    {r : Option α} {log : Log} (h : playSite w p d answers = some (r,d',log)) (past : Log) :
    Prog.Run (Site.Step w) p ⟨d.files,past⟩ r ⟨d'.files,past ++ log⟩ := by
  induction p generalizing d answers r log past with
  | done a =>
    cases answers with
    | nil =>
      cases h
      rw [List.append_nil]
      exact .done a _
    | cons _ _ => cases h
  | abort =>
    cases answers with
    | nil =>
      cases h
      rw [List.append_nil]
      exact .abort _
    | cons _ _ => cases h
  | ask q k ih =>
    unfold playSite at h
    split at h
    case h_1 a d₁ hanswer =>
      obtain ⟨⟨r₁,d₂,log₁⟩,hrest,hresult⟩ := Option.map_eq_some_iff.mp h
      cases hresult
      have hrun := ih a hrest (past ++ [(q,a)])
      rw [List.append_assoc] at hrun
      exact .ask (Dir.answer_step hanswer past) hrun
    case h_2 hanswer =>
      cases answers with
      | nil => cases h
      | cons a answers =>
        dsimp only at h
        split at h
        case isTrue hscripted =>
          obtain ⟨⟨r₁,d₂,log₁⟩,hrest,hresult⟩ := Option.map_eq_some_iff.mp h
          cases hresult
          have hrun := ih a hrest (past ++ [(q,a)])
          rw [List.append_assoc] at hrun
          exact .ask (scripted_step hscripted hanswer a past) hrun
        · cases h

end Play

end Sync
end Cara
