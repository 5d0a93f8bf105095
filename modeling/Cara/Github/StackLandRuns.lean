import Cara.Github.StackLandOrder
import Mathlib.Logic.Relation

/-! Safety of the landing order over every run: a run calls the landing operations in any
order on checkpoints that earlier calls returned, with any provider answers. -/
namespace Cara
namespace Github

open Prog (record)

variable (w : Wire) {repository : RepositoryId}

inductive LandCall where
  | lock
  | markSubmitting
  | submit
  | poll
  | abandonUncertainSubmission
  | release
  | reobserveReleased
deriving DecidableEq

def LandCall.prog (repository : RepositoryId) (c : StackLandCheckpoint) :
    LandCall → Io StackLandError StackLandCheckpoint
  | .lock => nativeStackLandLock w repository c
  | .markSubmitting => Prog.ofResult (nativeStackLandMarkSubmitting w repository c)
  | .submit => nativeStackLandSubmit w repository c
  | .poll => nativeStackLandPoll w repository c
  | .abandonUncertainSubmission =>
      Prog.ofResult (nativeStackLandAbandonUncertainSubmission w repository c)
  | .release => nativeStackLandRelease w repository c
  | .reobserveReleased => nativeStackLandReobserveReleased w repository c

theorem landRule_prog (repository : RepositoryId) {c : StackLandCheckpoint}
    (h : LandInvariant w c) (call : LandCall) :
    LandRule w c (call.prog w repository c) := by
  cases call with
  | lock => exact landRule_lock w h
  | markSubmitting => exact landRule_markSubmitting w h
  | submit => exact landRule_submit w h
  | poll => exact landRule_poll w h
  | abandonUncertainSubmission => exact landRule_abandon w h
  | release => exact landRule_release w h
  | reobserveReleased => exact landRule_reobserveReleased w h

structure LandEvent where
  repository : RepositoryId
  call : LandCall
  input : StackLandCheckpoint
  conversation : Conversation
  result : Option (Except StackLandError StackLandCheckpoint)

inductive LandEvent.Occurs (e : LandEvent) : Prop
  | completed : Prog.Run record (e.call.prog w e.repository e.input).run [] e.result e.conversation →
      e.Occurs
  | stopped {r : Option (Except StackLandError StackLandCheckpoint)} {h : Conversation} :
      Prog.Run record (e.call.prog w e.repository e.input).run [] r h → e.conversation <+: h →
      e.result = none → e.Occurs

def LandEvent.returned (e : LandEvent) : List StackLandCheckpoint :=
  match e.result with
  | some (.ok c) => [c]
  | _ => []

/-- Transactions begin at any time, and any call is made on any checkpoint returned so far.
Events stand newest first. -/
inductive LandRun : List LandEvent → List StackLandCheckpoint → Prop
  | start : LandRun [] []
  | begin {events : List LandEvent} {known : List StackLandCheckpoint} (repository : RepositoryId)
      (plan : StackAsyncMergePlan) : LandRun events known →
      LandRun events (nativeStackLandBegin w repository plan::known)
  | call {events : List LandEvent} {known : List StackLandCheckpoint} (e : LandEvent) :
      LandRun events known → e.input ∈ known → e.Occurs w → LandRun (e::events) (e.returned ++ known)

/-- The checkpoint was returned by calls that started from the other. -/
def Descends (events : List LandEvent) : StackLandCheckpoint → StackLandCheckpoint → Prop :=
  Relation.ReflTransGen fun c c' => ∃ e ∈ events, e.input = c ∧ e.result = some (.ok c')

theorem LandEvent.Occurs.returned {e : LandEvent} (h : e.Occurs w) {c' : StackLandCheckpoint}
    (hinv : LandInvariant w e.input) (hresult : e.result = some (.ok c')) :
    LandInvariant w c' ∧ LandStep e.input c' := by
  cases h with
  | completed hrun =>
    rw [hresult] at hrun
    exact (landRule_prog w e.repository hinv e.call []).run hrun c' rfl
  | stopped _ _ hnone =>
    rw [hresult] at hnone
    cases hnone

theorem LandEvent.Occurs.permitted {e : LandEvent} (h : e.Occurs w)
    (hinv : LandInvariant w e.input) {before after : Conversation} {command : Command}
    {response : Response} (hsplit : e.conversation = before ++ (command,response)::after) :
    Permitted w e.input before command := by
  have hrule := landRule_prog w e.repository hinv e.call []
  cases h with
  | completed hrun =>
    have hat := hrule.requests hrun before (by simpa using hsplit)
    simpa using hat
  | stopped hrun hshort _ =>
    obtain ⟨rest,hrest⟩ := hshort
    rw [hsplit] at hrest
    have hat := hrule.requests hrun before (by simpa using hrest.symm)
    simpa using hat

theorem LandRun.invariant {events : List LandEvent} {known : List StackLandCheckpoint}
    (h : LandRun w events known) :
    (∀ c ∈ known, LandInvariant w c) ∧ ∀ e ∈ events, e.Occurs w ∧ LandInvariant w e.input := by
  induction h with
  | start => simp
  | begin repository plan _ ih =>
    refine ⟨?_,ih.2⟩
    intro c hc
    obtain hc | hc := List.mem_cons.mp hc
    · rw [hc]
      exact landInvariant_begin w repository plan
    · exact ih.1 c hc
  | call e _ hinput hoccurs ih =>
    have hinv := ih.1 e.input hinput
    constructor
    · intro c hc
      obtain hc | hc := List.mem_append.mp hc
      · unfold LandEvent.returned at hc
        split at hc
        case h_1 c' hresult =>
          rw [List.mem_singleton.mp hc]
          exact (hoccurs.returned w hinv hresult).1
        · simp at hc
      · exact ih.1 c hc
    · intro e' he'
      obtain he' | he' := List.mem_cons.mp he'
      · rw [he']
        exact ⟨hoccurs,hinv⟩
      · exact ih.2 e' he'

/-- Along a line of descent the phase never falls, the transaction keeps its repository and
plan, and a released landing or rejection keeps its status. -/
theorem Descends.step {events : List LandEvent} {known : List StackLandCheckpoint}
    (h : LandRun w events known) {c c' : StackLandCheckpoint} (hd : Descends events c c') :
    LandStep c c' := by
  induction hd with
  | refl => exact .refl c
  | tail _ hlast ih =>
    obtain ⟨e,he,hinput,hresult⟩ := hlast
    obtain ⟨hoccurs,hinv⟩ := (h.invariant w).2 e he
    have hstep := (hoccurs.returned w hinv hresult).2
    rw [hinput] at hstep
    exact ih.trans hstep

structure LandSafe (events : List LandEvent) (known : List StackLandCheckpoint) : Prop where
  verified : ∀ c ∈ known, c.verify w = true
  ordered : ∀ c c', Descends events c c' →
    c.phase.rank ≤ c'.phase.rank ∧ c'.repository = c.repository ∧ c'.plan = c.plan
  settled : ∀ c c', Descends events c c' → c.phase = .released →
    c.terminalStatus = some .merged ∨ c.terminalStatus = some .failed →
    c'.terminalStatus = c.terminalStatus
  /-- The lock is deleted from the terminal phase, never on a line that was released, and only
  right after a read in the same call that shows it unchanged. -/
  deletes : ∀ e ∈ events, ∀ before repository id response after,
    e.conversation = before ++ (.deleteRuleset repository id,response)::after →
    e.input.phase = .terminal ∧ repository = e.input.repository ∧
      (∃ lock, e.input.branchLock = some lock ∧ id = lock.id ∧
        LockRead w e.input.repository lock before) ∧
      ∀ c, Descends events c e.input → c.phase ≠ .released
  /-- A merge is submitted from the marker under a freshly read lock on every source ref. -/
  submits : ∀ e ∈ events, ∀ before repository pr sha method action response after,
    e.conversation = before ++
      (.nativeStackMergeSubmit repository pr sha method action,response)::after →
    e.input.phase = .submitting ∧ repository = e.input.repository ∧
      ∃ lock, e.input.branchLock = some lock ∧ LockCovers e.input.plan lock ∧
        LockRead w e.input.repository lock before

/-- Every run of landing calls, in any order and with any provider answers, is safe. -/
theorem landRun_safe {events : List LandEvent} {known : List StackLandCheckpoint}
    (h : LandRun w events known) : LandSafe w events known where
  verified c hc := ((h.invariant w).1 c hc).verified
  ordered c c' hd := by
    have hstep := hd.step w h
    exact ⟨hstep.phase_le,hstep.repository_eq,hstep.plan_eq⟩
  settled c c' hd := (hd.step w h).settled
  deletes e he before repository id response after hsplit := by
    obtain ⟨hoccurs,hinv⟩ := (h.invariant w).2 e he
    obtain ⟨hphase,hrepository,hlock⟩ := hoccurs.permitted w hinv hsplit
    refine ⟨hphase,hrepository,hlock,?_⟩
    intro c hd hreleased
    have hlast := (hd.step w h).released hreleased
    rw [hphase] at hlast
    cases hlast
  submits e he before repository pr sha method action response after hsplit := by
    obtain ⟨hoccurs,hinv⟩ := (h.invariant w).2 e he
    exact hoccurs.permitted w hinv hsplit

/-- Calls with scripted answers, each on the newest checkpoint. -/
def playLand (repository : RepositoryId) :
    List (LandCall × List Response) → List LandEvent × List StackLandCheckpoint →
      Option (List LandEvent × List StackLandCheckpoint)
  | [],s => some s
  | (call,answers)::script,s => do
      let input ← s.2.head?
      let (result,conversation) ← (call.prog w repository input).run.replay answers
      let e : LandEvent := ⟨repository,call,input,conversation,result⟩
      playLand repository script (e::s.1,e.returned ++ s.2)

theorem landRun_of_playLand {repository : RepositoryId} (script : List (LandCall × List Response))
    {s s' : List LandEvent × List StackLandCheckpoint} (hs : LandRun w s.1 s.2)
    (h : playLand w repository script s = some s') : LandRun w s'.1 s'.2 := by
  induction script generalizing s with
  | nil =>
    cases h
    exact hs
  | cons step script ih =>
    obtain ⟨input,hinput,h⟩ := Option.bind_eq_some_iff.mp h
    obtain ⟨⟨result,conversation⟩,hreplay,h⟩ := Option.bind_eq_some_iff.mp h
    apply ih (s := (_,_)) _ h
    apply LandRun.call _ hs (List.mem_of_mem_head? hinput)
    exact .completed (Prog.run_of_replay hreplay [])

section Example

def landLockName : String := "cara-stack-merge-lock-fnv1a64:a9c6ddb0d8e054d2"

def landRulesetText : String :=
  "\x7b\"id\":7,\"node_id\":\"RRS_7\",\"name\":\"" ++ landLockName ++
    "\",\"target\":\"branch\",\"source_type\":\"Repository\",\"source\":\"octo/repo\"," ++
    "\"enforcement\":\"active\",\"conditions\":\x7b\"ref_name\":\x7b\"include\":" ++
    "[\"refs/heads/feature\"],\"exclude\":[]\x7d\x7d,\"rules\":[\x7b\"type\":\"update\"\x7d," ++
    "\x7b\"type\":\"deletion\"\x7d],\"bypass_actors\":[],\"current_user_can_bypass\":\"never\"," ++
    "\"created_at\":\"2026-01-01T00:00:00Z\",\"updated_at\":\"2026-01-01T00:00:00Z\"\x7d"

def landRulesetsText : String :=
  "[\x7b\"id\":7,\"name\":\"" ++ landLockName ++ "\"\x7d]"

def landDocuments : Documents where
  rulesetLists := [("[]",[]),(landRulesetsText,[⟨7,landLockName⟩])]
  rulesets := [(landRulesetText,singleRuleset landLockName)]

/-- Acquire the lock, lose the process at the marker, abandon the submission and release. -/
def landScript : List (LandCall × List Response) :=
  [(.lock,[.ok ⟨some 0,"[]",""⟩,.ok ⟨some 0,landRulesetText,""⟩,.ok ⟨some 0,landRulesetsText,""⟩,
      .ok ⟨some 0,landRulesetText,""⟩]),
    (.markSubmitting,[]),
    (.abandonUncertainSubmission,[]),
    (.release,[.ok ⟨some 0,landRulesetText,""⟩,.ok ⟨some 0,"",""⟩,
      .ok ⟨some 1,"","gh: Not Found (HTTP 404)"⟩,.ok ⟨some 0,"[]",""⟩])]

def issued (events : List LandEvent) : List Command :=
  events.reverse.flatMap fun e => e.conversation.map Prod.fst

theorem landRun_safe_abandoned : ∃ events known, LandSafe landDocuments.wire events known ∧
    Command.deleteRuleset ⟨"octo","repo"⟩ 7 ∈ issued events ∧
    known.head?.map StackLandCheckpoint.phase = some .released := by
  have hplayed : ((playLand landDocuments.wire ⟨"octo","repo"⟩ landScript
      ([],[nativeStackLandBegin landDocuments.wire ⟨"octo","repo"⟩ singlePlan])).any fun s =>
      decide (Command.deleteRuleset ⟨"octo","repo"⟩ 7 ∈ issued s.1 ∧
        s.2.head?.map StackLandCheckpoint.phase = some .released)) = true := by
    decide +kernel
  obtain ⟨⟨events,known⟩,hplay,hlast⟩ := (Option.any_eq_true _ _).mp hplayed
  exact ⟨events,known,landRun_safe _ (landRun_of_playLand _ landScript (.begin _ _ .start) hplay),
    of_decide_eq_true hlast⟩

end Example

end Github
end Cara
