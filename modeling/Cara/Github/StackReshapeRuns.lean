import Cara.Github.StackReshapeCalls
import Mathlib.Logic.Relation

/-! Resuming the native-Stack rebuild: a run calls the reshape steps in any order on
checkpoints that earlier calls returned, with any provider answers and with the process lost
anywhere. -/
namespace Cara
namespace Github

open Prog (Yields Leaves)

section Runs

variable (w : ReshapeWire)

structure ReshapeEvent where
  repository : RepositoryId
  call : ReshapeCall
  input : StackReshapeCheckpoint
  conversation : Conversation
  result : Option (Except StackReshapeError StackReshapeCheckpoint)

def ReshapeEvent.returned (e : ReshapeEvent) : List StackReshapeCheckpoint :=
  match e.result with
  | some (.ok c) => [c]
  | _ => []

/-- Transactions begin with a preflight at any time, and any call is made on any checkpoint
returned so far. Events stand newest first. -/
inductive ReshapeRun : List ReshapeEvent → List StackReshapeCheckpoint → Prop
  | start : ReshapeRun [] []
  | preflight {events : List ReshapeEvent} {known : List StackReshapeCheckpoint}
      {repository : RepositoryId} {plan : StackReshapePlan} {t : Conversation}
      {c : StackReshapeCheckpoint} : ReshapeRun events known →
      Yields (nativeStackReshapePreflight w repository plan) t (.ok c) → ReshapeRun events (c::known)
  | call {events : List ReshapeEvent} {known : List StackReshapeCheckpoint} (e : ReshapeEvent) :
      ReshapeRun events known → e.input ∈ known →
      Leaves (e.call.prog w e.repository e.input) e.conversation e.result →
      ReshapeRun (e::events) (e.returned ++ known)

/-- The provider answers of a rebuild never show a converged Stack that is not the chain. -/
def ReshapeEvent.Exact (e : ReshapeEvent) : Prop :=
  e.call = .rebuildNext → ExactStacks w e.repository e.input e.conversation

/-- The checkpoint was returned by calls that started from the other. -/
def ReshapeDescends (events : List ReshapeEvent) :
    StackReshapeCheckpoint → StackReshapeCheckpoint → Prop :=
  Relation.ReflTransGen fun c c' => ∃ e ∈ events, e.input = c ∧ e.result = some (.ok c')

structure ReshapeResumable (events : List ReshapeEvent) (known : List StackReshapeCheckpoint) :
    Prop where
  verified : ∀ c ∈ known, c.verify w = true
  ordered : ∀ e ∈ events, ∀ c', e.result = some (.ok c') →
    c' = e.input ∨ c'.phase ∈ e.input.phase.next ∧ c'.plan = e.input.plan ∧
      e.input.replacementReceipts <+: c'.replacementReceipts
  receipts : ∀ c ∈ known, ReceiptsInOrder c
  /-- A call made again on a checkpoint that came after it returns that checkpoint without
  any request, where a rebuild counts as made once the last chain has its receipt. -/
  replays : ∀ e ∈ events, ∀ c c', e.result = some (.ok c) → ReshapeDescends events c c' →
    (e.call = .rebuildNext → c'.phase ≠ .rebuilding) →
    e.call.prog w e.repository c' = pure c'
  /-- The Stack is dissolved from the preflight alone and a rebuild creates the first chain
  without a receipt; nothing else is written. -/
  writes : ∀ e ∈ events, ∀ row ∈ e.conversation, e.call.Writes e.repository e.input row.1

variable {events : List ReshapeEvent} {known : List StackReshapeCheckpoint}

theorem ReshapeEvent.mem_returned {e : ReshapeEvent} {c : StackReshapeCheckpoint} :
    c ∈ e.returned ↔ e.result = some (.ok c) := by
  unfold ReshapeEvent.returned
  split
  case h_1 c' hresult =>
    rw [hresult,List.mem_singleton]
    simp [eq_comm]
  case h_2 hnone =>
    constructor
    · intro h
      cases h
    · intro h
      exact absurd h (hnone c)

/-- Every event of a run left its conversation, started from a known checkpoint and made its
result known; every known checkpoint of an exact run verifies. -/
theorem ReshapeRun.invariant (h : ReshapeRun w events known) (hexact : ∀ e ∈ events, e.Exact w) :
    (∀ c ∈ known, c.verify w = true) ∧
    ∀ e ∈ events, Leaves (e.call.prog w e.repository e.input) e.conversation e.result ∧
      e.input.verify w = true ∧ ∀ c, e.result = some (.ok c) → c ∈ known := by
  induction h with
  | start => simp
  | preflight _ hpreflight ih =>
    obtain ⟨hknown,hevents⟩ := ih hexact
    constructor
    · intro c hc
      obtain hc | hc := List.mem_cons.mp hc
      · rw [hc]
        exact preflight_yields w hpreflight
      · exact hknown c hc
    · intro e he
      obtain ⟨hleaves,hinput,hresult⟩ := hevents e he
      exact ⟨hleaves,hinput,fun c hc => List.mem_cons_of_mem _ (hresult c hc)⟩
  | call e _ hinput hleaves ih =>
    obtain ⟨hknown,hevents⟩ := ih fun e' he' => hexact e' (List.mem_cons_of_mem _ he')
    constructor
    · intro c hc
      obtain hc | hc := List.mem_append.mp hc
      · have hresult := ReshapeEvent.mem_returned.mp hc
        rw [hresult] at hleaves
        obtain ⟨_,hverify,hstep,_⟩ := ReshapeCall.yields w hleaves.yields (hexact e (by simp))
        exact hstep.verify w hverify
      · exact hknown c hc
    · intro e' he'
      obtain he' | he' := List.mem_cons.mp he'
      · rw [he']
        exact ⟨hleaves,hknown e.input hinput,fun c hc =>
          List.mem_append_left _ (ReshapeEvent.mem_returned.mpr hc)⟩
      · obtain ⟨hleaves',hinput',hresult'⟩ := hevents e' he'
        exact ⟨hleaves',hinput',fun c hc => List.mem_append_right _ (hresult' c hc)⟩

theorem ReshapeDescends.done (h : ReshapeRun w events known) (hexact : ∀ e ∈ events, e.Exact w)
    {c c' : StackReshapeCheckpoint} (hd : ReshapeDescends events c c') (hc : c ∈ known)
    {call : ReshapeCall} (hdone : call.Done c) :
    c' ∈ known ∧ call.Done c' ∧ c'.repository = c.repository := by
  induction hd with
  | refl => exact ⟨hc,hdone,rfl⟩
  | tail _ hlast ih =>
    obtain ⟨e,he,hinput,hresult⟩ := hlast
    obtain ⟨_,hmiddle,hrepository⟩ := ih
    obtain ⟨hleaves,_,hknown⟩ := (h.invariant w hexact).2 e he
    rw [hresult] at hleaves
    obtain ⟨_,_,hstep,_⟩ := ReshapeCall.yields w hleaves.yields (hexact e he)
    rw [hinput] at hstep
    exact ⟨hknown _ hresult,hstep.done w hmiddle,(hstep.repository_eq w).trans hrepository⟩

/-- Every run whose rebuilds only meet exact Stacks is resumable, in any order of calls, with
any answers and with the process lost anywhere. -/
theorem reshapeRun_resumable (h : ReshapeRun w events known) (hexact : ∀ e ∈ events, e.Exact w) :
    ReshapeResumable w events known where
  verified := (h.invariant w hexact).1
  ordered e he c' hresult := by
    obtain ⟨hleaves,_,_⟩ := (h.invariant w hexact).2 e he
    rw [hresult] at hleaves
    exact (ReshapeCall.yields w hleaves.yields (hexact e he)).2.2.1.ordered
  receipts c hc :=
    (reshapeSound_of_verify w ((h.invariant w hexact).1 c hc)).receiptsInOrder
  replays e he c c' hresult hd hlast := by
    obtain ⟨hleaves,_,hknown⟩ := (h.invariant w hexact).2 e he
    rw [hresult] at hleaves
    obtain ⟨hrepository,_,hstep,hdone⟩ := ReshapeCall.yields w hleaves.yields (hexact e he)
    obtain ⟨hmem,hdone',hsame⟩ := hd.done w h hexact (hknown c hresult) hdone
    have hverify := (h.invariant w hexact).1 c' hmem
    have hchain : c'.repository = e.repository := by
      rw [hsame,hstep.repository_eq w,hrepository]
    rw [← hchain]
    exact hdone'.prog_eq w hverify hlast
  writes e he := by
    obtain ⟨hleaves,_,_⟩ := (h.invariant w hexact).2 e he
    exact (ReshapeCall.prog_writes w e.repository e.input e.call).left hleaves

end Runs

section Script

variable (w : ReshapeWire)

/-- `ExactStacks` by following the read of the next chain from every point on. -/
def exactStacks (repository : RepositoryId) (c : StackReshapeCheckpoint) (t : Conversation) :
    Bool :=
  match (providerReplacementChains c.plan)[c.replacementReceipts.length]? with
  | none => true
  | some chain => t.tails.all fun rest =>
      match (rediscoverTopology w.toWire repository chain).run.follow rest with
      | some (.ok (some g),_) =>
          !providerConvergedCreateTopology chain g.topology || decide (g.topology = chain)
      | _ => true

theorem exactStacks_sound {repository : RepositoryId} {c : StackReshapeCheckpoint}
    {t : Conversation} (h : exactStacks w repository c t = true) : ExactStacks w repository c t := by
  intro chain g hchain hobserved hconverged
  obtain ⟨before,u,after,ht,hread⟩ := hobserved
  unfold exactStacks at h
  rw [hchain] at h
  have htail : u ++ after ∈ t.tails := by
    rw [List.mem_tails,ht]
    exact List.suffix_append _ _
  have hrow := List.all_eq_true.mp h _ htail
  rw [hread.follow after] at hrow
  simpa [hconverged] using hrow

/-- Calls with scripted answers, each on the newest checkpoint. -/
def playReshape (repository : RepositoryId) :
    List (ReshapeCall × List Response) → List ReshapeEvent × List StackReshapeCheckpoint →
      Option (List ReshapeEvent × List StackReshapeCheckpoint)
  | [],s => some s
  | (call,answers)::script,s => do
      let input ← s.2.head?
      let (result,conversation) ← (call.prog w repository input).run.replay answers
      let e : ReshapeEvent := ⟨repository,call,input,conversation,result⟩
      playReshape repository script (e::s.1,e.returned ++ s.2)

/-- A scripted transaction: the preflight of a plan, then the calls. -/
def playTransaction (plan : StackReshapePlan) (preflight : List Response)
    (script : List (ReshapeCall × List Response)) :
    Option (List ReshapeEvent × List StackReshapeCheckpoint) :=
  match (nativeStackReshapePreflight w plan.repository plan).run.replay preflight with
  | some (some (.ok c),_) => playReshape w plan.repository script ([],[c])
  | _ => none

theorem reshapeRun_of_playReshape {repository : RepositoryId}
    (script : List (ReshapeCall × List Response))
    {s s' : List ReshapeEvent × List StackReshapeCheckpoint} (hs : ReshapeRun w s.1 s.2)
    (h : playReshape w repository script s = some s') : ReshapeRun w s'.1 s'.2 := by
  induction script generalizing s with
  | nil =>
    cases h
    exact hs
  | cons step script ih =>
    obtain ⟨input,hinput,h⟩ := Option.bind_eq_some_iff.mp h
    obtain ⟨⟨result,conversation⟩,hreplay,h⟩ := Option.bind_eq_some_iff.mp h
    apply ih (s := (_,_)) _ h
    apply ReshapeRun.call _ hs (List.mem_of_mem_head? hinput)
    cases result with
    | none =>
      obtain ⟨u,hu,hconverses⟩ := Prog.converses_of_run (Prog.run_of_replay hreplay [])
      have ht : conversation = u := by simpa using hu
      exact .stopped hconverses (ht ▸ List.prefix_rfl)
    | some r => exact .completed (Prog.yields_of_replay hreplay)

theorem reshapeRun_of_playTransaction {plan : StackReshapePlan} {preflight : List Response}
    {script : List (ReshapeCall × List Response)}
    {s : List ReshapeEvent × List StackReshapeCheckpoint}
    (h : playTransaction w plan preflight script = some s) : ReshapeRun w s.1 s.2 := by
  unfold playTransaction at h
  split at h
  case h_1 c t hreplay =>
    exact reshapeRun_of_playReshape w script (.preflight .start (Prog.yields_of_replay hreplay)) h
  · cases h

end Script

section Example

/-- The documents of these texts, with the reshape records represented by their operation
identity. -/
def Documents.reshapeWire (d : Documents) : ReshapeWire where
  toWire := d.wire
  reshapePlan p := asciiBytes p.operationId
  reshapeCheckpoint c := asciiBytes c.plan.operationId

def evictRow (number : PrNumber) (base head : BranchSnapshot) (label : String) :
    PullRequestJson where
  number := number
  state := .open
  isDraft := false
  headRefName := head.name
  headRefOid := head.oid
  headRepositoryNameWithOwner := some "octo/repo"
  headRepositoryName := some "repo"
  headRepositoryOwner := some "octo"
  isCrossRepository := false
  baseRefName := base.name
  baseRefOid := base.oid
  mergedAt := none
  labels := [label]

def evictText (row : PullRequestJson) : String :=
  "\x7b\"number\":" ++ toString row.number ++ ",\"title\":\"Feature\",\"body\":\"\"," ++
    "\"state\":\"OPEN\",\"isDraft\":false,\"headRefName\":\"" ++ row.headRefName ++
    "\",\"headRefOid\":\"" ++ row.headRefOid ++ "\",\"headRepository\":" ++
    "\x7b\"nameWithOwner\":\"octo/repo\",\"name\":\"repo\"\x7d,\"headRepositoryOwner\":" ++
    "\x7b\"login\":\"octo\"\x7d,\"isCrossRepository\":false,\"baseRefName\":\"" ++
    row.baseRefName ++ "\",\"baseRefOid\":\"" ++ row.baseRefOid ++ "\",\"labels\":[\x7b\"name\":" ++
    "\"" ++ ", ".intercalate row.labels ++ "\"\x7d],\"autoMergeRequest\":null," ++
    "\"statusCheckRollup\":[],\"createdAt\":\"2026-01-01T00:00:00Z\",\"mergedAt\":null," ++
    "\"url\":\"\",\"updatedAt\":\"2026-01-01T00:00:00Z\"\x7d"

def evictBranch (name oid : String) : BranchSnapshot := ⟨⟨"octo","repo"⟩,name,oid⟩

def evictEntry (position : ℕ) (pr : PrNumber) (base head : BranchSnapshot) :
    StackEntryGeneration where
  position := position
  pr := pr
  stackState := "open"
  pullRequestState := .open
  draft := false
  base := base
  head := head

def evictBefore : StackGeneration where
  id := 70
  number := 1
  nodeId := "STK_1"
  isOpen := true
  createdAt := "2026-01-01T00:00:00Z"
  topology := ⟨evictBranch "main" "c0",[
    evictEntry 0 11 (evictBranch "main" "c0") (evictBranch "first" "a1"),
    evictEntry 1 12 (evictBranch "first" "a1") (evictBranch "second" "a2"),
    evictEntry 2 13 (evictBranch "second" "a2") (evictBranch "third" "a3")]⟩

def evictChain : StackTopology := ⟨evictBranch "main" "c0",[
  evictEntry 0 11 (evictBranch "main" "c0") (evictBranch "first" "a1"),
  evictEntry 1 13 (evictBranch "first" "a1") (evictBranch "third" "a3")]⟩

def evictSnapshot (id number : ℕ) (members : List (PrNumber × BranchSnapshot)) : StackSnapshot where
  id := id
  number := number
  nodeId := "STK_" ++ toString number
  baseRef := "main"
  isOpen := true
  createdAt := "2026-01-01T00:00:00Z"
  pullRequests := members.map fun row => {
    number := row.1
    state := "open"
    draft := false
    head := ⟨row.2.name,row.2.oid⟩ }

def evictSnapshotText (s : StackSnapshot) : String :=
  "\x7b\"id\":" ++ toString s.id ++ ",\"number\":" ++ toString s.number ++ ",\"pull_requests\":[" ++
    ",".intercalate (s.pullRequests.map fun row => "\x7b\"number\":" ++ toString row.number ++
      ",\"state\":\"open\",\"head\":\x7b\"ref\":\"" ++ row.head.refName ++ "\",\"sha\":\"" ++
      row.head.sha ++ "\"\x7d\x7d") ++ "]\x7d"

def evictOriginal : StackSnapshot := evictSnapshot 70 1
  [(11,evictBranch "first" "a1"),(12,evictBranch "second" "a2"),(13,evictBranch "third" "a3")]

def evictReplacement (tail : String) : StackSnapshot := evictSnapshot 71 2
  [(11,evictBranch "first" "a1"),(13,evictBranch "third" tail)]

def evictFirst : PullRequestJson :=
  evictRow 11 (evictBranch "main" "c0") (evictBranch "first" "a1") "caravan"

def evictSecond (label : String) : PullRequestJson :=
  evictRow 12 (evictBranch "first" "a1") (evictBranch "second" "a2") label

def evictThird (base : BranchSnapshot) (tail : String) : PullRequestJson :=
  evictRow 13 base (evictBranch "third" tail) "caravan"

def evictRows : List PullRequestJson :=
  [evictFirst,evictSecond "caravan",evictSecond "caravan-evicted",
    evictThird (evictBranch "second" "a2") "a3",evictThird (evictBranch "first" "a1") "a3",
    evictThird (evictBranch "first" "a1") "b3"]

def evictDocuments : Documents where
  gitRefs := [("\x7b\"object\":\x7b\"sha\":\"c0\"\x7d\x7d","c0")]
  pullRequests := evictRows.map fun row => (evictText row,row)
  snapshots := [evictOriginal,evictReplacement "a3"].map fun s => (evictSnapshotText s,s)
  stackLists := ("[]",[])::[evictReplacement "a3",evictReplacement "b3"].map fun s =>
    ("[" ++ evictSnapshotText s ++ "]",[s])

def answered (text : String) : Response := .ok ⟨some 0,text,""⟩

def tipAnswer : Response := answered "\x7b\"object\":\x7b\"sha\":\"c0\"\x7d\x7d"

def rowAnswer (row : PullRequestJson) : Response := answered (evictText row)

def originalAnswers : List Response :=
  [answered (evictSnapshotText evictOriginal),tipAnswer,rowAnswer evictFirst,
    rowAnswer (evictSecond "caravan"),rowAnswer (evictThird (evictBranch "second" "a2") "a3")]

def evictedAnswers : List Response :=
  [rowAnswer evictFirst,rowAnswer (evictSecond "caravan-evicted"),
    rowAnswer (evictThird (evictBranch "first" "a1") "a3")]

def evictReceipt : OperationReceipt where
  operationId := "reshape-1"
  operation := "evict"

/-- The rebuild's answers when the provider leaves the tail at this commit. -/
def rebuildAnswers (tail : String) : List Response :=
  evictedAnswers ++ [answered "[]",tipAnswer,rowAnswer evictFirst,
    rowAnswer (evictThird (evictBranch "first" "a1") "a3"),answered "",
    answered ("[" ++ evictSnapshotText (evictReplacement tail) ++ "]"),tipAnswer,
    rowAnswer evictFirst,rowAnswer (evictThird (evictBranch "first" "a1") tail)]

/-- The final proof reads the inventory and the replacement Stack once more. -/
def finalAnswers : List Response :=
  evictedAnswers ++ [answered ("[" ++ evictSnapshotText (evictReplacement "a3") ++ "]"),
    answered (evictSnapshotText (evictReplacement "a3")),tipAnswer,rowAnswer evictFirst,
    rowAnswer (evictThird (evictBranch "first" "a1") "a3")]

def evictScript (tail : String) : List (ReshapeCall × List Response) :=
  [(.unstack,originalAnswers ++ [answered "",.ok ⟨some 1,"","gh: Not Found (HTTP 404)"⟩,
      answered "[]"]),
    (.recordExisting evictReceipt,evictedAnswers),
    (.rebuildNext,rebuildAnswers tail)]

/-- The eviction played with this tail and these last calls. -/
def playEviction (tail : String) (rest : List (ReshapeCall × List Response)) :
    Option (List ReshapeEvent × List StackReshapeCheckpoint) :=
  match StackReshapePlan.new evictDocuments.reshapeWire ⟨"octo","repo"⟩ "op-1" "cara" .evict 12
      evictBefore [evictChain] with
  | .ok plan => playTransaction evictDocuments.reshapeWire plan originalAnswers
      (evictScript tail ++ rest)
  | .error _ => none

theorem reshapeRun_of_playEviction {tail : String} {rest : List (ReshapeCall × List Response)}
    {s : List ReshapeEvent × List StackReshapeCheckpoint} (h : playEviction tail rest = some s) :
    ReshapeRun evictDocuments.reshapeWire s.1 s.2 := by
  unfold playEviction at h
  split at h
  · exact reshapeRun_of_playTransaction _ h
  · cases h

theorem reshapeRun_resumable_evicted : ∃ events known,
    ReshapeResumable evictDocuments.reshapeWire events known ∧
    known.head?.map StackReshapeCheckpoint.phase = some .verified := by
  have hplayed : ((playEviction "a3" [(.verifyFinal,finalAnswers)]).any fun s =>
      decide (s.2.head?.map StackReshapeCheckpoint.phase = some .verified) && s.1.all fun e =>
        exactStacks evictDocuments.reshapeWire e.repository e.input e.conversation) = true := by
    decide +kernel
  obtain ⟨⟨events,known⟩,hplay,hlast⟩ := (Option.any_eq_true _ _).mp hplayed
  obtain ⟨hphase,hexact⟩ := (Bool.and_eq_true _ _).mp hlast
  refine ⟨events,known,reshapeRun_resumable _ (reshapeRun_of_playEviction hplay) ?_,
    of_decide_eq_true hphase⟩
  intro e he _
  exact exactStacks_sound _ (List.all_eq_true.mp hexact e he)

/-- The provider rebases the tail of the Stack it creates: the rebuild accepts the Stack and
returns a checkpoint that does not verify. -/
theorem reshapeRun_not_resumable : ∃ events known,
    ReshapeRun evictDocuments.reshapeWire events known ∧
    ¬ ReshapeResumable evictDocuments.reshapeWire events known := by
  have hplayed : ((playEviction "b3" []).any fun s =>
      s.2.any fun c => !c.verify evictDocuments.reshapeWire) = true := by
    decide +kernel
  obtain ⟨⟨events,known⟩,hplay,hlast⟩ := (Option.any_eq_true _ _).mp hplayed
  obtain ⟨c,hc,hbroken⟩ := List.any_eq_true.mp hlast
  refine ⟨events,known,reshapeRun_of_playEviction hplay,?_⟩
  intro h
  rw [h.verified c hc] at hbroken
  cases hbroken

end Example

end Github
end Cara
