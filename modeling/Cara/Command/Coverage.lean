import Cara.Command.Passes

/-! Which subprocesses of a sync tick its durable receipt covers. The slot of the active receipt
belongs to one thread; the workers of a parallel batch run with none. -/
namespace Cara
namespace Command

section Tick

variable (w : ArgsWire)

inductive TickThread where
  | tick
  | worker
deriving DecidableEq

inductive Turn where
  | pass (thread : TickThread) (runner : ProcessRunner) (request : CommandSpec) (answers : PassAnswers)
  | noteNative (operation : String) (saved : Saved)

def Turn.after (m : Machine) : Turn → Machine
  | .pass .tick runner request answers => ((Command.pass w runner request answers).after m).2
  | .pass .worker runner request answers =>
      { m with events := ((Command.pass w runner request answers).after ⟨none,m.events⟩).2.events }
  | .noteNative operation saved => (Command.noteNative operation saved m).2

/-- The machine after these turns of the scope of this operation, in the order they took. -/
def ticked (operationId : String) (turns : List Turn) : Machine :=
  turns.foldl (Turn.after w) ⟨some (beginReceipt operationId),[.saved (beginReceipt operationId)]⟩

def durable : List Event → Option SyncReceipt :=
  List.foldl (fun file event => match event with | .saved receipt => some receipt | _ => file) none

/-- The mutating subprocesses that were started, in order. -/
def startedWrites (events : List Event) : List CommandSpec :=
  events.filterMap fun event => match event with
    | .start request => if request.isWrite then some request else none
    | _ => none

def WriteAttempt.of (attempt : WriteAttempt) : String × CommandIntent × String :=
  (attempt.program,attempt.intent,attempt.argumentsHash)

def SyncReceipt.live (receipt : SyncReceipt) : List (String × CommandIntent × String) :=
  (receipt.writes.filter fun attempt => decide (attempt.state ≠ .notStarted)).map WriteAttempt.of

def recordsOf (events : List Event) : List (String × CommandIntent × String) :=
  (startedWrites events).map fun request => (attemptOf w request).of

/-- The file has an attempt of its own for each mutating subprocess, in order. -/
def Covered (events : List Event) : Prop :=
  List.Sublist (recordsOf w events) ((durable events).elim [] SyncReceipt.live)

/-- The worker of a batch starts a mutating subprocess in this turn. -/
def Turn.workerWrites : Turn → Bool
  | .pass .worker runner request answers => request.isWrite && starts runner request answers false
  | _ => false

end Tick

section Steps

variable (w : ArgsWire)

theorem durable_append (events : List Event) (event : Event) :
    durable (events ++ [event]) = match event with | .saved receipt => some receipt | _ => durable events := by
  unfold durable
  rw [List.foldl_append]
  rfl

theorem recordsOf_append (events new : List Event) :
    recordsOf w (events ++ new) = recordsOf w events ++ recordsOf w new := by
  simp [recordsOf,startedWrites]

theorem recordsOf_written (receipt : SyncReceipt) (saved : Saved) : recordsOf w (written receipt saved) = [] := by
  cases saved with
  | ok => rfl
  | failed error replaced => cases replaced <;> rfl

/-- Covered at every point where the tick could have been cut off. -/
def CoveredThroughout (events : List Event) : Prop := ∀ crash,crash <+: events → Covered w crash

theorem CoveredThroughout.concat {events : List Event} {event : Event} (h : CoveredThroughout w events)
    (hnew : Covered w (events ++ [event])) : CoveredThroughout w (events ++ [event]) := by
  intro crash hcrash
  rcases List.prefix_concat_iff.mp hcrash with rfl | hcrash
  · exact hnew
  · exact h crash hcrash

structure Safe (m : Machine) : Prop where
  throughout : CoveredThroughout w m.events
  active : ∃ receipt,m.active = some receipt ∧ List.Sublist (recordsOf w m.events) receipt.live

/-- A receipt that covers the past may be written, whether or not the write succeeds. -/
theorem CoveredThroughout.write {events : List Event} {receipt : SyncReceipt}
    (h : CoveredThroughout w events) (hlive : List.Sublist (recordsOf w events) receipt.live)
    (saved : Saved) : CoveredThroughout w (events ++ written receipt saved) := by
  have hnew : CoveredThroughout w (events ++ [.saved receipt]) := by
    refine h.concat w ?_
    unfold Covered
    rw [recordsOf_append,durable_append]
    show List.Sublist (recordsOf w events ++ []) receipt.live
    rwa [List.append_nil]
  cases saved with
  | ok => exact hnew
  | failed error replaced =>
    cases replaced with
    | true => exact hnew
    | false =>
      show CoveredThroughout w (events ++ [])
      rwa [List.append_nil]

theorem live_push (receipt : SyncReceipt) (request : CommandSpec) :
    (receipt.push (attemptOf w request)).live = receipt.live ++ [(attemptOf w request).of] := by
  simp [SyncReceipt.live,SyncReceipt.push,attemptOf,writeAttempt]

theorem finishAt_push (receipt : SyncReceipt) (attempt : WriteAttempt) (state : AttemptState)
    (code : Option ℤ) :
    ((receipt.push attempt).finishAt receipt.writes.length state code).live =
      receipt.live ++ if state = .notStarted then [] else [attempt.of] := by
  have hmodify : (receipt.writes ++ [attempt]).modify receipt.writes.length
      (fun a => { a with state := state,exitCode := code }) =
        receipt.writes ++ [{ attempt with state := state,exitCode := code }] := by
    simp [List.modify_eq_set_getElem?]
  unfold SyncReceipt.live SyncReceipt.finishAt SyncReceipt.push
  simp only [hmodify]
  cases state <;> simp [WriteAttempt.of]

variable (runner : ProcessRunner) (request : CommandSpec) (a : PassAnswers)

theorem after_pass_unrecorded (m : Machine) (h : request.isWrite = false ∨ m.active = none) :
    ((pass w runner request a).after m).2 =
      ⟨m.active,m.events ++ if starts runner request a m.active.isSome then [.start request] else []⟩ := by
  have hfree : ∀ saved,blocked request m.active.isSome saved = false := by
    intro saved
    rcases h with h | h <;> simp [blocked,h]
  unfold pass
  rw [after_bind,after_ofResult]
  cases hprepare : prepare runner request a with
  | error e => simp [starts,hprepare,Except.isOk,Except.toBool]
  | ok prepared =>
    show ((beforeSpawn w request a.attemptSaved >>= fun attempt => _ : Effect Passed).after m).2 = _
    rw [after_bind,after_beforeSpawn_unrecorded w request _ _ h]
    show ((spawnChild runner request a prepared none).after m).2 = _
    unfold spawnChild
    cases hspawned : a.spawned with
    | error message =>
      show ((finishAttempt request none .notStarted none a.outcomeSaved >>= fun _ => _ : Effect Passed).after
        m).2 = _
      rw [after_bind,after_finishAttempt_unrecorded request _ _ _ _ _ (.inl rfl)]
      simp [starts,hspawned,Except.isOk,Except.toBool]
    | ok pid =>
      have hstarts : starts runner request a m.active.isSome = true := by
        simp [starts,hprepare,hfree,hspawned,Except.isOk,Except.toBool]
      rw [hstarts]
      show ((emit (.start request) >>= fun _ => _ : Effect Passed).after m).2 = _
      rw [after_bind,after_emit]
      show ((ofResult (childOutput request prepared.timeout pid a.child) >>= fun output =>
        _ : Effect Passed).after ⟨m.active,m.events ++ [.start request]⟩).2 = _
      rw [after_bind,after_ofResult]
      cases childOutput request prepared.timeout pid a.child with
      | error e => rfl
      | ok output =>
        show ((finishAttempt request none .returned output.code a.outcomeSaved >>= fun _ =>
          _ : Effect Passed).after ⟨m.active,m.events ++ [.start request]⟩).2 = _
        rw [after_bind,after_finishAttempt_unrecorded request _ _ _ _ _ (.inl rfl)]
        rfl

theorem recordsOf_read (h : request.isWrite = false) : recordsOf w [.start request] = [] := by
  simp [recordsOf,startedWrites,h]

theorem recordsOf_write (h : request.isWrite = true) :
    recordsOf w [.start request] = [(attemptOf w request).of] := by
  simp [recordsOf,startedWrites,h]

variable {w} {runner} {request} {a}

theorem CoveredThroughout.read {events : List Event} (h : CoveredThroughout w events)
    (hread : request.isWrite = false) (started : Bool) :
    CoveredThroughout w (events ++ if started then [.start request] else []) := by
  cases started with
  | false =>
    show CoveredThroughout w (events ++ [])
    rwa [List.append_nil]
  | true =>
    refine h.concat w ?_
    unfold Covered
    rw [recordsOf_append,durable_append,recordsOf_read w request hread,List.append_nil]
    exact h events List.prefix_rfl

theorem Safe.read {m : Machine} (h : Safe w m) (hread : request.isWrite = false) :
    Safe w ((pass w runner request a).after m).2 := by
  obtain ⟨receipt,hactive,hlive⟩ := h.active
  rw [after_pass_unrecorded w runner request a m (.inl hread)]
  refine ⟨h.throughout.read hread _,receipt,hactive,?_⟩
  cases starts runner request a m.active.isSome with
  | false => simpa using hlive
  | true =>
    show List.Sublist (recordsOf w (m.events ++ [.start request])) _
    rwa [recordsOf_append,recordsOf_read w request hread,List.append_nil]

theorem Safe.start {receipt : SyncReceipt} {events : List Event} (h : Safe w ⟨some receipt,events⟩)
    (hwrite : request.isWrite = true) :
    Safe w ⟨some (receipt.push (attemptOf w request)),
      events ++ [.saved (receipt.push (attemptOf w request))] ++ [.start request]⟩ := by
  obtain ⟨_,hactive,hlive⟩ := h.active
  cases hactive
  have hpushed : List.Sublist (recordsOf w events) (receipt.push (attemptOf w request)).live := by
    rw [live_push]
    exact hlive.trans (List.sublist_append_left _ _)
  have hrecords : recordsOf w (events ++ [.saved (receipt.push (attemptOf w request))] ++ [.start request]) =
      recordsOf w events ++ [(attemptOf w request).of] := by
    rw [recordsOf_append,recordsOf_append,recordsOf_write w request hwrite]
    show recordsOf w events ++ [] ++ _ = _
    rw [List.append_nil]
  have hcover : List.Sublist (recordsOf w events ++ [(attemptOf w request).of])
      (receipt.push (attemptOf w request)).live := by
    rw [live_push]
    exact hlive.append (List.Sublist.refl _)
  refine ⟨(h.throughout.write w hpushed .ok).concat w ?_,_,rfl,?_⟩
  · unfold Covered
    rw [durable_append]
    show List.Sublist (recordsOf w (events ++ [.saved (receipt.push (attemptOf w request))] ++
      [.start request])) ((durable (events ++ [.saved (receipt.push (attemptOf w request))])).elim []
        SyncReceipt.live)
    rw [durable_append,hrecords]
    exact hcover
  · show List.Sublist (recordsOf w (events ++ [.saved (receipt.push (attemptOf w request))] ++
      [.start request])) _
    rwa [hrecords]

/-- A receipt that still covers the past may replace the active one. -/
theorem Safe.write {m : Machine} (h : Safe w m) (receipt : SyncReceipt)
    (hlive : List.Sublist (recordsOf w m.events) receipt.live) (saved : Saved) :
    Safe w ⟨some receipt,m.events ++ written receipt saved⟩ := by
  refine ⟨h.throughout.write w hlive saved,receipt,rfl,?_⟩
  show List.Sublist (recordsOf w (m.events ++ written receipt saved)) _
  rwa [recordsOf_append,recordsOf_written,List.append_nil]

theorem Safe.pass {m : Machine} (h : Safe w m) : Safe w ((pass w runner request a).after m).2 := by
  by_cases hwrite : request.isWrite = true
  swap
  · exact h.read (by simpa using hwrite)
  obtain ⟨active,events⟩ := m
  obtain ⟨receipt,hactive,hlive⟩ := h.active
  have hlive' : List.Sublist (recordsOf w events) receipt.live := hlive
  cases hactive
  have hpushed : List.Sublist (recordsOf w events) (receipt.push (attemptOf w request)).live := by
    rw [live_push]
    exact hlive'.trans (List.sublist_append_left _ _)
  unfold Command.pass
  rw [after_bind,after_ofResult]
  cases prepare runner request a with
  | error e => exact h
  | ok prepared =>
    show Safe w ((beforeSpawn w request a.attemptSaved >>= fun attempt => _ : Effect Passed).after _).2
    rw [after_bind,after_beforeSpawn_recorded w request _ _ _ hwrite]
    cases hsaved : a.attemptSaved with
    | failed error replaced =>
      have hwritten := h.throughout.write w hpushed (.failed error replaced)
      refine ⟨hwritten,receipt,rfl,?_⟩
      show List.Sublist (recordsOf w (events ++ written _ _)) _
      rwa [recordsOf_append,recordsOf_written,List.append_nil]
    | ok =>
      show Safe w ((spawnChild runner request a prepared (some receipt.writes.length)).after
        ⟨some (receipt.push (attemptOf w request)),
          events ++ [.saved (receipt.push (attemptOf w request))]⟩).2
      unfold spawnChild
      cases a.spawned with
      | error message =>
        show Safe w ((finishAttempt request _ .notStarted none a.outcomeSaved >>= fun _ =>
          _ : Effect Passed).after _).2
        rw [after_bind,after_finishAttempt_recorded]
        have hfinished := (h.write _ hpushed .ok).write
          ((receipt.push (attemptOf w request)).finishAt receipt.writes.length .notStarted none)
          (by
            show List.Sublist (recordsOf w (events ++ written _ .ok)) _
            rw [recordsOf_append,recordsOf_written,List.append_nil,finishAt_push,if_pos rfl,List.append_nil]
            exact hlive') a.outcomeSaved
        revert hfinished
        cases a.outcomeSaved <;> exact id
      | ok pid =>
        show Safe w ((emit (.start request) >>= fun _ => _ : Effect Passed).after _).2
        rw [after_bind,after_emit]
        show Safe w ((ofResult (childOutput request prepared.timeout pid a.child) >>= fun output =>
          _ : Effect Passed).after ⟨some (receipt.push (attemptOf w request)),
            events ++ [.saved (receipt.push (attemptOf w request))] ++ [.start request]⟩).2
        have hstarted := h.start hwrite
        rw [after_bind,after_ofResult]
        cases childOutput request prepared.timeout pid a.child with
        | error e => exact hstarted
        | ok output =>
          show Safe w ((finishAttempt request _ .returned output.code a.outcomeSaved >>= fun _ =>
            _ : Effect Passed).after _).2
          rw [after_bind,after_finishAttempt_recorded]
          obtain ⟨_,hactive,hrecords⟩ := hstarted.active
          cases hactive
          have hfinished := hstarted.write
            ((receipt.push (attemptOf w request)).finishAt receipt.writes.length .returned output.code)
            (by
              rw [finishAt_push]
              rw [live_push] at hrecords
              exact hrecords) a.outcomeSaved
          revert hfinished
          cases a.outcomeSaved <;> exact id

theorem Safe.noteNative {m : Machine} (h : Safe w m) (operation : String) (saved : Saved) :
    Safe w (Command.noteNative operation saved m).2 := by
  obtain ⟨active,events⟩ := m
  obtain ⟨receipt,hactive,hlive⟩ := h.active
  cases hactive
  unfold Command.noteNative
  show Safe w (if receipt.nativeOperations.contains operation then _ else _ : Option String × Machine).2
  split
  · exact h
  · exact h.write { receipt with nativeOperations := receipt.nativeOperations ++ [operation] } hlive saved

theorem Safe.turn {m : Machine} (h : Safe w m) {turn : Turn} (hturn : turn.workerWrites = false) :
    Safe w (turn.after w m) := by
  cases turn with
  | noteNative operation saved => exact h.noteNative operation saved
  | pass thread runner request answers =>
    cases thread with
    | tick => exact h.pass
    | worker =>
      obtain ⟨receipt,hactive,hlive⟩ := h.active
      show Safe w { m with events := ((Command.pass w runner request answers).after ⟨none,m.events⟩).2.events }
      rw [after_pass_unrecorded w runner request answers _ (.inr rfl)]
      show Safe w ⟨m.active,m.events ++ if starts runner request answers false then [.start request] else []⟩
      cases hstarts : starts runner request answers false with
      | false =>
        show Safe w ⟨m.active,m.events ++ []⟩
        rwa [List.append_nil]
      | true =>
        have hread : request.isWrite = false := by
          have hboth : (request.isWrite && starts runner request answers false) = false := hturn
          rwa [hstarts,Bool.and_true] at hboth
        refine ⟨h.throughout.read hread true,receipt,hactive,?_⟩
        show List.Sublist (recordsOf w (m.events ++ [.start request])) _
        rwa [recordsOf_append,recordsOf_read w request hread,List.append_nil]

theorem safe_ticked {operationId : String} {turns : List Turn}
    (h : ∀ turn ∈ turns,turn.workerWrites = false) : Safe w (ticked w operationId turns) := by
  have hbegin : Safe w ⟨some (beginReceipt operationId),[.saved (beginReceipt operationId)]⟩ := by
    have hnil : CoveredThroughout w [] := by
      intro crash hcrash
      cases List.prefix_nil.mp hcrash
      exact List.nil_sublist _
    exact ⟨hnil.write w (List.nil_sublist _) .ok,_,rfl,List.nil_sublist _⟩
  unfold ticked
  generalize (Machine.mk (some (beginReceipt operationId)) [.saved (beginReceipt operationId)]) = m at *
  induction turns generalizing m with
  | nil => exact hbegin
  | cons turn turns ih =>
    exact ih (fun t ht => h t (List.mem_cons_of_mem turn ht)) _
      (hbegin.turn (h turn List.mem_cons_self))

theorem no_write_of_live {events : List Event} {receipt : SyncReceipt}
    (hlive : List.Sublist (recordsOf w events) receipt.live) (hnone : mayHaveWritten receipt = false) :
    startedWrites events = [] := by
  have hempty : receipt.live = [] := by
    unfold SyncReceipt.live
    rw [List.map_eq_nil_iff,List.filter_eq_nil_iff]
    unfold mayHaveWritten at hnone
    rw [List.any_eq_false] at hnone
    exact hnone
  rw [hempty,List.sublist_nil] at hlive
  exact List.map_eq_nil_iff.mp hlive

end Steps

section Ticks

variable (w : ArgsWire)

/-- The file covers every mutating subprocess at every point of the tick, and where the end of the
scope denies a write, there was none. -/
structure ReceiptCovers (operationId : String) (turns : List Turn) : Prop where
  throughout : CoveredThroughout w (ticked w operationId turns).events
  denial : ∀ receipt error saved,(ticked w operationId turns).active = some receipt →
    (finishScope receipt error saved).receipt.state = .failedBeforeProviderWrite ∨
      (finishScope receipt error saved).providerWriteMayHaveOccurred = some false →
    startedWrites (ticked w operationId turns).events = []

theorem not_mayHaveWritten_of_denial {receipt : SyncReceipt} {error : Option String} {saved : Saved}
    (h : (finishScope receipt error saved).receipt.state = .failedBeforeProviderWrite ∨
      (finishScope receipt error saved).providerWriteMayHaveOccurred = some false) :
    mayHaveWritten receipt = false := by
  cases error with
  | none =>
    rcases h with hstate | hfalse
    · cases hstate
    · have hif : (if saved.error.isSome then some (mayHaveWritten receipt) else none) = some false := hfalse
      split at hif
      · exact Option.some.inj hif
      · cases hif
  | some code =>
    rcases h with hstate | hfalse
    · by_contra hwritten
      rw [Bool.not_eq_false] at hwritten
      have hfailed : (finishScope receipt (some code) saved).receipt.state = .failed := by
        simp [finishScope,hwritten]
      rw [hfailed] at hstate
      cases hstate
    · exact Option.some.inj hfalse

/-- The receipt covers every tick whose workers start no write. -/
theorem receiptCovers_of_workers (operationId : String) (turns : List Turn)
    (h : ∀ turn ∈ turns,turn.workerWrites = false) : ReceiptCovers w operationId turns := by
  have hsafe : Safe w (ticked w operationId turns) := safe_ticked h
  refine ⟨hsafe.throughout,?_⟩
  intro receipt error saved hactive hdenied
  obtain ⟨_,hactive',hlive⟩ := hsafe.active
  rw [hactive] at hactive'
  cases hactive'
  exact no_write_of_live hlive (not_mayHaveWritten_of_denial hdenied)

def pushRequest : CommandSpec :=
  { program := "git",args := ["push","origin","a:b"],io := some { intent := .gitWrite } }

def plainPass : PassAnswers where
  used := 0
  now := 0
  appMode := .ok false
  repository := none
  selection := none
  transportRefusal := none
  attemptSaved := .ok
  spawned := .ok 41
  child := .ended false (some 0) .ok (.ok ⟨⟨1024,0,false,"",""⟩,"",.ok ""⟩)
    (.ok ⟨⟨1024,0,false,"",""⟩,"",.ok ""⟩)
  outcomeSaved := .ok

/-- The push of the tick's own thread is in the receipt. -/
theorem tick_push_covered :
    ReceiptCovers ⟨fun _ => []⟩ "o1" [.pass .tick { timeout := 30000 } pushRequest plainPass] :=
  receiptCovers_of_workers ⟨fun _ => []⟩ "o1" [.pass .tick { timeout := 30000 } pushRequest plainPass] (by
    intro turn hturn
    cases List.mem_singleton.mp hturn
    rfl)

/-- The push of a worker is in no receipt, and the end of the scope denies it. -/
theorem worker_push_uncovered :
    ¬ReceiptCovers ⟨fun _ => []⟩ "o1" [.pass .worker { timeout := 30000 } pushRequest plainPass] := by
  intro h
  have hdenied := h.denial (beginReceipt "o1") (some "rebase_failed") .ok rfl (.inl rfl)
  have hstarted : startedWrites (ticked ⟨fun _ => []⟩ "o1"
      [.pass .worker { timeout := 30000 } pushRequest plainPass]).events = [pushRequest] := by
    decide +kernel
  rw [hdenied] at hstarted
  cases hstarted

end Ticks

end Command
end Cara
