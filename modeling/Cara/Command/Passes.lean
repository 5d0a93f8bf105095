import Cara.Command.Runner
import Cara.Lib.Guard

/-! What one pass of the runner leaves: the receipts that it wrote, and at most one start. -/
namespace Cara
namespace Command

section Effects

variable {α β : Type}

def Effect.after (x : Effect α) (m : Machine) : Except CommandRunError α × Machine :=
  StateT.run (ExceptT.run x) m

theorem after_bind (x : Effect α) (f : α → Effect β) (m : Machine) :
    (x >>= f).after m = match x.after m with
      | (.ok a,m') => (f a).after m'
      | (.error e,m') => (.error e,m') := by
  unfold Effect.after
  rw [ExceptT.run_bind,StateT.run_bind]
  generalize StateT.run (ExceptT.run x) m = p
  obtain ⟨r,m'⟩ := p
  cases r <;> rfl

@[simp] theorem after_pure (a : α) (m : Machine) : (pure a : Effect α).after m = (.ok a,m) := rfl

@[simp] theorem after_throw (e : CommandRunError) (m : Machine) :
    (throw e : Effect α).after m = (.error e,m) := rfl

@[simp] theorem after_ofResult (r : Except CommandRunError α) (m : Machine) :
    (ofResult r).after m = (r,m) := rfl

@[simp] theorem after_get (m : Machine) : (get : Effect Machine).after m = (.ok m,m) := rfl

@[simp] theorem after_emit (event : Event) (m : Machine) :
    (emit event).after m = (.ok (),{ m with events := m.events ++ [event] }) := rfl

@[simp] theorem after_setActive (receipt : SyncReceipt) (m : Machine) :
    (setActive receipt).after m = (.ok (),{ m with active := some receipt }) := rfl

end Effects

section Receipts

theorem after_save (receipt : SyncReceipt) (saved : Saved) (m : Machine) :
    (save receipt saved).after m =
      (.ok saved.error,{ m with events := m.events ++ written receipt saved }) := by
  cases saved with
  | ok => rfl
  | failed error replaced =>
    cases replaced with
    | true => rfl
    | false =>
      show _ = (_,Machine.mk m.active (m.events ++ []))
      rw [List.append_nil]
      rfl

variable (w : ArgsWire) (request : CommandSpec)

/-- The attempt that a write of this request is recorded as. -/
def attemptOf : WriteAttempt := writeAttempt w request (request.inferredWriteIntent.getD request.intent)

def SyncReceipt.push (receipt : SyncReceipt) (attempt : WriteAttempt) : SyncReceipt :=
  { receipt with writes := receipt.writes ++ [attempt] }

theorem after_beforeSpawn_unrecorded (saved : Saved) (m : Machine)
    (h : request.isWrite = false ∨ m.active = none) :
    (beforeSpawn w request saved).after m = (.ok none,m) := by
  unfold beforeSpawn
  show (if !request.isWrite then _ else _ : Effect (Option ℕ)).after m = _
  by_cases hwrite : request.isWrite = true
  · have hnone : m.active = none := h.resolve_left (by rw [hwrite]; decide)
    rw [hwrite]
    show (get >>= fun m' => _ : Effect (Option ℕ)).after m = _
    rw [after_bind,after_get]
    dsimp only
    rw [hnone]
    rfl
  · rw [Bool.not_eq_true] at hwrite
    rw [hwrite]
    rfl

theorem after_beforeSpawn_recorded (saved : Saved) (receipt : SyncReceipt) (events : List Event)
    (h : request.isWrite = true) :
    (beforeSpawn w request saved).after ⟨some receipt,events⟩ =
      match saved with
      | .ok => (.ok (some receipt.writes.length),
          ⟨some (receipt.push (attemptOf w request)),
            events ++ written (receipt.push (attemptOf w request)) saved⟩)
      | .failed error _ => (.error (storageRefusal request error),
          ⟨some receipt,events ++ written (receipt.push (attemptOf w request)) saved⟩) := by
  unfold beforeSpawn
  show (if !request.isWrite then _ else _ : Effect (Option ℕ)).after _ = _
  rw [h]
  show (save (receipt.push (attemptOf w request)) saved >>= fun r => _ : Effect (Option ℕ)).after
    ⟨some receipt,events⟩ = _
  rw [after_bind,after_save]
  cases saved <;> rfl

theorem after_finishAttempt_unrecorded (attempt : Option ℕ) (state : AttemptState) (code : Option ℤ)
    (saved : Saved) (m : Machine) (h : attempt = none ∨ m.active = none) :
    (finishAttempt request attempt state code saved).after m = (.ok (),m) := by
  unfold finishAttempt
  rw [after_bind,after_get]
  obtain ⟨active,events⟩ := m
  cases attempt with
  | none => rfl
  | some index =>
    cases active with
    | none => rfl
    | some receipt => simp at h

theorem after_finishAttempt_recorded (index : ℕ) (state : AttemptState) (code : Option ℤ)
    (saved : Saved) (receipt : SyncReceipt) (events : List Event) :
    (finishAttempt request (some index) state code saved).after ⟨some receipt,events⟩ =
      (saved.error.elim (.ok ()) fun error => .error (storageRefusal request error),
        ⟨some (receipt.finishAt index state code),
          events ++ written (receipt.finishAt index state code) saved⟩) := by
  unfold finishAttempt
  rw [after_bind,after_get]
  show (setActive (receipt.finishAt index state code) >>= fun _ => _ : Effect Unit).after _ = _
  rw [after_bind,after_setActive]
  show (save (receipt.finishAt index state code) saved >>= fun r => _ : Effect Unit).after _ = _
  rw [after_bind,after_save]
  cases saved <;> rfl

end Receipts

section Starts

variable (w : ArgsWire) (runner : ProcessRunner) (request : CommandSpec) (a : PassAnswers)

def Event.isSaved : Event → Bool
  | .saved _ => true
  | _ => false

/-- Whether this write of the receipt fails a pass: a scope is active on its thread. -/
def blocked (active : Bool) (saved : Saved) : Bool :=
  active && request.isWrite && saved.error.isSome

def starts (active : Bool) : Bool :=
  (prepare runner request a).isOk && !blocked request active a.attemptSaved && a.spawned.isOk

/-- Whether the answers make the pass ask for another under a fresh credential. -/
def refreshes (active : Bool) : Bool :=
  starts runner request a active && !blocked request active a.outcomeSaved &&
    match prepare runner request a,a.spawned with
    | .ok prepared,.ok pid =>
        match childOutput request prepared.timeout pid a.child with
        | .ok output => shouldRefresh prepared output runner.githubAppAuthRetry
        | .error _ => false
    | _,_ => false

theorem written_saved (receipt : SyncReceipt) (saved : Saved) :
    ∀ e ∈ written receipt saved,e.isSaved = true := by
  intro e he
  cases saved with
  | ok =>
    cases List.mem_singleton.mp he
    rfl
  | failed error replaced =>
    cases replaced with
    | true =>
      cases List.mem_singleton.mp he
      rfl
    | false => cases he

theorem beforeSpawn_spec (saved : Saved) (m : Machine) :
    ∃ events,(∀ e ∈ events,e.isSaved = true) ∧
      ((blocked request m.active.isSome saved = true ∧
          ∃ error,(beforeSpawn w request saved).after m = (.error error,⟨m.active,m.events ++ events⟩)) ∨
        (blocked request m.active.isSome saved = false ∧
          ∃ attempt active,
            (beforeSpawn w request saved).after m = (.ok attempt,⟨active,m.events ++ events⟩) ∧
            active.isSome = m.active.isSome ∧
            attempt.isSome = (m.active.isSome && request.isWrite))) := by
  obtain ⟨active,past⟩ := m
  cases active with
  | none =>
    rw [after_beforeSpawn_unrecorded w request _ _ (.inr rfl)]
    exact ⟨[],by simp,.inr ⟨rfl,none,none,by rw [List.append_nil],rfl,rfl⟩⟩
  | some receipt =>
    cases hwrite : request.isWrite with
    | false =>
      rw [after_beforeSpawn_unrecorded w request _ _ (.inl hwrite)]
      exact ⟨[],by simp,.inr ⟨by simp [blocked,hwrite],none,some receipt,by rw [List.append_nil],rfl,rfl⟩⟩
    | true =>
      refine ⟨_,written_saved (receipt.push (attemptOf w request)) saved,?_⟩
      rw [after_beforeSpawn_recorded w request _ _ _ hwrite]
      cases saved with
      | ok => exact .inr ⟨by simp [blocked,Saved.error],_,_,rfl,rfl,rfl⟩
      | failed error replaced =>
        exact .inl ⟨by simp [blocked,hwrite,Saved.error],_,rfl⟩

theorem finishAttempt_spec (attempt : Option ℕ) (state : AttemptState) (code : Option ℤ) (saved : Saved)
    (m : Machine) (h : attempt.isSome = (m.active.isSome && request.isWrite)) :
    ∃ events active r,(∀ e ∈ events,e.isSaved = true) ∧ active.isSome = m.active.isSome ∧
      (finishAttempt request attempt state code saved).after m = (r,⟨active,m.events ++ events⟩) ∧
      r.isOk = !blocked request m.active.isSome saved := by
  obtain ⟨active,past⟩ := m
  cases attempt with
  | none =>
    rw [after_finishAttempt_unrecorded request _ _ _ _ _ (.inl rfl)]
    have hnot : (active.isSome && request.isWrite) = false := h.symm
    exact ⟨[],active,_,by simp,rfl,by rw [List.append_nil],by simp [blocked,hnot,Except.isOk,Except.toBool]⟩
  | some index =>
    have hrecorded : (active.isSome && request.isWrite) = true := h.symm
    cases active with
    | none => cases hrecorded
    | some receipt =>
      rw [after_finishAttempt_recorded]
      refine ⟨_,some (receipt.finishAt index state code),_,
        written_saved (receipt.finishAt index state code) saved,rfl,rfl,?_⟩
      cases saved <;> simp_all [blocked,Saved.error,Except.isOk,Except.toBool]

theorem not_refresh_of_error {r : Except CommandRunError Passed} (h : r.isOk = false) :
    ¬∃ passed,r = .ok passed ∧ passed.refresh = true := by
  rintro ⟨passed,rfl,_⟩
  cases h

theorem spawnChild_spec (prepared : Prepared) (attempt : Option ℕ) (m : Machine)
    (hprepare : prepare runner request a = .ok prepared)
    (hfree : blocked request m.active.isSome a.attemptSaved = false)
    (hattempt : attempt.isSome = (m.active.isSome && request.isWrite)) :
    ∃ rest active r,(∀ e ∈ rest,e.isSaved = true) ∧ active.isSome = m.active.isSome ∧
      (spawnChild runner request a prepared attempt).after m =
        (r,⟨active,m.events ++ if starts runner request a m.active.isSome
          then .start request::rest else rest⟩) ∧
      ((∃ passed,r = .ok passed ∧ passed.refresh = true) ↔
        refreshes runner request a m.active.isSome = true) := by
  unfold spawnChild
  cases hspawned : a.spawned with
  | error message =>
    obtain ⟨rest,active,r,hrest,hactive,hfinish,-⟩ :=
      finishAttempt_spec request attempt .notStarted none a.outcomeSaved m hattempt
    have hnot : starts runner request a m.active.isSome = false := by
      simp [starts,hspawned,Except.isOk,Except.toBool]
    have hafter : (finishAttempt request attempt .notStarted none a.outcomeSaved >>= fun _ =>
        throw (.spawn request message) : Effect Passed).after m =
          (r.bind fun _ => .error (.spawn request message),⟨active,m.events ++ rest⟩) := by
      rw [after_bind,hfinish]
      cases r <;> rfl
    refine ⟨rest,active,_,hrest,hactive,by rw [hnot]; exact hafter,?_⟩
    have hrefresh : refreshes runner request a m.active.isSome = false := by simp [refreshes,hnot]
    rw [hrefresh]
    refine iff_of_false (not_refresh_of_error ?_) (by decide)
    cases r <;> rfl
  | ok pid =>
    have hstarts : starts runner request a m.active.isSome = true := by
      simp [starts,hprepare,hfree,hspawned,Except.isOk,Except.toBool]
    rw [hstarts]
    show ∃ _ _ _,_ ∧ _ ∧ (emit (.start request) >>= fun _ => _ : Effect Passed).after m = _ ∧ _
    rw [after_bind,after_emit]
    show ∃ _ _ _,_ ∧ _ ∧ (ofResult (childOutput request prepared.timeout pid a.child) >>= fun output =>
      _ : Effect Passed).after ⟨m.active,m.events ++ [.start request]⟩ = _ ∧ _
    rw [after_bind,after_ofResult]
    cases hchild : childOutput request prepared.timeout pid a.child with
    | error e =>
      refine ⟨[],m.active,.error e,by simp,rfl,rfl,?_⟩
      simp [refreshes,hprepare,hspawned,hchild]
    | ok output =>
      obtain ⟨rest,active,r,hrest,hactive,hfinish,hr⟩ :=
        finishAttempt_spec request attempt .returned output.code a.outcomeSaved
          ⟨m.active,m.events ++ [.start request]⟩ hattempt
      refine ⟨rest,active,r.bind fun _ => .ok ⟨output,shouldRefresh prepared output runner.githubAppAuthRetry⟩,
        hrest,hactive,?_,?_⟩
      · show (finishAttempt request attempt .returned output.code a.outcomeSaved >>= fun _ =>
          pure _ : Effect Passed).after _ = _
        rw [after_bind,hfinish,List.append_assoc]
        cases r <;> rfl
      · have hr' : r.isOk = !blocked request m.active.isSome a.outcomeSaved := hr
        cases r with
        | error e =>
          have hblocked : blocked request m.active.isSome a.outcomeSaved = true := by
            simpa [Except.isOk,Except.toBool] using hr'
          simp [refreshes,hblocked,Except.bind]
        | ok u =>
          have hfree' : blocked request m.active.isSome a.outcomeSaved = false := by
            simpa [Except.isOk,Except.toBool] using hr'
          simp [refreshes,hstarts,hfree',hprepare,hspawned,hchild,Except.bind]

/-- A pass appends receipts, and its start when its answers let it through. -/
theorem pass_spec (m : Machine) :
    ∃ before rest active r,(∀ e ∈ before ++ rest,e.isSaved = true) ∧ active.isSome = m.active.isSome ∧
      (pass w runner request a).after m =
        (r,⟨active,m.events ++ (before ++ if starts runner request a m.active.isSome
          then .start request::rest else rest)⟩) ∧
      ((∃ passed,r = .ok passed ∧ passed.refresh = true) ↔
        refreshes runner request a m.active.isSome = true) := by
  unfold pass
  rw [after_bind,after_ofResult]
  cases hprepare : prepare runner request a with
  | error e =>
    have hnot : starts runner request a m.active.isSome = false := by
      simp [starts,hprepare,Except.isOk,Except.toBool]
    refine ⟨[],[],m.active,.error e,by simp,rfl,by simp [hnot],?_⟩
    simp [refreshes,hnot]
  | ok prepared =>
    show ∃ _ _ _ _,_ ∧ _ ∧ (beforeSpawn w request a.attemptSaved >>= fun attempt => _ : Effect Passed).after m
      = _ ∧ _
    obtain ⟨before,hbefore,⟨hblocked,error,hafter⟩ | ⟨hfree,attempt,active,hafter,hactive,hattempt⟩⟩ :=
      beforeSpawn_spec w request a.attemptSaved m
    · have hnot : starts runner request a m.active.isSome = false := by simp [starts,hblocked]
      refine ⟨before,[],m.active,.error error,by simpa using hbefore,rfl,?_,?_⟩
      · rw [after_bind,hafter]
        simp [hnot]
      · simp [refreshes,hnot]
    · rw [after_bind,hafter]
      obtain ⟨rest,active',r,hrest,hactive',hafter',hrefresh⟩ :=
        spawnChild_spec runner request a prepared attempt ⟨active,m.events ++ before⟩ hprepare
          (by show blocked request active.isSome _ = _; rw [hactive]; exact hfree)
          (by show attempt.isSome = (active.isSome && _); rw [hactive]; exact hattempt)
      have hisSome : (Machine.mk active (m.events ++ before)).active.isSome = m.active.isSome := hactive
      rw [hisSome] at hafter' hrefresh
      refine ⟨before,rest,active',r,fun e he => ?_,hactive'.trans hactive,?_,hrefresh⟩
      · exact (List.mem_append.mp he).elim (hbefore e) (hrest e)
      · show (spawnChild runner request a prepared attempt).after ⟨active,m.events ++ before⟩ = _
        rw [hafter',List.append_assoc]

end Starts

end Command
end Cara
