import Cara.PauseFence

/-! Every durable write of the hold operations is permitted, whatever the provider answers and
wherever the process stops. -/
namespace Cara
namespace Pause

open Prog (Holds Only send ofResult)

variable {α β : Type} {digest : String → String} {strict : Prop} {call : Call}

/-- A finalize call reads a status under which the advanced record, if it passes the size
check, can also be read back. -/
def RoomyAnswer (call : Call) (s : Store) (q : Request) (a : Answer) : Prop :=
  ∀ input status binding r advanced, call = .recovery .finalize input → q = .status →
    a = .status status → recoveryBinding input = .ok binding →
    s.records binding.caravanId = some r → advancePauseEvidence status r binding = .ok advanced →
    advanced.encodedBytes ≤ maxFileBytes → advanced.fileBytes ≤ maxFileBytes

def CallStep (strict : Prop) (call : Call) (s : Store) (q : Request) (a : Answer) (s' : Store) :
    Prop := Exec s q a s' ∧ (strict → RoomyAnswer call s q a)

structure Safe (digest : String → String) (strict : Prop) (call : Call) (p : PauseIo α)
    (s : Store) : Prop where
  holds : Holds (CallStep strict call) (Permitted digest strict) (fun _ => True) p
    (fun _ _ => True) s

section Rules

variable {s : Store}

theorem holds_of_idle {p : PauseIo α} (hp : Only Idle p) :
    Holds (CallStep strict call) (Permitted digest strict) (fun _ => True) p
      (fun s' _ => s' = s) s := by
  unfold Only Prog.Calls Holds at *
  generalize p.run = tree at hp ⊢
  induction tree with
  | done r => exact rfl
  | abort => exact trivial
  | ask q k ih =>
    refine ⟨.idle hp.1,?_⟩
    intro a s' hstep
    rw [hstep.1.idle hp.1]
    exact ih a (hp.2 a () trivial)

theorem safe_idle {p : PauseIo α} (hp : Only Idle p) : Safe digest strict call p s :=
  ⟨(holds_of_idle hp).mono fun _ _ _ => trivial⟩

theorem safe_idle_bind {p : PauseIo α} {f : α → PauseIo β} (hp : Only Idle p)
    (hf : ∀ a, Safe digest strict call (f a) s) : Safe digest strict call (p >>= f) s := by
  constructor
  rw [Prog.holds_bind]
  apply (holds_of_idle hp).mono
  intro s' r hs
  cases r with
  | error e => trivial
  | ok a =>
    rw [hs]
    exact (hf a).holds

theorem safe_result_bind {x : Except PauseError α} {f : α → PauseIo β}
    (hf : ∀ a, x = .ok a → Safe digest strict call (f a) s) :
    Safe digest strict call (ofResult x >>= f) s := by
  constructor
  rw [Prog.holds_bind,Prog.holds_ofResult]
  cases x with
  | error e => trivial
  | ok a => exact (hf a rfl).holds

theorem safe_send_bind {q : Request} {f : Answer → PauseIo β} (hq : Permitted digest strict s q)
    (hf : ∀ a s', CallStep strict call s q a s' → Safe digest strict call (f a) s') :
    Safe digest strict call (send q >>= f) s := by
  constructor
  rw [Prog.holds_bind,Prog.holds_send]
  exact ⟨hq,fun a s' hstep => (hf a s' hstep).holds⟩

theorem safe_bind_assoc {γ : Type} {p : PauseIo α} {f : α → PauseIo β} {g : β → PauseIo γ}
    (h : Safe digest strict call (p >>= fun a => f a >>= g) s) :
    Safe digest strict call ((p >>= f) >>= g) s := by
  constructor
  rw [Prog.holds_bind,Prog.holds_bind]
  apply ((Prog.holds_bind p _ _ s).mp h.holds).mono
  intro s' r hr
  cases r with
  | error e => trivial
  | ok a =>
    exact (Prog.holds_bind (f a) g _ s').mp hr

theorem safe_pure_bind {a : α} {f : α → PauseIo β} (h : Safe digest strict call (f a) s) :
    Safe digest strict call (pure a >>= f) s := by
  constructor
  rw [Prog.holds_bind,Prog.holds_pure]
  exact h.holds

theorem safe_throw_bind {e : PauseError} {f : α → PauseIo β} :
    Safe digest strict call ((throw e : PauseIo α) >>= f) s := by
  constructor
  rw [Prog.holds_bind,Prog.holds_throw]
  trivial

theorem safe_bind {p : PauseIo α} {f : α → PauseIo β} (hp : Safe digest strict call p s)
    (hf : ∀ a s', Safe digest strict call (f a) s') : Safe digest strict call (p >>= f) s := by
  constructor
  rw [Prog.holds_bind]
  apply hp.holds.mono
  intro s' r _
  cases r with
  | error e => trivial
  | ok a => exact (hf a s').holds

theorem safe_pure (a : α) : Safe digest strict call (pure a : PauseIo α) s := ⟨trivial⟩

theorem safe_throw (e : PauseError) : Safe digest strict call (throw e : PauseIo α) s := ⟨trivial⟩

theorem safe_perform_bind {q : Request} {f : Unit → PauseIo β} (hq : Permitted digest strict s q)
    (hf : ∀ s', Served s q .done s' → Safe digest strict call (f ()) s') :
    Safe digest strict call (perform q >>= f) s := by
  apply safe_bind_assoc
  apply safe_send_bind hq
  intro a s' hstep
  cases a with
  | done =>
    cases hstep.1 with
    | served hserved => exact safe_pure_bind (hf s' hserved)
  | _ => exact safe_throw_bind

theorem safe_perform {q : Request} (hq : Permitted digest strict s q) :
    Safe digest strict call (perform q) s := by
  apply safe_send_bind hq
  intro a s' _
  cases a with
  | done => exact safe_pure _
  | _ => exact safe_throw _

theorem safe_perform_idle {q : Request} {f : Unit → PauseIo β} (hq : Idle q)
    (hf : Safe digest strict call (f ()) s) : Safe digest strict call (perform q >>= f) s := by
  apply safe_perform_bind (.idle hq)
  intro s' hserved
  rw [(Exec.served hserved).idle hq]
  exact hf

theorem safe_writeRecord_bind {r : PauseRecord} {f : Unit → PauseIo β}
    (hr : Permitted digest strict s (.writeRecord r))
    (hf : r.encodedBytes ≤ maxFileBytes → Safe digest strict call (f ()) (s.put r)) :
    Safe digest strict call (writeRecord r >>= f) s := by
  apply safe_bind_assoc
  apply safe_result_bind
  intro _ hsize
  apply safe_perform_bind hr
  intro s' hserved
  cases hserved
  apply hf
  have hbound : decide (maxFileBytes < r.encodedBytes) = false := (Guard.refuse_eq_ok _ _ _).mp hsize
  have := of_decide_eq_false hbound
  omega

theorem safe_loadOne_bind {head : PrNumber} {f : Option PauseRecord → PauseIo β}
    (hnone : s.records head = none → Safe digest strict call (f none) s)
    (hsome : ∀ r, s.records head = some r → r.fileBytes ≤ maxFileBytes →
      Safe digest strict call (f (some r)) s) :
    Safe digest strict call (loadOne head >>= f) s := by
  apply safe_bind_assoc
  apply safe_send_bind (q := .readRecord head) (.idle trivial)
  intro a s' hstep
  cases hstep.1 with
  | failed error => exact safe_throw_bind
  | served hserved =>
    cases hserved
    cases hrecord : s.records head with
    | none => exact safe_pure_bind (hnone hrecord)
    | some r =>
      apply safe_bind_assoc
      apply safe_result_bind
      intro _ hsize
      apply safe_pure_bind
      apply hsome r hrecord
      have := of_decide_eq_false ((Guard.refuse_eq_ok _ _ _).mp hsize)
      omega

theorem safe_readStatus_bind {f : StatusOutput → PauseIo β}
    (hf : ∀ status, (strict → RoomyAnswer call s .status (.status status)) →
      Safe digest strict call (f status) s) : Safe digest strict call (readStatus >>= f) s := by
  apply safe_bind_assoc
  apply safe_send_bind (q := .status) (.idle trivial)
  intro a s' hstep
  obtain ⟨hexec,hroom⟩ := hstep
  cases hexec with
  | failed error => exact safe_throw_bind
  | served hserved =>
    cases hserved with
    | status status =>
      apply safe_bind_assoc
      apply safe_result_bind
      intro _ _
      exact safe_pure_bind (hf status hroom)

theorem safe_loadTerminal_bind {binding : RecoveryBinding}
    {f : Option TerminalReceipt → PauseIo β}
    (hnone : s.terminals (terminalPath digest binding) = none → Safe digest strict call (f none) s)
    (hsome : ∀ t, s.terminals (terminalPath digest binding) = some t →
      Safe digest strict call (f (some t)) s) :
    Safe digest strict call (loadTerminalReceipt digest binding >>= f) s := by
  apply safe_bind_assoc
  apply safe_send_bind (q := .readTerminal (terminalPath digest binding)) (.idle trivial)
  intro a s' hstep
  cases hstep.1 with
  | failed error => exact safe_throw_bind
  | served hserved =>
    cases hserved
    cases hterminal : s.terminals (terminalPath digest binding) with
    | none => exact safe_pure_bind (hnone hterminal)
    | some t =>
      apply safe_bind_assoc
      apply safe_result_bind
      intro _ _
      apply safe_bind_assoc
      apply safe_result_bind
      intro _ _
      exact safe_pure_bind (hsome t hterminal)

end Rules

section Idle

theorem idle_clock {q : Request} (hq : Idle q) : Only Idle (clock q) := by
  apply Only.bind (Only.send hq)
  intro a
  cases a <;> exact trivial

theorem idle_newOperationId : Only Idle newOperationId := by
  apply Only.bind (Only.send trivial)
  intro a
  cases a <;> exact trivial

theorem idle_commitIdentity (oid : CommitOid) : Only Idle (commitIdentity oid) := by
  apply Only.bind (Only.send trivial)
  intro a
  cases a <;> exact trivial

theorem idle_mutate (action : String) {q : Request} (hq : Idle q) : Only Idle (mutate action q) := by
  apply Only.bind (Only.send hq)
  intro a
  cases a <;> exact trivial

theorem idle_receipt (operation : String) (steps : List MutationStep) :
    Only Idle (receipt operation steps) := by
  apply Only.bind idle_newOperationId
  intro id
  exact .pure _

theorem idle_noop (operation : String) (record : PauseRecord) (next : String) :
    Only Idle (noop operation record next) := by
  apply Only.bind (idle_receipt _ _)
  intro receipt
  exact .pure _

theorem idle_suspendAutoMerge (head : PrNumber) (current : PullRequestSnapshot) :
    Only Idle (suspendAutoMerge head current) := by
  unfold suspendAutoMerge
  split_ifs
  · apply Only.bind (idle_mutate _ (by trivial))
    intro _
    exact .pure _
  · exact .pure _

theorem idle_restoreAutoMerge (status : StatusOutput) (head : PrNumber)
    (current : PullRequestSnapshot) : Only Idle (restoreAutoMerge status head current) := by
  unfold restoreAutoMerge
  split_ifs
  · exact .pure _
  · exact .pure _
  · apply Only.bind (idle_mutate _ (by trivial))
    intro _
    apply Only.bind (idle_mutate _ (by trivial))
    intro _
    exact .pure _

theorem idle_verifyHead (binding : RecoveryBinding) : Only Idle (verifyHead binding) := by
  apply Only.bind (idle_commitIdentity _)
  intro head
  exact .ofResult _

end Idle

section Ordinary

variable {s : Store}

theorem safe_freeze (input : PauseInput) (status : StatusOutput)
    (hnone : s.records input.headPr = none) : Safe digest strict call (freeze input status) s := by
  have hfence : s.fence input.headPr = none := by
    unfold Store.fence
    rw [hnone]
    rfl
  apply safe_result_bind
  intro caravan _
  apply safe_result_bind
  intro _ _
  apply safe_result_bind
  intro current _
  apply safe_idle_bind (idle_clock (by trivial))
  intro now
  apply safe_result_bind
  intro _ _
  apply safe_idle_bind (idle_suspendAutoMerge _ _)
  intro disabled
  apply safe_writeRecord_bind (.plain hfence rfl)
  intro _
  apply safe_perform_idle (by trivial)
  apply safe_idle_bind (idle_receipt _ _)
  intro receipt
  exact safe_pure _

theorem safe_pause (input : PauseInput) : Safe digest strict call (pause input) s := by
  apply safe_result_bind
  intro _ _
  apply safe_result_bind
  intro _ _
  apply safe_result_bind
  intro _ _
  apply safe_perform_idle (by trivial)
  apply safe_readStatus_bind
  intro status _
  apply safe_loadOne_bind
  · exact fun hnone => safe_freeze input status hnone
  · intro existing _ _
    apply safe_idle_bind (idle_clock (by trivial))
    intro now
    dsimp only
    split_ifs
    · exact safe_idle (idle_noop _ _ _)
    · exact safe_throw _

theorem safe_releaseHold (input : ResumeInput) (status : StatusOutput)
    (current : PullRequestSnapshot) (record : PauseRecord) (hfence : s.fence input.headPr = none) :
    Safe digest strict call (releaseHold input status current record) s := by
  apply safe_idle_bind (idle_restoreAutoMerge _ _ _)
  intro restored
  apply safe_perform_idle (by trivial)
  apply safe_perform_bind
  · apply Permitted.remove
    intro recovery hsome
    rw [hfence] at hsome
    cases hsome
  intro s' _
  apply safe_idle_bind (idle_receipt _ _)
  intro receipt
  exact safe_pure _

theorem safe_resume (hvalid : Valid digest strict s) (input : ResumeInput) :
    Safe digest strict call (resume input) s := by
  apply safe_result_bind
  intro _ _
  apply safe_perform_idle (by trivial)
  apply safe_bind_assoc
  apply safe_loadOne_bind
  · exact fun _ => safe_throw_bind
  intro record hrecord _
  apply safe_pure_bind
  apply safe_result_bind
  intro _ hordinary
  have hrecovery : record.recovery = none := by
    unfold rejectOrdinaryResumeDuringRecovery at hordinary
    split at hordinary
    · assumption
    · cases hordinary
  have hnamed := hvalid.named _ _ hrecord
  have hfence : s.fence input.headPr = none := (Store.fence_of_record hrecord).trans hrecovery
  apply safe_readStatus_bind
  intro status _
  apply safe_idle_bind (idle_clock (by trivial))
  intro now
  apply safe_result_bind
  intro _ _
  apply safe_result_bind
  intro _ _
  apply safe_result_bind
  intro current _
  apply safe_result_bind
  intro _ _
  unfold authorizeResume
  split
  · exact safe_pure_bind (safe_releaseHold _ _ _ _ hfence)
  · apply safe_bind_assoc
    apply safe_writeRecord_bind
    · apply Permitted.plain
      · rw [hnamed]
        exact hfence
      · exact hrecovery
    intro _
    apply safe_bind_assoc
    apply safe_perform_idle (by trivial)
    apply safe_pure_bind
    apply safe_releaseHold
    rw [Store.put_fence]
    split_ifs
    · exact hrecovery
    · exact hfence

end Ordinary

section Recovery

variable {s : Store} {binding : RecoveryBinding} {record : PauseRecord} {recovery : RecoveryRecord}

theorem requireSameBinding_eq_ok {u : Unit} :
    requireSameBinding binding recovery = .ok u ↔
      recovery.version = 1 ∧ recovery.binding = binding := by
  unfold requireSameBinding
  rw [Guard.refuse_eq_ok,decide_eq_false_iff_not,not_or,not_not,not_not]

/-- The advanced evidence leaves the recovery and the place of the record alone. -/
theorem advancePauseEvidence_eq_ok {status : StatusOutput} {advanced : PauseRecord}
    (h : advancePauseEvidence status record binding = .ok advanced) :
    advanced.recovery = record.recovery ∧ advanced.caravanHead = record.caravanHead := by
  unfold advancePauseEvidence at h
  obtain ⟨caravan,-,h⟩ := Guard.bind_eq_ok.mp h
  obtain ⟨-,h⟩ := Guard.unit_bind_eq_ok.mp h
  obtain ⟨head,-,h⟩ := Guard.bind_eq_ok.mp h
  cases h
  exact ⟨rfl,rfl⟩

/-- The request that passed the final checks also passes their replay. -/
theorem verifyReplayedFinalInput_of_final {status : StatusOutput} {input : RecoveryInput}
    {head : GitCommitIdentity} {evidence : FinalEvidence}
    (h : verifyFinalEvidence status input binding head = .ok evidence) :
    verifyReplayedFinalInput input (some evidence) = .ok () := by
  unfold verifyFinalEvidence at h
  obtain ⟨-,h⟩ := Guard.unit_bind_eq_ok.mp h
  obtain ⟨-,h⟩ := Guard.unit_bind_eq_ok.mp h
  obtain ⟨target,-,h⟩ := Guard.bind_eq_ok.mp h
  obtain ⟨supplied,hsupplied,h⟩ := Guard.bind_eq_ok.mp h
  obtain ⟨discovered,-,h⟩ := Guard.bind_eq_ok.mp h
  obtain ⟨hattribution,h⟩ := (Guard.refuse_bind_eq_ok _ _ _ _).mp h
  obtain ⟨candidate,-,h⟩ := Guard.bind_eq_ok.mp h
  obtain ⟨-,h⟩ := (Guard.refuse_bind_eq_ok _ _ _ _).mp h
  obtain ⟨synthetic,-,h⟩ := Guard.bind_eq_ok.mp h
  obtain ⟨merge,hmerge,h⟩ := Guard.bind_eq_ok.mp h
  obtain ⟨hvirtual,h⟩ := (Guard.refuse_bind_eq_ok _ _ _ _).mp h
  cases h
  have hequal : supplied = discovered := by simpa using hattribution
  have hfacts := of_decide_eq_false hvirtual
  push Not at hfacts
  obtain ⟨-,-,htree,hparents⟩ := hfacts
  unfold verifyReplayedFinalInput
  rw [Guard.bind_eq_ok]
  refine ⟨_,rfl,?_⟩
  rw [Guard.bind_eq_ok]
  refine ⟨supplied,hsupplied,?_⟩
  rw [Guard.bind_eq_ok]
  refine ⟨merge,hmerge,?_⟩
  rw [Guard.refuse_eq_ok,decide_eq_false_iff_not]
  push Not
  exact ⟨htree,hparents,hequal.symm⟩

theorem safe_reconcileRecord (hclosed : s.Closed digest binding) :
    Safe digest strict call (reconcileRecord binding) s := by
  apply safe_loadOne_bind
  · exact fun _ => safe_pure _
  intro record hrecord _
  dsimp only
  split
  · exact safe_throw _
  case h_2 recovery hrecovery =>
    apply safe_result_bind
    intro _ hsame
    have hbinding := (requireSameBinding_eq_ok.mp hsame).2
    apply safe_perform
    apply Permitted.remove
    intro recovery' hfence
    rw [Store.fence_of_record hrecord,hrecovery] at hfence
    cases hfence
    rw [hbinding]
    exact hclosed

theorem safe_replayTerminal (phase : Phase) (input : RecoveryInput) {t : TerminalReceipt}
    (ht : s.terminals (terminalPath digest binding) = some t) :
    Safe digest strict call (replayTerminal phase input binding t) s := by
  apply safe_result_bind
  intro _ hbinding
  apply safe_result_bind
  intro _ _
  apply safe_result_bind
  intro _ _
  have hsame : t.binding = binding := by simpa using (Guard.refuse_eq_ok _ _ _).mp hbinding
  apply safe_bind (safe_reconcileRecord ⟨t,ht,hsame⟩)
  intro _ s'
  exact safe_pure _

theorem safe_prepare (input : RecoveryInput) (hvalid : Valid digest strict s)
    (hrecord : s.records binding.caravanId = some record)
    (hterminal : s.terminals (terminalPath digest binding) = none) :
    Safe digest strict call (prepare input binding record) s := by
  unfold prepare
  split
  · apply safe_result_bind
    intro _ _
    exact safe_pure _
  case h_2 hnone =>
    have hnamed := hvalid.named _ _ hrecord
    apply safe_readStatus_bind
    intro status _
    apply safe_idle_bind (idle_clock (by trivial))
    intro now
    apply safe_result_bind
    intro _ _
    apply safe_idle_bind idle_newOperationId
    intro receiptId
    apply safe_idle_bind (idle_clock (by trivial))
    intro timestamp
    apply safe_perform_idle (by trivial)
    apply safe_writeRecord_bind
    · apply Permitted.prepare _ rfl rfl rfl hnamed.symm hterminal
      show s.fence record.caravanHead = none
      rw [hnamed,Store.fence_of_record hrecord]
      exact hnone
    intro _
    apply safe_perform_idle (by trivial)
    exact safe_pure _

/-- The recovery the caller has found in the record is the one of its binding. -/
structure Found (digest : String → String) (s : Store) (binding : RecoveryBinding)
    (record : PauseRecord) (recovery : RecoveryRecord) : Prop where
  stored : s.records binding.caravanId = some record
  named : record.caravanHead = binding.caravanId
  fenced : record.recovery = some recovery
  bound : recovery.binding = binding
  unpublished : s.terminals (terminalPath digest binding) = none

theorem Found.fence (h : Found digest s binding record recovery) :
    s.fence record.caravanHead = some recovery := by
  rw [h.named,Store.fence_of_record h.stored]
  exact h.fenced

theorem Found.terminal (h : Found digest s binding record recovery) :
    s.terminals (terminalPath digest recovery.binding) = none := by
  rw [h.bound]
  exact h.unpublished

theorem safe_advance (input : RecoveryInput) (phase : Phase) (checkpoint : Checkpoint)
    (event : String) (h : Found digest s binding record recovery)
    (hnext : checkpoint.rank = recovery.checkpoint.rank + 1) :
    Safe digest strict call (advance input binding record recovery phase checkpoint event) s := by
  apply safe_idle_bind (idle_clock (by trivial))
  intro timestamp
  apply safe_perform_idle (by trivial)
  apply safe_writeRecord_bind
  · refine Permitted.advance (by exact h.fence) rfl ?_ ?_ ?_ ?_ h.terminal
    · rfl
    · rfl
    · show recovery.checkpoint.rank ≤ checkpoint.rank
      omega
    · show checkpoint.rank ≤ recovery.checkpoint.rank + 1
      omega
  intro _
  apply safe_perform_idle (by trivial)
  exact safe_pure _

theorem safe_checkpointBase (input : RecoveryInput) (status : StatusOutput)
    (h : Found digest s binding record recovery) :
    Safe digest strict call (checkpointBase input binding record recovery status) s := by
  unfold checkpointBase
  split
  case h_1 hprepared =>
    apply safe_result_bind
    intro _ _
    apply safe_advance input _ _ _ h
    rw [hprepared]
    rfl
  · apply safe_result_bind
    intro _ _
    exact safe_pure _
  · apply safe_result_bind
    intro _ _
    apply safe_idle_bind (idle_verifyHead _)
    intro _
    exact safe_pure _

theorem safe_checkpointHead (input : RecoveryInput) (status : StatusOutput)
    (h : Found digest s binding record recovery) :
    Safe digest strict call (checkpointHead input binding record recovery status) s := by
  apply safe_result_bind
  intro _ hrequired
  apply safe_result_bind
  intro _ _
  apply safe_idle_bind (idle_verifyHead _)
  intro _
  split_ifs with hhead
  · exact safe_pure _
  · apply safe_advance input _ _ _ h
    -- at least the base and not yet the head: the base
    have hbase : ¬ recovery.checkpoint.rank < 1 := of_decide_eq_false ((Guard.refuse_eq_ok _ _ _).mp hrequired)
    cases hcheckpoint : recovery.checkpoint with
    | prepared =>
      rw [hcheckpoint] at hbase
      exact absurd Nat.zero_lt_one hbase
    | baseCheckpointed => rfl
    | headCheckpointed => exact absurd hcheckpoint hhead

theorem safe_writeTerminalReceipt_bind {t : TerminalReceipt} {f : Unit → PauseIo β}
    (hnone : s.terminals (terminalPath digest t.binding) = none)
    (ht : t.fileBytes ≤ maxFileBytes →
      Permitted digest strict s (.writeTerminal (terminalPath digest t.binding) t))
    (hf : Safe digest strict call (f ()) (s.publish (terminalPath digest t.binding) t)) :
    Safe digest strict call (writeTerminalReceipt digest t >>= f) s := by
  apply safe_bind_assoc
  apply safe_result_bind
  intro _ hsize
  have hbound : ¬ maxFileBytes < t.fileBytes := of_decide_eq_false ((Guard.refuse_eq_ok _ _ _).mp hsize)
  have hwrite : Safe digest strict call
      (perform (.writeTerminal (terminalPath digest t.binding) t) >>= f) s := by
    apply safe_perform_bind (ht (by omega))
    intro s' hserved
    cases hserved
    exact hf
  apply safe_bind_assoc
  apply safe_send_bind (q := .readTerminal (terminalPath digest t.binding)) (.idle trivial)
  intro a s' hstep
  cases hstep.1 with
  | failed error => exact hwrite
  | served hserved =>
    cases hserved
    rw [hnone]
    exact hwrite

theorem safe_release (input : RecoveryInput) (action : String) {t : TerminalReceipt}
    (h : Found digest s t.binding record recovery)
    (hroom : strict → record.fileBytes ≤ maxFileBytes) (hmatches : ∃ input, Matches input t) :
    Safe digest strict call (release digest input record t action) s := by
  apply safe_writeTerminalReceipt_bind h.unpublished
  · intro hsize
    exact .publish h.unpublished h.stored h.fenced h.bound hroom hsize hmatches
  apply safe_perform_idle (by trivial)
  apply safe_perform_bind
  · apply Permitted.remove
    intro recovery' hfence
    rw [Store.publish_fence,Store.fence_of_record h.stored,h.fenced] at hfence
    cases hfence
    refine ⟨t,?_,h.bound.symm⟩
    rw [h.bound,Store.publish_terminals,if_pos rfl]
  intro s' _
  exact safe_pure _

theorem safe_finalize (input : RecoveryInput) (status : StatusOutput)
    (hinput : recoveryBinding input = .ok binding) (h : Found digest s binding record recovery)
    (hroom : strict → ∀ advanced, advancePauseEvidence status record binding = .ok advanced →
      advanced.encodedBytes ≤ maxFileBytes → advanced.fileBytes ≤ maxFileBytes) :
    Safe digest strict call (finalize digest input binding record recovery status) s := by
  apply safe_result_bind
  intro _ _
  apply safe_result_bind
  intro _ _
  apply safe_idle_bind (idle_commitIdentity _)
  intro head
  apply safe_result_bind
  intro evidence hevidence
  apply safe_result_bind
  intro advanced hadvanced
  obtain ⟨hrecovery,hhead⟩ := advancePauseEvidence_eq_ok hadvanced
  have hnamed : advanced.caravanHead = binding.caravanId := hhead.trans h.named
  have hfenced : advanced.recovery = some recovery := hrecovery.trans h.fenced
  apply safe_perform_idle (by trivial)
  apply safe_writeRecord_bind
  · apply Permitted.advance _ hfenced rfl rfl le_rfl (Nat.le_succ _) h.terminal
    rw [hhead]
    exact h.fence
  intro hsize
  apply safe_idle_bind (idle_clock (by trivial))
  intro completed
  apply safe_release input
  · exact {
      stored := by rw [Store.put_records,if_pos hnamed.symm]
      named := hnamed
      fenced := hfenced
      bound := h.bound
      unpublished := h.unpublished }
  · exact fun hstrict => hroom hstrict advanced hadvanced hsize
  · exact ⟨input,hinput,fun _ => verifyReplayedFinalInput_of_final hevidence⟩

theorem safe_rollback (input : RecoveryInput) (status : StatusOutput)
    (hinput : recoveryBinding input = .ok binding) (h : Found digest s binding record recovery)
    (hreadable : record.fileBytes ≤ maxFileBytes) :
    Safe digest strict call (rollback digest input binding record recovery status) s := by
  apply safe_result_bind
  intro _ _
  apply safe_result_bind
  intro _ _
  apply safe_perform_idle (by trivial)
  apply safe_idle_bind (idle_clock (by trivial))
  intro completed
  apply safe_release input _ h (fun _ => hreadable)
  exact ⟨input,hinput,fun houtcome => by cases houtcome⟩

theorem safe_runPhase {phase : Phase} {input : RecoveryInput} (hvalid : Valid digest strict s)
    (hinput : recoveryBinding input = .ok binding)
    (hrecord : s.records binding.caravanId = some record)
    (hreadable : record.fileBytes ≤ maxFileBytes)
    (hterminal : s.terminals (terminalPath digest binding) = none) :
    Safe digest strict (.recovery phase input) (runPhase digest phase input binding record) s := by
  unfold runPhase
  split_ifs
  · exact safe_prepare input hvalid hrecord hterminal
  apply safe_result_bind
  intro recovery hrecovery
  have hsome : record.recovery = some recovery := by
    cases h : record.recovery with
    | none =>
      rw [h] at hrecovery
      cases hrecovery
    | some r =>
      rw [h] at hrecovery
      cases hrecovery
      rfl
  apply safe_result_bind
  intro _ hsame
  have hfound : Found digest s binding record recovery := {
    stored := hrecord
    named := hvalid.named _ _ hrecord
    fenced := hsome
    bound := (requireSameBinding_eq_ok.mp hsame).2
    unpublished := hterminal }
  apply safe_readStatus_bind
  intro status hroom
  cases phase with
  | prepare => exact safe_throw _
  | checkpointBase => exact safe_checkpointBase input status hfound
  | checkpointHead => exact safe_checkpointHead input status hfound
  | rollback => exact safe_rollback input status hinput hfound hreadable
  | finalize =>
    apply safe_finalize input status hinput hfound
    intro hstrict advanced hadvanced
    exact hroom hstrict input status binding record advanced rfl rfl rfl hinput hrecord hadvanced

theorem safe_pauseRecovery (hvalid : Valid digest strict s) (phase : Phase)
    (input : RecoveryInput) :
    Safe digest strict (.recovery phase input) (pauseRecovery digest phase input) s := by
  apply safe_result_bind
  intro binding hinput
  apply safe_perform_idle (by trivial)
  apply safe_loadTerminal_bind
  · intro hterminal
    apply safe_loadOne_bind
    · exact fun _ => safe_throw _
    · intro record hrecord hreadable
      exact safe_runPhase hvalid hinput hrecord hreadable hterminal
  · exact fun t ht => safe_replayTerminal phase input ht

end Recovery

end Pause
end Cara
