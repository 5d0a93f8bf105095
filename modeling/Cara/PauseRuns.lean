import Cara.PauseOperations

/-! Fences over whole runs: every sequence of calls, each stopped anywhere. -/
namespace Cara
namespace Pause

open Prog (Holds Spec Run ofResult)

variable (digest : String → String)

/-- Replaying the phase a receipt records, while the only record left is the one it closes,
ends with no record. -/
def Converges (s : Store) : Prop :=
  ∀ path t, s.terminals path = some t → (∃ input, Matches input t) ∧
    ∀ input, Matches input t →
      (∀ r, s.records t.binding.caravanId = some r →
        r.recovery.map (·.binding) = some t.binding) →
      (∃ output s', Run Served (pauseRecovery digest t.outcome.phase input).run s
        (some (.ok output)) s') ∧
      ∀ r s', Run Served (pauseRecovery digest t.outcome.phase input).run s r s' →
        (∃ output, r = some (.ok output)) ∧ s'.records t.binding.caravanId = none

/-- The fence of a recovery over the durable states of a run, newest first. -/
structure FencePersistence (states : List Store) : Prop where
  released_after_receipt : states.IsChain fun after before => ∀ head recovery,
    before.fence head = some recovery →
      (∃ recovery', after.fence head = some recovery' ∧ recovery'.binding = recovery.binding) ∨
      before.Closed digest recovery.binding
  rank_monotone : states.Pairwise fun after before => ∀ head head' recovery recovery',
    before.fence head = some recovery → after.fence head' = some recovery' →
    recovery'.binding = recovery.binding → recovery.checkpoint.rank ≤ recovery'.checkpoint.rank
  base_before_head : ∀ state past, state::past <:+ states → ∀ head recovery,
    state.fence head = some recovery → recovery.checkpoint = .headCheckpointed →
    ∃ earlier ∈ past, ∃ recovery', earlier.fence head = some recovery' ∧
      recovery'.binding = recovery.binding ∧ recovery'.checkpoint = .baseCheckpointed
  one_outcome : ∀ s ∈ states, ∀ s' ∈ states, ∀ path path' t t', s.terminals path = some t →
    s'.terminals path' = some t' → t.binding.idempotencyKey = t'.binding.idempotencyKey →
    t.outcome = t'.outcome
  replay_converges : ∀ s ∈ states, Converges digest s

section Steps

variable {digest} {strict : Prop}

/-- The status a finalize call reads leaves room for the advanced record. -/
def Roomy (s : System) (e : Event) : Prop :=
  ∀ call rest q a, s.task = some (call,rest) → e = .request q a → RoomyAnswer call s.store q a

/-- The store is valid and what is left of the call issues only permitted writes. -/
structure System.Safe (digest : String → String) (strict : Prop) (s : System) : Prop where
  valid : Valid digest strict s.store
  task : ∀ call rest, s.task = some (call,rest) →
    Spec (CallStep strict call) (Permitted digest strict) (fun _ => True) rest
      (fun _ _ => True) s.store

theorem spec_prog {s : Store} (hvalid : Valid digest strict s) (call : Call) :
    Spec (CallStep strict call) (Permitted digest strict) (fun _ => True) (call.prog digest)
      (fun _ _ => True) s := by
  cases call with
  | pause input => exact (Prog.spec_bind _ _ _ _).mpr (safe_pause input).holds
  | resume input => exact (Prog.spec_bind _ _ _ _).mpr (safe_resume hvalid input).holds
  | recovery phase input =>
    exact (Prog.spec_bind _ _ _ _).mpr (safe_pauseRecovery hvalid phase input).holds

theorem System.Safe.step {s s' : System} {e : Event} (h : s.Safe digest strict)
    (hstep : s.Step digest e s') (hroom : strict → Roomy s e) :
    s'.Safe digest strict ∧ Fenced digest s.store s'.store := by
  cases hstep with
  | call c hnone =>
    refine ⟨⟨h.valid,?_⟩,.refl digest _⟩
    intro call rest htask
    cases htask
    exact spec_prog h.valid c
  | stop =>
    refine ⟨⟨h.valid,?_⟩,.refl digest _⟩
    intro call rest htask
    cases htask
  | request htask hexec =>
    obtain ⟨hpermitted,hrest⟩ := h.task _ _ htask
    refine ⟨⟨hpermitted.valid hexec h.valid,?_⟩,hpermitted.fenced hexec⟩
    intro call rest htask'
    cases htask'
    exact hrest _ _ ⟨hexec,fun hstrict => hroom hstrict _ _ _ _ htask rfl⟩

structure Since (digest : String → String) (before after : Store) : Prop where
  kept : ∀ path t, before.terminals path = some t → after.terminals path = some t
  held : ∀ head recovery, before.fence head = some recovery →
    (∃ recovery', after.fence head = some recovery' ∧ recovery'.binding = recovery.binding ∧
      recovery.checkpoint.rank ≤ recovery'.checkpoint.rank) ∨
    (after.Closed digest recovery.binding ∧ ∀ recovery', after.fence head = some recovery' →
      recovery'.binding ≠ recovery.binding)

theorem Since.refl (s : Store) : Since digest s s where
  kept _ _ h := h
  held _ recovery h := .inl ⟨recovery,h,rfl,le_rfl⟩

theorem Store.Closed.mono {s s' : Store} {binding : RecoveryBinding} (h : s.Closed digest binding)
    (hkept : ∀ path t, s.terminals path = some t → s'.terminals path = some t) :
    s'.Closed digest binding := by
  obtain ⟨t,ht,hbinding⟩ := h
  exact ⟨t,hkept _ t ht,hbinding⟩

/-- A closed recovery whose record is gone never gets a record again. -/
theorem Fenced.not_reopened {s s' : Store} (h : Fenced digest s s') {head : PrNumber}
    {binding : RecoveryBinding} (hclosed : s.Closed digest binding)
    (hgone : ∀ recovery, s.fence head = some recovery → recovery.binding ≠ binding) :
    ∀ recovery', s'.fence head = some recovery' → recovery'.binding ≠ binding := by
  intro recovery' hfence' hbinding
  cases hfence : s.fence head with
  | none =>
    obtain ⟨-,hterminal⟩ := h.opened head recovery' hfence hfence'
    rw [hbinding] at hterminal
    exact Store.Closed.not_open hterminal hclosed
  | some recovery =>
    obtain ⟨recovery'',hsome,hsame,-,-⟩ | ⟨hnone,-⟩ := h.held head recovery hfence
    · rw [hfence'] at hsome
      cases hsome
      exact hgone recovery hfence (hsame.symm.trans hbinding)
    · rw [hfence'] at hnone
      cases hnone

theorem Since.step {s m t : Store} (h : Since digest s m) (hstep : Fenced digest m t) :
    Since digest s t where
  kept path r hr := hstep.kept path r (h.kept path r hr)
  held head recovery hfence := by
    obtain ⟨recovery',hm,hbinding,hrank⟩ | ⟨hclosed,hgone⟩ := h.held head recovery hfence
    · obtain ⟨recovery'',ht,hbinding',hrank',-⟩ | ⟨hnone,hclosed⟩ := hstep.held head recovery' hm
      · exact .inl ⟨recovery'',ht,hbinding'.trans hbinding,hrank.trans hrank'⟩
      · right
        rw [hbinding] at hclosed
        refine ⟨hclosed.mono hstep.kept,?_⟩
        intro r hr
        rw [hnone] at hr
        cases hr
    · exact .inr ⟨hclosed.mono hstep.kept,hstep.not_reopened hclosed hgone⟩

/-- One binding fences one head only, so its ranks can be compared wherever they stand. -/
theorem Since.rank {s t : Store} (h : Since digest s t) (hs : Valid digest strict s)
    (ht : Valid digest strict t) {head head' : PrNumber} {recovery recovery' : RecoveryRecord}
    (hfence : s.fence head = some recovery) (hfence' : t.fence head' = some recovery')
    (hbinding : recovery'.binding = recovery.binding) :
    recovery.checkpoint.rank ≤ recovery'.checkpoint.rank := by
  have hhead : head' = head := by
    rw [← (hs.owned _ _ hfence).2,← (ht.owned _ _ hfence').2,hbinding]
  rw [hhead] at hfence'
  obtain ⟨recovery'',hsome,-,hrank⟩ | ⟨-,hgone⟩ := h.held head recovery hfence
  · rw [hfence'] at hsome
    cases hsome
    exact hrank
  · exact absurd hbinding (hgone recovery' hfence')

end Steps

section Replay

variable {digest} {strict : Prop} {s : Store} {t : TerminalReceipt} {input : RecoveryInput}

structure Replays {α : Type} (p : PauseIo α) (post : Store → Except PauseError α → Prop)
    (s : Store) : Prop where
  holds : Holds Served (fun s q => ∃ a s', Served s q a s') (fun _ => False) p post s

theorem replays_bind {α β : Type} {p : PauseIo α} {f : α → PauseIo β}
    {post : Store → Except PauseError β → Prop} (m : Store → Except PauseError α → Prop)
    (hp : Replays p m s) (hok : ∀ s' a, m s' (.ok a) → Replays (f a) post s')
    (herror : ∀ s' e, m s' (.error e) → post s' (.error e)) : Replays (p >>= f) post s := by
  constructor
  rw [Prog.holds_bind]
  apply hp.holds.mono
  intro s' r hr
  cases r with
  | ok a => exact (hok s' a hr).holds
  | error e => exact herror s' e hr

theorem replays_result_bind {α β : Type} {x : Except PauseError α} {a : α} {f : α → PauseIo β}
    {post : Store → Except PauseError β → Prop} (hx : x = .ok a) (hf : Replays (f a) post s) :
    Replays (ofResult x >>= f) post s := by
  constructor
  rw [hx,Prog.holds_bind,Prog.holds_ofResult]
  exact hf.holds

theorem replays_pure {α : Type} {a : α} {post : Store → Except PauseError α → Prop}
    (h : post s (.ok a)) : Replays (pure a) post s := ⟨h⟩

theorem replays_send_bind {β : Type} {q : Request} {a : Answer} {s' : Store}
    {f : Answer → PauseIo β} {post : Store → Except PauseError β → Prop}
    (hserved : Served s q a s') (hunique : ∀ b s'', Served s q b s'' → b = a ∧ s'' = s')
    (hf : Replays (f a) post s') : Replays (Prog.send q >>= f) post s := by
  constructor
  rw [Prog.holds_bind,Prog.holds_send]
  constructor
  · exact ⟨_,_,hserved⟩
  intro b s'' hstep
  obtain ⟨hb,hs⟩ := hunique b s'' hstep
  rw [hb,hs]
  exact hf.holds

theorem replays_perform {q : Request} {post : Store → Except PauseError Unit → Prop} {s' : Store}
    (hserved : Served s q .done s') (hunique : ∀ a s'', Served s q a s'' → a = .done ∧ s'' = s')
    (hpost : post s' (.ok ())) : Replays (perform q) post s :=
  replays_send_bind hserved hunique (replays_pure hpost)

theorem served_readRecord {head : PrNumber} {a : Answer} {s' : Store}
    (h : Served s (.readRecord head) a s') : a = .record (s.records head) ∧ s' = s := by
  cases h
  exact ⟨rfl,rfl⟩

theorem served_readTerminal {path : String} {a : Answer} {s' : Store}
    (h : Served s (.readTerminal path) a s') : a = .terminal (s.terminals path) ∧ s' = s := by
  cases h
  exact ⟨rfl,rfl⟩

theorem replays_loadOne_none {head : PrNumber}
    {post : Store → Except PauseError (Option PauseRecord) → Prop}
    (hrecord : s.records head = none) (hpost : post s (.ok none)) :
    Replays (loadOne head) post s := by
  refine replays_send_bind (.readRecord head) (fun _ _ => served_readRecord) ?_
  rw [hrecord]
  exact replays_pure hpost

theorem replays_loadOne_some {head : PrNumber} {r : PauseRecord}
    {post : Store → Except PauseError (Option PauseRecord) → Prop}
    (hrecord : s.records head = some r) (hsize : r.fileBytes ≤ maxFileBytes)
    (hpost : post s (.ok (some r))) : Replays (loadOne head) post s := by
  refine replays_send_bind (.readRecord head) (fun _ _ => served_readRecord) ?_
  rw [hrecord]
  refine replays_result_bind (a := ()) ?_ (replays_pure hpost)
  rw [Guard.refuse_eq_ok,decide_eq_false_iff_not]
  omega

theorem replays_loadOne_large {head : PrNumber} {r : PauseRecord}
    {post : Store → Except PauseError (Option PauseRecord) → Prop}
    (hrecord : s.records head = some r) (hsize : maxFileBytes < r.fileBytes)
    (hpost : post s (.error recordTooLarge)) : Replays (loadOne head) post s := by
  refine replays_send_bind (.readRecord head) (fun _ _ => served_readRecord) ?_
  rw [hrecord]
  constructor
  rw [Prog.holds_bind,Prog.holds_ofResult,
    (Guard.refuse_eq_error _ _ recordTooLarge).mpr ⟨decide_eq_true hsize,rfl⟩]
  exact hpost

theorem replays_loadTerminalReceipt
    {post : Store → Except PauseError (Option TerminalReceipt) → Prop}
    (ht : s.terminals (terminalPath digest t.binding) = some t) (hsize : t.fileBytes ≤ maxFileBytes)
    (hpost : post s (.ok (some t))) :
    Replays (loadTerminalReceipt digest t.binding) post s := by
  refine replays_send_bind (.readTerminal _) (fun _ _ => served_readTerminal) ?_
  rw [ht]
  refine replays_result_bind (a := ()) ?_ (replays_result_bind (a := ()) ?_ (replays_pure hpost))
  · rw [Guard.refuse_eq_ok,decide_eq_false_iff_not]
    omega
  · rw [Guard.refuse_eq_ok]
    simp

/-- The record a receipt closes is removed if it can be read, and there may be none. -/
theorem replays_reconcileRecord {binding : RecoveryBinding}
    {post : Store → Except PauseError Unit → Prop}
    (hbound : ∀ r, s.records binding.caravanId = some r → r.fileBytes ≤ maxFileBytes ∧
      ∃ recovery, r.recovery = some recovery ∧ recovery.version = 1 ∧ recovery.binding = binding)
    (hpost : post (s.erase binding.caravanId) (.ok ())) :
    Replays (reconcileRecord binding) post s := by
  cases hrecord : s.records binding.caravanId with
  | none =>
    have hsame : s.erase binding.caravanId = s := by
      unfold Store.erase
      rw [← hrecord,Function.update_eq_self]
    rw [hsame] at hpost
    refine replays_bind (fun s' x => s' = s ∧ x = .ok none)
      (replays_loadOne_none hrecord ⟨rfl,rfl⟩) ?_ ?_
    · intro s' x hx
      cases hx.2
      rw [hx.1]
      exact replays_pure hpost
    · intro s' e hx
      cases hx.2
  | some r =>
    obtain ⟨hsize,recovery,hrecovery,hversion,hbinding⟩ := hbound r hrecord
    refine replays_bind (fun s' x => s' = s ∧ x = .ok (some r))
      (replays_loadOne_some hrecord hsize ⟨rfl,rfl⟩) ?_ ?_
    · intro s' x hx
      cases hx.2
      rw [hx.1]
      simp only [hrecovery]
      refine replays_result_bind ((requireSameBinding_eq_ok (u := ())).mpr ⟨hversion,hbinding⟩) ?_
      refine replays_perform (.removeRecord _ (by rw [hrecord]; rfl)) ?_ hpost
      intro a s'' hserved
      cases hserved
      exact ⟨rfl,rfl⟩
    · intro s' e hx
      cases hx.2

theorem replays_reconcileRecord_large {binding : RecoveryBinding} {r : PauseRecord}
    (hrecord : s.records binding.caravanId = some r) (hsize : maxFileBytes < r.fileBytes) :
    Replays (reconcileRecord binding) (fun _ x => x = .error recordTooLarge) s := by
  refine replays_bind (fun _ x => x = .error recordTooLarge)
    (replays_loadOne_large hrecord hsize rfl) ?_ ?_
  · intro s' x hx
    cases hx
  · exact fun _ _ hx => by cases hx; rfl

/-- A replay of the recorded phase passes every check before the record. -/
theorem replays_pauseRecovery (hvalid : Valid digest strict s)
    (ht : s.terminals (terminalPath digest t.binding) = some t) (hmatches : Matches input t)
    {m : Store → Except PauseError Unit → Prop} {post : Store → Except PauseError RecoveryOutput → Prop}
    (hreconcile : Replays (reconcileRecord t.binding) m s)
    (hok : ∀ s' output, m s' (.ok ()) → post s' (.ok output))
    (herror : ∀ s' e, m s' (.error e) → post s' (.error e)) :
    Replays (pauseRecovery digest t.outcome.phase input) post s := by
  obtain ⟨-,hsize,-⟩ := hvalid.filed _ _ ht
  have hfinal : (if t.outcome = .finalized then
      verifyReplayedFinalInput input t.finalEvidence else .ok ()) = .ok () := by
    split_ifs with houtcome
    · exact hmatches.2 houtcome
    · rfl
  refine replays_result_bind hmatches.1 ?_
  refine replays_bind (fun s' x => s' = s ∧ x = .ok ()) (replays_perform (.acquireWriter _)
    (fun a s' h => by cases h; exact ⟨rfl,rfl⟩) ⟨rfl,rfl⟩) ?_ (fun _ _ hx => by cases hx.2)
  intro s₁ _ hs₁
  rw [hs₁.1]
  refine replays_bind (fun s' x => s' = s ∧ x = .ok (some t))
    (replays_loadTerminalReceipt ht hsize ⟨rfl,rfl⟩) ?_ (fun _ _ hx => by cases hx.2)
  intro s₂ x hs₂
  cases hs₂.2
  rw [hs₂.1]
  refine replays_result_bind (a := ()) (by simp) ?_
  refine replays_result_bind (a := ()) (by simp) ?_
  refine replays_result_bind hfinal ?_
  refine replays_bind m hreconcile ?_ herror
  intro s' _ hm
  exact replays_pure (hok s' _ hm)

theorem Valid.converges (hvalid : Valid digest True s) : Converges digest s := by
  intro path t ht
  obtain ⟨hpath,-,hmatches⟩ := hvalid.filed path t ht
  refine ⟨hmatches,?_⟩
  intro input hinput hbound
  rw [hpath] at ht
  have hbound' (r : PauseRecord) (hr : s.records t.binding.caravanId = some r) :
      r.fileBytes ≤ maxFileBytes ∧ ∃ recovery, r.recovery = some recovery ∧
        recovery.version = 1 ∧ recovery.binding = t.binding := by
    obtain ⟨recovery,hrecovery,hbinding⟩ := Option.map_eq_some_iff.mp (hbound r hr)
    have hfence := (Store.fence_of_record hr).trans hrecovery
    have hclosed : s.Closed digest recovery.binding := by
      rw [hbinding]
      exact ⟨t,ht,rfl⟩
    exact ⟨hvalid.readable trivial _ r recovery hr hrecovery hclosed,recovery,hrecovery,
      (hvalid.owned _ _ hfence).1,hbinding⟩
  have hreplay : Replays (pauseRecovery digest t.outcome.phase input)
      (fun s' r => (∃ output, r = .ok output) ∧ s'.records t.binding.caravanId = none) s := by
    refine replays_pauseRecovery hvalid ht hinput (m := fun s' x => x = .ok () ∧
      s'.records t.binding.caravanId = none) (replays_reconcileRecord hbound' ⟨rfl,?_⟩) ?_ ?_
    · rw [Store.erase_records,if_pos rfl]
    · exact fun s' output hm => ⟨⟨output,rfl⟩,hm.2⟩
    · intro s' e hm
      cases hm.1
  constructor
  · obtain ⟨r,s',hrun,⟨output,hr⟩,-⟩ := Spec.exists_run hreplay.holds
    rw [hr] at hrun
    exact ⟨output,s',hrun⟩
  · intro r s' hrun
    have hend := Spec.run hreplay.holds hrun
    cases r with
    | none => exact hend.elim
    | some r =>
      obtain ⟨⟨output,hr⟩,hgone⟩ := hend
      exact ⟨⟨output,congrArg some hr⟩,hgone⟩

/-- A record that is too large to read is never removed by a replay. -/
theorem not_converges_of_large (hvalid : Valid digest strict s)
    (ht : s.terminals (terminalPath digest t.binding) = some t) (hmatches : Matches input t)
    {r : PauseRecord} (hr : s.records t.binding.caravanId = some r)
    (hbound : r.recovery.map (·.binding) = some t.binding) (hlarge : maxFileBytes < r.fileBytes) :
    ¬ Converges digest s := by
  intro h
  have hbound' (r' : PauseRecord) (hr' : s.records t.binding.caravanId = some r') :
      r'.recovery.map (·.binding) = some t.binding := by
    rw [hr] at hr'
    cases hr'
    exact hbound
  obtain ⟨⟨output,s',hrun⟩,-⟩ := (h _ t ht).2 input hmatches hbound'
  have hreplay : Replays (pauseRecovery digest t.outcome.phase input)
      (fun _ x => x = .error recordTooLarge) s := by
    apply replays_pauseRecovery hvalid ht hmatches (replays_reconcileRecord_large hr hlarge)
    · intro s' output hm
      cases hm
    · intro s' e hm
      cases hm
      rfl
  have hend : Except.ok output = .error recordTooLarge := Spec.run hreplay.holds hrun
  cases hend

end Replay

section Runs

variable {digest} {strict : Prop}

/-- What every run keeps: a safe system, and for each earlier state what became of it. -/
structure Kept (digest : String → String) (strict : Prop) (history : List (System × Event))
    (s : System) : Prop where
  safe : s.Safe digest strict
  since : ∀ u ∈ visited history s, Valid digest strict u ∧ Since digest u s.store
  chain : (visited history s).IsChain fun after before => Fenced digest before after
  ranks : (visited history s).Pairwise fun after before => Since digest before after

theorem PauseRun.kept {history : List (System × Event)} {s : System}
    (hrun : PauseRun digest history s) (hroom : strict → ∀ x ∈ history, Roomy x.1 x.2) :
    Kept digest strict history s := by
  induction hrun with
  | start =>
    have hvalid : Valid digest strict System.initial.store := valid_empty digest strict
    refine ⟨⟨hvalid,?_⟩,?_,?_,?_⟩
    · intro call rest htask
      cases htask
    · intro u hu
      rw [List.mem_singleton.mp hu]
      exact ⟨hvalid,.refl _⟩
    · exact .singleton _
    · exact List.pairwise_singleton _ _
  | step _ hstep ih =>
    rename_i history s s' e _
    have hkept := ih fun hstrict x hx => hroom hstrict x (List.mem_cons_of_mem _ hx)
    obtain ⟨hsafe,hfenced⟩ := hkept.safe.step hstep fun hstrict => hroom hstrict _ List.mem_cons_self
    refine ⟨hsafe,?_,?_,?_⟩
    · intro u hu
      obtain hu | hu := List.mem_cons.mp hu
      · rw [hu]
        exact ⟨hsafe.valid,.refl _⟩
      · obtain ⟨hvalid,hsince⟩ := hkept.since u hu
        exact ⟨hvalid,hsince.step hfenced⟩
    · exact .cons_cons hfenced hkept.chain
    · apply List.Pairwise.cons _ hkept.ranks
      intro u hu
      exact (hkept.since u hu).2.step hfenced

/-- The head checkpoint stands on a base checkpoint of the same recovery in an earlier state:
a step raises the rank by at most one, and a fence begins prepared. -/
theorem base_before_head {state : Store} {past : List Store}
    (hchain : (state::past).IsChain fun after before => Fenced digest before after)
    (hfirst : ∀ s ∈ (state::past).getLast?, ∀ head, s.fence head = none) {head : PrNumber}
    {recovery : RecoveryRecord} (hfence : state.fence head = some recovery)
    (hhead : recovery.checkpoint = .headCheckpointed) :
    ∃ earlier ∈ past, ∃ recovery', earlier.fence head = some recovery' ∧
      recovery'.binding = recovery.binding ∧ recovery'.checkpoint = .baseCheckpointed := by
  induction past generalizing state recovery with
  | nil =>
    rw [hfirst state rfl head] at hfence
    cases hfence
  | cons before past ih =>
    obtain ⟨hstep,hrest⟩ := List.isChain_cons_cons.mp hchain
    cases hbefore : before.fence head with
    | none =>
      obtain ⟨hprepared,-⟩ := hstep.opened head recovery hbefore hfence
      rw [hhead] at hprepared
      cases hprepared
    | some earlier =>
      obtain ⟨recovery',hsome,hbinding,hle,hsucc⟩ | ⟨hnone,-⟩ := hstep.held head earlier hbefore
      case inr =>
        rw [hfence] at hnone
        cases hnone
      rw [hfence] at hsome
      cases hsome
      rw [hhead] at hle hsucc
      cases hcheckpoint : earlier.checkpoint with
      | prepared =>
        rw [hcheckpoint] at hsucc
        exact absurd hsucc (by decide)
      | baseCheckpointed =>
        exact ⟨before,List.mem_cons_self,earlier,hbefore,hbinding.symm,hcheckpoint⟩
      | headCheckpointed =>
        have hfirst' : ∀ s ∈ (before::past).getLast?, ∀ head, s.fence head = none := by
          rw [List.getLast?_cons_cons] at hfirst
          exact hfirst
        obtain ⟨u,hu,recovery'',hfence'',hbinding'',hbase⟩ := ih hrest hfirst' hbefore hcheckpoint
        exact ⟨u,List.mem_cons_of_mem _ hu,recovery'',hfence'',hbinding''.trans hbinding.symm,hbase⟩

theorem visited_getLast? {history : List (System × Event)} {s : System}
    (hrun : PauseRun digest history s) : (visited history s).getLast? = some Store.empty := by
  induction hrun with
  | start => rfl
  | step _ _ ih =>
    rename_i history s s' e _ _
    show (s'.store::visited history s).getLast? = _
    rw [List.getLast?_cons,ih]
    rfl

/-- In every run whose finalize calls leave room for the record they advance, the fence of a
recovery persists until its receipt is durable, and replaying the receipt ends it. -/
theorem pauseRun_fencePersistence {history : List (System × Event)} {s : System}
    (hrun : PauseRun digest history s) (hroom : ∀ x ∈ history, Roomy x.1 x.2) :
    FencePersistence digest (visited history s) := by
  have hkept : Kept digest True history s := hrun.kept fun _ => hroom
  have hlast := visited_getLast? hrun
  constructor
  · apply hkept.chain.imp
    intro after before hfenced head recovery hfence
    obtain ⟨recovery',hsome,hbinding,-⟩ | ⟨-,hclosed⟩ := hfenced.held head recovery hfence
    · exact .inl ⟨recovery',hsome,hbinding⟩
    · exact .inr hclosed
  · apply hkept.ranks.imp_of_mem
    intro after before hafter hbefore hsince head head' recovery recovery' hfence hfence' hbinding
    exact hsince.rank (hkept.since before hbefore).1 (hkept.since after hafter).1 hfence hfence' hbinding
  · intro state past hsuffix head recovery hfence hhead
    apply base_before_head (hkept.chain.suffix hsuffix) _ hfence hhead
    intro u hu
    obtain ⟨newer,hstates⟩ := hsuffix
    rw [← hstates,List.getLast?_append_of_ne_nil _ (by simp)] at hlast
    rw [hlast] at hu
    cases hu
    exact fun _ => rfl
  · intro u hu v hv path path' t t' ht ht' hkey
    obtain ⟨-,hu⟩ := hkept.since u hu
    obtain ⟨-,hv⟩ := hkept.since v hv
    have hnow := hu.kept path t ht
    have hnow' := hv.kept path' t' ht'
    have hpath := (hkept.safe.valid.filed path t hnow).1
    have hpath' := (hkept.safe.valid.filed path' t' hnow').1
    have hsame : path = path' := by
      rw [hpath,hpath']
      unfold terminalPath
      rw [hkey]
    rw [hsame,hnow'] at hnow
    cases hnow
    rfl
  · exact fun u hu => (hkept.since u hu).1.converges

end Runs

section Examples

def retargetRepository : RepositoryId := ⟨"o","r"⟩

def oldBase : CommitOid := "aaaaaaaaaaaaaaaaaaaaaaaaaaaaaaaaaaaaaaaa"

def oldHead : CommitOid := "bbbbbbbbbbbbbbbbbbbbbbbbbbbbbbbbbbbbbbbb"

def newBase : CommitOid := "cccccccccccccccccccccccccccccccccccccccc"

def newHead : CommitOid := "dddddddddddddddddddddddddddddddddddddddd"

def newTree : CommitOid := "eeeeeeeeeeeeeeeeeeeeeeeeeeeeeeeeeeeeeeee"

def buildCheck : CheckSnapshot where
  name := "ci"
  state := .success
  providerKind := some "CheckRun"

/-- The one-member caravan #1 with this base, head and number of check rows. -/
def retargetStatus (base head : CommitOid) (checks : ℕ) : StatusOutput where
  repository := retargetRepository
  defaultBranch := "main"
  analysis := {
    fleet := {
      repository := retargetRepository
      defaultBranch := ⟨retargetRepository,"main",base⟩
      caravans := [⟨1,[1],false⟩] }
    pullRequests := (∅ : PullRequestMap).insert 1 {
      number := 1
      state := .open
      head := ⟨retargetRepository,"feature",head⟩
      base := ⟨retargetRepository,"main",base⟩
      labels := {"caravan"}
      autoMerge := .disabled
      checks := List.replicate checks buildCheck } }
  mergeCandidates := [{
    pr := 1
    base := ⟨retargetRepository,"main",base⟩
    head := ⟨retargetRepository,"feature",head⟩
    freshness := .fresh
    synthetic := some ⟨"refs/pull/1/merge",newTree,newTree,[base,head]⟩ }]

def retargetInput (checks : ℕ) : RecoveryInput where
  operationId := "op"
  externalReference := "INC-1"
  idempotencyKey := "retarget-1"
  actor := "ops"
  ownerProject := "p"
  ownerAgent := "a"
  ownershipGeneration := "1"
  repository := "o/r"
  caravanId := 1
  members := [1]
  pauseId := "1"
  pauseGeneration := "1"
  targetPr := 1
  expectedBaseRef := "main"
  expectedBaseOid := oldBase
  expectedHeadOid := oldHead
  desiredBaseRef := "main"
  desiredBaseOid := newBase
  desiredHeadOid := newHead
  desiredHeadTree := newTree
  virtualMergeParents := [newBase,newHead]
  virtualMergeTree := some newTree
  checkAttribution := some ⟨newHead,checks,0⟩
  reason := "r"

def retargetDigest (_ : String) : String :=
  "9c5354f8b1f7d379c7c3799a509a63b66f936b00ba07a5007332d6b79a2f694a"

def proceed (n : ℕ) : List Move := List.replicate n Move.proceed

def preparedScript (checks : ℕ) : List Move :=
  List.flatten [
    [.call (.pause { headPr := 1,actor := "ops",reason := "r",externalReference := some "INC-1" })],
    proceed 1,[.answer (.status (retargetStatus oldBase oldHead 1))],proceed 5,[.stop],
    [.call (.recovery .prepare (retargetInput checks))],proceed 3,
    [.answer (.status (retargetStatus oldBase oldHead 1))],proceed 6,[.stop]]

/-- Pause, prepare, both checkpoints, then a finalize that stops right after its receipt. -/
def retargetScript (checks : ℕ) : List Move :=
  let commit := Move.answer (.commit ⟨newHead,newTree,[newBase]⟩)
  let input := retargetInput checks
  List.flatten [
    preparedScript checks,
    [.call (.recovery .checkpointBase input)],proceed 3,
    [.answer (.status (retargetStatus newBase oldHead 1))],proceed 4,[.stop],
    [.call (.recovery .checkpointHead input)],proceed 3,
    [.answer (.status (retargetStatus newBase newHead 1)),commit],proceed 4,[.stop],
    [.call (.recovery .finalize input)],proceed 3,
    [.answer (.status (retargetStatus newBase newHead checks)),commit],proceed 5,[.stop]]

def retargetPath : String := retargetDigest "retarget-1" ++ ".json"

/-- Whether the script left its receipt and, beside it, a record too large to read. -/
def unreadableLeft (checks : ℕ) (s : System) : Bool :=
  match s.store.records 1,s.store.terminals retargetPath with
  | some r,some t => decide (t.binding.caravanId = 1) &&
      decide (r.recovery.map (·.binding) = some t.binding) &&
      decide ((recoveryBinding (retargetInput checks)).toOption = some t.binding) &&
      (verifyReplayedFinalInput (retargetInput checks) t.finalEvidence).isOk &&
      decide (maxFileBytes < r.fileBytes)
  | _,_ => false

/-- With 450 check rows on the final head the advanced record passes the size check, its file
exceeds the bound on reading, and no replay of the receipt can remove it. -/
theorem pauseRun_not_fencePersistence : ∃ history s, PauseRun retargetDigest history s ∧
    ¬ FencePersistence retargetDigest (visited history s) := by
  have hleft : (System.initial.play retargetDigest (retargetScript 450)).any
      (unreadableLeft 450) = true := by decide +kernel
  obtain ⟨s,hplay,hleft⟩ := (Option.any_eq_true _ _).mp hleft
  have hrun := PauseRun.start.play retargetDigest hplay
  refine ⟨_,s,hrun,?_⟩
  intro h
  have hkept : Kept retargetDigest False _ s := hrun.kept False.elim
  have hvalid := hkept.safe.valid
  unfold unreadableLeft at hleft
  split at hleft
  case h_2 => cases hleft
  case h_1 r t hr ht =>
    simp only [Bool.and_eq_true,decide_eq_true_eq] at hleft
    obtain ⟨⟨⟨⟨hcaravan,hbound⟩,hbinding⟩,hfinal⟩,hlarge⟩ := hleft
    have hmatches : Matches (retargetInput 450) t := by
      refine ⟨?_,fun _ => Guard.isOk_iff.mp hfinal⟩
      cases hb : recoveryBinding (retargetInput 450) with
      | error e =>
        rw [hb] at hbinding
        cases hbinding
      | ok b =>
        rw [hb] at hbinding
        cases hbinding
        rfl
    rw [← hcaravan] at hr
    rw [(hvalid.filed _ _ ht).1] at ht
    exact not_converges_of_large hvalid ht hmatches hr hbound hlarge
      (h.replay_converges s.store List.mem_cons_self)

/-- Pause and prepare, then a rollback that stops right after its receipt. -/
def rolledBackScript : List Move :=
  List.flatten [preparedScript 1,[.call (.recovery .rollback (retargetInput 1))],proceed 3,
    [.answer (.status (retargetStatus oldBase oldHead 1))],proceed 4,[.stop]]

def beforeFinalize (x : System × Event) : Bool :=
  match x.1.task with
  | some (.recovery .finalize _,_) => false
  | _ => true

theorem roomy_of_beforeFinalize {x : System × Event} (h : beforeFinalize x = true) :
    Roomy x.1 x.2 := by
  intro call rest q a htask _ input status binding r advanced hcall
  rw [hcall] at htask
  unfold beforeFinalize at h
  rw [htask] at h
  cases h

/-- The rolled back recovery still has its record, and its receipt can be replayed. -/
theorem pauseRun_fencePersistence_rolledBack : ∃ history s, PauseRun retargetDigest history s ∧
    (∀ x ∈ history, Roomy x.1 x.2) ∧
    (s.store.records 1).isSome ∧ (s.store.terminals retargetPath).isSome ∧
    FencePersistence retargetDigest (visited history s) := by
  have hleft : (System.initial.play retargetDigest rolledBackScript).any (fun s =>
      (s.store.records 1).isSome && (s.store.terminals retargetPath).isSome) = true := by
    decide +kernel
  have hroom : (System.initial.record retargetDigest rolledBackScript []).all beforeFinalize = true := by
    decide +kernel
  obtain ⟨s,hplay,hleft⟩ := (Option.any_eq_true _ _).mp hleft
  obtain ⟨hrecord,hterminal⟩ := Bool.and_eq_true_iff.mp hleft
  have hrun := PauseRun.start.play retargetDigest hplay
  have hroomy : ∀ x ∈ System.initial.record retargetDigest rolledBackScript [], Roomy x.1 x.2 :=
    fun x hx => roomy_of_beforeFinalize (List.all_eq_true.mp hroom x hx)
  exact ⟨_,s,hrun,hroomy,hrecord,hterminal,pauseRun_fencePersistence hrun hroomy⟩

end Examples

end Pause
end Cara
