import Cara.PauseSystem

/-! What each hold operation may write. A write is permitted by the store it is issued in;
permitted writes keep the store well formed and never take a recovery's fence away before its
terminal receipt is durable. -/
namespace Cara
namespace Pause

open Prog (Holds Only send ofResult)

variable (digest : String → String)

def Store.Closed (s : Store) (binding : RecoveryBinding) : Prop :=
  ∃ t, s.terminals (terminalPath digest binding) = some t ∧ t.binding = binding

/-- A request that replays the phase the receipt records. -/
def Matches (input : RecoveryInput) (t : TerminalReceipt) : Prop :=
  recoveryBinding input = .ok t.binding ∧
    (t.outcome = .finalized → verifyReplayedFinalInput input t.finalEvidence = .ok ())

def Idle : Request → Prop
  | .writeRecord _ => False
  | .writeTerminal _ _ => False
  | .removeRecord _ => False
  | _ => True

theorem Exec.idle {s s' : Store} {q : Request} {a : Answer} (h : Exec s q a s') (hq : Idle q) :
    s' = s := by
  cases h with
  | failed error => rfl
  | served h =>
    cases h with
    | writeRecord record => exact hq.elim
    | writeTerminal path receipt => exact hq.elim
    | removeRecord head _ => exact hq.elim
    | _ => rfl

section Permission

variable (strict : Prop)

/-- The durable writes of the operations, each with the store it is issued in. Under `strict`
a receipt is published only while the remaining record can still be read. -/
inductive Permitted (s : Store) : Request → Prop
  | plain {r : PauseRecord} : s.fence r.caravanHead = none → r.recovery = none →
      Permitted s (.writeRecord r)
  | prepare {r : PauseRecord} {recovery : RecoveryRecord} : s.fence r.caravanHead = none →
      r.recovery = some recovery → recovery.version = 1 → recovery.checkpoint = .prepared →
      recovery.binding.caravanId = r.caravanHead →
      s.terminals (terminalPath digest recovery.binding) = none → Permitted s (.writeRecord r)
  | advance {r : PauseRecord} {recovery recovery' : RecoveryRecord} :
      s.fence r.caravanHead = some recovery → r.recovery = some recovery' →
      recovery'.binding = recovery.binding → recovery'.version = recovery.version →
      recovery.checkpoint.rank ≤ recovery'.checkpoint.rank →
      recovery'.checkpoint.rank ≤ recovery.checkpoint.rank + 1 →
      s.terminals (terminalPath digest recovery.binding) = none → Permitted s (.writeRecord r)
  | publish {t : TerminalReceipt} {r : PauseRecord} {recovery : RecoveryRecord} :
      s.terminals (terminalPath digest t.binding) = none →
      s.records t.binding.caravanId = some r → r.recovery = some recovery →
      recovery.binding = t.binding → (strict → r.fileBytes ≤ maxFileBytes) →
      t.fileBytes ≤ maxFileBytes → (∃ input, Matches input t) →
      Permitted s (.writeTerminal (terminalPath digest t.binding) t)
  | remove {head : PrNumber} :
      (∀ recovery, s.fence head = some recovery → s.Closed digest recovery.binding) →
      Permitted s (.removeRecord head)
  | idle {q : Request} : Idle q → Permitted s q

/-- A well-formed store: records and receipts stand where their contents say. -/
structure Valid (s : Store) : Prop where
  named : ∀ head r, s.records head = some r → r.caravanHead = head
  owned : ∀ head recovery, s.fence head = some recovery →
    recovery.version = 1 ∧ recovery.binding.caravanId = head
  filed : ∀ path t, s.terminals path = some t → path = terminalPath digest t.binding ∧
    t.fileBytes ≤ maxFileBytes ∧ ∃ input, Matches input t
  readable : strict → ∀ head r recovery, s.records head = some r → r.recovery = some recovery →
    s.Closed digest recovery.binding → r.fileBytes ≤ maxFileBytes

theorem valid_empty : Valid digest strict .empty where
  named := by simp [Store.empty]
  owned := by simp [Store.empty,Store.fence]
  filed := by simp [Store.empty]
  readable := by simp [Store.empty]

structure Fenced (s s' : Store) : Prop where
  kept : ∀ path t, s.terminals path = some t → s'.terminals path = some t
  held : ∀ head recovery, s.fence head = some recovery →
    (∃ recovery', s'.fence head = some recovery' ∧ recovery'.binding = recovery.binding ∧
      recovery.checkpoint.rank ≤ recovery'.checkpoint.rank ∧
      recovery'.checkpoint.rank ≤ recovery.checkpoint.rank + 1) ∨
    (s'.fence head = none ∧ s.Closed digest recovery.binding)
  opened : ∀ head recovery', s.fence head = none → s'.fence head = some recovery' →
    recovery'.checkpoint = .prepared ∧
      s.terminals (terminalPath digest recovery'.binding) = none

theorem Fenced.refl (s : Store) : Fenced digest s s where
  kept _ _ h := h
  held head recovery h := .inl ⟨recovery,h,rfl,le_rfl,Nat.le_succ _⟩
  opened head recovery' hnone hsome := by
    rw [hnone] at hsome
    cases hsome

end Permission

section Fences

variable {digest}

@[simp] theorem Store.put_terminals (s : Store) (r : PauseRecord) :
    (s.put r).terminals = s.terminals := rfl

@[simp] theorem Store.erase_terminals (s : Store) (head : PrNumber) :
    (s.erase head).terminals = s.terminals := rfl

@[simp] theorem Store.publish_fence (s : Store) (path : String) (t : TerminalReceipt)
    (head : PrNumber) : (s.publish path t).fence head = s.fence head := rfl

theorem Store.put_records (s : Store) (r : PauseRecord) (head : PrNumber) :
    (s.put r).records head = if head = r.caravanHead then some r else s.records head :=
  Function.update_apply s.records r.caravanHead (some r) head

theorem Store.put_fence (s : Store) (r : PauseRecord) (head : PrNumber) :
    (s.put r).fence head = if head = r.caravanHead then r.recovery else s.fence head := by
  unfold Store.fence
  rw [Store.put_records]
  split_ifs <;> rfl

theorem Store.erase_records (s : Store) (head head' : PrNumber) :
    (s.erase head).records head' = if head' = head then none else s.records head' :=
  Function.update_apply s.records head none head'

theorem Store.erase_fence (s : Store) (head head' : PrNumber) :
    (s.erase head).fence head' = if head' = head then none else s.fence head' := by
  unfold Store.fence
  rw [Store.erase_records]
  split_ifs <;> rfl

theorem Store.publish_terminals (s : Store) (path path' : String) (t : TerminalReceipt) :
    (s.publish path t).terminals path' = if path' = path then some t else s.terminals path' :=
  Function.update_apply s.terminals path (some t) path'

theorem Store.fence_of_record {s : Store} {head : PrNumber} {r : PauseRecord}
    (h : s.records head = some r) : s.fence head = r.recovery := by
  unfold Store.fence
  rw [h]
  rfl

theorem Store.Closed.not_open {s : Store} {binding : RecoveryBinding}
    (h : s.terminals (terminalPath digest binding) = none) : ¬ s.Closed digest binding := by
  intro hclosed
  obtain ⟨t,ht,-⟩ := hclosed
  rw [h] at ht
  cases ht

theorem Fenced.put {s : Store} {r : PauseRecord}
    (hheld : ∀ recovery, s.fence r.caravanHead = some recovery → ∃ recovery', r.recovery = some recovery' ∧
      recovery'.binding = recovery.binding ∧ recovery.checkpoint.rank ≤ recovery'.checkpoint.rank ∧
      recovery'.checkpoint.rank ≤ recovery.checkpoint.rank + 1)
    (hopened : ∀ recovery', s.fence r.caravanHead = none → r.recovery = some recovery' →
      recovery'.checkpoint = .prepared ∧
        s.terminals (terminalPath digest recovery'.binding) = none) :
    Fenced digest s (s.put r) where
  kept _ _ h := h
  held head recovery h := by
    left
    rw [Store.put_fence]
    split_ifs with hhead
    · rw [hhead] at h
      exact hheld recovery h
    · exact ⟨recovery,h,rfl,le_rfl,Nat.le_succ _⟩
  opened head recovery' hnone hsome := by
    rw [Store.put_fence] at hsome
    split_ifs at hsome with hhead
    · rw [hhead] at hnone
      exact hopened recovery' hnone hsome
    · rw [hnone] at hsome
      cases hsome

theorem Fenced.erase {s : Store} {head : PrNumber}
    (h : ∀ recovery, s.fence head = some recovery → s.Closed digest recovery.binding) :
    Fenced digest s (s.erase head) where
  kept _ _ ht := ht
  held head' recovery hfence := by
    rw [Store.erase_fence]
    split_ifs with hhead
    · rw [hhead] at hfence
      exact .inr ⟨rfl,h recovery hfence⟩
    · exact .inl ⟨recovery,hfence,rfl,le_rfl,Nat.le_succ _⟩
  opened head' recovery' hnone hsome := by
    rw [Store.erase_fence] at hsome
    split_ifs at hsome
    rw [hnone] at hsome
    cases hsome

theorem Fenced.publish {s : Store} {path : String} {t : TerminalReceipt}
    (h : s.terminals path = none) : Fenced digest s (s.publish path t) where
  kept path' t' ht := by
    rw [Store.publish_terminals]
    split_ifs with hpath
    · rw [hpath,h] at ht
      cases ht
    · exact ht
  held head recovery hfence := .inl ⟨recovery,hfence,rfl,le_rfl,Nat.le_succ _⟩
  opened head recovery' hnone hsome := by
    rw [Store.publish_fence,hnone] at hsome
    cases hsome

variable {strict : Prop}

theorem Permitted.fenced {s s' : Store} {q : Request} {a : Answer}
    (h : Permitted digest strict s q) (hexec : Exec s q a s') : Fenced digest s s' := by
  cases hexec with
  | failed error => exact .refl digest s
  | served hserved =>
    cases h with
    | idle hq =>
      rw [(Exec.served hserved).idle hq]
      exact .refl digest s
    | plain hfence hr =>
      cases hserved
      apply Fenced.put
      · intro recovery hrecovery
        rw [hfence] at hrecovery
        cases hrecovery
      · intro recovery' _ hrecovery'
        rw [hr] at hrecovery'
        cases hrecovery'
    | prepare hfence hr _ hprepared _ hterminal =>
      cases hserved
      apply Fenced.put
      · intro recovery hrecovery
        rw [hfence] at hrecovery
        cases hrecovery
      · intro recovery' _ hrecovery'
        rw [hr] at hrecovery'
        cases hrecovery'
        exact ⟨hprepared,hterminal⟩
    | advance hfence hr hbinding _ hle hsucc _ =>
      cases hserved
      apply Fenced.put
      · intro recovery hrecovery
        rw [hfence] at hrecovery
        cases hrecovery
        exact ⟨_,hr,hbinding,hle,hsucc⟩
      · intro recovery' hnone _
        rw [hfence] at hnone
        cases hnone
    | publish hterminal _ _ _ _ _ _ =>
      cases hserved
      exact .publish hterminal
    | remove hclosed =>
      cases hserved
      exact .erase hclosed

/-- A record write keeps the store well formed when the recovery it carries is open. -/
theorem Valid.put {s : Store} {r : PauseRecord} (hvalid : Valid digest strict s)
    (hr : ∀ recovery, r.recovery = some recovery → recovery.version = 1 ∧
      recovery.binding.caravanId = r.caravanHead ∧
      s.terminals (terminalPath digest recovery.binding) = none) : Valid digest strict (s.put r) where
  named head r' h := by
    rw [Store.put_records] at h
    split_ifs at h with hhead
    · cases h
      exact hhead.symm
    · exact hvalid.named head r' h
  owned head recovery h := by
    rw [Store.put_fence] at h
    split_ifs at h with hhead
    · obtain ⟨hversion,hcaravan,-⟩ := hr recovery h
      exact ⟨hversion,hcaravan.trans hhead.symm⟩
    · exact hvalid.owned head recovery h
  filed := hvalid.filed
  readable hstrict head r' recovery h hrecovery hclosed := by
    rw [Store.put_records] at h
    split_ifs at h with hhead
    · cases h
      exact absurd hclosed (Store.Closed.not_open (hr recovery hrecovery).2.2)
    · exact hvalid.readable hstrict head r' recovery h hrecovery hclosed

theorem Valid.erase {s : Store} (hvalid : Valid digest strict s) (head : PrNumber) :
    Valid digest strict (s.erase head) where
  named head' r h := by
    rw [Store.erase_records] at h
    split_ifs at h
    exact hvalid.named head' r h
  owned head' recovery h := by
    rw [Store.erase_fence] at h
    split_ifs at h
    exact hvalid.owned head' recovery h
  filed := hvalid.filed
  readable hstrict head' r recovery h hrecovery hclosed := by
    rw [Store.erase_records] at h
    split_ifs at h
    exact hvalid.readable hstrict head' r recovery h hrecovery hclosed

theorem Valid.publish {s : Store} (hvalid : Valid digest strict s) {t : TerminalReceipt}
    {r : PauseRecord} (hrecord : s.records t.binding.caravanId = some r)
    (hroom : strict → r.fileBytes ≤ maxFileBytes) (hsize : t.fileBytes ≤ maxFileBytes)
    (hmatches : ∃ input, Matches input t) :
    Valid digest strict (s.publish (terminalPath digest t.binding) t) where
  named := hvalid.named
  owned := hvalid.owned
  filed path t' h := by
    rw [Store.publish_terminals] at h
    split_ifs at h with hpath
    · cases h
      exact ⟨hpath,hsize,hmatches⟩
    · exact hvalid.filed path t' h
  readable hstrict head r' recovery (h : s.records head = some r') hrecovery hclosed := by
    obtain ⟨t',ht',hbinding⟩ := hclosed
    rw [Store.publish_terminals] at ht'
    split_ifs at ht' with hpath
    · -- the new receipt closes the recovery of its own head only
      cases ht'
      have hfence : s.fence head = some recovery := (Store.fence_of_record h).trans hrecovery
      have hhead : recovery.binding.caravanId = head := (hvalid.owned head recovery hfence).2
      rw [← hbinding] at hhead
      rw [hhead] at hrecord
      have hr : r' = r := Option.some_inj.mp (h.symm.trans hrecord)
      rw [hr]
      exact hroom hstrict
    · exact hvalid.readable hstrict head r' recovery h hrecovery ⟨t',ht',hbinding⟩

theorem Permitted.valid {s s' : Store} {q : Request} {a : Answer}
    (h : Permitted digest strict s q) (hexec : Exec s q a s') (hvalid : Valid digest strict s) :
    Valid digest strict s' := by
  cases hexec with
  | failed error => exact hvalid
  | served hserved =>
    cases h with
    | idle hq =>
      rw [(Exec.served hserved).idle hq]
      exact hvalid
    | plain _ hr =>
      cases hserved
      apply hvalid.put
      intro recovery hrecovery
      rw [hr] at hrecovery
      cases hrecovery
    | prepare _ hr hversion _ hcaravan hterminal =>
      cases hserved
      apply hvalid.put
      intro recovery hrecovery
      rw [hr] at hrecovery
      cases hrecovery
      exact ⟨hversion,hcaravan,hterminal⟩
    | advance hfence hr hbinding hversion _ _ hterminal =>
      cases hserved
      apply hvalid.put
      intro recovery hrecovery
      rw [hr] at hrecovery
      cases hrecovery
      have howned := hvalid.owned _ _ hfence
      rw [hbinding,hversion]
      exact ⟨howned.1,howned.2,hterminal⟩
    | publish _ hrecord _ _ hroom hsize hmatches =>
      cases hserved
      exact hvalid.publish hrecord hroom hsize hmatches
    | remove _ =>
      cases hserved
      exact hvalid.erase _

end Fences

end Pause
end Cara
