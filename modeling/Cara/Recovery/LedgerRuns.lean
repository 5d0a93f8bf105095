import Cara.Recovery.Ledger

/-! Sequences of reported attempts: which entries stay completed, how the attempts are
numbered, and when an exhausted request has been escalated. -/
namespace Cara
namespace Recovery

/-- Every recorded attempt takes at least one byte of the ledger file. -/
def Spans (codec : LedgerCodec) : Prop :=
  ∀ (l : RecoveryLedger) (id : String) (e : RecoveryLedgerEntry),l.entries[id]? = some e →
    e.attempts.length ≤ codec.fileBytes l

variable {codec : LedgerCodec} {l l' : RecoveryLedger} {call : AttemptCall} {id : String}
  {e next : RecoveryLedgerEntry} {receipt : RecoveryAttemptReceipt} {calls : List AttemptCall}

section Step

theorem appendAttempt_refused (h : appendAttempt e receipt = .error attemptsExhausted) :
    receipt.outcome = .transientFailure ∧ e.request.maxAttempts ≤ e.attempts.length := by
  unfold appendAttempt at h
  dsimp only at h
  split at h
  · next hrefused => exact ⟨(of_decide_eq_true hrefused.1).1,hrefused.2⟩
  · cases h

structure Appended (e : RecoveryLedgerEntry) (receipt : RecoveryAttemptReceipt)
    (next : RecoveryLedgerEntry) : Prop where
  room : isRetryable e.request receipt.outcome = true → e.attempts.length < e.request.maxAttempts
  request : next.request = e.request
  attempts : ∃ record,next.attempts = e.attempts ++ [record] ∧ record.attempt = nextAttempt e ∧
    record.outcome = receipt.outcome
  escalation : next.escalation.isSome = (e.escalation.isSome ||
    (isRetryable e.request receipt.outcome && decide (e.request.maxAttempts ≤ nextAttempt e)))
  completed : next.completed = decide (receipt.outcome = .success)

theorem appendAttempt_ok (h : appendAttempt e receipt = .ok next) : Appended e receipt next := by
  unfold appendAttempt at h
  dsimp only at h
  split at h
  · cases h
  · next hroom =>
    cases h
    refine ⟨fun hretry => by_contra fun hfull => hroom ⟨hretry,by omega⟩,rfl,⟨_,rfl,rfl,rfl⟩,?_,rfl⟩
    cases hescalation : e.escalation <;>
      cases hexhausted : isRetryable e.request receipt.outcome &&
        decide (e.request.maxAttempts ≤ nextAttempt e) <;> simp_all

theorem loadLedger_ok {loadFault : Option RecoveryError} (h : loadLedger codec loadFault l = .ok l') :
    l' = l ∧ codec.fileBytes l ≤ maxInputBytes := by
  obtain ⟨-,h⟩ := Guard.unit_bind_eq_ok.mp h
  rw [Guard.refuse_bind_eq_ok,Guard.refuse_bind_eq_ok] at h
  obtain ⟨hbytes,-,h⟩ := h
  cases h
  exact ⟨rfl,by simpa using hbytes⟩

/-- An admitted receipt is the one of the call, about an entry of a ledger file of bounded size. -/
theorem admitReceipt_ok (h : admitReceipt codec call l = .ok (receipt,e)) :
    l.entries[receipt.requestId]? = some e ∧ codec.fileBytes l ≤ maxInputBytes ∧
      call.receipt = .ok receipt := by
  obtain ⟨read,hread,h⟩ := Guard.bind_eq_ok.mp h
  obtain ⟨-,h⟩ := Guard.unit_bind_eq_ok.mp h
  obtain ⟨ledger,hload,h⟩ := Guard.bind_eq_ok.mp h
  obtain ⟨hledger,hbytes⟩ := loadLedger_ok hload
  obtain ⟨entry,hentry,h⟩ := Guard.bind_eq_ok.mp h
  rw [hledger] at hentry
  obtain ⟨-,h⟩ := Guard.unit_bind_eq_ok.mp h
  obtain ⟨-,h⟩ := Guard.unit_bind_eq_ok.mp h
  cases h
  have hfound : l.entries[receipt.requestId]? = some e := by
    cases hlookup : l.entries[receipt.requestId]? with
    | none =>
      rw [hlookup] at hentry
      cases hentry
    | some found =>
      rw [hlookup] at hentry
      cases hentry
      rfl
  exact ⟨hfound,hbytes,hread⟩

theorem persistLedger_ok {persistFault : Option RecoveryError}
    (h : persistLedger codec persistFault l = .ok l') : l' = l := by
  obtain ⟨-,h⟩ := Guard.unit_bind_eq_ok.mp h
  obtain ⟨-,h⟩ := Guard.unit_bind_eq_ok.mp h
  cases h
  rfl

/-- The call passes every check with a receipt that was not counted before, and the ledger with
the appended attempt can be persisted. -/
structure Records (codec : LedgerCodec) (l : RecoveryLedger) (call : AttemptCall)
    (receipt : RecoveryAttemptReceipt) (e next : RecoveryLedgerEntry) : Prop where
  admitted : admitReceipt codec call l = .ok (receipt,e)
  fresh : isDuplicate e receipt = false
  appended : appendAttempt e receipt = .ok next
  persisted : (persistLedger codec call.persistFault
    { l with entries := l.entries.insert receipt.requestId next }).isOk = true

theorem afterCall_cases (codec : LedgerCodec) (l : RecoveryLedger) (call : AttemptCall) :
    afterCall codec l call = l ∨ ∃ receipt e next,Records codec l call receipt e next ∧
      afterCall codec l call = { l with entries := l.entries.insert receipt.requestId next } := by
  unfold afterCall
  cases hcall : recordAttempt codec call l with
  | error error => exact .inl rfl
  | ok r =>
    obtain ⟨⟨receipt,e⟩,hadmitted,h⟩ := Guard.bind_eq_ok.mp hcall
    dsimp only at h
    split at h
    · cases h
      exact .inl rfl
    · next hfresh =>
      obtain ⟨next,hnext,h⟩ := Guard.bind_eq_ok.mp h
      obtain ⟨ledger,hpersist,h⟩ := Guard.bind_eq_ok.mp h
      cases h
      right
      refine ⟨receipt,e,next,⟨hadmitted,by simpa using hfresh,hnext,?_⟩,?_⟩
      · rw [hpersist]
        rfl
      · exact persistLedger_ok hpersist

theorem Records.afterCall (h : Records codec l call receipt e next) :
    afterCall codec l call = { l with entries := l.entries.insert receipt.requestId next } := by
  have hpersist := h.persisted
  cases hledger : persistLedger codec call.persistFault
      { l with entries := l.entries.insert receipt.requestId next } with
  | error error =>
    rw [hledger] at hpersist
    cases hpersist
  | ok ledger =>
    have hcall : recordAttempt codec call l = .ok (⟨next,false⟩,ledger) := by
      unfold recordAttempt
      rw [h.admitted,Guard.ok_bind]
      dsimp only
      rw [h.fresh,if_neg (by simp),h.appended,Guard.ok_bind,hledger]
      rfl
    rw [Recovery.afterCall,hcall]
    exact persistLedger_ok hledger

/-- The entry of one request after a call: as it was, or with one more attempt. -/
theorem entry_after (codec : LedgerCodec) (call : AttemptCall) (he : l.entries[id]? = some e) :
    (afterCall codec l call).entries[id]? = some e ∨
    ∃ receipt next,Records codec l call receipt e next ∧ receipt.requestId = id ∧
      (afterCall codec l call).entries[id]? = some next := by
  rcases afterCall_cases codec l call with hsame | ⟨receipt,e',next,hrecords,hafter⟩
  · rw [hsame]
    exact .inl he
  · rw [hafter]
    by_cases hid : receipt.requestId = id
    · subst hid
      have hfound := (admitReceipt_ok hrecords.admitted).1
      rw [he,Option.some_inj] at hfound
      subst hfound
      exact .inr ⟨receipt,next,hrecords,rfl,Std.ExtTreeMap.getElem?_insert_self⟩
    · left
      show (l.entries.insert receipt.requestId next)[id]? = some e
      rw [Std.ExtTreeMap.getElem?_insert,if_neg (by simpa using hid)]
      exact he

theorem nextAttempt_eq (hcodec : Spans codec) (h : Records codec l call receipt e next) :
    nextAttempt e = e.attempts.length + 1 := by
  obtain ⟨he,hbytes,-⟩ := admitReceipt_ok h.admitted
  have hlength := hcodec l receipt.requestId e he
  unfold maxInputBytes at hbytes
  unfold nextAttempt Saturating.maxU32
  omega

/-- What a new request leaves: bounds that were checked, and an entry without attempts. -/
theorem recordRequest_fresh {loadFault persistFault : Option RecoveryError}
    {request : RecoveryRequest} (h : recordRequest codec loadFault persistFault request l =
      .ok (true,l')) : validateBounds request.maxAttempts request.initialBackoffSecs = .ok () ∧
      l'.entries[request.requestId]? = some { request := request } := by
  obtain ⟨hbounds,h⟩ := Guard.unit_bind_eq_ok.mp h
  obtain ⟨-,h⟩ := Guard.unit_bind_eq_ok.mp h
  obtain ⟨ledger,-,h⟩ := Guard.bind_eq_ok.mp h
  refine ⟨hbounds,?_⟩
  split at h
  · split at h <;> cases h
  · obtain ⟨persisted,hpersist,h⟩ := Guard.bind_eq_ok.mp h
    cases h
    rw [persistLedger_ok hpersist]
    exact Std.ExtTreeMap.getElem?_insert_self

end Step

section Runs

theorem afterCalls_append (calls rest : List AttemptCall) :
    afterCalls codec (afterCalls codec l calls) rest = afterCalls codec l (calls ++ rest) :=
  List.foldl_append.symm

theorem afterCalls_snoc (calls : List AttemptCall) (call : AttemptCall) :
    afterCalls codec l (calls ++ [call]) = afterCall codec (afterCalls codec l calls) call :=
  (afterCalls_append calls [call]).symm

/-- What a fresh attempt of this request keeps, every sequence of calls keeps. -/
theorem afterCalls_induction {P : RecoveryLedgerEntry → Prop}
    (allowed : AttemptCall → RecoveryLedger → Prop)
    (hstep : ∀ l call receipt e next,P e → Records codec l call receipt e next →
      receipt.requestId = id → allowed call l → P next)
    (he : l.entries[id]? = some e) (hstart : P e)
    (hallowed : ∀ pre call,pre ++ [call] <+: calls → allowed call (afterCalls codec l pre)) :
    ∃ e',(afterCalls codec l calls).entries[id]? = some e' ∧ P e' := by
  induction calls using List.reverseRecOn with
  | nil => exact ⟨e,he,hstart⟩
  | append_singleton calls call ih =>
    obtain ⟨e',he',hP⟩ := ih fun pre call' hpre =>
      hallowed pre call' (hpre.trans (List.prefix_append _ _))
    rw [afterCalls_snoc]
    rcases entry_after codec call he' with hsame | ⟨receipt,next,hrecords,hid,hnext⟩
    · exact ⟨e',hsame,hP⟩
    · exact ⟨next,hnext,hstep _ _ _ _ _ hP hrecords hid (hallowed calls call (List.prefix_refl _))⟩

theorem attempts_grow (codec : LedgerCodec) (calls : List AttemptCall) (he : l.entries[id]? = some e) :
    ∃ e',(afterCalls codec l calls).entries[id]? = some e' ∧ e.attempts <+: e'.attempts := by
  refine afterCalls_induction (P := fun e' => e.attempts <+: e'.attempts) (fun _ _ => True) ?_ he
    (List.prefix_refl _) fun _ _ _ => trivial
  intro l call receipt e' next hgrows hrecords _ _
  obtain ⟨record,hnext,-⟩ := (appendAttempt_ok hrecords.appended).attempts
  rw [hnext]
  exact hgrows.trans (List.prefix_append _ _)

def Consecutive (attempts : List RecoveryAttemptRecord) : Prop :=
  attempts.map (·.attempt) = List.range' 1 attempts.length

theorem Consecutive.append (hcodec : Spans codec) (h : Records codec l call receipt e next)
    (hattempts : Consecutive e.attempts) : Consecutive next.attempts := by
  obtain ⟨record,hnext,hnumber,-⟩ := (appendAttempt_ok h.appended).attempts
  rw [nextAttempt_eq hcodec h] at hnumber
  unfold Consecutive at hattempts ⊢
  rw [hnext,List.map_append,hattempts,List.length_append,List.length_singleton,
    List.range'_concat]
  simp [hnumber,Nat.add_comm]

end Runs

section Samples

def fixtureRequest : RecoveryRequest where
  requestId := "recovery:fixture"
  repository := ⟨"owner","repo"⟩
  pr := some 41
  head := some "1111"
  base := some "2222"
  main := "3333"
  stackRootPr := some 41
  checkGeneration := "sha256:checks"
  configFingerprint := "sha256:config"
  policyFingerprint := "sha256:policy"
  wakeClass := "retry_tick"
  disposition := .retryTransient
  decisionFingerprint := "sha256:decision"
  diagnosticCodes := ["transport_timeout"]
  links := []
  allowedActions := [.rediscover,.retrySync]
  maxAttempts := 2
  initialBackoffSecs := 10
  observedUnixMs := 1

def fixtureLedger : RecoveryLedger where
  entries := (∅ : Std.ExtTreeMap String RecoveryLedgerEntry).insert "recovery:fixture"
    { request := fixtureRequest }

/-- Pull request 41 is merged, and main is at its commit. -/
def landedStatus : StatusOutput where
  repository := ⟨"owner","repo"⟩
  defaultBranch := "main"
  analysis := {
    fleet := { repository := ⟨"owner","repo"⟩,defaultBranch := ⟨⟨"owner","repo"⟩,"main","4444"⟩ }
    pullRequests := (∅ : PullRequestMap).insert 41 {
      number := 41
      state := .merged
      head := ⟨⟨"owner","repo"⟩,"feature-41","1111"⟩
      base := ⟨⟨"owner","repo"⟩,"main","3333"⟩
      autoMerge := .disabled } }

def fixtureReceipt (outcome : RecoveryAttemptOutcome) (now : ℕ) : RecoveryAttemptReceipt where
  schemaVersion := 1
  requestId := "recovery:fixture"
  repository := ⟨"owner","repo"⟩
  pr := some 41
  head := some "1111"
  main := "3333"
  decisionFingerprint := "sha256:decision"
  outcome := outcome
  operationReceipt := some ("receipt:" ++ toString now)
  landedCommit := some "4444"
  providerMainVerified := true
  observedUnixMs := now

def fixtureCall (outcome : RecoveryAttemptOutcome) (now : ℕ) : AttemptCall where
  receipt := .ok (fixtureReceipt outcome now)
  context := some (.ok landedStatus)

def abridgedRequest (r : RecoveryRequest) : String :=
  "\x7b\"request_id\":\"" ++ r.requestId ++ "\",\"diagnostic_codes\":[\"" ++
    "\",\"".intercalate r.diagnosticCodes ++ "\"]\x7d"

/-- Texts of what callers supply, and a file of one byte for each attempt. -/
def abridgedCodec : LedgerCodec where
  request := abridgedRequest
  receipt r := "\x7b\"request_id\":\"" ++ r.requestId ++ "\",\"operation_receipt\":\"" ++
    r.operationReceipt.getD "" ++ "\"\x7d"
  ledger l := "\n".intercalate (l.entries.toList.map fun entry => abridgedRequest entry.2.request)
  fileBytes l := (l.entries.toList.map fun entry => entry.2.attempts.length).sum

theorem abridgedCodec_spans : Spans abridgedCodec := by
  intro l id e he
  have hmem : (id,e) ∈ l.entries.toList := Std.ExtTreeMap.mem_toList_iff_getElem?_eq_some.mpr he
  exact List.le_sum_of_mem (List.mem_map.mpr ⟨(id,e),hmem,rfl⟩)

def completedEntry : RecoveryLedgerEntry where
  request := fixtureRequest
  attempts := [⟨1,.success,some "receipt:1",some "4444",true,1,none⟩]
  completed := true

theorem fixture_completed : (afterCalls abridgedCodec fixtureLedger
    [fixtureCall .success 1]).entries["recovery:fixture"]? = some completedEntry := by
  decide +kernel

end Samples

section Completion

/-- A receipt of another outcome than success is newly recorded for the request. -/
def Overrides (codec : LedgerCodec) (id : String) (call : AttemptCall) (l : RecoveryLedger) : Prop :=
  ∃ receipt e next,Records codec l call receipt e next ∧ receipt.requestId = id ∧
    receipt.outcome ≠ .success

structure StaysCompleted (before e : RecoveryLedgerEntry) : Prop where
  completed : e.completed = true
  grows : before.attempts <+: e.attempts
  numbered : Consecutive e.attempts

theorem StaysCompleted.step {before : RecoveryLedgerEntry} (hcodec : Spans codec)
    (h : Records codec l call receipt e next) (hstays : StaysCompleted before e)
    (hid : receipt.requestId = id) (hallowed : ¬ Overrides codec id call l) :
    StaysCompleted before next := by
  have happended := appendAttempt_ok h.appended
  obtain ⟨record,hnext,-⟩ := happended.attempts
  refine ⟨?_,?_,hstays.numbered.append hcodec h⟩
  · rw [happended.completed,decide_eq_true_eq]
    by_contra hother
    exact hallowed ⟨receipt,e,next,h,hid,hother⟩
  · rw [hnext]
    exact hstays.grows.trans (List.prefix_append _ _)

theorem consecutive_reached {request : RecoveryRequest} (calls : List AttemptCall) (hcodec : Spans codec)
    (hfresh : l.entries[id]? = some { request := request }) :
    ∃ e,(afterCalls codec l calls).entries[id]? = some e ∧ Consecutive e.attempts :=
  afterCalls_induction (fun _ _ => True)
    (fun _ _ _ _ _ hattempts hrecords _ _ => Consecutive.append hcodec hrecords hattempts) hfresh rfl
    fun _ _ _ => trivial

/-- A completed entry stays completed through a sequence of calls exactly if none of them newly
records another outcome than success. -/
theorem completed_stays_iff {request : RecoveryRequest} {before : List AttemptCall}
    (hcodec : Spans codec) (hfresh : l.entries[id]? = some { request := request })
    (he : (afterCalls codec l before).entries[id]? = some e) (hcompleted : e.completed = true) :
    (∀ pre,pre <+: calls → ∃ e',(afterCalls codec (afterCalls codec l before) pre).entries[id]? =
      some e' ∧ StaysCompleted e e') ↔
    ∀ pre call,pre ++ [call] <+: calls →
      ¬ Overrides codec id call (afterCalls codec (afterCalls codec l before) pre) := by
  constructor
  · rintro hstays pre call hpre ⟨receipt,e',next,hrecords,hid,hother⟩
    obtain ⟨e'',hnext,hcompleted'⟩ := hstays _ hpre
    rw [afterCalls_snoc,hrecords.afterCall] at hnext
    subst hid
    have hsame : next = e'' := by
      have hinsert := Std.ExtTreeMap.getElem?_insert_self (t := (afterCalls codec
        (afterCalls codec l before) pre).entries) (k := receipt.requestId) (v := next)
      exact Option.some_inj.mp (hinsert.symm.trans hnext)
    have hnot := (appendAttempt_ok hrecords.appended).completed
    rw [hsame,hcompleted'.completed] at hnot
    exact hother (of_decide_eq_true hnot.symm)
  · intro hallowed pre hpre
    obtain ⟨e',he',hnumbered⟩ := consecutive_reached before hcodec hfresh
    rw [he,Option.some_inj] at he'
    subst he'
    exact afterCalls_induction (fun call l => ¬ Overrides codec id call l)
      (fun l call receipt e next hstays hrecords hid hallowed => hstays.step hcodec hrecords hid hallowed)
      he ⟨hcompleted,List.prefix_refl _,hnumbered⟩
      fun pre' call hpre' => hallowed pre' call (hpre'.trans hpre)

/-- A verified success, then a late acknowledgement: the entry is open again. -/
theorem late_acknowledgement_reopens :
    (afterCalls abridgedCodec fixtureLedger [fixtureCall .success 1]).entries["recovery:fixture"]? =
        some completedEntry ∧ completedEntry.completed = true ∧
      (afterCalls abridgedCodec fixtureLedger [fixtureCall .success 1,
        fixtureCall .acknowledged 2]).entries["recovery:fixture"]?.map (·.completed) = some false := by
  refine ⟨fixture_completed,rfl,?_⟩
  decide +kernel

theorem fixture_completed_stays_iff :
    (∀ pre,pre <+: [fixtureCall .acknowledged 2] → ∃ e',(afterCalls abridgedCodec (afterCalls
      abridgedCodec fixtureLedger [fixtureCall .success 1]) pre).entries["recovery:fixture"]? =
        some e' ∧ StaysCompleted completedEntry e') ↔
    ∀ pre call,pre ++ [call] <+: [fixtureCall .acknowledged 2] → ¬ Overrides abridgedCodec
      "recovery:fixture" call (afterCalls abridgedCodec (afterCalls abridgedCodec fixtureLedger
        [fixtureCall .success 1]) pre) := by
  have hfresh : fixtureLedger.entries["recovery:fixture"]? = some { request := fixtureRequest } := by
    decide +kernel
  exact completed_stays_iff abridgedCodec_spans hfresh fixture_completed rfl

end Completion

section Exhaustion

/-- A transient failure is refused because the budget of the request is spent. -/
def RefusedExhausted (codec : LedgerCodec) (id : String) (call : AttemptCall) (l : RecoveryLedger) :
    Prop :=
  ∃ receipt e,admitReceipt codec call l = .ok (receipt,e) ∧ receipt.requestId = id ∧
    isDuplicate e receipt = false ∧ appendAttempt e receipt = .error attemptsExhausted

/-- The last permitted attempt of the request is recorded with another outcome than a transient
failure. -/
def Diverts (codec : LedgerCodec) (id : String) (call : AttemptCall) (l : RecoveryLedger) : Prop :=
  ∃ receipt e next,Records codec l call receipt e next ∧ receipt.requestId = id ∧
    e.attempts.length + 1 = e.request.maxAttempts ∧ receipt.outcome ≠ .transientFailure

def transientCount (e : RecoveryLedgerEntry) : ℕ :=
  e.attempts.countP fun attempt => decide (attempt.outcome = .transientFailure)

/-- Transient failures stay in the budget, and the last permitted one escalates. -/
structure Bounded (request : RecoveryRequest) (e : RecoveryLedgerEntry) : Prop where
  same : e.request = request
  count : transientCount e ≤ request.maxAttempts
  last : ∀ attempt ∈ e.attempts,attempt.outcome = .transientFailure →
    attempt.attempt = request.maxAttempts → e.escalation.isSome = true

def Escalated (request : RecoveryRequest) (e : RecoveryLedgerEntry) : Prop :=
  request.maxAttempts ≤ e.attempts.length → e.escalation.isSome = true

variable {request : RecoveryRequest}

theorem isRetryable_iff (hdisposition : request.disposition = .retryTransient)
    (outcome : RecoveryAttemptOutcome) :
    isRetryable request outcome = decide (outcome = .transientFailure) := by
  simp [isRetryable,hdisposition]

theorem Bounded.step (hcodec : Spans codec) (hdisposition : request.disposition = .retryTransient)
    (h : Records codec l call receipt e next) (hbounded : Bounded request e) :
    Bounded request next := by
  have happended := appendAttempt_ok h.appended
  obtain ⟨record,hattempts,hnumber,houtcome⟩ := happended.attempts
  have hroom := happended.room
  have hescalation := happended.escalation
  rw [hbounded.same,isRetryable_iff hdisposition] at hroom hescalation
  rw [nextAttempt_eq hcodec h] at hnumber hescalation
  refine ⟨happended.request.trans hbounded.same,?_,?_⟩
  · have hcount : transientCount next = transientCount e +
        if receipt.outcome = .transientFailure then 1 else 0 := by
      simp [transientCount,hattempts,List.countP_append,houtcome]
    rw [hcount]
    split
    · next htransient =>
      have hlength : transientCount e ≤ e.attempts.length := List.countP_le_length
      have := hroom (decide_eq_true htransient)
      omega
    · exact hbounded.count
  · intro attempt hattempt htransient hlast
    rw [hescalation]
    rw [hattempts,List.mem_append,List.mem_singleton] at hattempt
    rcases hattempt with hbefore | rfl
    · rw [hbounded.last attempt hbefore htransient hlast,Bool.true_or]
    · rw [houtcome] at htransient
      have hspent : request.maxAttempts ≤ e.attempts.length + 1 := by omega
      simp [htransient,hspent]

theorem Escalated.step (hcodec : Spans codec) (hdisposition : request.disposition = .retryTransient)
    (h : Records codec l call receipt e next) (hbounded : Bounded request e)
    (hescalated : Escalated request e) (hid : receipt.requestId = id)
    (hallowed : ¬ Diverts codec id call l) : Escalated request next := by
  have happended := appendAttempt_ok h.appended
  obtain ⟨record,hattempts,-⟩ := happended.attempts
  have hescalation := happended.escalation
  rw [hbounded.same,isRetryable_iff hdisposition,nextAttempt_eq hcodec h] at hescalation
  intro hspent
  rw [hattempts,List.length_append,List.length_singleton] at hspent
  rw [hescalation]
  by_cases hbefore : request.maxAttempts ≤ e.attempts.length
  · rw [hescalated hbefore,Bool.true_or]
  · have hlast : e.attempts.length + 1 = request.maxAttempts := by omega
    have htransient : receipt.outcome = .transientFailure := by
      by_contra hother
      exact hallowed ⟨receipt,e,next,h,hid,hbounded.same ▸ hlast,hother⟩
    simp [htransient,hlast]

/-- Where no other outcome takes the last permitted attempt, a spent budget is always escalated:
before a transient failure is refused, and once the last one is recorded. -/
theorem exhaustion_escalates (hcodec : Spans codec)
    (hbounds : validateBounds request.maxAttempts request.initialBackoffSecs = .ok ())
    (hdisposition : request.disposition = .retryTransient)
    (hfresh : l.entries[id]? = some { request := request })
    (hallowed : ∀ pre call,pre ++ [call] <+: calls →
      ¬ Diverts codec id call (afterCalls codec l pre)) :
    ∃ e,(afterCalls codec l calls).entries[id]? = some e ∧ Bounded request e ∧
      ∀ pre call,pre ++ [call] <+: calls →
        RefusedExhausted codec id call (afterCalls codec l pre) → e.escalation.isSome = true := by
  have hpositive : 1 ≤ request.maxAttempts := by
    by_contra hzero
    rw [validateBounds,if_neg (fun h => hzero h.1)] at hbounds
    cases hbounds
  have hreached (calls : List AttemptCall) (hallowed : ∀ pre call,pre ++ [call] <+: calls →
      ¬ Diverts codec id call (afterCalls codec l pre)) :
      ∃ e,(afterCalls codec l calls).entries[id]? = some e ∧ Bounded request e ∧ Escalated request e := by
    refine afterCalls_induction (P := fun e => Bounded request e ∧ Escalated request e)
      (fun call l => ¬ Diverts codec id call l) ?_ hfresh
      ⟨⟨rfl,Nat.zero_le _,fun _ h => by cases h⟩,fun hspent => ?_⟩ hallowed
    · intro l call receipt e next h hrecords hid hallowed
      exact ⟨h.1.step hcodec hdisposition hrecords,h.2.step hcodec hdisposition hrecords h.1 hid hallowed⟩
    · simp at hspent
      omega
  obtain ⟨e,he,hbounded,hescalated⟩ := hreached calls hallowed
  refine ⟨e,he,hbounded,?_⟩
  rintro pre call hpre ⟨receipt,e',hadmitted,hid,-,hrefused⟩
  obtain ⟨e'',he'',hbounded'',-⟩ := hreached pre fun pre' call' h =>
    hallowed pre' call' (h.trans ((List.prefix_append _ _).trans hpre))
  have hfound := (admitReceipt_ok hadmitted).1
  rw [hid,he'',Option.some_inj] at hfound
  have hspent : request.maxAttempts ≤ e''.attempts.length := by
    rw [← hbounded''.same,hfound]
    exact (appendAttempt_refused hrefused).2
  obtain ⟨rest,hrest⟩ := (List.prefix_append pre [call]).trans hpre
  obtain ⟨final,hfinal,hgrows⟩ := attempts_grow codec rest he''
  rw [afterCalls_append,hrest,he,Option.some_inj] at hfinal
  rw [← hfinal] at hgrows
  exact hescalated (hspent.trans hgrows.length_le)

/-- Two acknowledgements spend the budget of two attempts. The first transient failure is refused
as exhausted, and nobody was asked. -/
theorem acknowledged_budget_unescalated :
    RefusedExhausted abridgedCodec "recovery:fixture" (fixtureCall .transientFailure 3)
        (afterCalls abridgedCodec fixtureLedger
          [fixtureCall .acknowledged 1,fixtureCall .acknowledged 2]) ∧
      (afterCalls abridgedCodec fixtureLedger [fixtureCall .acknowledged 1,
        fixtureCall .acknowledged 2,fixtureCall .transientFailure 3]).entries[
          "recovery:fixture"]?.map (·.escalation) = some none := by
  constructor
  · refine ⟨fixtureReceipt .transientFailure 3,{
      request := fixtureRequest
      attempts := [⟨1,.acknowledged,some "receipt:1",some "4444",true,1,none⟩,
        ⟨2,.acknowledged,some "receipt:2",some "4444",true,2,none⟩] },?_,rfl,?_,?_⟩ <;>
      decide +kernel
  · decide +kernel

theorem fixture_exhaustion_escalates : ∃ e,(afterCalls abridgedCodec fixtureLedger
      [fixtureCall .transientFailure 1,fixtureCall .transientFailure 2]).entries[
        "recovery:fixture"]? = some e ∧ Bounded fixtureRequest e ∧
      ∀ pre call,pre ++ [call] <+: [fixtureCall .transientFailure 1,fixtureCall .transientFailure 2] →
        RefusedExhausted abridgedCodec "recovery:fixture" call
          (afterCalls abridgedCodec fixtureLedger pre) → e.escalation.isSome = true := by
  refine exhaustion_escalates abridgedCodec_spans rfl rfl (by decide +kernel) ?_
  rintro pre call hpre ⟨receipt,e,next,hrecords,-,-,hother⟩
  have hcall : call ∈ [fixtureCall .transientFailure 1,fixtureCall .transientFailure 2] :=
    hpre.subset (by simp)
  have hreceipt := (admitReceipt_ok hrecords.admitted).2.2
  rcases List.mem_pair.mp hcall with rfl | rfl <;>
  · cases hreceipt
    exact hother rfl

end Exhaustion

end Recovery
end Cara
