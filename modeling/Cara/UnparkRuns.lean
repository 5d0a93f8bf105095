import Cara.Unpark
import Mathlib.Tactic.SplitIfs

/-! Calls of unpark with one input, any of which may stop after any request, while anything
may change at the provider between two requests. -/
namespace Cara
namespace Unpark

open Prog
open RequiredRuns (RequiredContextsRead)

structure Files where
  receipt : Option UnparkOutput := none
  pending : Option Prepared := none

abbrev Exchange := UnparkRequest × UnparkAnswer

structure CallState where
  files : Files
  seen : List Exchange := []

def filesAfter (f : Files) : UnparkRequest → UnparkAnswer → Files
  | .writePending p,.done => { f with pending := some p }
  | .writeReceipt out,.done => { f with receipt := some out }
  | .removePending,.done => { f with pending := none }
  | _,_ => f

/-- Reads of the files say what is in them; everything else may be answered anyhow. -/
def Answered (f : Files) : UnparkRequest → UnparkAnswer → Prop
  | .loadReceipt,.receipt r => r = f.receipt
  | .loadPending,.pending p => p = f.pending
  | _,_ => True

structure CallStep (s : CallState) (q : UnparkRequest) (a : UnparkAnswer) (s' : CallState) : Prop where
  answered : Answered s.files q a
  files : s'.files = filesAfter s.files q a
  seen : s'.seen = s.seen ++ [(q,a)]

section Observed

def statusIn : Exchange → Option StatusOutput
  | (_,.status s) => some s
  | _ => none

def lastStatus (seen : List Exchange) : Option StatusOutput := (seen.filterMap statusIn).getLast?

/-- The pull request was discovered without its parked label. -/
def Unparked (input : UnparkInput) (status : StatusOutput) : Prop :=
  ∃ pull, status.analysis.pullRequests[input.pr]? = some pull ∧ pull.hasLabel parkedLabel = false

def isVerified : Exchange → Bool
  | (.verifyPreconditionWithChecks _,.pull _) => true
  | _ => false

def isRemoval : Exchange → Bool
  | (.removeLabel _ _,_) => true
  | _ => false

variable (encoding : UnparkEncoding) (input : UnparkInput)

/-- A preparation that succeeded on facts read during the call. -/
def FreshlyPrepared (seen : List Exchange) (fresh : Prepared) : Prop :=
  ∃ status parkedFingerprint read nowUnix receiptId,
    (.status,.status status) ∈ seen ∧
    (.parkingProvenance input.pr,.fingerprint (some parkedFingerprint)) ∈ seen ∧
    (.branchRequiredContexts (landingBranch status),.contexts read) ∈ seen ∧
    (.clock,.time nowUnix) ∈ seen ∧
    prepare encoding input status parkedFingerprint (landingPolicy status read) nowUnix receiptId =
      .ok fresh

structure Proven (status : StatusOutput) (parkedFingerprint : String) (contexts : RequiredContextsRead)
    (nowUnix : ℕ) (pull : PullRequestSnapshot) : Prop where
  repository : status.repository.slug = input.repository
  discovered : status.analysis.pullRequests[input.pr]? = some pull
  isOpen : pull.state = .open
  head : pull.head.oid = input.head
  baseRef : pull.base.name = input.baseRef
  base : pull.base.oid = input.base
  membership : ∃ c, status.analysis.fleet.caravan input.pr = some c ∧
    membershipGeneration encoding status c = .ok input.membershipGeneration
  provenance : parkedFingerprint = input.parkingFingerprint
  green : isGreen (requiredRuns pull contexts (latestChecksPerIdentity pull.checks).1 nowUnix) = true

variable {encoding} {input} {status : StatusOutput} {parkedFingerprint : String}
  {contexts : RequiredContextsRead} {nowUnix : ℕ} {receiptId : String} {fresh : Prepared}

theorem found_eq_ok {α : Type} {value : Option α} {e : UnparkError} {a : α}
    (h : found value e = .ok a) : value = some a := by
  cases value with
  | none => cases h
  | some b =>
    cases h
    rfl

theorem reviewedPull_ok {pull : PullRequestSnapshot} (h : reviewedPull input status = .ok pull) :
    status.repository.slug = input.repository ∧
      status.analysis.pullRequests[input.pr]? = some pull ∧ pull.state = .open ∧
      pull.head.oid = input.head ∧ pull.base.name = input.baseRef ∧ pull.base.oid = input.base := by
  rw [reviewedPull,Guard.refuse_bind_eq_ok] at h
  obtain ⟨hrepository,h⟩ := h
  obtain ⟨found,hfound,h⟩ := Guard.bind_eq_ok.mp h
  simp only [Guard.refuse_bind_eq_ok,decide_eq_false_iff_not,not_or,not_not] at h hrepository
  obtain ⟨hopen,⟨hhead,hname,hbase⟩,_,_,h⟩ := h
  cases h
  exact ⟨hrepository,found_eq_ok hfound,hopen,hhead,hname,hbase⟩

theorem reviewedGeneration_ok {generation : String}
    (h : reviewedGeneration encoding input status = .ok generation) :
    generation = input.membershipGeneration ∧ ∃ c, status.analysis.fleet.caravan input.pr = some c ∧
      membershipGeneration encoding status c = .ok generation := by
  rw [reviewedGeneration,Guard.refuse_bind_eq_ok] at h
  obtain ⟨c,hc,h⟩ := Guard.bind_eq_ok.mp h.2
  rw [Guard.refuse_bind_eq_ok] at h
  obtain ⟨g,hg,h⟩ := Guard.bind_eq_ok.mp h.2
  rw [Guard.refuse_bind_eq_ok] at h
  obtain ⟨hsame,h⟩ := h
  cases h
  exact ⟨by simpa using hsame,c,found_eq_ok hc,hg⟩

/-- A preparation that succeeds has proven every part of the reviewed authority. -/
theorem prepare_proves
    (h : prepare encoding input status parkedFingerprint contexts nowUnix receiptId = .ok fresh) :
    Proven encoding input status parkedFingerprint contexts nowUnix fresh.pull := by
  obtain ⟨pull,hpull,h⟩ := Guard.bind_eq_ok.mp h
  obtain ⟨generation,hgeneration,h⟩ := Guard.bind_eq_ok.mp h
  simp only [Guard.refuse_bind_eq_ok,decide_eq_false_iff_not,not_not,Bool.not_eq_false'] at h
  obtain ⟨hprovenance,hgreen,h⟩ := h
  cases h
  obtain ⟨hrepository,hfound,hopen,hhead,hname,hbase⟩ := reviewedPull_ok hpull
  obtain ⟨hsame,c,hc,hmembership⟩ := reviewedGeneration_ok hgeneration
  exact ⟨hrepository,hfound,hopen,hhead,hname,hbase,⟨c,hc,hsame ▸ hmembership⟩,hprovenance,hgreen⟩

theorem finish_unparked {initial final : StatusOutput} {prepared : Prepared}
    {receipt : Sync.GitHubMutationReceipt} {next : String} {out : UnparkOutput}
    (h : finish encoding input initial final prepared receipt contexts nowUnix next = .ok out) :
    Unparked input final := by
  obtain ⟨current,hcurrent,h⟩ := Guard.bind_eq_ok.mp h
  obtain ⟨c,_,h⟩ := Guard.bind_eq_ok.mp h
  obtain ⟨generation,_,h⟩ := Guard.bind_eq_ok.mp h
  rw [Guard.refuse_bind_eq_ok] at h
  refine ⟨current,found_eq_ok hcurrent,?_⟩
  have hkept := h.1
  simp only [drifted,Bool.or_eq_false_iff] at hkept
  exact hkept.1.1.2

end Observed

section Call

variable {encoding : UnparkEncoding} {input : UnparkInput} {files : Files} {verified removed : Bool}
  {observed : Option StatusOutput} {s s' : CallState}

def Permitted (encoding : UnparkEncoding) (input : UnparkInput) (s : CallState) : UnparkRequest → Prop
  | .removeLabel _ label =>
      label = parkedLabel ∧ ∃ fresh, FreshlyPrepared encoding input s.seen fresh
  | .writeReceipt _ => ∃ status, lastStatus s.seen = some status ∧ Unparked input status
  | _ => True

/-- Where a call stands: its files, what it has verified, removed and last observed. -/
structure At (files : Files) (verified removed : Bool) (observed : Option StatusOutput)
    (s : CallState) : Prop where
  files : s.files = files
  verified : s.seen.any isVerified = verified
  removed : s.seen.any isRemoval = removed
  observed : lastStatus s.seen = observed

theorem At.step {q : UnparkRequest} {a : UnparkAnswer} (h : At files verified removed observed s)
    (hstep : CallStep s q a s') : At (filesAfter files q a) (verified || isVerified (q,a))
      (removed || isRemoval (q,a)) ((statusIn (q,a)).or observed) s' := by
  constructor
  · rw [hstep.files,h.files]
  · rw [hstep.seen,List.any_append,h.verified]
    simp
  · rw [hstep.seen,List.any_append,h.removed]
    simp
  · rw [hstep.seen,lastStatus,List.filterMap_append,List.getLast?_append,← h.observed]
    cases hin : statusIn (q,a) with
    | none => simp [hin,lastStatus]
    | some status => simp [hin]

theorem FreshlyPrepared.mono {seen : List Exchange} {fresh : Prepared} (more : List Exchange)
    (h : FreshlyPrepared encoding input seen fresh) :
    FreshlyPrepared encoding input (seen ++ more) fresh := by
  obtain ⟨status,parkedFingerprint,read,nowUnix,receiptId,hstatus,hfingerprint,hread,hclock,hprepare⟩ := h
  exact ⟨status,parkedFingerprint,read,nowUnix,receiptId,List.mem_append_left _ hstatus,
    List.mem_append_left _ hfingerprint,List.mem_append_left _ hread,List.mem_append_left _ hclock,hprepare⟩

def isDurable : UnparkRequest → Bool
  | .writePending _ | .checkpoint _ _ => true
  | _ => false

/-- Why a call ends in an error: before its preparation was verified, after the removal was
asked for, because a durable request was refused, or because of a pending authorization whose
evidence is not the fresh one. -/
inductive Refused (encoding : UnparkEncoding) (input : UnparkInput) (before : Files) (s : CallState)
    (e : UnparkError) : Prop
  | unverified (h : s.seen.any isVerified = false)
  | removed (h : s.seen.any isRemoval = true)
  | durable (q : UnparkRequest) (hq : isDurable q = true) (h : (q,.refused e) ∈ s.seen)
  | drift (p fresh : Prepared) (status : StatusOutput) (hpending : before.pending = some p)
      (hfresh : FreshlyPrepared encoding input s.seen fresh)
      (h : p.evidenceFingerprint ≠ fresh.evidenceFingerprint) (he : e = authorityDrift input status)

/-- What a call returns: the receipt that was there, or the postcondition it observed last. -/
inductive Returned (input : UnparkInput) (before : Files) (s : CallState) (out : UnparkOutput) : Prop
  | replayed (h : before.receipt = some out) (hnone : lastStatus s.seen = none)
  | released (status : StatusOutput) (hstatus : lastStatus s.seen = some status)
      (h : Unparked input status)

/-- An answer that ends a durable request in an error is a refusal. -/
theorem doneOf_error {a : UnparkAnswer} {e : UnparkError} (h : doneOf a = some (.error e)) :
    a = .refused e := by
  cases a <;> cases h
  rfl

abbrev CallGives {α : Type} (encoding : UnparkEncoding) (input : UnparkInput) (before : Files)
    (m : UnparkIo α) (post : CallState → α → Prop) (s : CallState) : Prop :=
  Gives CallStep (Permitted encoding input) m post (Refused encoding input before) s

variable {before : Files} {status : StatusOutput}

def Later (s t : CallState) : Prop := ∃ more, t.seen = s.seen ++ more

theorem Later.trans {t u : CallState} (h : Later s t) (h' : Later t u) : Later s u := by
  obtain ⟨more,hmore⟩ := h
  obtain ⟨more',hmore'⟩ := h'
  exact ⟨more ++ more',by rw [hmore',hmore,List.append_assoc]⟩

theorem Later.mem {t : CallState} {e : Exchange} (h : Later s t) (he : e ∈ s.seen) : e ∈ t.seen := by
  obtain ⟨more,hmore⟩ := h
  rw [hmore]
  exact List.mem_append_left _ he

theorem Later.fresh {t : CallState} {fresh : Prepared} (h : Later s t)
    (hfresh : FreshlyPrepared encoding input s.seen fresh) :
    FreshlyPrepared encoding input t.seen fresh := by
  obtain ⟨more,hmore⟩ := h
  rw [hmore]
  exact hfresh.mono more

theorem CallStep.later {q : UnparkRequest} {a : UnparkAnswer} (h : CallStep s q a s') : Later s s' :=
  ⟨[(q,a)],h.seen⟩

theorem CallStep.mem {q : UnparkRequest} {a : UnparkAnswer} (h : CallStep s q a s') :
    (q,a) ∈ s'.seen := by
  rw [h.seen]
  exact List.mem_append_right _ (List.mem_singleton.mpr rfl)

theorem At.refused {e : UnparkError} (h : At files verified removed observed s)
    (hclosed : verified = false ∨ removed = true) : Refused encoding input before s e := by
  rcases hclosed with hclosed | hclosed
  · exact .unverified (h.verified.trans hclosed)
  · exact .removed (h.removed.trans hclosed)

theorem readRequiredContexts_gives {providerMutated : Bool} (h : At files verified removed observed s)
    (hclosed : verified = false ∨ removed = true) :
    CallGives encoding input before (readRequiredContexts input status providerMutated)
      (fun t contexts => At files verified removed observed t ∧ Later s t ∧ ∃ read,
        (.branchRequiredContexts (landingBranch status),.contexts read) ∈ t.seen ∧
          contexts = landingPolicy status read) s := by
  apply Gives.query_bind trivial
  · intro a t read hstep hread
    have hat := h.step hstep
    cases a <;> cases hread
    exact .pure ⟨by simpa [isVerified,isRemoval,statusIn,filesAfter] using hat,hstep.later,read,
      hstep.mem,rfl⟩
  · intro a t e hstep he
    have hat := h.step hstep
    cases a <;> cases he
    exact At.refused (by simpa [isVerified,isRemoval,statusIn] using hat) hclosed

theorem prepareWithProvider_gives {parkedFingerprint : String} (h : At files false false observed s)
    (hstatus : (.status,.status status) ∈ s.seen)
    (hfingerprint : (.parkingProvenance input.pr,.fingerprint (some parkedFingerprint)) ∈ s.seen) :
    CallGives encoding input before (prepareWithProvider encoding input status parkedFingerprint)
      (fun t fresh => At files true false observed t ∧ FreshlyPrepared encoding input t.seen fresh) s := by
  apply (readRequiredContexts_gives h (.inl rfl)).bind
  rintro s₁ contexts ⟨h₁,hlater₁,read,hread,rfl⟩
  apply Gives.query_bind trivial
  · intro a s₂ nowUnix hstep₂ hnow
    have h₂ := h₁.step hstep₂
    cases a <;> cases hnow
    apply Gives.query_bind trivial
    · intro a s₃ receiptId hstep₃ hid
      have h₃ := h₂.step hstep₃
      cases a <;> cases hid
      have hunverified : s₃.seen.any isVerified = false := by simpa [isVerified] using h₃.verified
      have hlater := (hlater₁.trans hstep₂.later).trans hstep₃.later
      apply Gives.ofResult_bind
      · intro fresh hprepare
        have hfresh : FreshlyPrepared encoding input s₃.seen fresh :=
          ⟨status,parkedFingerprint,read,_,_,hlater.mem hstatus,hlater.mem hfingerprint,
            (hstep₂.later.trans hstep₃.later).mem hread,hstep₃.later.mem hstep₂.mem,hprepare⟩
        apply Gives.query_bind trivial
        · intro a s₄ pull hstep₄ hpull
          have h₄ := h₃.step hstep₄
          cases a <;> cases hpull
          exact .pure ⟨by simpa [isVerified,isRemoval,statusIn,filesAfter] using h₄,
            hstep₄.later.fresh hfresh⟩
        · intro a s₄ e hstep₄ he
          have h₄ := h₃.step hstep₄
          cases a <;> cases he
          exact .unverified (by simpa [isVerified] using h₄.verified)
      · intro e he
        exact .unverified hunverified
    · intro a s₃ e hstep₃ he
      cases a <;> cases he
  · intro a s₂ e hstep₂ he
    cases a <;> cases he

/-- After the label is gone the receipt is written and the authorization removed. -/
theorem converge_gives {initial final : StatusOutput} {prepared : Prepared}
    {receipt : Sync.GitHubMutationReceipt} (h : At files verified removed (some final) s)
    (hclosed : verified = false ∨ removed = true) :
    CallGives encoding input before (converge encoding input initial final prepared receipt)
      (fun t _ => (∃ files, At files verified removed (some final) t) ∧ Unparked input final) s := by
  apply (readRequiredContexts_gives h hclosed).bind
  rintro s₁ contexts ⟨h₁,_⟩
  apply Gives.query_bind trivial
  · intro a s₂ nowUnix hstep₂ hnow
    have h₂ := h₁.step hstep₂
    cases a <;> cases hnow
    apply Gives.ofResult_bind
    · intro out hfinish
      have hunparked := finish_unparked hfinish
      apply Gives.query_bind ⟨final,by simpa [statusIn] using h₂.observed,hunparked⟩
      · intro a s₃ _ hstep₃ hdone
        have h₃ := h₂.step hstep₃
        cases a <;> cases hdone
        apply Gives.query_bind trivial
        · intro a s₄ _ hstep₄ hdone
          have h₄ := h₃.step hstep₄
          cases a <;> cases hdone
          exact .pure ⟨⟨_,by simpa [isVerified,isRemoval,statusIn] using h₄⟩,hunparked⟩
        · intro a s₄ e hstep₄ he
          have h₄ := h₃.step hstep₄
          cases a <;> cases he
          exact At.refused (by simpa [isVerified,isRemoval,statusIn] using h₄) hclosed
      · intro a s₃ e hstep₃ he
        have h₃ := h₂.step hstep₃
        cases a <;> cases he
        exact At.refused (by simpa [isVerified,isRemoval,statusIn] using h₃) hclosed
    · intro e he
      exact At.refused (by simpa [isVerified,isRemoval,statusIn] using h₂) hclosed
  · intro a s₂ e hstep₂ he
    cases a <;> cases he

/-- From a verified preparation on, only the provider write or a durable request can fail. -/
theorem transition_gives {initial : StatusOutput} {prepared fresh : Prepared}
    (h : At files true false observed s) (hfresh : FreshlyPrepared encoding input s.seen fresh) :
    CallGives encoding input before (transition encoding input initial prepared) (Returned input before)
      s := by
  apply Gives.query_bind trivial
  · intro a s₁ _ hstep₁ hdone
    have h₁ := h.step hstep₁
    cases a <;> cases hdone
    apply Gives.query_bind ⟨rfl,fresh,hstep₁.later.fresh hfresh⟩
    · intro a s₂ receipt hstep₂ hreceipt
      have h₂ := h₁.step hstep₂
      cases a <;> cases hreceipt
      apply Gives.query_bind trivial
      · intro a s₃ final hstep₃ hfinal
        have h₃ := h₂.step hstep₃
        cases a <;> cases hfinal
        have h₃ : At files true true (some final) s₃ := by
          simpa [isVerified,isRemoval,statusIn,filesAfter] using h₃
        apply (converge_gives h₃ (.inr rfl)).bind
        rintro s₄ out ⟨⟨files₄,h₄⟩,hunparked⟩
        apply Gives.query_bind trivial
        · intro a s₅ _ hstep₅ hdone
          have h₅ := h₄.step hstep₅
          cases a <;> cases hdone
          exact .pure (.released final (by simpa [statusIn] using h₅.observed) hunparked)
        · intro a s₅ e hstep₅ he
          have h₅ := h₄.step hstep₅
          exact .removed (by simpa [isRemoval] using h₅.removed)
      · intro a s₃ e hstep₃ he
        have h₃ := h₂.step hstep₃
        exact .removed (by simpa [isRemoval] using h₃.removed)
    · intro a s₂ e hstep₂ he
      have h₂ := h₁.step hstep₂
      exact .removed (by simpa [isRemoval] using h₂.removed)
  · intro a s₁ e hstep₁ he
    rw [doneOf_error he] at hstep₁
    exact .durable _ rfl hstep₁.mem

theorem authorize_gives {initial : StatusOutput} {parkedFingerprint : String}
    (h : At before false false (some initial) s)
    (hstatus : (.status,.status initial) ∈ s.seen)
    (hfingerprint : (.parkingProvenance input.pr,.fingerprint (some parkedFingerprint)) ∈ s.seen) :
    CallGives encoding input before (authorize encoding input initial parkedFingerprint before.pending)
      (Returned input before) s := by
  have hprepare : CallGives encoding input before
      (prepareWithProvider encoding input initial parkedFingerprint)
      (fun t fresh => At before true false (some initial) t ∧
        FreshlyPrepared encoding input t.seen fresh) s := prepareWithProvider_gives h hstatus hfingerprint
  cases hpending : before.pending with
  | none =>
    apply hprepare.bind
    rintro s₁ fresh ⟨h₁,hfresh⟩
    apply Gives.query_bind trivial
    · intro a s₂ _ hstep₂ hdone
      have h₂ := h₁.step hstep₂
      exact transition_gives (by simpa [isVerified,isRemoval,statusIn] using h₂)
        (hstep₂.later.fresh hfresh)
    · intro a s₂ e hstep₂ he
      rw [doneOf_error he] at hstep₂
      exact .durable _ rfl hstep₂.mem
  | some prepared =>
    rw [authorize]
    split
    · rename_i after hafter
      apply (converge_gives h (.inl rfl)).mono
      · rintro t out ⟨⟨files,ht⟩,hunparked⟩
        exact .released initial ht.observed hunparked
      · exact fun _ _ he => he
    · apply hprepare.bind
      rintro s₁ fresh ⟨h₁,hfresh⟩
      apply Gives.ofResult_bind
      · intro _ hsame
        exact transition_gives h₁ hfresh
      · intro e he
        split at he
        · rename_i hdrift
          cases he
          rw [decide_eq_true_eq] at hdrift
          exact .drift prepared fresh initial hpending hfresh (fun h => hdrift h.symm) rfl
        · cases he

theorem unparkFresh_gives (h : At before false false none s) :
    CallGives encoding input before (unparkFresh encoding input) (Returned input before) s := by
  apply Gives.query_bind trivial
  · intro a s₁ initial hstep₁ hinitial
    have h₁ := h.step hstep₁
    cases a <;> cases hinitial
    apply Gives.ofResult_bind
    · intro _ _
      apply Gives.query_bind trivial
      · intro a s₂ parkedFingerprint hstep₂ hfingerprint
        have h₂ := h₁.step hstep₂
        have hasked : a = .fingerprint (some parkedFingerprint) := by
          rcases a with _ | _ | _ | _ | (_ | f) | _ | _ | _ | _ | _ | _ | _ <;> cases hfingerprint
          rfl
        subst hasked
        apply Gives.query_bind trivial
        · intro a s₃ pending hstep₃ hpending
          have h₃ := h₂.step hstep₃
          cases a <;> cases hpending
          have hread := hstep₃.answered
          rw [h₂.files] at hread
          have hbefore : pending = before.pending := hread
          subst hbefore
          exact authorize_gives (by simpa [isVerified,isRemoval,statusIn,filesAfter] using h₃)
            ((hstep₂.later.trans hstep₃.later).mem hstep₁.mem) (hstep₃.later.mem hstep₂.mem)
        · intro a s₃ e hstep₃ he
          have h₃ := h₂.step hstep₃
          exact .unverified (by simpa [isVerified] using h₃.verified)
      · intro a s₂ e hstep₂ he
        have h₂ := h₁.step hstep₂
        exact .unverified (by simpa [isVerified] using h₂.verified)
    · intro e he
      exact .unverified (by simpa [isVerified] using h₁.verified)
  · intro a s₁ e hstep₁ he
    have h₁ := h.step hstep₁
    exact .unverified (by simpa [isVerified] using h₁.verified)

theorem unpark_gives : CallGives encoding input before (unpark encoding input) (Returned input before)
    ⟨before,[]⟩ := by
  have h : At before false false none ⟨before,[]⟩ := ⟨rfl,rfl,rfl,rfl⟩
  apply Gives.ofResult_bind
  · intro _ _
    apply Gives.query_bind trivial
    · intro a s₁ _ hstep₁ hdone
      have h₁ := h.step hstep₁
      cases a <;> cases hdone
      apply Gives.query_bind trivial
      · intro a s₂ receipt hstep₂ hreceipt
        have h₂ := h₁.step hstep₂
        cases a <;> cases hreceipt
        have hread := hstep₂.answered
        rw [h₁.files] at hread
        have hbefore : receipt = before.receipt := hread
        cases receipt with
        | some out => exact .pure (.replayed hbefore.symm (by simpa [statusIn] using h₂.observed))
        | none => exact unparkFresh_gives (by simpa [isVerified,isRemoval,statusIn,filesAfter] using h₂)
      · intro a s₂ e hstep₂ he
        have h₂ := h₁.step hstep₂
        exact .unverified (by simpa [isVerified] using h₂.verified)
    · intro a s₁ e hstep₁ he
      have h₁ := h.step hstep₁
      exact .unverified (by simpa [isVerified] using h₁.verified)
  · intro e he
    exact .unverified rfl

end Call

/-- The calls made so far, each up to where its process stopped, and the files they left. -/
inductive Calls (encoding : UnparkEncoding) (input : UnparkInput) : List (List Exchange) → Files → Prop
  | none : Calls encoding input [] {}
  | call {past : List (List Exchange)} {files : Files} {t : CallState}
      (h : Calls encoding input past files)
      (hstops : Stops CallStep (unpark encoding input).run ⟨files,[]⟩ t) :
      Calls encoding input (past ++ [t.seen]) t.files

section Runs

variable {encoding : UnparkEncoding} {input : UnparkInput} {files : Files} {s s' t : CallState}

/-- Every removal so far was asked for after a preparation that succeeded. -/
def Authorized (encoding : UnparkEncoding) (input : UnparkInput) (t : CallState) : Prop :=
  ∀ i e label a, t.seen[i]? = some (.removeLabel e label,a) →
    label = parkedLabel ∧ ∃ fresh, FreshlyPrepared encoding input (t.seen.take i) fresh

theorem Authorized.step {q : UnparkRequest} {a : UnparkAnswer}
    (hok : Permitted encoding input s q) (hstep : CallStep s q a s') (h : Authorized encoding input s) :
    Authorized encoding input s' := by
  intro i e label b hi
  rw [hstep.seen] at hi ⊢
  rcases Nat.lt_or_ge i s.seen.length with hlt | hge
  · rw [List.getElem?_append_left hlt] at hi
    rw [List.take_append_of_le_length hlt.le]
    exact h i e label b hi
  · have hlast : i = s.seen.length := by
      have hlt := (List.getElem?_eq_some_iff.mp hi).1
      rw [List.length_append,List.length_singleton] at hlt
      omega
    subst hlast
    rw [List.getElem?_append_right hge,Nat.sub_self] at hi
    cases hi
    rw [List.take_left]
    exact hok

/-- The conversation wrote the receipt when the discovery it had made last was without the parked label. -/
def Wrote (input : UnparkInput) (out : UnparkOutput) (seen : List Exchange) : Prop :=
  ∃ i,seen[i]? = some (.writeReceipt out,.done) ∧
    ∃ status,lastStatus (seen.take i) = some status ∧ Unparked input status

theorem Wrote.mono {out : UnparkOutput} {seen : List Exchange} (more : List Exchange)
    (h : Wrote input out seen) : Wrote input out (seen ++ more) := by
  obtain ⟨i,hi,hstatus⟩ := h
  have hlt := (List.getElem?_eq_some_iff.mp hi).1
  refine ⟨i,?_,?_⟩
  · rw [List.getElem?_append_left hlt]
    exact hi
  · rw [List.take_append_of_le_length hlt.le]
    exact hstatus

/-- A receipt in the files was there before or was written by this conversation. -/
def Evidenced (input : UnparkInput) (before : Files) (t : CallState) : Prop :=
  ∀ out, t.files.receipt = some out → before.receipt = some out ∨ Wrote input out t.seen

theorem Evidenced.step {before : Files} {q : UnparkRequest} {a : UnparkAnswer}
    (hok : Permitted encoding input s q) (hstep : CallStep s q a s') (h : Evidenced input before s) :
    Evidenced input before s' := by
  intro out hout
  have hkept : s.files.receipt = some out → before.receipt = some out ∨ Wrote input out s'.seen := by
    intro hold
    rw [hstep.seen]
    exact (h out hold).imp_right (·.mono _)
  rw [hstep.files] at hout
  cases q <;> cases a <;> first
    | exact hkept hout
    | skip
  cases hout
  refine .inr ⟨s.seen.length,?_,?_⟩
  · rw [hstep.seen,List.getElem?_concat_length]
  · rw [hstep.seen,List.take_left]
    exact hok

theorem stops_authorized (h : Stops CallStep (unpark encoding input).run ⟨files,[]⟩ t) :
    Authorized encoding input t :=
  unpark_gives.stops (fun _ _ _ _ hok hstep hs => hs.step hok hstep) (fun _ _ _ _ hi => by cases hi) h

theorem stops_evidenced (h : Stops CallStep (unpark encoding input).run ⟨files,[]⟩ t) :
    Evidenced input files t :=
  unpark_gives.stops (fun _ _ _ _ hok hstep hs => hs.step hok hstep) (fun _ hout => .inl hout) h

theorem Calls.receipt {past : List (List Exchange)} (h : Calls encoding input past files)
    {out : UnparkOutput} (hout : files.receipt = some out) : ∃ seen ∈ past, Wrote input out seen := by
  induction h with
  | none => cases hout
  | @call past files t _ hstops ih =>
    rcases stops_evidenced hstops out hout with hold | hwrote
    · obtain ⟨seen,hmem,hwrote⟩ := ih hold
      exact ⟨seen,List.mem_append_left _ hmem,hwrote⟩
    · exact ⟨t.seen,List.mem_append_right _ (List.mem_singleton.mpr rfl),hwrote⟩

/-- In every sequence of calls with one input the label is removed only on an authority proven from what
the call had read; a call returns what it observed last without the label, or the receipt that an
earlier call wrote after such an observation; and a call whose preparation was verified is refused before its
removal only by a durable request of its own or by a pending authorization of other evidence. -/
theorem unpark_gated (encoding : UnparkEncoding) (input : UnparkInput) {past : List (List Exchange)}
    {files : Files} (h : Calls encoding input past files) :
    (∀ t, Stops CallStep (unpark encoding input).run ⟨files,[]⟩ t →
      ∀ i e label a, t.seen[i]? = some (.removeLabel e label,a) → label = parkedLabel ∧
        ∃ status parkedFingerprint read nowUnix pull, (.status,.status status) ∈ t.seen.take i ∧
          (.parkingProvenance input.pr,.fingerprint (some parkedFingerprint)) ∈ t.seen.take i ∧
          (.branchRequiredContexts (landingBranch status),.contexts read) ∈ t.seen.take i ∧
          (.clock,.time nowUnix) ∈ t.seen.take i ∧
          Proven encoding input status parkedFingerprint (landingPolicy status read) nowUnix pull) ∧
    (∀ t out, Run CallStep (unpark encoding input).run ⟨files,[]⟩ (some (.ok out)) t →
      (∃ status, lastStatus t.seen = some status ∧ Unparked input status) ∨
      files.receipt = some out ∧ ∃ seen ∈ past, Wrote input out seen) ∧
    ∀ t e, Run CallStep (unpark encoding input).run ⟨files,[]⟩ (some (.error e)) t →
      t.seen.any isVerified = true →
      t.seen.any isRemoval = true ∨ (∃ q, isDurable q = true ∧ (q,.refused e) ∈ t.seen) ∨
      ∃ p fresh, files.pending = some p ∧ FreshlyPrepared encoding input t.seen fresh ∧
        p.evidenceFingerprint ≠ fresh.evidenceFingerprint := by
  refine ⟨?_,?_,?_⟩
  · intro t hstops i e label a hi
    obtain ⟨hlabel,fresh,status,parkedFingerprint,read,nowUnix,receiptId,hstatus,hfingerprint,hread,hclock,
      hprepare⟩ := stops_authorized hstops i e label a hi
    exact ⟨hlabel,status,parkedFingerprint,read,nowUnix,fresh.pull,hstatus,hfingerprint,hread,hclock,
      prepare_proves hprepare⟩
  · intro t out hrun
    rcases unpark_gives.run hrun with ⟨hreceipt,_⟩ | ⟨status,hstatus,hunparked⟩
    · exact .inr ⟨hreceipt,h.receipt hreceipt⟩
    · exact .inl ⟨status,hstatus,hunparked⟩
  · intro t e hrun hverified
    rcases unpark_gives.run_error hrun with hunverified | hremoved | ⟨q,hq,hmem⟩ |
      ⟨p,fresh,_,hpending,hfresh,hne,_⟩
    · rw [hverified] at hunverified
      cases hunverified
    · exact .inl hremoved
    · exact .inr (.inl ⟨q,hq,hmem⟩)
    · exact .inr (.inr ⟨p,fresh,hpending,hfresh,hne⟩)

end Runs

section Samples

instance (f : Files) (q : UnparkRequest) (a : UnparkAnswer) : Decidable (Answered f q a) := by
  unfold Answered
  split <;> infer_instance

/-- The files after a conversation in which every read says what is in them. -/
def filesFollow : Files → List Exchange → Option Files
  | f,[] => some f
  | f,(q,a)::rest => if Answered f q a then filesFollow (filesAfter f q a) rest else none

theorem steps_of_filesFollow {f g : Files} {rest seen : List Exchange}
    (h : filesFollow f rest = some g) : Steps CallStep ⟨f,seen⟩ rest ⟨g,seen ++ rest⟩ := by
  induction rest generalizing f seen with
  | nil =>
    cases h
    rw [List.append_nil]
    exact .nil _
  | cons e rest ih =>
    obtain ⟨q,a⟩ := e
    rw [filesFollow] at h
    split_ifs at h with hanswered
    have hrest : Steps CallStep ⟨filesAfter f q a,seen ++ [(q,a)]⟩ rest ⟨g,seen ++ [(q,a)] ++ rest⟩ :=
      ih h
    rw [List.append_assoc] at hrest
    exact .cons ⟨hanswered,rfl,rfl⟩ hrest

/-- A call that meets these answers in turn: its result, its files and its conversation. -/
def play (encoding : UnparkEncoding) (input : UnparkInput) (f : Files) (answers : List UnparkAnswer) :
    Option (Option (Except UnparkError UnparkOutput) × CallState) :=
  ((unpark encoding input).run.replay answers).bind fun out =>
    (filesFollow f out.2).map fun g => (out.1,⟨g,out.2⟩)

theorem run_of_play {encoding : UnparkEncoding} {input : UnparkInput} {f : Files}
    {answers : List UnparkAnswer} {r : Option (Except UnparkError UnparkOutput)} {t : CallState}
    (h : play encoding input f answers = some (r,t)) :
    Run CallStep (unpark encoding input).run ⟨f,[]⟩ r t := by
  obtain ⟨⟨r',conversation⟩,hreplay,h⟩ := Option.bind_eq_some_iff.mp h
  obtain ⟨g,hfollow,h⟩ := Option.map_eq_some_iff.mp h
  cases h
  exact run_of_steps hreplay (steps_of_filesFollow hfollow)

def octo : RepositoryId := ⟨"octo","app"⟩

/-- The head of a one-member caravan with a green check of the given run. -/
def greenHead (run : String) (labels : List String) : PullRequestSnapshot where
  number := 5
  state := .open
  head := ⟨octo,"feature","1111111111111111111111111111111111111111"⟩
  base := ⟨octo,"main","2222222222222222222222222222222222222222"⟩
  labels := labels.toFinset
  autoMerge := .disabled
  checks := [{ name := "CI", state := .success, detailsUrl := some run }]

def octoStatus (run : String) (labels : List String) : StatusOutput where
  repository := octo
  defaultBranch := "main"
  analysis := Graph.deriveForActor {
    repository := octo
    defaultBranch := ⟨octo,"main","2222222222222222222222222222222222222222"⟩
    pullRequests := [greenHead run labels] } .github

/-- Digests that tell apart the runs of the checks and nothing else. -/
def octoEncoding : UnparkEncoding where
  membership _ := []
  evidence e := e.authoritativeChecks.flatMap fun check =>
    (check.detailsUrl.getD "").toList.map fun c => UInt8.ofNat c.toNat

def octoInput : UnparkInput where
  repository := "octo/app"
  pr := 5
  head := "1111111111111111111111111111111111111111"
  baseRef := "main"
  base := "2222222222222222222222222222222222222222"
  membershipGeneration := "fnv1a64:cbf29ce484222325"
  parkingFingerprint := "fnv1a64:0123456789abcdef"
  providerState := "open_parked"
  actor := "oncall"
  reason := "flaky runner replaced"

def ciPolicy : RequiredContextsRead := { branch := "main", isProtected := true, contexts := ["CI"], complete := true }

def parkedLabels : List String := ["caravan","caravan-parked"]

def preparing (files : Files) (run : String) : List UnparkAnswer :=
  [.done,.receipt files.receipt,.status (octoStatus run parkedLabels),
    .fingerprint (some "fnv1a64:0123456789abcdef"),.pending files.pending,.contexts ciPolicy,.time 0,
    .identity "op-1",.pull (greenHead run parkedLabels)]

/-- The provider write of the first call times out after its authorization was written. -/
def interrupted : List UnparkAnswer :=
  preparing {} "runs/1" ++ [.done,.done,.provider (.timeout "timed out")]

def releasing : List UnparkAnswer :=
  preparing {} "runs/1" ++ [.done,.done,
    .mutated ⟨.removeLabel,none,greenHead "runs/1" ["caravan"],none⟩,.status (octoStatus "runs/1" ["caravan"]),
    .contexts ciPolicy,.time 0,.done,.done,.done]

def failedWith (code : String) : Option (Except UnparkError UnparkOutput) → Bool
  | some (.error e) => decide (e.code = code)
  | _ => false

def returned : Option (Except UnparkError UnparkOutput) → Bool
  | some (.ok _) => true
  | _ => false

/-- The files after a first call with these answers, and the second call from them. -/
def playTwice (first : List UnparkAnswer) (second : Files → List UnparkAnswer) :
    Option (CallState × Option (Except UnparkError UnparkOutput) × CallState) :=
  (play octoEncoding octoInput {} first).bind fun out =>
    (play octoEncoding octoInput out.2.files (second out.2.files)).map fun out' => (out.2,out')

theorem runs_of_playTwice {first : List UnparkAnswer} {second : Files → List UnparkAnswer}
    {s t : CallState} {r : Option (Except UnparkError UnparkOutput)}
    (h : playTwice first second = some (s,r,t)) : Calls octoEncoding octoInput [s.seen] s.files ∧
      Run CallStep (unpark octoEncoding octoInput).run ⟨s.files,[]⟩ r t := by
  obtain ⟨⟨r',s'⟩,hfirst,h⟩ := Option.bind_eq_some_iff.mp h
  obtain ⟨out,hsecond,h⟩ := Option.map_eq_some_iff.mp h
  cases h
  exact ⟨.call .none (run_of_play hfirst).stops,run_of_play hsecond⟩

/-- A check of another run between two calls makes the second one refuse although its own
preparation succeeds; and a call that finds a receipt returns it without any observation. -/
theorem unpark_refusesChurn_replaysBlindly :
    (∃ past files t e, Calls octoEncoding octoInput past files ∧
      Run CallStep (unpark octoEncoding octoInput).run ⟨files,[]⟩ (some (.error e)) t ∧
      e.code = "unpark_pending_authority_drift" ∧ t.seen.any isVerified = true ∧
      t.seen.any isRemoval = false) ∧
    ∃ past files t out, Calls octoEncoding octoInput past files ∧
      Run CallStep (unpark octoEncoding octoInput).run ⟨files,[]⟩ (some (.ok out)) t ∧
      (lastStatus t.seen).isNone = true := by
  constructor
  · have hplayed : ((playTwice interrupted fun files => preparing files "runs/2").any fun out =>
        failedWith "unpark_pending_authority_drift" out.2.1 && out.2.2.seen.any isVerified &&
          !out.2.2.seen.any isRemoval) = true := by decide +kernel
    obtain ⟨⟨s,r,t⟩,htwice,hresult⟩ := (Option.any_eq_true _ _).mp hplayed
    obtain ⟨hcalls,hrun⟩ := runs_of_playTwice htwice
    simp only [Bool.and_eq_true,Bool.not_eq_true'] at hresult
    obtain ⟨⟨hfailed,hverified⟩,hremoval⟩ := hresult
    rcases r with _ | e | out
    · cases hfailed
    · exact ⟨_,_,t,e,hcalls,hrun,of_decide_eq_true hfailed,hverified,hremoval⟩
    · cases hfailed
  · have hplayed : ((playTwice releasing fun files => [.done,.receipt files.receipt]).any fun out =>
        returned out.2.1 && (lastStatus out.2.2.seen).isNone) = true := by decide +kernel
    obtain ⟨⟨s,r,t⟩,htwice,hresult⟩ := (Option.any_eq_true _ _).mp hplayed
    obtain ⟨hcalls,hrun⟩ := runs_of_playTwice htwice
    rw [Bool.and_eq_true] at hresult
    rcases r with _ | e | out
    · cases hresult.1
    · cases hresult.1
    · exact ⟨_,_,t,out,hcalls,hrun,hresult.2⟩

/-- The first call's own conversation, from no files. -/
theorem unpark_firstCall_released : ∃ t out,
    Run CallStep (unpark octoEncoding octoInput).run ⟨{},[]⟩ (some (.ok out)) t ∧
    ∃ status, lastStatus t.seen = some status ∧ Unparked octoInput status := by
  have hplayed : ((play octoEncoding octoInput {} releasing).any fun out => returned out.1) = true := by
    decide +kernel
  obtain ⟨⟨r,t⟩,hplay,hresult⟩ := (Option.any_eq_true _ _).mp hplayed
  rcases r with _ | e | out
  · cases hresult
  · cases hresult
  · have hrun := run_of_play hplay
    rcases (unpark_gated octoEncoding octoInput .none).2.1 t out hrun with hreleased | hreplayed
    · exact ⟨t,out,hrun,hreleased⟩
    · cases hreplayed.1

end Samples

end Unpark
end Cara
