import Cara.RemoteLease
import Cara.Lib.Guard
import Cara.Lib.Interleave

/-! Guards of any number of holders over one linearizable broker. A request takes effect at
once or is lost before or after it does; between two requests of a guard everybody else may
use the broker. -/
namespace Cara
namespace RemoteLease

open Fencing (Slot Move Ahead)
open Prog (Contract)

def fencing : Fencing RemoteLeaseGrant (RemoteLeaseKey × String × String × ℕ) where
  fence g := (g.key,g.writerOwner,g.operationId,g.fencingToken)
  token f := f.2.2.2

theorem exactFence_iff {g h : RemoteLeaseGrant} :
    g.exactFence h = true ↔ fencing.fence g = fencing.fence h := by
  unfold RemoteLeaseGrant.exactFence fencing
  simp only [Bool.and_eq_true,decide_eq_true_eq,Prod.mk.injEq]
  tauto

abbrev Broker := RemoteLeaseKey → Slot fencing

/-- What one request does at the broker and the response it earns. How the broker judges that
a former holder has expired is its own affair. -/
inductive Apply (b : Broker) : BrokerRequest → BrokerResponse → Broker → Prop
  | granted {v v' : ℕ} {request : RemoteLeaseAcquire} {g : RemoteLeaseGrant} :
      g.sameHolder request = true → (b request.key).last < g.fencingToken →
      Apply b (.acquire v request) { schemaVersion := v',operation := .acquire,grant := some g }
        (Function.update b request.key ((b request.key).grant g))
  | regranted {v v' : ℕ} {request : RemoteLeaseAcquire} {g : RemoteLeaseGrant} :
      (b request.key).current = some g → g.sameHolder request = true →
      Apply b (.acquire v request) { schemaVersion := v',operation := .acquire,grant := some g } b
  | contended {v v' : ℕ} {request : RemoteLeaseAcquire} {g : RemoteLeaseGrant} :
      (b request.key).current = some g → Apply b (.acquire v request)
        { schemaVersion := v',operation := .acquire,grant := some g,contended := true } b
  | inspected {v v' : ℕ} {key : RemoteLeaseKey} : Apply b (.inspect v key)
      { schemaVersion := v',operation := .inspect,grant := (b key).current } b
  | renewed {v v' now ttl heartbeat : ℕ} {grant g g' : RemoteLeaseGrant}
      (hg : (b grant.key).current = some g) (h : fencing.fence g' = fencing.fence g) :
      g.exactFence grant = true → Apply b (.renew v grant now ttl heartbeat)
        { schemaVersion := v',operation := .renew,grant := some g' }
        (Function.update b grant.key ((b grant.key).renew hg g' h))
  | unrenewed {v v' now ttl heartbeat : ℕ} {grant : RemoteLeaseGrant} :
      Apply b (.renew v grant now ttl heartbeat)
        { schemaVersion := v',operation := .renew,grant := (b grant.key).current } b
  | released {v v' : ℕ} {grant g : RemoteLeaseGrant} : (b grant.key).current = some g →
      g.exactFence grant = true → Apply b (.release v grant)
        { schemaVersion := v',operation := .release,released := true }
        (Function.update b grant.key (b grant.key).vacate)
  | unreleased {v v' : ℕ} {grant : RemoteLeaseGrant} : Apply b (.release v grant)
      { schemaVersion := v',operation := .release } b

def Reply.Unanswered : Reply → Prop
  | .incomplete => True
  | .output success _ response => success = false ∨ response = none

inductive Exec (b : Broker) (q : BrokerRequest) : Reply → Broker → Prop
  | answered {response : BrokerResponse} {b' : Broker} (stdoutBytes : ℕ) : Apply b q response b' →
      Exec b q (.output true stdoutBytes (some response)) b'
  | unsent {a : Reply} : a.Unanswered → Exec b q a b
  | lost {a : Reply} {response : BrokerResponse} {b' : Broker} : a.Unanswered →
      Apply b q response b' → Exec b q a b'

inductive Others (b : Broker) : Broker → Prop
  | request {q : BrokerRequest} {response : BrokerResponse} {b' : Broker} :
      Apply b q response b' → Others b b'
  | expired (key : RemoteLeaseKey) : Others b (Function.update b key (b key).vacate)

section Moves

variable {b b' : Broker} {q : BrokerRequest} {a : Reply} {response : BrokerResponse}

theorem update_moves {key : RemoteLeaseKey} {slot : Slot fencing} (h : Move (b key) slot)
    (key' : RemoteLeaseKey) : Move (b key') (Function.update b key slot key') := by
  by_cases hkey : key' = key
  · rw [hkey,Function.update_self]
    exact h
  · rw [Function.update_of_ne hkey]
    exact .keep _

theorem Apply.moves (h : Apply b q response b') (key : RemoteLeaseKey) : Move (b key) (b' key) := by
  cases h with
  | granted _ htoken => exact update_moves (.grant _ _ htoken) key
  | renewed hg hfence _ => exact update_moves (.renew _ hg _ hfence) key
  | released _ _ => exact update_moves (.vacate _) key
  | _ => exact .keep _

theorem Exec.moves (h : Exec b q a b') (key : RemoteLeaseKey) : Move (b key) (b' key) := by
  cases h with
  | answered _ happly => exact happly.moves key
  | unsent _ => exact .keep _
  | lost _ happly => exact happly.moves key

theorem Others.moves (h : Others b b') (key : RemoteLeaseKey) : Move (b key) (b' key) := by
  cases h with
  | request happly => exact happly.moves key
  | expired key' => exact update_moves (.vacate _) key

def BrokerRequest.key : BrokerRequest → RemoteLeaseKey
  | .acquire _ request => request.key
  | .inspect _ key => key
  | .renew _ grant _ _ _ => grant.key
  | .release _ grant => grant.key

theorem Apply.current (h : Apply b q response b') (hq : ∀ v grant,q ≠ .release v grant) :
    response.grant = (b' q.key).current := by
  cases h with
  | granted _ _ =>
    show some _ = (Function.update b _ _ _).current
    rw [BrokerRequest.key,Function.update_self]
    rfl
  | regranted hg _ => exact hg.symm
  | contended hg => exact hg.symm
  | inspected => rfl
  | renewed hg hfence _ =>
    show some _ = (Function.update b _ _ _).current
    rw [BrokerRequest.key,Function.update_self]
    rfl
  | unrenewed => rfl
  | released _ _ => exact absurd rfl (hq _ _)
  | unreleased => exact absurd rfl (hq _ _)

end Moves

structure Link where
  broker : Broker
  exchange : Option (BrokerRequest × Reply)

def Link.Step (l : Link) (q : BrokerRequest) (a : Reply) (l' : Link) : Prop :=
  Exec l.broker q a l'.broker ∧ l'.exchange = some (q,a)

def anyone : Contract Link where
  rely _ _ := True
  guar _ _ := True
  pending _ := True
  rely_trans _ _ _ _ _ := trivial

/-- A returned result meets its postcondition where its last exchange left the broker. -/
def Yields {α : Type} (p : Io α) (m : Link → α → Prop) (l : Link) : Prop :=
  anyone.Guards Link.Step p (fun l' r => ∀ a,r = .ok a → m l' a) l

namespace Yields

variable {α β : Type} {m : Link → α → Prop} {m' : Link → β → Prop} {p : Io α} {l : Link}

theorem pure {a : α} (h : m l a) : Yields (pure a : Io α) m l := by
  intro a' ha
  cases ha
  exact h

theorem throw (e : RemoteLeaseError) : Yields (throw e : Io α) m l := fun _ h => nomatch h

theorem ofResult {r : Except RemoteLeaseError α} (h : ∀ a,r = .ok a → m l a) :
    Yields (Prog.ofResult r) m l := h

theorem bind {f : α → Io β} (hp : Yields p m l) (hf : ∀ l a,m l a → Yields (f a) m' l) :
    Yields (p >>= f) m' l := by
  apply Contract.Guards.bind (m := m)
  · apply Contract.Guards.mono hp
    intro l' r hr
    cases r with
    | ok a => exact hr a rfl
    | error e => exact fun _ h => nomatch h
  · exact hf

theorem refuseIf {condition : Bool} {e : RemoteLeaseError} {f : Unit → Io β}
    (hf : condition = false → Yields (f ()) m' l) : Yields (Prog.refuseIf condition e >>= f) m' l := by
  apply bind (m := fun l' _ => l' = l ∧ condition = false)
  · apply ofResult
    intro _ h
    cases condition with
    | false => exact ⟨rfl,rfl⟩
    | true => cases h
  · intro l' _ h
    rw [h.1]
    exact hf h.2

theorem attempt {f : Except RemoteLeaseError α → Io β} (hp : Yields p m l)
    (hok : ∀ l a,m l a → Yields (f (.ok a)) m' l) (herror : ∀ l e,Yields (f (.error e)) m' l) :
    Yields (Prog.attempt p >>= f) m' l := by
  apply Contract.Guards.attempt
  apply Contract.Guards.mono hp
  intro l' r hr
  cases r with
  | ok a => exact hok l' a (hr a rfl)
  | error e => exact herror l' e

end Yields

/-- The last exchange answered with this holder, which is the one that the broker has. -/
structure Named (l : Link) (q : BrokerRequest) (holder : Option RemoteLeaseGrant) : Prop where
  current : (l.broker q.key).current = holder
  answered : ∃ stdoutBytes response,
    l.exchange = some (q,.output true stdoutBytes (some response)) ∧ response.grant = holder

theorem Named.asked {l : Link} {q : BrokerRequest} {holder : Option RemoteLeaseGrant}
    (h : Named l q holder) : ∃ q a,l.exchange = some (q,a) := by
  obtain ⟨_,_,hexchange,_⟩ := h.answered
  exact ⟨_,_,hexchange⟩

/-- The broker's grant carries exactly this fence and is unexpired. -/
def Fenced (b : Broker) (nowUnixMs : ℕ) (grant : RemoteLeaseGrant) : Prop :=
  ∃ current,(b grant.key).current = some current ∧ current.exactFence grant = true ∧
    current.liveAt nowUnixMs = true

section Calls

variable {encoded : Encoding} {l : Link}

theorem accepted_ok {operation : BrokerOperation} {reply : Reply} {response : BrokerResponse}
    (h : accepted operation reply = .ok response) :
    ∃ stdoutBytes,reply = .output true stdoutBytes (some response) := by
  unfold accepted at h
  cases reply with
  | incomplete => cases h
  | output success stdoutBytes decoded =>
    obtain ⟨hsuccess,h⟩ := (Guard.refuse_bind_eq_ok ..).mp h
    obtain ⟨_,h⟩ := (Guard.refuse_bind_eq_ok ..).mp h
    cases decoded with
    | none => cases h
    | some decoded =>
      obtain ⟨_,h⟩ := (Guard.refuse_bind_eq_ok ..).mp h
      obtain ⟨_,_,h⟩ := Guard.bind_eq_ok.mp h
      obtain ⟨_,_,h⟩ := Guard.bind_eq_ok.mp h
      cases h
      cases success with
      | true => exact ⟨stdoutBytes,rfl⟩
      | false => cases hsuccess

/-- A response that the adapter returns is one that the broker gave. -/
theorem invoke_yields (operation : BrokerOperation) (q : BrokerRequest) :
    Yields (invoke encoded operation q) (fun l response => ∃ b stdoutBytes,
      Apply b q response l.broker ∧ l.exchange = some (q,.output true stdoutBytes (some response))) l := by
  unfold invoke
  cases encoded q with
  | none => exact Yields.throw _
  | some inputBytes =>
    apply Yields.refuseIf
    intro _
    apply Contract.Guards.send
    intro m _
    refine ⟨trivial,?_⟩
    intro reply l' hstep
    refine ⟨trivial,Yields.ofResult ?_⟩
    intro response hresponse
    obtain ⟨stdoutBytes,hreply⟩ := accepted_ok hresponse
    obtain ⟨hexec,hexchange⟩ := hstep
    rw [hreply] at hexec hexchange
    generalize l'.broker = b' at hexec
    cases hexec with
    | answered _ happly => exact ⟨m.broker,stdoutBytes,happly,hexchange⟩
    | unsent hunanswered => exact hunanswered.elim (fun h => nomatch h) fun h => nomatch h
    | lost hunanswered _ => exact hunanswered.elim (fun h => nomatch h) fun h => nomatch h

theorem invoke_named {operation : BrokerOperation} {q : BrokerRequest}
    (hq : ∀ v grant,q ≠ .release v grant) :
    Yields (invoke encoded operation q) (fun l response => Named l q response.grant) l := by
  apply Contract.Guards.mono (invoke_yields operation q)
  intro l r h response hresponse
  obtain ⟨b,stdoutBytes,happly,hexchange⟩ := h response hresponse
  exact ⟨(happly.current hq).symm,stdoutBytes,response,hexchange,rfl⟩

theorem inspectOnce_yields (key : RemoteLeaseKey) :
    Yields (inspectOnce encoded key)
      (fun l holder => Named l (.inspect leaseSchemaVersion key) holder) l := by
  unfold inspectOnce
  apply Yields.bind (m := fun _ _ => True) (Yields.ofResult fun _ _ => trivial)
  intro l _ _
  apply Yields.bind (invoke_named fun _ _ => BrokerRequest.noConfusion)
  exact fun l response h => Yields.pure h

/-- What a handed out grant was read from: the answer to the acquisition or, when that answer
was lost, to an inspection. -/
structure Handed (request : RemoteLeaseAcquire) (grant : RemoteLeaseGrant) (l : Link) : Prop where
  holder : grant.sameHolder request = true
  live : grant.liveAt request.nowUnixMs = true
  named : Named l (.acquire leaseSchemaVersion request) (some grant) ∨
    Named l (.inspect leaseSchemaVersion request.key) (some grant)

theorem acquired_ok {request : RemoteLeaseAcquire} {response : BrokerResponse} {grant : RemoteLeaseGrant}
    (h : acquired request response = .ok grant) : response.grant = some grant ∧
      grant.sameHolder request = true ∧ grant.liveAt request.nowUnixMs = true := by
  unfold acquired at h
  split at h
  · cases h
  · next g hg =>
    split at h
    · split at h <;> cases h
    · split at h
      · cases h
      · next hheld =>
        cases h
        simpa [hg] using hheld

theorem rediscovered_ok {request : RemoteLeaseAcquire} {observed : Option RemoteLeaseGrant}
    {grant : RemoteLeaseGrant} (h : rediscovered request observed = .ok grant) :
    observed = some grant ∧ grant.sameHolder request = true ∧
      grant.liveAt request.nowUnixMs = true := by
  unfold rediscovered at h
  split at h
  · next g hg =>
    cases h
    simpa [Option.filter_eq_some_iff] using hg
  · cases h

theorem acquire_yields (request : RemoteLeaseAcquire) :
    Yields (acquire encoded request) (fun l grant => Handed request grant l) l := by
  unfold acquire
  apply Yields.bind (m := fun _ _ => True) (Yields.ofResult fun _ _ => trivial)
  intro l _ _
  apply Yields.attempt (invoke_named fun _ _ => BrokerRequest.noConfusion)
  · intro l response hnamed
    apply Yields.ofResult
    intro grant hgrant
    obtain ⟨hresponse,hholder,hlive⟩ := acquired_ok hgrant
    rw [hresponse] at hnamed
    exact ⟨hholder,hlive,.inl hnamed⟩
  · intro l e
    cases e with
    | execution message =>
      apply Yields.bind (inspectOnce_yields request.key)
      intro l observed hnamed
      apply Yields.ofResult
      intro grant hgrant
      obtain ⟨hobserved,hholder,hlive⟩ := rediscovered_ok hgrant
      rw [hobserved] at hnamed
      exact ⟨hholder,hlive,.inr hnamed⟩
    | invalid _ => exact Yields.throw _
    | contended _ _ _ _ => exact Yields.throw _
    | lost _ => exact Yields.throw _
    | indeterminate _ => exact Yields.throw _

theorem validateRenewedGrant_ok {previous grant : RemoteLeaseGrant} {renewed : Option RemoteLeaseGrant}
    (h : validateRenewedGrant previous renewed = .ok grant) : renewed = some grant ∧
      grant.exactFence previous = true ∧ previous.expiresUnixMs < grant.expiresUnixMs := by
  unfold validateRenewedGrant at h
  cases renewed with
  | none => cases h
  | some renewed =>
    obtain ⟨_,_,h⟩ := Guard.bind_eq_ok.mp h
    obtain ⟨hexact,h⟩ := (Guard.refuse_bind_eq_ok ..).mp h
    cases h
    simp only [Bool.or_eq_false_iff,Bool.not_eq_false',decide_eq_false_iff_not,not_le] at hexact
    exact ⟨rfl,hexact⟩

/-- A renewed grant is the broker's own at the last exchange, keeps its fence and expires later. -/
structure Renews (previous grant : RemoteLeaseGrant) (l : Link) : Prop where
  fence : grant.exactFence previous = true
  later : previous.expiresUnixMs < grant.expiresUnixMs
  current : (l.broker previous.key).current = some grant
  asked : ∃ q a,l.exchange = some (q,a)

theorem renew_yields (grant : RemoteLeaseGrant) (now ttl heartbeat : ℕ) :
    Yields (renew encoded grant now ttl heartbeat) (fun l grant' => Renews grant grant' l) l := by
  unfold renew
  apply Yields.bind (m := fun _ _ => True) (Yields.ofResult fun _ _ => trivial)
  intro l _ _
  apply Yields.bind (m := fun _ _ => True) (Yields.ofResult fun _ _ => trivial)
  intro l _ _
  apply Yields.attempt (invoke_named fun _ _ => BrokerRequest.noConfusion)
  · intro l response hnamed
    apply Yields.ofResult
    intro grant' hgrant
    obtain ⟨hresponse,hfence,hlater⟩ := validateRenewedGrant_ok hgrant
    exact ⟨hfence,hlater,hnamed.current.trans hresponse,hnamed.asked⟩
  · intro l e
    cases e with
    | execution message =>
      apply Yields.bind (inspectOnce_yields grant.key)
      intro l observed hnamed
      apply Yields.ofResult
      intro grant' hgrant
      cases hrenewed : validateRenewedGrant grant observed with
      | error _ => rw [hrenewed] at hgrant; cases hgrant
      | ok renewed =>
        rw [hrenewed] at hgrant
        cases hgrant
        obtain ⟨hobserved,hfence,hlater⟩ := validateRenewedGrant_ok hrenewed
        exact ⟨hfence,hlater,hnamed.current.trans hobserved,hnamed.asked⟩
    | invalid _ => exact Yields.throw _
    | contended _ _ _ _ => exact Yields.throw _
    | lost _ => exact Yields.throw _
    | indeterminate _ => exact Yields.throw _

theorem Renews.fenced {previous grant : RemoteLeaseGrant} {now : ℕ} (h : Renews previous grant l)
    (hlive : previous.liveAt now = true) : Fenced l.broker now previous := by
  refine ⟨grant,h.current,h.fence,?_⟩
  exact decide_eq_true ((of_decide_eq_true hlive).trans h.later)

theorem observedExact_ok {g : RemoteLeaseGuard} {now : ℕ} {observed : Option RemoteLeaseGrant}
    (h : g.observedExact now observed = .ok ()) : ∃ current,observed = some current ∧
      current.exactFence g.grant = true ∧ current.liveAt now = true := by
  unfold RemoteLeaseGuard.observedExact at h
  split at h
  · next hany =>
    cases observed with
    | none => cases hany
    | some current => exact ⟨current,rfl,by simpa using hany⟩
  · cases h

structure Beats (g g' : RemoteLeaseGuard) (l : Link) : Prop where
  renews : Renews g.grant g'.grant l
  kept : g' = { g with grant := g'.grant }

theorem heartbeat_yields (g : RemoteLeaseGuard) (now : ℕ) :
    Yields (g.heartbeat encoded now) (fun l g' => Beats g g' l) l := by
  unfold RemoteLeaseGuard.heartbeat
  apply Yields.bind (renew_yields g.grant now g.ttlMs g.heartbeatMs)
  intro l renewed hrenews
  apply Yields.bind (m := fun l grant => Renews g.grant grant l)
  · apply Yields.ofResult
    intro grant hgrant
    obtain ⟨hsame,_⟩ := validateRenewedGrant_ok hgrant
    rw [← Option.some.inj hsame]
    exact hrenews
  · exact fun l grant h => Yields.pure ⟨h,rfl⟩

/-- A write is let through behind the exact live fence; a due heartbeat was renewed for it. -/
structure Writes (nowUnixMs : ℕ) (g g' : RemoteLeaseGuard) (l : Link) : Prop where
  fenced : Fenced l.broker nowUnixMs g.grant
  asked : ∃ q a,l.exchange = some (q,a)
  due : g.grant.heartbeatDueUnixMs ≤ nowUnixMs → Beats g g' l
  undue : nowUnixMs < g.grant.heartbeatDueUnixMs → g' = g

theorem beforeWriteAt_yields (g : RemoteLeaseGuard) (now : ℕ) :
    Yields (g.beforeWriteAt encoded now) (fun l g' => Writes now g g' l) l := by
  unfold RemoteLeaseGuard.beforeWriteAt
  apply Yields.refuseIf
  intro _
  apply Yields.refuseIf
  intro hlive
  have hlive : g.grant.liveAt now = true := by simpa using hlive
  split
  · next hdue =>
    apply Contract.Guards.mono (heartbeat_yields g now)
    intro l r h g' hg'
    have hbeats := h g' hg'
    exact ⟨hbeats.renews.fenced hlive,hbeats.renews.asked,fun _ => hbeats,fun hundue => absurd hdue hundue.not_ge⟩
  · next hundue =>
    apply Yields.bind (inspectOnce_yields g.grant.key)
    intro l observed hnamed
    apply Yields.bind (m := fun l _ => Fenced l.broker now g.grant ∧ ∃ q a,l.exchange = some (q,a))
    · apply Yields.ofResult
      intro _ hexact
      obtain ⟨current,hcurrent,hfence,hlive⟩ := observedExact_ok hexact
      exact ⟨⟨current,hnamed.current.trans hcurrent,hfence,hlive⟩,hnamed.asked⟩
    · exact fun l _ h => Yields.pure ⟨h.1,h.2,fun hdue => absurd hdue hundue,fun _ => rfl⟩

theorem guardRenew_yields (g : RemoteLeaseGuard) (now : ℕ) :
    Yields (g.renew encoded now) (fun l g' => Beats g g' l) l := by
  unfold RemoteLeaseGuard.renew
  apply Yields.refuseIf
  intro _
  apply Yields.refuseIf
  intro _
  exact heartbeat_yields g now

theorem guardAcquire_yields (request : RemoteLeaseAcquire) :
    Yields (RemoteLeaseGuard.acquire encoded request)
      (fun l g => Handed request g.grant l ∧ g = ⟨g.grant,request.ttlMs,request.heartbeatMs,false⟩) l := by
  unfold RemoteLeaseGuard.acquire
  apply Yields.bind (acquire_yields request)
  intro l grant hhanded
  split
  · exact Yields.throw _
  · exact Yields.pure ⟨hhanded,rfl⟩

theorem releaseGrant_yields (grant : RemoteLeaseGrant) :
    Yields (releaseGrant encoded grant) (fun _ _ => True) l := by
  unfold releaseGrant
  apply Yields.bind (m := fun _ _ => True) (Yields.ofResult fun _ _ => trivial)
  intro l _ _
  apply Yields.attempt (invoke_yields _ _)
  · exact fun l response _ => Yields.pure trivial
  · intro l e
    cases e with
    | execution message =>
      apply Yields.bind (inspectOnce_yields grant.key)
      intro l observed _
      cases observed with
      | none => exact Yields.pure trivial
      | some observed =>
        dsimp only
        split <;> exact Yields.throw _
    | invalid _ => exact Yields.throw _
    | contended _ _ _ _ => exact Yields.throw _
    | lost _ => exact Yields.throw _
    | indeterminate _ => exact Yields.throw _

theorem drop_yields (g : RemoteLeaseGuard) : Yields (g.drop encoded) (fun _ _ => True) l := by
  unfold RemoteLeaseGuard.drop
  split
  · exact Yields.pure trivial
  · exact Yields.attempt (releaseGrant_yields g.grant) (fun _ _ _ => Yields.pure trivial)
      fun _ _ => Yields.pure trivial

theorem release_yields (g : RemoteLeaseGuard) : Yields (g.release encoded) (fun _ _ => True) l := by
  unfold RemoteLeaseGuard.release
  apply Yields.attempt (releaseGrant_yields g.grant)
  · intro l released _
    exact Yields.bind (drop_yields _) fun _ _ _ => Yields.pure trivial
  · intro l e
    exact Yields.bind (drop_yields g) fun _ _ _ => Yields.throw e

end Calls

section System

inductive GuardCall where
  | acquire (request : RemoteLeaseAcquire)
  | renew (nowUnixMs : ℕ)
  | beforeWrite (nowUnixMs : ℕ)
  | release
  | drop
deriving DecidableEq

abbrev Outcome := Except RemoteLeaseError (Option RemoteLeaseGuard)

abbrev Task := Prog BrokerRequest Reply Outcome

/-- A call on the guard there is, and the guard it leaves. -/
def GuardCall.task (encoded : Encoding) : GuardCall → Option RemoteLeaseGuard → Option Task
  | .acquire request,none =>
      some (RemoteLeaseGuard.acquire encoded request >>= fun g => pure (some g) : Io _).run
  | .renew now,some g => some (g.renew encoded now >>= fun g => pure (some g) : Io _).run
  | .beforeWrite now,some g =>
      some (g.beforeWriteAt encoded now >>= fun g => pure (some g) : Io _).run
  | .release,some g => some (g.release encoded >>= fun _ => pure none : Io _).run
  | .drop,some g => some (g.drop encoded >>= fun _ => pure none : Io _).run
  | _,_ => none

inductive Activity where
  | absent
  | held (g : RemoteLeaseGuard)
  | calling (c : GuardCall) (g : Option RemoteLeaseGuard) (rest : Task)
  | gone

namespace Activity

def ready : Activity → Option (Option RemoteLeaseGuard)
  | .absent => some none
  | .held g => some (some g)
  | _ => none

/-- A failed renewal or write leaves the guard as it was; a release consumes it either way. -/
def after (c : GuardCall) (g : Option RemoteLeaseGuard) : Outcome → Activity
  | .ok (some g') => .held g'
  | .ok none => .gone
  | .error _ => match c,g with
    | .release,_ => .gone
    | .drop,_ => .gone
    | _,some g => .held g
    | _,none => .absent

def resume (c : GuardCall) (g : Option RemoteLeaseGuard) : Task → Activity
  | .done r => after c g r
  | rest => .calling c g rest

def guard : Activity → Option RemoteLeaseGuard
  | .held g => some g
  | .calling _ g _ => g
  | _ => none

end Activity

def finished : Task → Option Outcome
  | .done r => some r
  | _ => none

structure System where
  broker : Broker
  guards : ℕ → Activity

inductive Event where
  | others
  | call (i : ℕ) (c : GuardCall) (outcome : Option Outcome)
  | reply (i : ℕ) (c : GuardCall) (q : BrokerRequest) (a : Reply) (outcome : Option Outcome)
  | die (i : ℕ)

/-- The call of a guard that returns in an event, with its outcome. -/
def Event.Finishes (e : Event) (i : ℕ) (c : GuardCall) (r : Outcome) : Prop :=
  e = .call i c (some r) ∨ ∃ q a,e = .reply i c q a (some r)

variable (encoded : Encoding)

inductive System.Step (s : System) : Event → System → Prop
  | others {b : Broker} : Others s.broker b → s.Step .others { s with broker := b }
  | call {i : ℕ} {c : GuardCall} {g : Option RemoteLeaseGuard} {task : Task} :
      (s.guards i).ready = some g → c.task encoded g = some task →
      s.Step (.call i c (finished task))
        { s with guards := Function.update s.guards i (.resume c g task) }
  | reply {i : ℕ} {c : GuardCall} {g : Option RemoteLeaseGuard} {q : BrokerRequest}
      {k : Reply → Task} {a : Reply} {b : Broker} : s.guards i = .calling c g (.ask q k) →
      Exec s.broker q a b → s.Step (.reply i c q a (finished (k a)))
        { broker := b,guards := Function.update s.guards i (.resume c g (k a)) }
  | die (i : ℕ) : s.Step (.die i) { s with guards := Function.update s.guards i .gone }

inductive System.Run : System → List Event → System → Prop
  | nil (s : System) : s.Run [] s
  | cons {s s' t : System} {e : Event} {events : List Event} : s.Step encoded e s' →
      s'.Run events t → s.Run (e::events) t

def Post : GuardCall → Option RemoteLeaseGuard → Link → Outcome → Prop
  | .acquire request,before,l,.ok left =>
      before = none ∧ ∃ g',left = some g' ∧ Handed request g'.grant l
  | .renew _,before,l,.ok left => ∃ g g',before = some g ∧ left = some g' ∧ Beats g g' l
  | .beforeWrite now,before,l,.ok left =>
      ∃ g g',before = some g ∧ left = some g' ∧ Writes now g g' l
  | .release,_,_,.ok left => left = none
  | .drop,_,_,.ok left => left = none
  | _,_,_,.error _ => True

def Guarded (c : GuardCall) (g : Option RemoteLeaseGuard) (task : Task) (l : Link) : Prop :=
  anyone.Guarded Link.Step task (Post c g) l

variable {encoded : Encoding} {s s' : System} {e : Event} {i : ℕ} {c : GuardCall}
  {g : Option RemoteLeaseGuard} {task : Task}

theorem Post.error {l : Link} {error : RemoteLeaseError} : Post c g l (.error error) := by
  cases c <;> exact trivial

theorem guarded_of_yields {α : Type} {p : Io α} {m : Link → α → Prop} {f : α → Option RemoteLeaseGuard}
    {l : Link} (hp : Yields p m l) (hpost : ∀ l a,m l a → Post c g l (.ok (f a))) :
    Guarded c g (p >>= fun a => pure (f a) : Io _).run l := by
  have hyields : Yields (p >>= fun a => pure (f a)) (fun l left => Post c g l (.ok left)) l :=
    hp.bind fun l a h => Yields.pure (hpost l a h)
  apply Contract.Guards.mono hyields
  intro l r hr
  cases r with
  | ok left => exact hr left rfl
  | error error => exact Post.error

theorem task_guarded (h : c.task encoded g = some task) (l : Link) : Guarded c g task l := by
  cases c with
  | acquire request =>
    cases g with
    | some _ => cases h
    | none =>
      cases h
      exact guarded_of_yields (guardAcquire_yields request) fun l g h => ⟨rfl,g,rfl,h.1⟩
  | renew now =>
    cases g with
    | none => cases h
    | some g =>
      cases h
      exact guarded_of_yields (guardRenew_yields g now) fun l g' h => ⟨g,g',rfl,rfl,h⟩
  | beforeWrite now =>
    cases g with
    | none => cases h
    | some g =>
      cases h
      exact guarded_of_yields (beforeWriteAt_yields g now) fun l g' h => ⟨g,g',rfl,rfl,h⟩
  | release =>
    cases g with
    | none => cases h
    | some g =>
      cases h
      exact guarded_of_yields (release_yields g) fun _ _ _ => rfl
  | drop =>
    cases g with
    | none => cases h
    | some g =>
      cases h
      exact guarded_of_yields (drop_yields g) fun _ _ _ => rfl

/-- Every pending call keeps its promise wherever the others leave the broker. -/
def Inv (s : System) : Prop :=
  ∀ i c g task,s.guards i = .calling c g task → ∀ l,Guarded c g task l

/-- What becomes of a call: it returned with its promise, or it still has something to ask. -/
theorem Guarded.resume {l : Link} (h : Guarded c g task l) :
    (∃ r,finished task = some r ∧ Activity.resume c g task = .after c g r ∧ Post c g l r) ∨
    (finished task = none ∧ Activity.resume c g task = .calling c g task ∧
      ∀ l,Guarded c g task l) := by
  cases task with
  | done r => exact .inl ⟨r,rfl,rfl,h⟩
  | abort => exact h.elim
  | ask q k => exact .inr ⟨rfl,rfl,fun l => Contract.Guarded.stable h trivial⟩

inductive Turn (s s' : System) (i : ℕ) : Prop
  | idle : s'.guards i = s.guards i → Turn s s' i
  | died : s'.guards i = .gone → Turn s s' i
  | pending {c : GuardCall} {g : Option RemoteLeaseGuard} {task : Task} : s.guards i ≠ .gone →
      (s.guards i).guard = g → s'.guards i = .calling c g task → (∀ l,Guarded c g task l) →
      Turn s s' i
  | returned {c : GuardCall} {g : Option RemoteLeaseGuard} {r : Outcome} {l : Link} :
      s.guards i ≠ .gone → (s.guards i).guard = g → s'.guards i = .after c g r → Post c g l r →
      Turn s s' i

theorem ready_guard {activity : Activity} (h : activity.ready = some g) : activity.guard = g := by
  cases activity with
  | absent => cases h; rfl
  | held g => cases h; rfl
  | calling c g rest => cases h
  | gone => cases h

theorem ready_ne_gone {activity : Activity} (h : activity.ready = some g) : activity ≠ .gone := by
  intro hgone
  rw [hgone] at h
  cases h

theorem System.Step.turn (hs : Inv s) (h : s.Step encoded e s') (i : ℕ) : Turn s s' i := by
  cases h with
  | others _ => exact .idle rfl
  | @call j c g task hready htask =>
    by_cases hi : i = j
    · subst hi
      have hself : (Function.update s.guards i (.resume c g task)) i = .resume c g task :=
        Function.update_self ..
      rcases (task_guarded htask ⟨s.broker,none⟩).resume with ⟨r,_,hresume,hpost⟩ | ⟨_,hresume,hguarded⟩
      · exact .returned (ready_ne_gone hready) (ready_guard hready) (hself.trans hresume) hpost
      · exact .pending (ready_ne_gone hready) (ready_guard hready) (hself.trans hresume) hguarded
    · exact .idle (Function.update_of_ne hi ..)
  | @reply j c g q k a b hcalling hexec =>
    by_cases hi : i = j
    · subst hi
      have hself : (Function.update s.guards i (.resume c g (k a))) i = .resume c g (k a) :=
        Function.update_self ..
      have hguard : (s.guards i).guard = g := by rw [hcalling]; rfl
      have hgone : s.guards i ≠ .gone := by rw [hcalling]; exact fun h => nomatch h
      have hlink : Link.Step ⟨s.broker,none⟩ q a ⟨b,some (q,a)⟩ := ⟨hexec,rfl⟩
      have hrest := (Contract.Guarded.advance (hs i c g _ hcalling ⟨s.broker,none⟩) trivial hlink).2
      rcases Guarded.resume hrest with ⟨r,_,hresume,hpost⟩ | ⟨_,hresume,hguarded⟩
      · exact .returned hgone hguard (hself.trans hresume) hpost
      · exact .pending hgone hguard (hself.trans hresume) hguarded
    · exact .idle (Function.update_of_ne hi ..)
  | die j =>
    by_cases hi : i = j
    · subst hi
      exact .died (Function.update_self ..)
    · exact .idle (Function.update_of_ne hi ..)

theorem after_ne_calling {r : Outcome} {c' : GuardCall} {g' : Option RemoteLeaseGuard} {task : Task} :
    Activity.after c g r ≠ .calling c' g' task := by
  intro h
  cases r with
  | ok left => cases left <;> cases h
  | error error => cases c <;> cases g <;> cases h

theorem System.Step.inv (hs : Inv s) (h : s.Step encoded e s') : Inv s' := by
  intro i c g task hcalling
  cases h.turn hs i with
  | idle hsame => exact hs i c g task (hsame.symm.trans hcalling)
  | died hgone => rw [hgone] at hcalling; cases hcalling
  | pending _ _ hpending hguarded =>
    rw [hpending] at hcalling
    cases hcalling
    exact hguarded
  | returned _ _ hafter => exact absurd (hafter.symm.trans hcalling) after_ne_calling

theorem System.Step.moves (h : s.Step encoded e s') (key : RemoteLeaseKey) :
    Move (s.broker key) (s'.broker key) := by
  cases h with
  | others hothers => exact hothers.moves key
  | call _ _ => exact .keep _
  | reply _ hexec => exact hexec.moves key
  | die _ => exact .keep _

structure Kept (g g' : RemoteLeaseGuard) : Prop where
  fence : g'.grant.exactFence g.grant = true
  expiry : g' = g ∨ g.grant.expiresUnixMs < g'.grant.expiresUnixMs

theorem Kept.refl (g : RemoteLeaseGuard) : Kept g g := ⟨exactFence_iff.mpr rfl,.inl rfl⟩

theorem Kept.trans {g g' g'' : RemoteLeaseGuard} (h : Kept g g') (h' : Kept g' g'') : Kept g g'' where
  fence := exactFence_iff.mpr ((exactFence_iff.mp h'.fence).trans (exactFence_iff.mp h.fence))
  expiry := by
    rcases h'.expiry with hsame | hlater
    · rw [hsame]
      exact h.expiry
    · rcases h.expiry with hsame | hlater'
      · rw [hsame] at hlater
        exact .inr hlater
      · exact .inr (hlater'.trans hlater)

theorem Beats.keeps {g g' : RemoteLeaseGuard} {l : Link} (h : Beats g g' l) : Kept g g' :=
  ⟨h.renews.fence,.inr h.renews.later⟩

theorem Writes.keeps {now : ℕ} {g g' : RemoteLeaseGuard} {l : Link} (h : Writes now g g' l) :
    Kept g g' := by
  by_cases hdue : g.grant.heartbeatDueUnixMs ≤ now
  · exact (h.due hdue).keeps
  · rw [h.undue (not_le.mp hdue)]
    exact .refl g

/-- A call leaves the guard it started on with its fence, or none. -/
theorem Post.after {g : RemoteLeaseGuard} {l : Link} {r : Outcome} (h : Post c (some g) l r) :
    Activity.after c (some g) r = .gone ∨ ∃ g',Activity.after c (some g) r = .held g' ∧ Kept g g' := by
  cases r with
  | error error =>
    cases c with
    | release => exact .inl rfl
    | drop => exact .inl rfl
    | _ => exact .inr ⟨g,rfl,.refl g⟩
  | ok left =>
    cases c with
    | acquire request => cases h.1
    | renew now =>
      obtain ⟨g₀,g',hg,hleft,hbeats⟩ := h
      cases hg
      rw [hleft]
      exact .inr ⟨g',rfl,hbeats.keeps⟩
    | beforeWrite now =>
      obtain ⟨g₀,g',hg,hleft,hwrites⟩ := h
      cases hg
      rw [hleft]
      exact .inr ⟨g',rfl,hwrites.keeps⟩
    | release => exact .inl (congrArg (Activity.after _ _) (congrArg Except.ok h))
    | drop => exact .inl (congrArg (Activity.after _ _) (congrArg Except.ok h))

def Follows (s : System) (i : ℕ) (g : RemoteLeaseGuard) : Prop :=
  s.guards i = .gone ∨ ∃ g',(s.guards i).guard = some g' ∧ Kept g g'

theorem System.Step.follows {g : RemoteLeaseGuard} (hs : Inv s) (h : s.Step encoded e s')
    (hg : Follows s i g) : Follows s' i g := by
  have hturn := h.turn hs i
  rcases hg with hgone | ⟨g',hg',hkept⟩
  · cases hturn with
    | idle hsame => exact .inl (hsame.trans hgone)
    | died hgone' => exact .inl hgone'
    | pending halive => exact absurd hgone halive
    | returned halive => exact absurd hgone halive
  · cases hturn with
    | idle hsame => exact .inr ⟨g',by rw [hsame]; exact hg',hkept⟩
    | died hgone => exact .inl hgone
    | pending _ hguard hcalling =>
      refine .inr ⟨g',?_,hkept⟩
      rw [hcalling]
      exact hguard.symm.trans hg'
    | returned _ hguard hafter hpost =>
      have hbefore := hguard.symm.trans hg'
      rw [hbefore] at hafter hpost
      rcases hpost.after with hgone | ⟨g'',hheld,hkept'⟩
      · exact .inl (hafter.trans hgone)
      · refine .inr ⟨g'',?_,hkept.trans hkept'⟩
        rw [hafter,hheld]
        rfl

theorem System.Run.inv {events : List Event} (hs : Inv s) (h : s.Run encoded events s') : Inv s' := by
  induction h with
  | nil _ => exact hs
  | cons hstep _ ih => exact ih (hstep.inv hs)

theorem System.Run.follows {events : List Event} {g : RemoteLeaseGuard} (hs : Inv s)
    (h : s.Run encoded events s') (hg : Follows s i g) : Follows s' i g := by
  induction h with
  | nil _ => exact hg
  | cons hstep _ ih => exact ih (hstep.inv hs) (hstep.follows hs hg)

theorem System.Run.kept {events : List Event} {g g' : RemoteLeaseGuard} (hs : Inv s)
    (h : s.Run encoded events s') (hg : (s.guards i).guard = some g)
    (hg' : (s'.guards i).guard = some g') : Kept g g' := by
  rcases h.follows hs (.inr ⟨g,hg,.refl g⟩) with hgone | ⟨g'',hg'',hkept⟩
  · rw [hgone] at hg'
    cases hg'
  · rw [hg'',Option.some.injEq] at hg'
    rw [← hg']
    exact hkept

theorem System.Run.ahead {events : List Event} (h : s.Run encoded events s') (key : RemoteLeaseKey) :
    Ahead (s.broker key) (s'.broker key) := by
  induction h with
  | nil _ => exact .refl _
  | cons hstep _ ih => exact (hstep.moves key).ahead.trans ih

/-- A call returns at its last exchange, with its promise about the broker there. -/
theorem System.Step.finishes {r : Outcome} (hs : Inv s) (h : s.Step encoded e s')
    (hf : e.Finishes i c r) : ∃ g l,(s.guards i).guard = g ∧ s'.guards i = .after c g r ∧
      Post c g l r ∧ l.broker = s'.broker ∧
      ∀ q a,l.exchange = some (q,a) → e = .reply i c q a (some r) := by
  cases h with
  | others _ => rcases hf with h | ⟨_,_,h⟩ <;> cases h
  | die _ => rcases hf with h | ⟨_,_,h⟩ <;> cases h
  | @call j c' g task hready htask =>
    rcases hf with h | ⟨_,_,h⟩
    · rw [Event.call.injEq] at h
      obtain ⟨rfl,rfl,hfinished⟩ := h
      have hself : (Function.update s.guards j (.resume c' g task)) j = .resume c' g task :=
        Function.update_self ..
      rcases (task_guarded htask ⟨s.broker,none⟩).resume with ⟨r',hr,hresume,hpost⟩ | ⟨hnone,_⟩
      · rw [hr,Option.some.injEq] at hfinished
        rw [hfinished] at hresume hpost
        exact ⟨g,_,ready_guard hready,hself.trans hresume,hpost,rfl,fun _ _ h => nomatch h⟩
      · rw [hnone] at hfinished
        cases hfinished
    · cases h
  | @reply j c' g q k a b hcalling hexec =>
    rcases hf with h | ⟨q',a',h⟩
    · cases h
    · rw [Event.reply.injEq] at h
      obtain ⟨rfl,rfl,rfl,rfl,hfinished⟩ := h
      have hself : (Function.update s.guards j (.resume c' g (k a))) j = .resume c' g (k a) :=
        Function.update_self ..
      have hlink : Link.Step ⟨s.broker,none⟩ q a ⟨b,some (q,a)⟩ := ⟨hexec,rfl⟩
      have hrest := (Contract.Guarded.advance (hs j c' g _ hcalling ⟨s.broker,none⟩) trivial hlink).2
      rcases Guarded.resume hrest with ⟨r',hr,hresume,hpost⟩ | ⟨hnone,_⟩
      · rw [hr,Option.some.injEq] at hfinished
        rw [hfinished] at hresume hpost
        refine ⟨g,_,by rw [hcalling]; rfl,hself.trans hresume,hpost,rfl,?_⟩
        intro q' a' hexchange
        cases hexchange
        rw [hr,hfinished]
      · rw [hnone] at hfinished
        cases hfinished

structure Safe (encoded : Encoding) (s : System) : Prop where
  written : ∀ e s' i now left,s.Step encoded e s' → e.Finishes i (.beforeWrite now) (.ok left) →
    ∃ g q a,(s.guards i).guard = some g ∧
      e = .reply i (.beforeWrite now) q a (some (.ok left)) ∧ Fenced s'.broker now g.grant
  ordered : ∀ e s₁ i now left events s₂ e' s₃ j now' left' g g',
    s.Step encoded e s₁ → e.Finishes i (.beforeWrite now) (.ok left) → s₁.Run encoded events s₂ →
    s₂.Step encoded e' s₃ → e'.Finishes j (.beforeWrite now') (.ok left') →
    (s.guards i).guard = some g → (s₂.guards j).guard = some g' → g'.grant.key = g.grant.key →
    g.grant.fencingToken ≤ g'.grant.fencingToken
  identity : ∀ events s' i g g',s.Run encoded events s' → (s.guards i).guard = some g →
    (s'.guards i).guard = some g' → Kept g g'
  renewed : ∀ e s' i c left g,s.Step encoded e s' → e.Finishes i c (.ok left) →
    (s.guards i).guard = some g → (∃ now,c = .renew now ∨
      c = .beforeWrite now ∧ g.grant.heartbeatDueUnixMs ≤ now) →
    ∃ g',(s'.guards i).guard = some g' ∧ g.grant.expiresUnixMs < g'.grant.expiresUnixMs
  handed : ∀ e s' i request left,s.Step encoded e s' → e.Finishes i (.acquire request) (.ok left) →
    ∃ g q stdoutBytes response,(s'.guards i).guard = some g ∧
      e = .reply i (.acquire request) q (.output true stdoutBytes (some response)) (some (.ok left)) ∧
      (q = .acquire leaseSchemaVersion request ∨ q = .inspect leaseSchemaVersion request.key) ∧
      response.grant = some g.grant ∧ (s'.broker request.key).current = some g.grant ∧
      g.grant.sameHolder request = true ∧ g.grant.liveAt request.nowUnixMs = true

theorem Inv.written {now : ℕ} {left : Option RemoteLeaseGuard} (hs : Inv s)
    (h : s.Step encoded e s') (hf : e.Finishes i (.beforeWrite now) (.ok left)) :
    ∃ g g' l,(s.guards i).guard = some g ∧ (s'.guards i).guard = some g' ∧ Writes now g g' l ∧
      l.broker = s'.broker ∧ ∃ q a,e = .reply i (.beforeWrite now) q a (some (.ok left)) := by
  obtain ⟨before,l,hbefore,hafter,⟨g,g',hg,hleft,hwrites⟩,hbroker,hreply⟩ := h.finishes hs hf
  obtain ⟨q,a,hexchange⟩ := hwrites.asked
  refine ⟨g,g',l,hbefore.trans hg,?_,hwrites,hbroker,q,a,hreply q a hexchange⟩
  rw [hafter,hleft]
  rfl

theorem Inv.renewed {now : ℕ} {left : Option RemoteLeaseGuard} (hs : Inv s)
    (h : s.Step encoded e s') (hf : e.Finishes i (.renew now) (.ok left)) :
    ∃ g g' l,(s.guards i).guard = some g ∧ (s'.guards i).guard = some g' ∧ Beats g g' l := by
  obtain ⟨before,l,hbefore,hafter,⟨g,g',hg,hleft,hbeats⟩,_⟩ := h.finishes hs hf
  refine ⟨g,g',l,hbefore.trans hg,?_,hbeats⟩
  rw [hafter,hleft]
  rfl

theorem Inv.handed {request : RemoteLeaseAcquire} {left : Option RemoteLeaseGuard} (hs : Inv s)
    (h : s.Step encoded e s') (hf : e.Finishes i (.acquire request) (.ok left)) :
    ∃ g l,(s'.guards i).guard = some g ∧ Handed request g.grant l ∧ l.broker = s'.broker ∧
      ∀ q a,l.exchange = some (q,a) → e = .reply i (.acquire request) q a (some (.ok left)) := by
  obtain ⟨before,l,_,hafter,⟨_,g,hleft,hhanded⟩,hbroker,hexchange⟩ := h.finishes hs hf
  refine ⟨g,l,?_,hhanded,hbroker,hexchange⟩
  rw [hafter,hleft]
  rfl

/-- Tokens of fences that the broker had at two moments are in the order of these moments. -/
theorem token_le {b b' : Broker} {now now' : ℕ} {g g' : RemoteLeaseGrant}
    (hahead : ∀ key,Ahead (b key) (b' key)) (h : Fenced b now g) (h' : Fenced b' now' g')
    (hkey : g'.key = g.key) : g.fencingToken ≤ g'.fencingToken := by
  obtain ⟨current,hcurrent,hfence,_⟩ := h
  obtain ⟨current',hcurrent',hfence',_⟩ := h'
  rw [hkey] at hcurrent'
  have hle := (hahead g.key).token_le hcurrent hcurrent'
  rw [exactFence_iff.mp hfence,exactFence_iff.mp hfence'] at hle
  exact hle

theorem Inv.fenced {now : ℕ} {left : Option RemoteLeaseGuard} {g : RemoteLeaseGuard} (hs : Inv s)
    (h : s.Step encoded e s') (hf : e.Finishes i (.beforeWrite now) (.ok left))
    (hg : (s.guards i).guard = some g) : Fenced s'.broker now g.grant := by
  obtain ⟨g₀,_,l,hg₀,_,hwrites,hbroker,_⟩ := hs.written h hf
  rw [hg,Option.some.injEq] at hg₀
  rw [hg₀,← hbroker]
  exact hwrites.fenced

theorem Inv.safe (hs : Inv s) : Safe encoded s where
  written e s' i now left hstep hf := by
    obtain ⟨g,_,l,hg,_,_,_,q,a,hreply⟩ := hs.written hstep hf
    exact ⟨g,q,a,hg,hreply,hs.fenced hstep hf hg⟩
  ordered e s₁ i now left events s₂ e' s₃ j now' left' g g' hstep hf hrun hstep' hf' hg hg' hkey := by
    have hs₂ := hrun.inv (hstep.inv hs)
    have hahead (key : RemoteLeaseKey) : Ahead (s₁.broker key) (s₃.broker key) :=
      (hrun.ahead key).trans (hstep'.moves key).ahead
    exact token_le hahead (hs.fenced hstep hf hg) (hs₂.fenced hstep' hf' hg') hkey
  identity events s' i g g' hrun hg hg' := hrun.kept hs hg hg'
  renewed e s' i c left g hstep hf hg hc := by
    obtain ⟨now,rfl | ⟨rfl,hdue⟩⟩ := hc
    · obtain ⟨g₀,g',l,hg₀,hg',hbeats⟩ := hs.renewed hstep hf
      rw [hg,Option.some.injEq] at hg₀
      rw [← hg₀] at hbeats
      exact ⟨g',hg',hbeats.renews.later⟩
    · obtain ⟨g₀,g',l,hg₀,hg',hwrites,_⟩ := hs.written hstep hf
      rw [hg,Option.some.injEq] at hg₀
      rw [← hg₀] at hwrites
      exact ⟨g',hg',(hwrites.due hdue).renews.later⟩
  handed e s' i request left hstep hf := by
    obtain ⟨g,l,hg,hhanded,hbroker,hreply⟩ := hs.handed hstep hf
    rcases hhanded.named with hnamed | hnamed
    · obtain ⟨stdoutBytes,response,hexchange,hresponse⟩ := hnamed.answered
      refine ⟨g,_,stdoutBytes,response,hg,hreply _ _ hexchange,.inl rfl,hresponse,?_,
        hhanded.holder,hhanded.live⟩
      rw [← hbroker]
      exact hnamed.current
    · obtain ⟨stdoutBytes,response,hexchange,hresponse⟩ := hnamed.answered
      refine ⟨g,_,stdoutBytes,response,hg,hreply _ _ hexchange,.inr rfl,hresponse,?_,
        hhanded.holder,hhanded.live⟩
      rw [← hbroker]
      exact hnamed.current

/-- From no guards at all, over any interleaving of the calls of any number of guards with
lost requests and with anybody else at the broker. -/
theorem writer_fence {s₀ : System} {events : List Event} (h₀ : ∀ i,s₀.guards i = .absent)
    (h : s₀.Run encoded events s) : Safe encoded s := by
  have hinv : Inv s₀ := by
    intro i c g task hcalling
    rw [h₀] at hcalling
    cases hcalling
  exact (h.inv hinv).safe

end System

section LostAnswer

def lostAnswerRequest : RemoteLeaseAcquire :=
  ⟨⟨"github.com","cara","vans",none⟩,"writer","operation",0,100,50⟩

def lostAnswerGrant : RemoteLeaseGrant :=
  ⟨1,lostAnswerRequest.key,"writer","operation",1,50,100,"revision-1"⟩

def lostAnswerGuard : RemoteLeaseGuard := ⟨lostAnswerGrant,100,50,false⟩

def vacantBroker : Broker := fun _ => Slot.vacant

def grantedBroker : Broker :=
  Function.update vacantBroker lostAnswerRequest.key (Slot.vacant.grant lostAnswerGrant)

def boundedEncoding : Encoding := fun _ => some 100

def absentSystem : System := ⟨vacantBroker,fun _ => .absent⟩

theorem acquired_exec : Exec vacantBroker (.acquire 1 lostAnswerRequest) .incomplete grantedBroker := by
  have h : Apply vacantBroker (.acquire 1 lostAnswerRequest)
      { schemaVersion := 1,operation := .acquire,grant := some lostAnswerGrant } grantedBroker :=
    .granted rfl (by decide)
  exact .lost trivial h

theorem inspected_exec : Exec grantedBroker (.inspect 1 lostAnswerRequest.key)
    (.output true 100 (some { schemaVersion := 1,operation := .inspect,grant := some lostAnswerGrant }))
    grantedBroker := by
  have hcurrent : (grantedBroker lostAnswerRequest.key).current = some lostAnswerGrant := by
    unfold grantedBroker
    rw [Function.update_self]
    rfl
  have h : Apply grantedBroker (.inspect 1 lostAnswerRequest.key)
      { schemaVersion := 1,operation := .inspect,grant := (grantedBroker lostAnswerRequest.key).current }
      grantedBroker := .inspected
  rw [hcurrent] at h
  exact .answered 100 h

/-- The answer to the acquisition is lost, the guard is handed out after an inspection and
writes before its heartbeat is due. -/
theorem lostAnswer_run : ∃ (events : List Event) (s : System) (e : Event) (s' : System),
    absentSystem.Run boundedEncoding events s ∧ s.Step boundedEncoding e s' ∧
    e.Finishes 0 (.beforeWrite 10) (.ok (some lostAnswerGuard)) := by
  refine ⟨_,_,_,_,.cons (.call (i := 0) (c := .acquire lostAnswerRequest) rfl rfl)
    (.cons (.reply (i := 0) rfl acquired_exec) (.cons (.reply (i := 0) rfl inspected_exec)
      (.cons (.call (i := 0) (c := .beforeWrite 10) rfl rfl) (.nil _)))),
    .reply (i := 0) rfl inspected_exec,?_⟩
  exact .inr ⟨_,_,rfl⟩

/-- The fence of a guard whose acquisition was answered by an inspection only. -/
theorem writer_fence_lost_answer : ∃ (s s' : System) (e : Event) (g : RemoteLeaseGuard),
    s.Step boundedEncoding e s' ∧
    e.Finishes 0 (.beforeWrite 10) (.ok (some lostAnswerGuard)) ∧
    (s.guards 0).guard = some g ∧ Fenced s'.broker 10 g.grant := by
  obtain ⟨events,s,e,s',hrun,hstep,hf⟩ := lostAnswer_run
  obtain ⟨g,_,_,hg,_,hfenced⟩ := (writer_fence (fun _ => rfl) hrun).written e s' 0 10 _ hstep hf
  exact ⟨s,s',e,g,hstep,hf,hg,hfenced⟩

end LostAnswer

end RemoteLease
end Cara
