import Cara.Lib.Fence
import Cara.Lib.Guard
import Cara.Lib.Saturating
import Cara.Lib.Stateful
import Cara.Lib.Text

/-! The cross-host writer lease: requests to an external broker command, the adapter that
classifies its replies, and the guard that revalidates its fence before every write. -/
namespace Cara
namespace RemoteLease

def leaseSchemaVersion : ℕ := 1

def maxProtocolBytes : ℕ := 16 * 1024

def maxIdentityBytes : ℕ := 256

def maxLeaseTtlMs : ℕ := 60 * 60 * 1000

inductive RemoteLeaseError where
  | invalid (message : String)
  | contended (writerOwner operationId : String) (fencingToken expiresUnixMs : ℕ)
  | execution (message : String)
  | lost (message : String)
  | indeterminate (message : String)
deriving DecidableEq

def validateIdentity (name value : String) : Except RemoteLeaseError Unit :=
  if value.isEmpty || decide (value.utf8ByteSize > maxIdentityBytes) || !Text.isTrimmed value ||
      value.toList.any Text.isControl then
    .error (.invalid (name ++ " must be bounded, non-empty, trimmed, and single-line"))
  else .ok ()

structure RemoteLeaseKey where
  host : String
  owner : String
  repository : String
  installationId : Option ℕ := none
deriving DecidableEq

def RemoteLeaseKey.validate (k : RemoteLeaseKey) : Except RemoteLeaseError Unit := do
  validateIdentity "host" k.host
  validateIdentity "owner" k.owner
  validateIdentity "repository" k.repository
  Guard.refuse (decide (k.installationId = some 0)) (.invalid "installation ID must be positive")

structure RemoteLeaseAcquire where
  key : RemoteLeaseKey
  writerOwner : String
  operationId : String
  nowUnixMs : ℕ
  ttlMs : ℕ
  heartbeatMs : ℕ
deriving DecidableEq

def RemoteLeaseAcquire.validate (r : RemoteLeaseAcquire) : Except RemoteLeaseError Unit := do
  r.key.validate
  validateIdentity "writer owner" r.writerOwner
  validateIdentity "operation ID" r.operationId
  Guard.refuse (decide (r.ttlMs = 0 ∨ r.ttlMs > maxLeaseTtlMs ∨ r.heartbeatMs = 0 ∨
      r.heartbeatMs ≥ r.ttlMs ∨ r.nowUnixMs + r.ttlMs > Saturating.maxU64 ∨
      r.nowUnixMs + r.heartbeatMs > Saturating.maxU64))
    (.invalid "lease TTL/heartbeat bounds are invalid")

structure RemoteLeaseGrant where
  schemaVersion : ℕ
  key : RemoteLeaseKey
  writerOwner : String
  operationId : String
  fencingToken : ℕ
  heartbeatDueUnixMs : ℕ
  expiresUnixMs : ℕ
  backendRevision : String
deriving DecidableEq

namespace RemoteLeaseGrant

def validate (g : RemoteLeaseGrant) : Except RemoteLeaseError Unit := do
  Guard.refuse (decide (g.schemaVersion ≠ leaseSchemaVersion))
    (.invalid "unsupported remote lease schema version")
  g.key.validate
  validateIdentity "writer owner" g.writerOwner
  validateIdentity "operation ID" g.operationId
  validateIdentity "backend revision" g.backendRevision
  Guard.refuse (decide (g.fencingToken = 0 ∨ g.heartbeatDueUnixMs ≥ g.expiresUnixMs))
    (.invalid "remote lease grant has invalid fence or expiry")

def sameHolder (g : RemoteLeaseGrant) (request : RemoteLeaseAcquire) : Bool :=
  decide (g.key = request.key) && decide (g.writerOwner = request.writerOwner) &&
    decide (g.operationId = request.operationId)

def exactFence (g other : RemoteLeaseGrant) : Bool :=
  decide (g.key = other.key) && decide (g.writerOwner = other.writerOwner) &&
    decide (g.operationId = other.operationId) && decide (g.fencingToken = other.fencingToken)

def liveAt (g : RemoteLeaseGrant) (nowUnixMs : ℕ) : Bool := decide (nowUnixMs < g.expiresUnixMs)

end RemoteLeaseGrant

inductive BrokerOperation where
  | acquire
  | inspect
  | renew
  | release
deriving DecidableEq

inductive BrokerRequest where
  | acquire (schemaVersion : ℕ) (request : RemoteLeaseAcquire)
  | inspect (schemaVersion : ℕ) (key : RemoteLeaseKey)
  | renew (schemaVersion : ℕ) (grant : RemoteLeaseGrant) (nowUnixMs ttlMs heartbeatMs : ℕ)
  | release (schemaVersion : ℕ) (grant : RemoteLeaseGrant)
deriving DecidableEq

structure BrokerResponse where
  schemaVersion : ℕ
  operation : BrokerOperation
  grant : Option RemoteLeaseGrant := none
  released : Bool := false
  contended : Bool := false
deriving DecidableEq

def BrokerResponse.validateShape (r : BrokerResponse) : Except RemoteLeaseError Unit :=
  let valid := match r.operation with
    | .acquire => r.grant.isSome && !r.released
    | .renew => r.grant.isSome && !r.released && !r.contended
    | .inspect => !r.released && !r.contended
    | .release => r.grant.isNone && !r.contended
  Guard.refuse (!valid) (.invalid "broker response fields do not match the operation")

/-- What the broker command leaves: no output, or an exit status with an output of some bytes
and what they decode to as a response. -/
inductive Reply where
  | incomplete
  | output (success : Bool) (stdoutBytes : ℕ) (response : Option BrokerResponse)
deriving DecidableEq

/-- Bytes of the JSON text of a request, if it has one. -/
abbrev Encoding := BrokerRequest → Option ℕ

abbrev Io (α : Type) := Prog.Fallible BrokerRequest Reply RemoteLeaseError α

section Backend

variable (encoded : Encoding)

/-- A complete reply is a response of this operation in its own shape. -/
def accepted (operation : BrokerOperation) : Reply → Except RemoteLeaseError BrokerResponse
  | .incomplete => .error (.execution "broker command did not complete")
  | .output success stdoutBytes response => do
      Guard.refuse (!success) (.execution "broker command returned a nonzero status")
      Guard.refuse (decide (stdoutBytes > maxProtocolBytes))
        (.invalid "remote lease response exceeds protocol bound")
      match response with
      | none => throw (.invalid "broker returned invalid strict JSON")
      | some response =>
          Guard.refuse (decide (response.schemaVersion ≠ leaseSchemaVersion ∨
              response.operation ≠ operation))
            (.invalid "broker response operation/schema mismatch")
          response.validateShape
          response.grant.elim (.ok ()) RemoteLeaseGrant.validate
          return response

def invoke (operation : BrokerOperation) (request : BrokerRequest) : Io BrokerResponse :=
  match encoded request with
  | none => throw (.invalid "could not encode lease request")
  | some inputBytes => do
      Prog.refuseIf (decide (inputBytes > maxProtocolBytes))
        (.invalid "remote lease request exceeds protocol bound")
      let reply ← Prog.send request
      Prog.ofResult (accepted operation reply)

def inspectOnce (key : RemoteLeaseKey) : Io (Option RemoteLeaseGrant) := do
  Prog.ofResult key.validate
  let response ← invoke encoded .inspect (.inspect leaseSchemaVersion key)
  return response.grant

/-- Ownership that an acquire response claims for the requester. -/
def acquired (request : RemoteLeaseAcquire) (response : BrokerResponse) :
    Except RemoteLeaseError RemoteLeaseGrant :=
  match response.grant with
  | none => .error (.invalid "acquire response omitted grant")
  | some grant =>
      if response.contended then
        if !grant.liveAt request.nowUnixMs then
          .error (.invalid "contention response named an expired holder")
        else .error (.contended grant.writerOwner grant.operationId grant.fencingToken
          grant.expiresUnixMs)
      else if !grant.sameHolder request || !grant.liveAt request.nowUnixMs then
        .error (.lost "acquire returned wrong or expired ownership")
      else .ok grant

def rediscovered (request : RemoteLeaseAcquire) (observed : Option RemoteLeaseGrant) :
    Except RemoteLeaseError RemoteLeaseGrant :=
  match observed.filter fun grant => grant.sameHolder request && grant.liveAt request.nowUnixMs with
  | some grant => .ok grant
  | none => .error (.indeterminate "acquire failed and exact ownership was not rediscovered")

def acquire (request : RemoteLeaseAcquire) : Io RemoteLeaseGrant := do
  Prog.ofResult request.validate
  match ← Prog.attempt (invoke encoded .acquire (.acquire leaseSchemaVersion request)) with
  | .ok response => Prog.ofResult (acquired request response)
  | .error (.execution _) =>
      let observed ← inspectOnce encoded request.key
      Prog.ofResult (rediscovered request observed)
  | .error error => throw error

def inspect (key : RemoteLeaseKey) : Io (Option RemoteLeaseGrant) := inspectOnce encoded key

def validateRenewedGrant (previous : RemoteLeaseGrant) (renewed : Option RemoteLeaseGrant) :
    Except RemoteLeaseError RemoteLeaseGrant :=
  match renewed with
  | none => .error (.invalid "renew response omitted grant")
  | some renewed => do
      renewed.validate
      Guard.refuse (!renewed.exactFence previous ||
          decide (renewed.expiresUnixMs ≤ previous.expiresUnixMs))
        (.lost "renew changed the fence or failed to advance expiry")
      return renewed

def renew (grant : RemoteLeaseGrant) (nowUnixMs ttlMs heartbeatMs : ℕ) : Io RemoteLeaseGrant := do
  Prog.ofResult grant.validate
  let request : RemoteLeaseAcquire :=
    ⟨grant.key,grant.writerOwner,grant.operationId,nowUnixMs,ttlMs,heartbeatMs⟩
  Prog.ofResult request.validate
  match ← Prog.attempt (invoke encoded .renew
      (.renew leaseSchemaVersion grant nowUnixMs ttlMs heartbeatMs)) with
  | .ok response => Prog.ofResult (validateRenewedGrant grant response.grant)
  | .error (.execution _) =>
      let observed ← inspectOnce encoded grant.key
      Prog.ofResult ((validateRenewedGrant grant observed).mapError fun _ =>
        .indeterminate "renew failed and exact ownership was not rediscovered")
  | .error error => throw error

def releaseGrant (grant : RemoteLeaseGrant) : Io Bool := do
  Prog.ofResult grant.validate
  match ← Prog.attempt (invoke encoded .release (.release leaseSchemaVersion grant)) with
  | .ok response => return response.released
  | .error (.execution _) =>
      match ← inspectOnce encoded grant.key with
      | none => return true
      | some observed =>
          if observed.exactFence grant then
            throw (.indeterminate "release failed and ownership remains")
          else throw (.lost "release ambiguity observed a replacement fence")
  | .error error => throw error

end Backend

structure RemoteLeaseGuard where
  grant : RemoteLeaseGrant
  ttlMs : ℕ
  heartbeatMs : ℕ
  released : Bool
deriving DecidableEq

namespace RemoteLeaseGuard

variable (encoded : Encoding)

def acquire (request : RemoteLeaseAcquire) : Io RemoteLeaseGuard := do
  let grant ← RemoteLease.acquire encoded request
  if !grant.sameHolder request || !grant.liveAt request.nowUnixMs then
    throw (.lost "acquire returned wrong or expired ownership")
  else return ⟨grant,request.ttlMs,request.heartbeatMs,false⟩

def observedExact (g : RemoteLeaseGuard) (nowUnixMs : ℕ) (observed : Option RemoteLeaseGrant) :
    Except RemoteLeaseError Unit :=
  if observed.any fun observed => observed.exactFence g.grant && observed.liveAt nowUnixMs then .ok ()
  else .error (.lost "exact live fencing token was not observed")

def heartbeat (g : RemoteLeaseGuard) (nowUnixMs : ℕ) : Io RemoteLeaseGuard := do
  let renewed ← RemoteLease.renew encoded g.grant nowUnixMs g.ttlMs g.heartbeatMs
  let grant ← Prog.ofResult (validateRenewedGrant g.grant (some renewed))
  return { g with grant := grant }

def renew (g : RemoteLeaseGuard) (nowUnixMs : ℕ) : Io RemoteLeaseGuard := do
  Prog.refuseIf g.released (.lost "lease guard is released")
  Prog.refuseIf (!g.grant.liveAt nowUnixMs) (.lost "lease expired before heartbeat renewal")
  g.heartbeat encoded nowUnixMs

/-- A due heartbeat is renewed, and only an undue one is revalidated by inspection. -/
def beforeWriteAt (g : RemoteLeaseGuard) (nowUnixMs : ℕ) : Io RemoteLeaseGuard := do
  Prog.refuseIf g.released (.lost "lease guard is released")
  Prog.refuseIf (!g.grant.liveAt nowUnixMs) (.lost "lease expired before write revalidation")
  if nowUnixMs ≥ g.grant.heartbeatDueUnixMs then
    g.heartbeat encoded nowUnixMs
  else
    let observed ← inspect encoded g.grant.key
    Prog.ofResult (g.observedExact nowUnixMs observed)
    return g

def drop (g : RemoteLeaseGuard) : Io Unit :=
  if g.released then pure ()
  else Prog.attempt (releaseGrant encoded g.grant) >>= fun _ => pure ()

def release (g : RemoteLeaseGuard) : Io Bool := do
  match ← Prog.attempt (releaseGrant encoded g.grant) with
  | .error error =>
      g.drop encoded
      throw error
  | .ok released =>
      ({ g with released := released } : RemoteLeaseGuard).drop encoded
      return released

end RemoteLeaseGuard

end RemoteLease
end Cara
