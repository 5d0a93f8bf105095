import Cara.Lib.JsonPointer
import Cara.Recovery.Ledger

/-! The CI admission gate: one pull-request event judged against the trusted policy and the live
membership, and the receipt whose fingerprint seals the verdict. -/
namespace Cara
namespace CiAdmissionGate

open JsonValue (asStr asU64 member pointer)

inductive CiAdmissionGateDecision where
  | runMember
  | deferredUnjoined
  | runUnproven
deriving DecidableEq

namespace CiAdmissionGateDecision

def code : CiAdmissionGateDecision → String
  | .runMember => "run_member"
  | .deferredUnjoined => "deferred_unjoined"
  | .runUnproven => "run_unproven"

def runsCi (decision : CiAdmissionGateDecision) : Bool := decide (decision ≠ .deferredUnjoined)

end CiAdmissionGateDecision

def deferredWorkflowExitCode : ℤ := 78

structure EventFacts where
  repository : RepositoryId
  action : String
  wakePr : PrNumber
  head : CommitOid
  base : CommitOid
deriving DecidableEq

inductive EventFile where
  | unavailable
  | oversized
  | unreadable
  | malformed
  | json (event : JsonValue)

structure CiAdmissionGatePolicyEvidence where
  context : String
  memberLabel : String
deriving DecidableEq

structure AdmissionMembership where
  repository : RepositoryId
  candidate : PullRequestSnapshot
  enrolled : Bool
  defaultHead : CommitOid
  providerApi : Recovery.GitHubApiTelemetry := {}
deriving DecidableEq

structure CiAdmissionGateOutput where
  decision : CiAdmissionGateDecision
  decisionCode : String
  runCi : Bool
  deferredUnjoined : Bool
  workflowExitCode : ℤ
  repository : Option RepositoryId
  wakePr : Option PrNumber
  selectedPr : Option PrNumber
  eventAction : Option String
  head : Option CommitOid
  base : Option CommitOid
  defaultHead : Option CommitOid
  enrolled : Bool
  memberLabelPresent : Bool
  policy : Option CiAdmissionGatePolicyEvidence
  configFingerprint : String
  reason : String
  receiptFingerprint : String
  providerApi : Option Recovery.GitHubApiTelemetry
deriving DecidableEq

structure FingerprintBody where
  decision : CiAdmissionGateDecision
  repository : Option RepositoryId
  wakePr : Option PrNumber
  selectedPr : Option PrNumber
  eventAction : Option String
  head : Option CommitOid
  base : Option CommitOid
  defaultHead : Option CommitOid
  enrolled : Bool
  memberLabelPresent : Bool
  policy : Option CiAdmissionGatePolicyEvidence
  configFingerprint : String
deriving DecidableEq

structure GateWire where
  configJson : Config.CaravanConfig → List UInt8
  bodyJson : FingerprintBody → List UInt8
  sha256 : List UInt8 → String

/-- One call: the configuration and what reading the policy, the event and the membership gives. An
error is its code. -/
structure GateCall where
  config : Config.CaravanConfig := {}
  configPathAbsolute : Bool := false
  allowFetch : Bool := true
  selectedPr : Option PrNumber := none
  prepared : Except String Config.CaravanConfig
  event : EventFile
  membership : Except String AdmissionMembership

section Parsing

def parseRepository (value : String) : Except String RepositoryId :=
  match Text.splitOnce ['/'] value.toList with
  | none => .error "event repository is malformed; expensive CI is required"
  | some (owner,name) =>
      if owner = [] ∨ name = [] ∨ '/' ∈ name then .error "event repository is malformed; expensive CI is required"
      else .ok ⟨String.ofList owner,String.ofList name⟩

def isHexDigit (c : Char) : Bool := c.isDigit || decide (c.toLower ∈ ['a','b','c','d','e','f'])

def parseOid (value field : String) : Except String CommitOid :=
  if 40 ≤ value.utf8ByteSize ∧ value.utf8ByteSize ≤ 64 ∧ value.toList.all isHexDigit then
    .ok (String.ofList (value.toList.map Char.toLower))
  else .error ("event " ++ field ++ " is not one full Git object ID; expensive CI is required")

def present {α : Type} (value : Option α) (what : String) : Except String α :=
  value.elim (.error ("event " ++ what ++ " is missing; expensive CI is required")) .ok

def readEvent : EventFile → Except String EventFacts
  | .unavailable => .error "event file is unavailable; expensive CI is required"
  | .oversized => .error "event file exceeds the bounded 128 KiB input; expensive CI is required"
  | .unreadable => .error "event file could not be read; expensive CI is required"
  | .malformed => .error "event JSON is malformed; expensive CI is required"
  | .json event => do
      let repository ← parseRepository
        (← present ((pointer ["repository","full_name"] event).bind asStr) "repository identity")
      let wakePr ← present (((pointer ["pull_request","number"] event).bind asU64).or
        ((member "number" event).bind asU64)) "PR number"
      let action ← present (((member "action" event).bind asStr).filter fun action => decide (action ≠ "")) "action"
      let head ← parseOid (← present ((pointer ["pull_request","head","sha"] event).bind asStr) "head") "head"
      let base ← parseOid (← present ((pointer ["pull_request","base","sha"] event).bind asStr) "base") "base"
      return ⟨repository,action,wakePr,head,base⟩

def isMembershipObservationAction (action : String) : Bool :=
  decide (action ∈ ["opened","synchronize","reopened","ready_for_review"])

def membershipDecision : Bool → Bool → CiAdmissionGateDecision × String
  | true,true => (.runMember,
      "exact live provider generation is an active Caravan member; run expensive CI")
  | false,false => (.deferredUnjoined,
      "exact live provider generation is unjoined; emit the required deferred sentinel")
  | _,_ => (.runUnproven,
      "membership graph and member label disagree; expensive CI is required")

/-- The event or the provider is about another generation, or one that is not supported. -/
def generationDrifted (event : EventFacts) (membership : AdmissionMembership) : Bool :=
  decide (membership.repository ≠ event.repository ∨ membership.candidate.head.oid ≠ event.head ∨
    membership.candidate.base.oid ≠ event.base ∨ membership.candidate.crossRepository = true ∨
    membership.candidate.state ≠ .open ∨ membership.candidate.draft = true)

end Parsing

section Receipts

variable (w : GateWire)

def configFingerprint (config : Config.CaravanConfig) : String :=
  "sha256:" ++ w.sha256 (w.configJson config)

def fingerprint (body : FingerprintBody) : String := "sha256:" ++ w.sha256 (w.bodyJson body)

/-- The shared constructor of every exit: the fingerprint covers the facts as they are here. -/
def output (event : Option EventFacts) (selectedPr : Option PrNumber)
    (policy : Option CiAdmissionGatePolicyEvidence) (status : Option StatusOutput)
    (decision : CiAdmissionGateDecision) (enrolled memberLabelPresent : Bool) (reason configFingerprint : String)
    (providerApi : Option Recovery.GitHubApiTelemetry) : CiAdmissionGateOutput :=
  let body : FingerprintBody := {
    decision := decision
    repository := event.map (·.repository)
    wakePr := event.map (·.wakePr)
    selectedPr := selectedPr
    eventAction := event.map (·.action)
    head := event.map (·.head)
    base := event.map (·.base)
    defaultHead := status.map (·.analysis.fleet.defaultBranch.oid)
    enrolled := enrolled
    memberLabelPresent := memberLabelPresent
    policy := policy
    configFingerprint := configFingerprint }
  {
    decision := decision
    decisionCode := decision.code
    runCi := decision.runsCi
    deferredUnjoined := decide (decision = .deferredUnjoined)
    workflowExitCode := if decision = .deferredUnjoined then deferredWorkflowExitCode else 0
    repository := body.repository
    wakePr := body.wakePr
    selectedPr := selectedPr
    eventAction := body.eventAction
    head := body.head
    base := body.base
    defaultHead := body.defaultHead
    enrolled := enrolled
    memberLabelPresent := memberLabelPresent
    policy := policy
    configFingerprint := configFingerprint
    reason := reason
    receiptFingerprint := fingerprint w body
    providerApi := providerApi }

def unproven (event : Option EventFacts) (selectedPr : Option PrNumber)
    (policy : Option CiAdmissionGatePolicyEvidence) (reason configFingerprint : String)
    (providerApi : Option Recovery.GitHubApiTelemetry) : CiAdmissionGateOutput :=
  output w event selectedPr policy none .runUnproven false false reason configFingerprint providerApi

def evaluateLiveProvider (call : GateCall) (event : EventFacts) (selectedPr : PrNumber)
    (policy : CiAdmissionGatePolicyEvidence) (configFingerprint : String) (authorityMaterialized : Bool) :
    CiAdmissionGateOutput :=
  match call.membership with
  | .error code => unproven w (some event) (some selectedPr) (some policy)
      ("live provider membership is unproven (" ++ code ++ "); expensive CI is required") configFingerprint none
  | .ok membership =>
      let telemetry := some membership.providerApi
      if !authorityMaterialized then
        unproven w (some event) (some selectedPr) (some policy)
          "effective config is not proven byte-identical to default-branch policy; expensive CI is required"
          configFingerprint telemetry
      else if generationDrifted event membership then
        unproven w (some event) (some selectedPr) (some policy)
          ("event/provider repository, head, base, state, draft, or fork generation is " ++
            "unsupported/drifted; expensive CI is required")
          configFingerprint telemetry
      else
        let memberLabelPresent := membership.candidate.hasLabel policy.memberLabel
        let (decision,reason) := membershipDecision membership.enrolled memberLabelPresent
        let receipt := output w (some event) (some selectedPr) (some policy) none decision membership.enrolled
          memberLabelPresent reason configFingerprint telemetry
        -- filled in behind the fingerprint
        { receipt with defaultHead := some membership.defaultHead }

def evaluateTrusted (call : GateCall) (config : Config.CaravanConfig) (authorityMaterialized : Bool) :
    CiAdmissionGateOutput :=
  let configFingerprint := configFingerprint w config
  match readEvent call.event with
  | .error reason => unproven w none call.selectedPr none reason configFingerprint none
  | .ok event =>
      match config.ciAdmissionGate with
      | none => unproven w (some event) (call.selectedPr.or (some event.wakePr)) none
          "ci.admission_gate is disabled in trusted default policy; expensive CI is required"
          configFingerprint none
      | some gate =>
          let policy : CiAdmissionGatePolicyEvidence := ⟨gate.context,gate.memberLabel⟩
          if !isMembershipObservationAction event.action then
            unproven w (some event) (call.selectedPr.or (some event.wakePr)) (some policy)
              ("unsupported pull_request action \x60" ++ event.action ++
                "\x60 cannot produce a deferral; expensive CI is required") configFingerprint none
          else
            let selectedPr := call.selectedPr.getD event.wakePr
            if selectedPr ≠ event.wakePr then
              unproven w (some event) (some selectedPr) (some policy)
                ("selected PR differs from workflow wake PR; this suite cannot run or defer " ++
                  "another generation") configFingerprint none
            else if config.repository.any fun repository => decide (repository ≠ event.repository.slug) then
              unproven w (some event) (some selectedPr) (some policy)
                "event repository differs from trusted configured repository; expensive CI is required"
                configFingerprint none
            else evaluateLiveProvider w call event selectedPr policy configFingerprint authorityMaterialized

/-- One event against the freshly materialized default-branch policy and the live membership. -/
def evaluate (call : GateCall) : CiAdmissionGateOutput :=
  if call.configPathAbsolute || !call.allowFetch then
    unproven w none call.selectedPr none
      ("admission deferral requires freshly fetched default-branch policy; explicit/local-only " ++
        "config runs expensive CI") (configFingerprint w call.config) none
  else match call.prepared with
    | .error code => unproven w none call.selectedPr none
        ("authoritative default policy is unproven (" ++ code ++ "); expensive CI is required")
        (configFingerprint w call.config) none
    | .ok config => evaluateTrusted w call config true

end Receipts

section Seals

variable (w : GateWire)

def CiAdmissionGateOutput.reported (o : CiAdmissionGateOutput) : FingerprintBody where
  decision := o.decision
  repository := o.repository
  wakePr := o.wakePr
  selectedPr := o.selectedPr
  eventAction := o.eventAction
  head := o.head
  base := o.base
  defaultHead := o.defaultHead
  enrolled := o.enrolled
  memberLabelPresent := o.memberLabelPresent
  policy := o.policy
  configFingerprint := o.configFingerprint

def sealedBody (call : GateCall) : FingerprintBody :=
  { (evaluate w call).reported with defaultHead := none }

def liveHead (call : GateCall) (event : EventFacts) : Option CommitOid := do
  let membership ← call.membership.toOption
  guard (!generationDrifted event membership)
  return membership.defaultHead

def trustedHead (call : GateCall) (config : Config.CaravanConfig) : Option CommitOid := do
  let event ← (readEvent call.event).toOption
  let _ ← config.ciAdmissionGate
  guard (isMembershipObservationAction event.action && decide (call.selectedPr.getD event.wakePr = event.wakePr) &&
    config.repository.all fun repository => decide (repository = event.repository.slug))
  liveHead call event

/-- The default head of a membership read whose generation is the one of the event. -/
def observedHead (call : GateCall) : Option CommitOid := do
  guard (!call.configPathAbsolute && call.allowFetch)
  let config ← call.prepared.toOption
  trustedHead call config

structure Seals (o : CiAdmissionGateOutput) (head : Option CommitOid) : Prop where
  fingerprint : o.receiptFingerprint = fingerprint w { o.reported with defaultHead := none }
  defaultHead : o.defaultHead = head

theorem seals_unproven (event : Option EventFacts) (selectedPr : Option PrNumber)
    (policy : Option CiAdmissionGatePolicyEvidence) (reason config : String)
    (providerApi : Option Recovery.GitHubApiTelemetry) :
    Seals w (unproven w event selectedPr policy reason config providerApi) none := ⟨rfl,rfl⟩

variable {w} in
theorem seals_of_unproven {o : CiAdmissionGateOutput} {condition : Bool} {rest : Unit → Option CommitOid}
    (h : Seals w o none) (hcondition : condition = false) : Seals w o (guard condition >>= rest) := by
  rw [hcondition]
  exact h

theorem seals_live (call : GateCall) (event : EventFacts) (selectedPr : PrNumber)
    (policy : CiAdmissionGatePolicyEvidence) (config : String) :
    Seals w (evaluateLiveProvider w call event selectedPr policy config true) (liveHead call event) := by
  unfold evaluateLiveProvider liveHead
  cases call.membership with
  | error code => exact seals_unproven w _ _ _ _ _ _
  | ok membership =>
    show Seals w (if generationDrifted event membership = true then _ else _)
      (guard (!generationDrifted event membership) >>= fun _ => some membership.defaultHead)
    cases hdrift : generationDrifted event membership with
    | true => exact seals_of_unproven (seals_unproven w _ _ _ _ _ _) rfl
    | false => exact ⟨rfl,rfl⟩

theorem seals_trusted (call : GateCall) (config : Config.CaravanConfig) :
    Seals w (evaluateTrusted w call config true) (trustedHead call config) := by
  unfold evaluateTrusted trustedHead
  cases readEvent call.event with
  | error reason => exact seals_unproven w _ _ _ _ _ _
  | ok event =>
    cases config.ciAdmissionGate with
    | none => exact seals_unproven w _ _ _ _ _ _
    | some gate =>
      show Seals w (if (!isMembershipObservationAction event.action) = true then _ else
        if call.selectedPr.getD event.wakePr ≠ event.wakePr then _ else
        if (config.repository.any fun repository => decide (repository ≠ event.repository.slug)) = true then _ else _)
        (guard _ >>= fun _ => _)
      cases haction : isMembershipObservationAction event.action with
      | false => exact seals_of_unproven (seals_unproven w _ _ _ _ _ _) rfl
      | true =>
        by_cases hselected : call.selectedPr.getD event.wakePr = event.wakePr
        · rw [if_neg (by simp),if_neg (not_not.mpr hselected)]
          cases hrepository : config.repository.any fun repository => decide (repository ≠ event.repository.slug) with
          | true =>
            refine seals_of_unproven (seals_unproven w _ _ _ _ _ _) ?_
            cases hr : config.repository with
            | none =>
              rw [hr] at hrepository
              cases hrepository
            | some repository =>
              rw [hr] at hrepository
              have hne : repository ≠ event.repository.slug := of_decide_eq_true hrepository
              simp [hne]
          | false =>
            have hguard : (true && decide (call.selectedPr.getD event.wakePr = event.wakePr) &&
                config.repository.all fun repository => decide (repository = event.repository.slug)) = true := by
              cases hr : config.repository with
              | none => simpa using hselected
              | some repository =>
                rw [hr] at hrepository
                simpa [hselected] using hrepository
            rw [hguard]
            exact seals_live w call event _ _ _
        · rw [if_neg (by simp),if_pos hselected]
          exact seals_of_unproven (seals_unproven w _ _ _ _ _ _) (by simp [hselected])

theorem seals_evaluate (call : GateCall) : Seals w (evaluate w call) (observedHead call) := by
  unfold evaluate observedHead
  cases hconfig : call.configPathAbsolute || !call.allowFetch with
  | true =>
    refine seals_of_unproven (seals_unproven w _ _ _ _ _ _) ?_
    cases hpath : call.configPathAbsolute <;> cases hfetch : call.allowFetch <;> simp_all
  | false =>
    have hguard : (!call.configPathAbsolute && call.allowFetch) = true := by
      cases hpath : call.configPathAbsolute <;> cases hfetch : call.allowFetch <;> simp_all
    rw [hguard,if_neg (by simp)]
    cases call.prepared with
    | error code => exact seals_unproven w _ _ _ _ _ _
    | ok config => exact seals_trusted w call config

theorem reported_eq (call : GateCall) :
    (evaluate w call).reported = { sealedBody w call with defaultHead := observedHead call } := by
  have hhead := (seals_evaluate w call).defaultHead
  unfold sealedBody
  rw [← hhead]
  rfl

/-- Two receipts with one fingerprint, which no collision of the digest explains: they report the same
facts exactly when the same default head, or none, was observed. -/
theorem receipts_seal_iff {first second : GateCall}
    (hdigest : fingerprint w (sealedBody w first) = fingerprint w (sealedBody w second) →
      sealedBody w first = sealedBody w second)
    (h : (evaluate w first).receiptFingerprint = (evaluate w second).receiptFingerprint) :
    (evaluate w first).reported = (evaluate w second).reported ↔ observedHead first = observedHead second := by
  rw [(seals_evaluate w first).fingerprint,(seals_evaluate w second).fingerprint] at h
  have hbody : sealedBody w first = sealedBody w second := hdigest h
  rw [reported_eq,reported_eq,hbody]
  constructor
  · intro hreported
    exact congrArg FingerprintBody.defaultHead hreported
  · intro hhead
    rw [hhead]

end Seals

section Samples

def octo : RepositoryId := ⟨"owner","example"⟩

def wakeEvent : JsonValue := .obj [("action",.str "opened"),("number",.num 41),
  ("repository",.obj [("full_name",.str "owner/example")]),
  ("pull_request",.obj [("number",.num 41),
    ("head",.obj [("sha",.str "1111111111111111111111111111111111111111")]),
    ("base",.obj [("sha",.str "2222222222222222222222222222222222222222")])])]

/-- The unjoined pull request 41, read while main is at this commit. -/
def membershipAt (main : CommitOid) : AdmissionMembership where
  repository := octo
  candidate := {
    number := 41
    state := .open
    head := ⟨octo,"feature","1111111111111111111111111111111111111111"⟩
    base := ⟨octo,"main","2222222222222222222222222222222222222222"⟩
    autoMerge := .disabled }
  enrolled := false
  defaultHead := main

def gateCall (main : CommitOid) : GateCall where
  prepared := .ok { ciAdmissionGate := some ⟨"Caravan admission","caravan"⟩ }
  event := .json wakeEvent
  membership := .ok (membershipAt main)

def gateBytes (value : JsonValue) : List UInt8 := (JsonValue.text none value).flatMap String.utf8EncodeChar

/-- What the configuration of the sample sets. -/
def gateConfigBytes : List UInt8 := gateBytes (.obj [("version",.num 1),("ci",.obj [("admission_gate",
  .obj [("mode",.str "caravan_label"),("context",.str "Caravan admission"),("member_label",.str "caravan")])])])

/-- The text of a body with its keys in order, and the digests of the two texts of the sample. -/
def plainWire : GateWire where
  configJson _ := gateConfigBytes
  bodyJson b := gateBytes (.obj [("base",b.base.elim .null .str),("config_fingerprint",.str b.configFingerprint),
    ("decision",.str b.decision.code),("default_head",b.defaultHead.elim .null .str),("enrolled",.bool b.enrolled),
    ("event_action",b.eventAction.elim .null .str),("head",b.head.elim .null .str),
    ("member_label_present",.bool b.memberLabelPresent),("policy",b.policy.elim .null fun policy => .obj [
      ("context",.str policy.context),("member_label",.str policy.memberLabel),("mode",.str "caravan_label")]),
    ("repository",b.repository.elim .null fun r => .obj [("name",.str r.name),("owner",.str r.owner)]),
    ("schema_version",.num 1),("selected_pr",b.selectedPr.elim .null .num),("wake_pr",b.wakePr.elim .null .num)])
  sha256 bytes :=
    if bytes = gateConfigBytes then "b3f4980f8bbd0e733569bfb939c33f65139d0a65ee4d02d322a2b38ff29b52e9"
    else "feabe10df0737fb91a5aafdc8a8d1fb2b9d0c0408588b967d4579f825ed9b54d"

/-- Selecting the waking pull request by its number changes nothing that is reported. -/
theorem selected_deferral_sealed : (evaluate plainWire (gateCall "m1")).reported =
    (evaluate plainWire { gateCall "m1" with selectedPr := some 41 }).reported :=
  (receipts_seal_iff plainWire (fun _ => by decide +kernel) (by decide +kernel)).mpr (by decide +kernel)

/-- Main moves between two reads: two reported default heads under one sealed body. -/
theorem deferrals_of_two_mains :
    sealedBody plainWire (gateCall "m1") = sealedBody plainWire (gateCall "m2") ∧
    (evaluate plainWire (gateCall "m1")).receiptFingerprint =
      (evaluate plainWire (gateCall "m2")).receiptFingerprint ∧
    (evaluate plainWire (gateCall "m1")).reported ≠ (evaluate plainWire (gateCall "m2")).reported := by
  decide +kernel

end Samples

end CiAdmissionGate
end Cara
