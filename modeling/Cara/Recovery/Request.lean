import Cara.Lib.JsonPointer
import Cara.Recovery.LedgerRuns
import Mathlib.Data.Finset.Sort
import Mathlib.Data.String.Lemmas

/-! How a recovery request is built from a failed operation's error envelope and a fresh status, and
what recording the same decision twice does. -/
namespace Cara
namespace Recovery

open JsonValue (asStr asArr asU64 member pointer)

section Envelope

def safeCode (value : String) : Bool :=
  decide (value ≠ "" ∧ value.utf8ByteSize ≤ 96) &&
    value.toList.all fun c => c.isAlphanum || decide (c ∈ ['_','-','.'])

variable (details : JsonValue)

def extractPr : Option PrNumber :=
  [["pr"],["candidate_pr"],["decision","pr"],["candidate","pr"]].findSome? fun path =>
    (pointer path details).bind asU64

def classifyDisposition (code : String) : RecoveryDisposition :=
  let disposition := (((pointer ["decision","disposition"] details).or (member "disposition" details)).bind
    asStr).getD ""
  if disposition = "retry_tick" ∨
      ["timeout","transport","temporarily","rate_limit"].any (Text.contains code) then .retryTransient
  else if disposition = "external_decision" then .externalDecision
  else .operatorAction

def extractExactPlan : Option RecoveryAllowedAction := do
  let plan ← (pointer ["top_eviction_plan"] details).or (pointer ["details","top_eviction_plan"] details)
  let operationId ← (member "operation_id" plan).bind asStr
  let planHash ← (member "plan_hash" plan).bind asStr
  let ownerPr ← ((pointer ["affected_prs","0"] plan).or (member "evict_pr" plan)).bind asU64
  if safeReceipt operationId && safeReceipt planHash then
    some (.exactPlan "top_eviction" operationId planHash ownerPr)
  else none

def allowedActions (disposition : RecoveryDisposition) (pr : Option PrNumber) (head : Option CommitOid) :
    List RecoveryAllowedAction :=
  (match disposition with
    | .retryTransient => [.rediscover,.retrySync]
    | .externalDecision | .operatorAction => [.operatorDecision "review_exact_evidence"]) ++
  (match pr,head with
    | some pr,some head => [.ownerRepair pr head]
    | _,_ => []) ++
  (extractExactPlan details).toList

/-- At most five links of the repository itself, each once and in order. -/
def extractLinks (repository : RepositoryId) : List String :=
  let candidates := ([["url"],["details_url"],["decision","url"],["receipt","url"]].filterMap fun path =>
      (pointer path details).bind asStr) ++
    (((member "links" details).bind asArr).getD []).filterMap asStr
  let githubPrefix := "https://github.com/" ++ repository.owner ++ "/" ++ repository.name
  let apiPrefix := "https://api.github.com/repos/" ++ repository.owner ++ "/" ++ repository.name
  let accepted := candidates.filter fun url => decide (url.utf8ByteSize ≤ 512) &&
    url.toList.all (fun c => decide (c ∉ ['?','#','@'])) &&
    (Text.startsWith url githubPrefix || Text.startsWith url apiPrefix)
  (accepted.take 5).toFinset.sort (· ≤ ·)

def wakeClassOf : String :=
  ((((pointer ["decision","wake_class"] details).or (member "wake_class" details)).bind asStr).filter
    safeCode).getD "unknown"

end Envelope

structure DecisionFacts where
  repository : RepositoryId
  pr : Option PrNumber
  head : Option CommitOid
  base : Option CommitOid
  main : CommitOid
  stackRootPr : Option PrNumber
  checkGeneration : String
  configFingerprint : String
  policyFingerprint : String
  wakeClass : String
  disposition : RecoveryDisposition
  code : String
  links : List String
  allowedActions : List RecoveryAllowedAction
deriving DecidableEq

structure RequestWire where
  checksJson : Option (List CheckSnapshot) → List UInt8
  configJson : Config.CaravanConfig → List UInt8
  policyJson : Config.SyncConfig → Config.StackType → Config.StackRolloutConfig → Config.WriterConfig → List UInt8
  decisionJson : DecisionFacts → List UInt8
  sha256 : List UInt8 → String

structure RequestCall where
  maxAttempts : ℕ := 3
  initialBackoffSecs : ℕ := 30
  error : Except RecoveryError JsonValue
  status : Except RecoveryError (StatusOutput × GitHubApiTelemetry)
  config : Config.CaravanConfig := {}
  nowUnixMs : ℕ
  loadFault : Option RecoveryError := none
  persistFault : Option RecoveryError := none

section Building

variable (w : RequestWire)

def digestJson (bytes : List UInt8) : String := "sha256:" ++ w.sha256 bytes

def codeInvalid : RecoveryError :=
  invalid "recovery_error_code_invalid" "Cara error code is missing/unsafe"

def envelopeCode (error : JsonValue) : Except RecoveryError String :=
  (((pointer ["error","code"] error).bind asStr).filter safeCode).elim (.error codeInvalid) .ok

/-- The facts of one generation under this configuration. -/
def decisionFacts (code : String) (details : JsonValue) (status : StatusOutput)
    (config : Config.CaravanConfig) : DecisionFacts :=
  let pr := (extractPr details).or (status.currentPr.or (status.analysis.fleet.caravans.head?.map (·.id)))
  let candidate := pr.bind fun pr => status.analysis.pullRequests[pr]?
  let head := candidate.map (·.head.oid)
  let disposition := classifyDisposition details code
  {
    repository := status.repository
    pr := pr
    head := head
    base := candidate.map (·.base.oid)
    main := status.analysis.fleet.defaultBranch.oid
    stackRootPr := pr.bind fun pr =>
      (status.analysis.fleet.caravans.find? fun caravan => decide (pr ∈ caravan.members)).map (·.id)
    checkGeneration := digestJson w (w.checksJson (candidate.map (·.checks)))
    configFingerprint := digestJson w (w.configJson config)
    policyFingerprint := digestJson w
      (w.policyJson config.sync config.stackType config.stackRollout config.writer)
    wakeClass := wakeClassOf details
    disposition := disposition
    code := code
    links := extractLinks details status.repository
    allowedActions := allowedActions details disposition pr head }

def decisionFingerprint (facts : DecisionFacts) : String := digestJson w (w.decisionJson facts)

/-- The request identity is the start of the decision fingerprint's digest. -/
def requestIdOf (fingerprint : String) : String :=
  String.ofList ("recovery:".toList ++ (fingerprint.toList.drop 7).take 16)

def requestOf (facts : DecisionFacts) (call : RequestCall) (telemetry : GitHubApiTelemetry) :
    RecoveryRequest where
  requestId := requestIdOf (decisionFingerprint w facts)
  repository := facts.repository
  pr := facts.pr
  head := facts.head
  base := facts.base
  main := facts.main
  stackRootPr := facts.stackRootPr
  checkGeneration := facts.checkGeneration
  configFingerprint := facts.configFingerprint
  policyFingerprint := facts.policyFingerprint
  wakeClass := facts.wakeClass
  disposition := facts.disposition
  decisionFingerprint := decisionFingerprint w facts
  diagnosticCodes := [facts.code]
  links := facts.links
  allowedActions := facts.allowedActions
  maxAttempts := call.maxAttempts
  initialBackoffSecs := call.initialBackoffSecs
  observedUnixMs := call.nowUnixMs
  providerApi := telemetry

def RequestCall.observe (call : RequestCall) : Except RecoveryError (DecisionFacts × GitHubApiTelemetry) := do
  validateBounds call.maxAttempts call.initialBackoffSecs
  let error ← call.error
  let code ← envelopeCode error
  let (status,telemetry) ← call.status
  return (decisionFacts w code ((pointer ["error","details"] error).getD .null) status call.config,telemetry)

/-- The request, whether it is new, and the ledger on disk behind it. -/
def RequestCall.record (codec : LedgerCodec) (call : RequestCall) (ledger : RecoveryLedger) :
    Except RecoveryError (RecoveryRequest × Bool × RecoveryLedger) := do
  let (facts,telemetry) ← call.observe w
  let request := requestOf w facts call telemetry
  let (created,ledger) ← recordRequest codec call.loadFault call.persistFault request ledger
  return (request,created,ledger)

end Building

section Repeats

variable {w : RequestWire} {codec : LedgerCodec} {l l' : RecoveryLedger} {request : RecoveryRequest}
  {facts facts' : DecisionFacts} {call call' : RequestCall} {telemetry telemetry' : GitHubApiTelemetry}

/-- What two calls with the same decision may still differ in. -/
def SameCircumstances (call call' : RequestCall) (telemetry telemetry' : GitHubApiTelemetry) : Prop :=
  call'.nowUnixMs = call.nowUnixMs ∧ telemetry' = telemetry ∧ call'.maxAttempts = call.maxAttempts ∧
    call'.initialBackoffSecs = call.initialBackoffSecs

theorem requestOf_eq_iff : requestOf w facts' call' telemetry' = requestOf w facts call telemetry ↔
    facts' = facts ∧ SameCircumstances call call' telemetry telemetry' := by
  constructor
  · intro h
    have hfacts : facts' = facts := by
      obtain ⟨_,_,_,_,_,_,_,_,_,_,_,_,_,_⟩ := facts
      obtain ⟨_,_,_,_,_,_,_,_,_,_,_,_,_,_⟩ := facts'
      simp only [requestOf,RecoveryRequest.mk.injEq,List.cons.injEq,and_true] at h
      simp only [DecisionFacts.mk.injEq]
      obtain ⟨_,_,_,_,_,_,_,_,_,_,_,_,_,_,_,_,_⟩ := h
      refine ⟨?_,?_,?_,?_,?_,?_,?_,?_,?_,?_,?_,?_,?_,?_⟩ <;> assumption
    refine ⟨hfacts,?_,?_,?_,?_⟩
    · exact congrArg (·.observedUnixMs) h
    · exact congrArg (·.providerApi) h
    · exact congrArg (·.maxAttempts) h
    · exact congrArg (·.initialBackoffSecs) h
  · rintro ⟨rfl,hnow,rfl,hmax,hbackoff⟩
    unfold requestOf
    rw [hnow,hmax,hbackoff]

theorem recordRequest_entry {loadFault persistFault : Option RecoveryError} {created : Bool}
    (h : recordRequest codec loadFault persistFault request l = .ok (created,l')) :
    ∃ e,l'.entries[request.requestId]? = some e ∧ e.request = request := by
  cases created with
  | true => exact ⟨_,(recordRequest_fresh h).2,rfl⟩
  | false =>
    obtain ⟨-,h⟩ := Guard.unit_bind_eq_ok.mp h
    obtain ⟨-,h⟩ := Guard.unit_bind_eq_ok.mp h
    obtain ⟨ledger,-,h⟩ := Guard.bind_eq_ok.mp h
    split at h
    · next existing hexisting =>
      split at h
      · cases h
      · next hsame =>
        cases h
        exact ⟨existing,hexisting,by_contra hsame⟩
    · obtain ⟨persisted,-,h⟩ := Guard.bind_eq_ok.mp h
      cases h

theorem request_afterCalls {e : RecoveryLedgerEntry} {id : String} (attempts : List AttemptCall)
    (he : l.entries[id]? = some e) :
    ∃ e',(afterCalls codec l attempts).entries[id]? = some e' ∧ e'.request = e.request :=
  afterCalls_induction (P := fun e' => e'.request = e.request) (fun _ _ => True)
    (fun _ _ _ _ _ hP hrecords _ _ => (appendAttempt_ok hrecords.appended).request.trans hP) he rfl
    fun _ _ _ => trivial

/-- Recording against an entry of the same identity compares the whole requests. -/
theorem recordRequest_known {loadFault : Option RecoveryError} (persistFault : Option RecoveryError)
    {e : RecoveryLedgerEntry}
    (hbounds : validateBounds request.maxAttempts request.initialBackoffSecs = .ok ())
    (hsecrets : rejectSecrets (codec.request request) = .ok ())
    (hload : loadLedger codec loadFault l = .ok l) (he : l.entries[request.requestId]? = some e) :
    recordRequest codec loadFault persistFault request l =
      if e.request ≠ request then .error (invalid "recovery_request_generation_collision"
        "request ID exists with different exact generation") else .ok (false,l) := by
  unfold recordRequest
  rw [hbounds,Guard.ok_bind,hsecrets,Guard.ok_bind,hload,Guard.ok_bind,he]
  rfl

theorem recordRequest_new {loadFault persistFault : Option RecoveryError}
    (hbounds : validateBounds request.maxAttempts request.initialBackoffSecs = .ok ())
    (hsecrets : rejectSecrets (codec.request request) = .ok ())
    (hload : loadLedger codec loadFault l = .ok l) (hnew : l.entries[request.requestId]? = none)
    (hpersist : persistLedger codec persistFault
      { l with entries := l.entries.insert request.requestId { request := request } } = .ok l') :
    recordRequest codec loadFault persistFault request l = .ok (true,l') := by
  unfold recordRequest
  rw [hbounds,Guard.ok_bind,hsecrets,Guard.ok_bind,hload,Guard.ok_bind,hnew]
  show (persistLedger codec persistFault _ >>= fun ledger => _) = _
  rw [hpersist]
  rfl

theorem observe_bounds (h : call.observe w = .ok (facts,telemetry)) :
    validateBounds call.maxAttempts call.initialBackoffSecs = .ok () := (Guard.unit_bind_eq_ok.mp h).1

theorem record_ok {created : Bool} (h : call.record w codec l = .ok (request,created,l')) :
    ∃ facts telemetry,call.observe w = .ok (facts,telemetry) ∧ request = requestOf w facts call telemetry ∧
      recordRequest codec call.loadFault call.persistFault request l = .ok (created,l') := by
  obtain ⟨⟨facts,telemetry⟩,hobserve,h⟩ := Guard.bind_eq_ok.mp h
  obtain ⟨⟨created',ledger⟩,hrecord,h⟩ := Guard.bind_eq_ok.mp h
  cases h
  exact ⟨facts,telemetry,hobserve,rfl,hrecord⟩

/-- The same decision a second time, with any attempts in between: a call whose own checks pass finds it
recorded exactly when it also has the same clock, telemetry and retry bounds. -/
theorem record_repeated_iff {first second : RequestCall} {created : Bool} {l₁ : RecoveryLedger}
    (attempts : List AttemptCall) (hfirst : first.record w codec l = .ok (request,created,l₁))
    (hobserve : first.observe w = .ok (facts,telemetry)) (hagain : second.observe w = .ok (facts',telemetry'))
    (hfingerprint : decisionFingerprint w facts' = decisionFingerprint w facts)
    (hsecrets : rejectSecrets (codec.request (requestOf w facts' second telemetry')) = .ok ())
    (hload : loadLedger codec second.loadFault (afterCalls codec l₁ attempts) =
      .ok (afterCalls codec l₁ attempts)) :
    second.record w codec (afterCalls codec l₁ attempts) =
        .ok (requestOf w facts' second telemetry',false,afterCalls codec l₁ attempts) ↔
      facts' = facts ∧ SameCircumstances first second telemetry telemetry' := by
  obtain ⟨_,_,hobserve',rfl,hrecord⟩ := record_ok hfirst
  rw [hobserve] at hobserve'
  cases hobserve'
  obtain ⟨e,he,hrequest⟩ := recordRequest_entry hrecord
  obtain ⟨e',he',hrequest'⟩ := request_afterCalls attempts he
  have hid : (requestOf w facts' second telemetry').requestId = (requestOf w facts first telemetry).requestId :=
    congrArg requestIdOf hfingerprint
  rw [← hid] at he'
  have hknown := recordRequest_known second.persistFault (observe_bounds hagain) hsecrets hload he'
  have hrun : second.record w codec (afterCalls codec l₁ attempts) =
      (recordRequest codec second.loadFault second.persistFault (requestOf w facts' second telemetry')
        (afterCalls codec l₁ attempts) >>= fun r =>
          .ok (requestOf w facts' second telemetry',r.1,r.2)) := by
    unfold RequestCall.record
    rw [hagain]
    rfl
  rw [← requestOf_eq_iff (w := w),hrun,hknown,hrequest'.trans hrequest]
  by_cases hsame : requestOf w facts' second telemetry' = requestOf w facts first telemetry
  · rw [if_neg (not_not.mpr hsame.symm)]
    exact iff_of_true rfl hsame
  · rw [if_pos fun h => hsame h.symm]
    refine iff_of_false ?_ hsame
    intro h
    cases h

end Repeats

section Samples

def timeoutEnvelope : JsonValue := .obj [("error",.obj [("code",.str "transport_timeout")])]

/-- A failed operation on pull request 41, reported at this time. -/
def timeoutCall (now : ℕ) : RequestCall where
  error := .ok timeoutEnvelope
  status := .ok ({ landedStatus with currentPr := some 41 },{})
  nowUnixMs := now

def timeoutBytes (value : JsonValue) : List UInt8 := (JsonValue.text none value).flatMap String.utf8EncodeChar

/-- What the configuration of the call sets. -/
def timeoutConfig : JsonValue := .obj [("version",.num 1)]

def actionValue : RecoveryAllowedAction → JsonValue
  | .rediscover => .obj [("kind",.str "rediscover")]
  | .retrySync => .obj [("kind",.str "retry_sync")]
  | .ownerRepair pr head => .obj [("expected_head",.str head),("kind",.str "owner_repair"),("pr",.num pr)]
  | _ => .null

/-- The texts of the call with their keys in order, and the digests of these texts. -/
def timeoutWire : RequestWire where
  checksJson _ := timeoutBytes (.arr [])
  configJson _ := timeoutBytes timeoutConfig
  policyJson _ _ _ _ := timeoutBytes (.obj [])
  decisionJson f := timeoutBytes (.obj [("allowed_actions",.arr (f.allowedActions.map actionValue)),
    ("base",f.base.elim .null .str),("check_generation",.str f.checkGeneration),("code",.str f.code),
    ("config_fingerprint",.str f.configFingerprint),("disposition",.str "retry_transient"),
    ("head",f.head.elim .null .str),("links",.arr (f.links.map .str)),("main",.str f.main),
    ("policy_fingerprint",.str f.policyFingerprint),("pr",f.pr.elim .null .num),
    ("repository",.obj [("name",.str f.repository.name),("owner",.str f.repository.owner)]),
    ("stack_root_pr",f.stackRootPr.elim .null .num),("wake_class",.str f.wakeClass)])
  sha256 bytes :=
    if bytes = timeoutBytes (.arr []) then "4f53cda18c2baa0c0354bb5f9a3ecbe5ed12ab4d8e11ba873c2f11161202b945"
    else if bytes = timeoutBytes timeoutConfig then "2430f1a2ad2982d0067885488a4c89e21ad1d7c83b115ba8f1b20acc88dfaea8"
    else if bytes = timeoutBytes (.obj []) then "44136fa355b3678a1146ad16f7e8649e94fb4fc21fe77e8310c060f61caaff8a"
    else "500d3e2703592b45636c0188fad5c014a813db6e7126993e23f1ae69f2f87c8c"

def recordTwice (first second : ℕ) : Option (Except RecoveryError Bool) :=
  match (timeoutCall first).record timeoutWire abridgedCodec {} with
  | .error _ => none
  | .ok recorded => some (((timeoutCall second).record timeoutWire abridgedCodec recorded.2.2).map (·.2.1))

def timeoutFacts : DecisionFacts :=
  decisionFacts timeoutWire "transport_timeout" .null { landedStatus with currentPr := some 41 } {}

def timeoutRequest : RecoveryRequest := requestOf timeoutWire timeoutFacts (timeoutCall 1000) {}

def timeoutLedger : RecoveryLedger where
  entries := (∅ : Std.ExtTreeMap String RecoveryLedgerEntry).insert timeoutRequest.requestId
    { request := timeoutRequest }

theorem observe_timeoutCall (now : ℕ) : (timeoutCall now).observe timeoutWire = .ok (timeoutFacts,{}) := by
  have hcode : envelopeCode timeoutEnvelope = .ok "transport_timeout" := by decide
  show (envelopeCode timeoutEnvelope >>= fun code => _) = _
  rw [hcode]
  rfl

theorem record_timeoutCall : (timeoutCall 1000).record timeoutWire abridgedCodec {} =
    .ok (timeoutRequest,true,timeoutLedger) := by
  have hrequest : rejectSecrets (abridgedCodec.request timeoutRequest) = .ok () := by decide +kernel
  have hledger : rejectSecrets (abridgedCodec.ledger timeoutLedger) = .ok () := hrequest
  have habsent : (∅ : Std.ExtTreeMap String RecoveryLedgerEntry)[timeoutRequest.requestId]? = none :=
    Std.ExtTreeMap.getElem?_empty
  have hpersist : persistLedger abridgedCodec none timeoutLedger = .ok timeoutLedger := by
    unfold persistLedger
    rw [hledger]
    rfl
  have hrecord : recordRequest abridgedCodec none none timeoutRequest {} = .ok (true,timeoutLedger) :=
    recordRequest_new rfl hrequest rfl habsent hpersist
  exact Guard.bind_eq_ok.mpr ⟨_,observe_timeoutCall 1000,Guard.bind_eq_ok.mpr ⟨_,hrecord,rfl⟩⟩

theorem load_timeoutLedger : loadLedger abridgedCodec none timeoutLedger = .ok timeoutLedger := by
  have hbytes : abridgedCodec.fileBytes timeoutLedger = 0 := by decide
  unfold loadLedger
  rw [hbytes]
  rfl

/-- Within one millisecond the second call finds the request. -/
theorem timeout_recorded_again : (timeoutCall 1000).record timeoutWire abridgedCodec timeoutLedger =
    .ok (timeoutRequest,false,timeoutLedger) :=
  (record_repeated_iff [] record_timeoutCall (observe_timeoutCall 1000)
    (observe_timeoutCall 1000) rfl (by decide +kernel)
    load_timeoutLedger).mpr ⟨rfl,rfl,rfl,rfl,rfl⟩

/-- A millisecond later the same decision collides with itself. -/
theorem timeout_collides_later :
    (timeoutCall 1001).observe timeoutWire = (timeoutCall 1000).observe timeoutWire ∧
    recordTwice 1000 1001 = some (.error (invalid "recovery_request_generation_collision"
      "request ID exists with different exact generation")) := ⟨rfl,by decide +kernel⟩

end Samples

end Recovery
end Cara
