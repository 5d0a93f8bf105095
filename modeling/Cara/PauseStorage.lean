import Cara.PauseRuns
import Cara.CheckRecord
import Cara.Lib.StableSort

/-! Files of the hold directory: records and terminal receipts as indented JSON texts, what a
write accepts and what a later read finds. -/
namespace Cara
namespace Pause
namespace Storage

open JsonValue (optionalField required optional asStr asNum asBool asObj asList)

section Documents

/-- Fields are written in the order of their declaration. -/
def checkFields (c : CheckSnapshot) : List (String × JsonValue) :=
  ("name",.str c.name)::
  (("state",.str (checkStateName c.state))::
  (optionalField "provider_state" c.providerState .str ++
  (optionalField "details_url" c.detailsUrl .str ++
  (optionalField "provider_kind" c.providerKind .str ++
  (optionalField "workflow_name" c.workflowName .str ++
  (optionalField "app_id" c.appId .num ++
  (optionalField "check_suite_id" c.checkSuiteId .num ++
  (optionalField "head_oid" c.headOid .str ++
  (optionalField "started_at" c.startedAt .str ++
  (optionalField "completed_at" c.completedAt .str ++
  optionalField "superseded" (if c.superseded then some true else none) .bool))))))))))

def checkValue (c : CheckSnapshot) : JsonValue := .obj (checkFields c)

def numbersValue (l : List PrNumber) : JsonValue := .arr (l.map .num)

def textsValue (l : List String) : JsonValue := .arr (l.map .str)

def checksValue (l : List CheckSnapshot) : JsonValue := .arr (l.map checkValue)

def mergeMethodValue : MergeMethod → JsonValue
  | .squash => .str "squash"

def autoMergeValue (m : AutoMergeState) : JsonValue :=
  .obj (("enabled",.bool m.enabled)::(optionalField "merge_method" m.mergeMethod mergeMethodValue ++
    optionalField "actor" m.actor .str))

def preconditionValue (p : PullRequestPrecondition) : JsonValue :=
  .obj (("number",.num p.number)::("state",.str (prStateName p.state))::
    (optionalField "merged_at" p.mergedAt .str ++
    [("head_oid",.str p.headOid),("base_ref",.str p.baseRef),("base_oid",.str p.baseOid),
      ("labels",textsValue (p.labels.sort (· ≤ ·))),("checks",checksValue p.checks),
      ("auto_merge",autoMergeValue p.autoMerge)]))

def bindingValue (b : RecoveryBinding) : JsonValue :=
  .obj [("schema_version",.num b.schemaVersion),("operation_id",.str b.operationId),
    ("external_reference",.str b.externalReference),("idempotency_key",.str b.idempotencyKey),
    ("actor",.str b.actor),("owner_project",.str b.ownerProject),("owner_agent",.str b.ownerAgent),
    ("ownership_generation",.str b.ownershipGeneration),("repository",.str b.repository),
    ("caravan_id",.num b.caravanId),("members",numbersValue b.members),
    ("pause_id",.str b.pauseId),("pause_generation",.str b.pauseGeneration),
    ("target_pr",.num b.targetPr),("expected_base_ref",.str b.expectedBaseRef),
    ("expected_base_oid",.str b.expectedBaseOid),("expected_head_oid",.str b.expectedHeadOid),
    ("desired_base_ref",.str b.desiredBaseRef),("desired_base_oid",.str b.desiredBaseOid),
    ("desired_head_oid",.str b.desiredHeadOid),("desired_head_tree",.str b.desiredHeadTree),
    ("reason",.str b.reason)]

def recoveryValue (r : RecoveryRecord) : JsonValue :=
  .obj [("version",.num r.version),("binding",bindingValue r.binding),
    ("checkpoint",.str (checkpointName r.checkpoint)),("receipt_id",.str r.receiptId),
    ("prepared_unix_ms",.num r.preparedUnixMs),("updated_unix_ms",.num r.updatedUnixMs)]

def recordValue (r : PauseRecord) : JsonValue :=
  .obj (("version",.num r.version)::("caravan_head",.num r.caravanHead)::
    ("members",numbersValue r.members)::("expected_head",preconditionValue r.expectedHead)::
    ("expected_checks",checksValue r.expectedChecks)::("actor",.str r.actor)::
    ("reason",.str r.reason)::("paused_unix_secs",.num r.pausedUnixSecs)::
    (optionalField "expires_unix_secs" r.expiresUnixSecs .num ++
    (optionalField "external_reference" r.externalReference .str ++
    (optionalField "resume_authorized_by" r.resumeAuthorizedBy .str ++
    optionalField "recovery" r.recovery recoveryValue))))

def attributionValue (a : CheckAttribution) : JsonValue :=
  .obj [("head_oid",.str a.headOid),("check_run_count",.num a.checkRunCount),
    ("status_context_count",.num a.statusContextCount)]

def syntheticValue (s : SyntheticMergeCandidate) : JsonValue :=
  .obj [("git_ref",.str s.gitRef),("oid",.str s.oid),("tree_oid",.str s.treeOid),
    ("parents",textsValue s.parents)]

def evidenceValue (e : FinalEvidence) : JsonValue :=
  .obj [("head",.str e.head),("head_tree",.str e.headTree),("head_parents",textsValue e.headParents),
    ("virtual_merge",syntheticValue e.virtualMerge),
    ("check_attribution",attributionValue e.checkAttribution)]

def receiptValue (t : TerminalReceipt) : JsonValue :=
  .obj (("version",.num t.version)::("binding",bindingValue t.binding)::
    ("outcome",.str (outcomeName t.outcome))::("receipt_id",.str t.receiptId)::
    ("completed_unix_ms",.num t.completedUnixMs)::
    optionalField "final_evidence" t.finalEvidence evidenceValue)

end Documents

section Sizes

open JsonValue (size sizeFields sizeFields_append sizeFields_optionalField size_map)

theorem size_checkValue (c : CheckSnapshot) : size (checkValue c) = checkJson c := by
  cases hsuperseded : c.superseded <;>
    simp [checkValue,checkFields,checkJson,size,sizeFields_append,sizeFields_optionalField,
      sizeFields,Json.object,Json.field,hsuperseded]

theorem size_textsValue (l : List String) : size (textsValue l) = textsJson l :=
  size_map (fun _ => rfl) l

theorem size_numbersValue (l : List PrNumber) : size (numbersValue l) = numbersJson l :=
  size_map (fun _ => rfl) l

theorem size_checksValue (l : List CheckSnapshot) :
    size (checksValue l) = Json.array (l.map checkJson) :=
  size_map size_checkValue l

theorem size_autoMergeValue (m : AutoMergeState) : size (autoMergeValue m) = autoMergeJson m := by
  have hmethod : (fun method => size (mergeMethodValue method)) = fun _ => Json.str "squash" := by
    funext method
    cases method
    rfl
  simp [autoMergeValue,autoMergeJson,size,sizeFields_append,sizeFields_optionalField,sizeFields,
    Json.object,Json.field,hmethod]

theorem size_preconditionValue (p : PullRequestPrecondition) :
    size (preconditionValue p) = preconditionJson p := by
  simp [preconditionValue,preconditionJson,size,sizeFields_append,sizeFields_optionalField,
    sizeFields,Json.object,Json.field,size_textsValue,size_checksValue,size_autoMergeValue]

theorem size_bindingValue (b : RecoveryBinding) : size (bindingValue b) = bindingJson b := by
  simp [bindingValue,bindingJson,size,sizeFields,Json.object,Json.field,size_numbersValue]

theorem size_recoveryValue (r : RecoveryRecord) : size (recoveryValue r) = recoveryJson r := by
  simp [recoveryValue,recoveryJson,size,sizeFields,Json.object,Json.field,size_bindingValue]

theorem size_recordValue (r : PauseRecord) : size (recordValue r) = recordJson r := by
  simp [recordValue,recordJson,size,sizeFields_append,sizeFields_optionalField,sizeFields,
    Json.object,Json.field,size_numbersValue,size_preconditionValue,size_checksValue,
    funext size_recoveryValue]

theorem size_attributionValue (a : CheckAttribution) :
    size (attributionValue a) = attributionJson a := by
  simp [attributionValue,attributionJson,size,sizeFields,Json.object,Json.field]

theorem size_syntheticValue (s : SyntheticMergeCandidate) :
    size (syntheticValue s) = syntheticJson s := by
  simp [syntheticValue,syntheticJson,size,sizeFields,Json.object,Json.field,size_textsValue]

theorem size_evidenceValue (e : FinalEvidence) : size (evidenceValue e) = evidenceJson e := by
  simp [evidenceValue,evidenceJson,size,sizeFields,Json.object,Json.field,size_textsValue,
    size_syntheticValue,size_attributionValue]

theorem size_receiptValue (t : TerminalReceipt) : size (receiptValue t) = receiptJson t := by
  simp [receiptValue,receiptJson,size,sizeFields_optionalField,sizeFields,Json.object,Json.field,
    size_bindingValue,funext size_evidenceValue]

end Sizes

section Readers

/-- A number, or the key of a JSON object that spells one. -/
def numberOf : JsonValue → Option PrNumber
  | .num n => some n
  | .str s => Text.parseU64 s.toList
  | _ => none

def prStateOf (name : String) : Option PullRequestState :=
  [.open,.closed,.merged].find? fun state => decide (prStateName state = name)

def checkpointOf (name : String) : Option Checkpoint :=
  [.prepared,.baseCheckpointed,.headCheckpointed].find? fun checkpoint =>
    decide (checkpointName checkpoint = name)

def outcomeOf (name : String) : Option TerminalOutcome :=
  [.finalized,.rolledBack].find? fun outcome => decide (outcomeName outcome = name)

def mergeMethodOf (v : JsonValue) : Option MergeMethod :=
  v.asStr.bind fun s => if s = "squash" then some .squash else none

def autoMergeOf (v : JsonValue) : Option AutoMergeState := do
  let fields ← v.asObj
  let enabled ← required fields "enabled" asBool
  let mergeMethod ← optional fields "merge_method" mergeMethodOf
  let actor ← optional fields "actor" asStr
  return ⟨enabled,mergeMethod,actor⟩

def listed {α : Type} (fields : List (String × JsonValue)) (key : String)
    (reader : JsonValue → Option α) : Option (List α) :=
  match fields.lookup key with
  | none => some []
  | some v => asList reader v

def preconditionOf (v : JsonValue) : Option PullRequestPrecondition := do
  let fields ← v.asObj
  let number ← required fields "number" numberOf
  let state ← required fields "state" fun s => s.asStr.bind prStateOf
  let mergedAt ← optional fields "merged_at" asStr
  let headOid ← required fields "head_oid" asStr
  let baseRef ← required fields "base_ref" asStr
  let baseOid ← required fields "base_oid" asStr
  let labels ← required fields "labels" (asList asStr)
  let checks ← listed fields "checks" checkOf
  let autoMerge ← required fields "auto_merge" autoMergeOf
  return ⟨number,state,mergedAt,headOid,baseRef,baseOid,labels.toFinset,checks,autoMerge⟩

def bindingOf (v : JsonValue) : Option RecoveryBinding := do
  let fields ← v.asObj
  let schemaVersion ← required fields "schema_version" asNum
  let operationId ← required fields "operation_id" asStr
  let externalReference ← required fields "external_reference" asStr
  let idempotencyKey ← required fields "idempotency_key" asStr
  let actor ← required fields "actor" asStr
  let ownerProject ← required fields "owner_project" asStr
  let ownerAgent ← required fields "owner_agent" asStr
  let ownershipGeneration ← required fields "ownership_generation" asStr
  let repository ← required fields "repository" asStr
  let caravanId ← required fields "caravan_id" numberOf
  let members ← required fields "members" (asList numberOf)
  let pauseId ← required fields "pause_id" asStr
  let pauseGeneration ← required fields "pause_generation" asStr
  let targetPr ← required fields "target_pr" numberOf
  let expectedBaseRef ← required fields "expected_base_ref" asStr
  let expectedBaseOid ← required fields "expected_base_oid" asStr
  let expectedHeadOid ← required fields "expected_head_oid" asStr
  let desiredBaseRef ← required fields "desired_base_ref" asStr
  let desiredBaseOid ← required fields "desired_base_oid" asStr
  let desiredHeadOid ← required fields "desired_head_oid" asStr
  let desiredHeadTree ← required fields "desired_head_tree" asStr
  let reason ← required fields "reason" asStr
  return {
    schemaVersion := schemaVersion
    operationId := operationId
    externalReference := externalReference
    idempotencyKey := idempotencyKey
    actor := actor
    ownerProject := ownerProject
    ownerAgent := ownerAgent
    ownershipGeneration := ownershipGeneration
    repository := repository
    caravanId := caravanId
    members := members
    pauseId := pauseId
    pauseGeneration := pauseGeneration
    targetPr := targetPr
    expectedBaseRef := expectedBaseRef
    expectedBaseOid := expectedBaseOid
    expectedHeadOid := expectedHeadOid
    desiredBaseRef := desiredBaseRef
    desiredBaseOid := desiredBaseOid
    desiredHeadOid := desiredHeadOid
    desiredHeadTree := desiredHeadTree
    reason := reason }

def recoveryOf (v : JsonValue) : Option RecoveryRecord := do
  let fields ← v.asObj
  let version ← required fields "version" asNum
  let binding ← required fields "binding" bindingOf
  let checkpoint ← required fields "checkpoint" fun s => s.asStr.bind checkpointOf
  let receiptId ← required fields "receipt_id" asStr
  let preparedUnixMs ← required fields "prepared_unix_ms" asNum
  let updatedUnixMs ← required fields "updated_unix_ms" asNum
  return ⟨version,binding,checkpoint,receiptId,preparedUnixMs,updatedUnixMs⟩

def recordOf (v : JsonValue) : Option PauseRecord := do
  let fields ← v.asObj
  let version ← required fields "version" asNum
  let caravanHead ← required fields "caravan_head" numberOf
  let members ← required fields "members" (asList numberOf)
  let expectedHead ← required fields "expected_head" preconditionOf
  let expectedChecks ← required fields "expected_checks" (asList checkOf)
  let actor ← required fields "actor" asStr
  let reason ← required fields "reason" asStr
  let pausedUnixSecs ← required fields "paused_unix_secs" asNum
  let expiresUnixSecs ← optional fields "expires_unix_secs" asNum
  let externalReference ← optional fields "external_reference" asStr
  let resumeAuthorizedBy ← optional fields "resume_authorized_by" asStr
  let recovery ← optional fields "recovery" recoveryOf
  return {
    version := version
    caravanHead := caravanHead
    members := members
    expectedHead := expectedHead
    expectedChecks := expectedChecks
    actor := actor
    reason := reason
    pausedUnixSecs := pausedUnixSecs
    expiresUnixSecs := expiresUnixSecs
    externalReference := externalReference
    resumeAuthorizedBy := resumeAuthorizedBy
    recovery := recovery }

def attributionOf (v : JsonValue) : Option CheckAttribution := do
  let fields ← v.asObj
  let headOid ← required fields "head_oid" asStr
  let checkRunCount ← required fields "check_run_count" asNum
  let statusContextCount ← required fields "status_context_count" asNum
  return ⟨headOid,checkRunCount,statusContextCount⟩

def syntheticOf (v : JsonValue) : Option SyntheticMergeCandidate := do
  let fields ← v.asObj
  let gitRef ← required fields "git_ref" asStr
  let oid ← required fields "oid" asStr
  let treeOid ← required fields "tree_oid" asStr
  let parents ← required fields "parents" (asList asStr)
  return ⟨gitRef,oid,treeOid,parents⟩

def evidenceOf (v : JsonValue) : Option FinalEvidence := do
  let fields ← v.asObj
  let head ← required fields "head" asStr
  let headTree ← required fields "head_tree" asStr
  let headParents ← required fields "head_parents" (asList asStr)
  let virtualMerge ← required fields "virtual_merge" syntheticOf
  let checkAttribution ← required fields "check_attribution" attributionOf
  return ⟨head,headTree,headParents,virtualMerge,checkAttribution⟩

def receiptOf (v : JsonValue) : Option TerminalReceipt := do
  let fields ← v.asObj
  let version ← required fields "version" asNum
  let binding ← required fields "binding" bindingOf
  let outcome ← required fields "outcome" fun s => s.asStr.bind outcomeOf
  let receiptId ← required fields "receipt_id" asStr
  let completedUnixMs ← required fields "completed_unix_ms" asNum
  let finalEvidence ← optional fields "final_evidence" evidenceOf
  return ⟨version,binding,outcome,receiptId,completedUnixMs,finalEvidence⟩

end Readers

section RoundTrips

theorem checkOf_checkValue (c : CheckSnapshot) : checkOf (checkValue c) = some c := by
  apply HoldsCheck.read
  constructor <;> simp [checkFields]

theorem prStateOf_name (state : PullRequestState) : prStateOf (prStateName state) = some state := by
  cases state <;> decide

theorem checkpointOf_name (checkpoint : Checkpoint) :
    checkpointOf (checkpointName checkpoint) = some checkpoint := by
  cases checkpoint <;> decide

theorem outcomeOf_name (outcome : TerminalOutcome) :
    outcomeOf (outcomeName outcome) = some outcome := by
  cases outcome <;> decide

theorem asList_numbers (l : List PrNumber) : asList numberOf (numbersValue l) = some l := by
  apply JsonValue.asList_map
  intro n
  rfl

theorem bindingOf_bindingValue (b : RecoveryBinding) : bindingOf (bindingValue b) = some b := by
  calc bindingOf (bindingValue b)
      = (asList numberOf (numbersValue b.members)).bind fun members =>
          some { b with members := members } := rfl
    _ = some b := by
      rw [asList_numbers]
      rfl

theorem asList_texts (l : List String) : asList asStr (textsValue l) = some l := by
  apply JsonValue.asList_map
  intro text
  rfl

theorem asList_checks (l : List CheckSnapshot) : asList checkOf (checksValue l) = some l :=
  JsonValue.asList_map checkOf_checkValue l

theorem autoMergeOf_autoMergeValue (m : AutoMergeState) :
    autoMergeOf (autoMergeValue m) = some m := by
  rcases m with ⟨enabled,_ | method,_ | actor⟩
  · rfl
  · rfl
  · cases method
    rfl
  · cases method
    rfl

theorem preconditionOf_preconditionValue (p : PullRequestPrecondition) :
    preconditionOf (preconditionValue p) = some p := by
  have hstate (fields : List (String × JsonValue))
      (hlookup : fields.lookup "state" = some (.str (prStateName p.state))) :
      required fields "state" (fun s => s.asStr.bind prStateOf) = some p.state :=
    JsonValue.required_eq hlookup (prStateOf_name p.state)
  have hchecks (fields : List (String × JsonValue))
      (hlookup : fields.lookup "checks" = some (checksValue p.checks)) :
      listed fields "checks" checkOf = some p.checks := by
    unfold listed
    rw [hlookup]
    exact asList_checks p.checks
  have htext (fields : List (String × JsonValue)) (key text : String)
      (hlookup : fields.lookup key = some (.str text)) : required fields key asStr = some text :=
    JsonValue.required_eq hlookup rfl
  refine (JsonValue.read_bind (JsonValue.asObj_obj _) _).trans ?_
  refine (JsonValue.read_bind (a := p.number) rfl _).trans ?_
  refine (JsonValue.read_bind (hstate _ (by simp)) _).trans ?_
  refine (JsonValue.read_bind (a := p.mergedAt) (JsonValue.optional_str (by simp)) _).trans ?_
  refine (JsonValue.read_bind (htext _ "head_oid" p.headOid (by simp)) _).trans ?_
  refine (JsonValue.read_bind (htext _ "base_ref" p.baseRef (by simp)) _).trans ?_
  refine (JsonValue.read_bind (htext _ "base_oid" p.baseOid (by simp)) _).trans ?_
  refine (JsonValue.read_bind (JsonValue.required_eq (by simp)
    (asList_texts (p.labels.sort (· ≤ ·)))) _).trans ?_
  refine (JsonValue.read_bind (hchecks _ (by simp)) _).trans ?_
  refine (JsonValue.read_bind (JsonValue.required_eq (by simp)
    (autoMergeOf_autoMergeValue p.autoMerge)) _).trans ?_
  rw [Finset.sort_toFinset]
  rfl

theorem recoveryOf_recoveryValue (r : RecoveryRecord) : recoveryOf (recoveryValue r) = some r := by
  have hcheckpoint (fields : List (String × JsonValue))
      (hlookup : fields.lookup "checkpoint" = some (.str (checkpointName r.checkpoint))) :
      required fields "checkpoint" (fun s => s.asStr.bind checkpointOf) = some r.checkpoint :=
    JsonValue.required_eq hlookup (checkpointOf_name r.checkpoint)
  refine (JsonValue.read_bind (JsonValue.asObj_obj _) _).trans ?_
  refine (JsonValue.read_bind (a := r.version) rfl _).trans ?_
  refine (JsonValue.read_bind (JsonValue.required_eq (by simp)
    (bindingOf_bindingValue r.binding)) _).trans ?_
  refine (JsonValue.read_bind (hcheckpoint _ (by simp)) _).trans ?_
  refine (JsonValue.read_bind (a := r.receiptId) rfl _).trans ?_
  refine (JsonValue.read_bind (a := r.preparedUnixMs) rfl _).trans ?_
  refine (JsonValue.read_bind (a := r.updatedUnixMs) rfl _).trans ?_
  rfl

theorem recordOf_recordValue (r : PauseRecord) : recordOf (recordValue r) = some r := by
  have hmembers := asList_numbers r.members
  have hchecks := asList_checks r.expectedChecks
  have hhead := preconditionOf_preconditionValue r.expectedHead
  have hrecovery : ∀ fields : List (String × JsonValue),
      fields.lookup "recovery" = r.recovery.map recoveryValue →
      optional fields "recovery" recoveryOf = some r.recovery := fun fields hlookup =>
    JsonValue.optional_eq hlookup recoveryOf_recoveryValue fun _ => JsonValue.noConfusion
  refine (JsonValue.read_bind (JsonValue.asObj_obj _) _).trans ?_
  refine (JsonValue.read_bind (a := r.version) rfl _).trans ?_
  refine (JsonValue.read_bind (a := r.caravanHead) rfl _).trans ?_
  refine (JsonValue.read_bind (JsonValue.required_eq (by simp) hmembers) _).trans ?_
  refine (JsonValue.read_bind (JsonValue.required_eq (by simp) hhead) _).trans ?_
  refine (JsonValue.read_bind (JsonValue.required_eq (by simp) hchecks) _).trans ?_
  refine (JsonValue.read_bind (a := r.actor) rfl _).trans ?_
  refine (JsonValue.read_bind (a := r.reason) rfl _).trans ?_
  refine (JsonValue.read_bind (a := r.pausedUnixSecs) rfl _).trans ?_
  refine (JsonValue.read_bind (a := r.expiresUnixSecs) (JsonValue.optional_num (by simp)) _).trans ?_
  refine (JsonValue.read_bind (a := r.externalReference) (JsonValue.optional_str (by simp)) _).trans ?_
  refine (JsonValue.read_bind (a := r.resumeAuthorizedBy) (JsonValue.optional_str (by simp)) _).trans ?_
  refine (JsonValue.read_bind (a := r.recovery) (hrecovery _ (by simp)) _).trans ?_
  rfl

theorem syntheticOf_syntheticValue (s : SyntheticMergeCandidate) :
    syntheticOf (syntheticValue s) = some s := by
  calc syntheticOf (syntheticValue s)
      = (asList asStr (textsValue s.parents)).bind fun parents =>
          some { s with parents := parents } := rfl
    _ = some s := by
      rw [asList_texts]
      rfl

theorem evidenceOf_evidenceValue (e : FinalEvidence) : evidenceOf (evidenceValue e) = some e := by
  calc evidenceOf (evidenceValue e)
      = (asList asStr (textsValue e.headParents)).bind fun headParents =>
          (syntheticOf (syntheticValue e.virtualMerge)).bind fun virtualMerge =>
          some { e with
            headParents := headParents
            virtualMerge := virtualMerge } := rfl
    _ = some e := by
      rw [asList_texts,syntheticOf_syntheticValue]
      rfl

theorem receiptOf_receiptValue (t : TerminalReceipt) : receiptOf (receiptValue t) = some t := by
  have houtcome (fields : List (String × JsonValue))
      (hlookup : fields.lookup "outcome" = some (.str (outcomeName t.outcome))) :
      required fields "outcome" (fun s => s.asStr.bind outcomeOf) = some t.outcome :=
    JsonValue.required_eq hlookup (outcomeOf_name t.outcome)
  have hevidence (fields : List (String × JsonValue))
      (hlookup : fields.lookup "final_evidence" = t.finalEvidence.map evidenceValue) :
      optional fields "final_evidence" evidenceOf = some t.finalEvidence :=
    JsonValue.optional_eq hlookup evidenceOf_evidenceValue fun _ => JsonValue.noConfusion
  refine (JsonValue.read_bind (JsonValue.asObj_obj _) _).trans ?_
  refine (JsonValue.read_bind (a := t.version) rfl _).trans ?_
  refine (JsonValue.read_bind (JsonValue.required_eq (by simp)
    (bindingOf_bindingValue t.binding)) _).trans ?_
  refine (JsonValue.read_bind (houtcome _ (by simp)) _).trans ?_
  refine (JsonValue.read_bind (a := t.receiptId) rfl _).trans ?_
  refine (JsonValue.read_bind (a := t.completedUnixMs) rfl _).trans ?_
  refine (JsonValue.read_bind (hevidence _ (by simp)) _).trans ?_
  rfl

end RoundTrips

section Files

structure Files where
  records : PrNumber → Option (List Char)
  terminals : String → Option (List Char)

def Files.empty : Files := ⟨fun _ => none,fun _ => none⟩

def recordText (r : PauseRecord) : List Char := (recordValue r).text (some 0)

def receiptText (t : TerminalReceipt) : List Char := (receiptValue t).text (some 0)

def storageError (code message : String) : PauseError where
  category := .executionFailure
  code := code
  message := message
  details := some [("next","repair local Git metadata storage; do not bypass the hold")]

-- the reader's own words about a malformed text
variable (describe : List Char → String)

def loadOne (files : Files) (head : PrNumber) : Except PauseError (Option PauseRecord) :=
  match files.records head with
  | none => .ok none
  | some text =>
      if maxFileBytes < JsonValue.bytes text then
        .error recordTooLarge
      else match (JsonValue.read text).bind recordOf with
        | some record => .ok (some record)
        | none => .error (storageError "pause_record_invalid"
            ("pause record is invalid: " ++ describe text))

/-- A JSON file of the directory; its name may not be a number. -/
def loadEntry (files : Files) : Option PrNumber → Except PauseError (Option PauseRecord)
  | none => .error (storageError "pause_record_invalid" "pause filename is not a PR number")
  | some head => loadOne describe files head

def loadAll (files : Files) (entries : List (Option PrNumber)) :
    Except PauseError (List PauseRecord) := do
  let found ← entries.mapM (loadEntry describe files)
  return found.filterMap id

/-- Holds in the status: the auto-merge problem of a suspended head is hidden. -/
def applyToStatus (files : Files) (entries : List (Option PrNumber)) (now : ℕ)
    (status : StatusOutput) : Except PauseError StatusOutput := do
  let records ← loadAll describe files entries
  let reports := records.map (classify status now)
  let hidden (problem : GraphProblem) := reports.any fun report =>
    report.state.isEffective && report.autoMergeSuspended &&
      decide (problem.kind = .autoMergeInvariant ∧ problem.prs = [report.record.caravanHead])
  let fleet := status.analysis.fleet
  return { status with
    analysis := { status.analysis with
      fleet := { fleet with problems := fleet.problems.filter fun problem => !hidden problem } }
    pauses := StableSort.sortByKey (fun report => report.record.caravanHead) reports }

/-- The file appears by a rename, behind the file-system calls before it. -/
def writeRecord (files : Files) (io : Except PauseError Unit) (record : PauseRecord) :
    Except PauseError Files := do
  validateRecordSize record
  io
  return { files with
    records := Function.update files.records record.caravanHead (some (recordText record)) }

variable (digest : String → String)

def loadTerminalReceipt (files : Files) (binding : RecoveryBinding) :
    Except PauseError (Option TerminalReceipt) :=
  match files.terminals (terminalPath digest binding) with
  | none => .ok none
  | some text =>
      if maxFileBytes < JsonValue.bytes text then
        .error (storageError "pause_recovery_receipt_too_large"
          "terminal recovery receipt exceeds its safe bound")
      else match (JsonValue.read text).bind receiptOf with
        | none => .error (storageError "pause_recovery_receipt_invalid"
            ("terminal recovery receipt is invalid: " ++ describe text))
        | some receipt =>
            if receipt.binding.idempotencyKey ≠ binding.idempotencyKey then
              .error (recoveryMismatch "terminal.idempotency_key")
            else .ok (some receipt)

def writeTerminalReceipt (files : Files) (io : Except PauseError Unit)
    (receipt : TerminalReceipt) : Except PauseError Files := do
  let path := terminalPath digest receipt.binding
  let text := receiptText receipt
  Guard.refuse (decide (maxFileBytes < JsonValue.bytes text))
    (validationError "pause_recovery_receipt_too_large"
      "terminal recovery receipt exceeds its 64 KiB non-secret evidence bound")
  match files.terminals path with
  | some existing => do
      Guard.refuse (decide (existing ≠ text))
        (validationError "pause_recovery_idempotency_conflict"
          "idempotency key already names a different terminal receipt")
      return files
  | none => do
      io
      return { files with terminals := Function.update files.terminals path (some text) }

end Files

section RoundTrip

variable {describe : List Char → String} {digest : String → String} {files files' : Files}
  {io : Except PauseError Unit} {record : PauseRecord} {receipt : TerminalReceipt}

theorem bytes_recordText (r : PauseRecord) : JsonValue.bytes (recordText r) = r.fileBytes := by
  unfold recordText
  rw [JsonValue.bytes_text,size_recordValue]
  rfl

theorem bytes_receiptText (t : TerminalReceipt) : JsonValue.bytes (receiptText t) = t.fileBytes := by
  unfold receiptText
  rw [JsonValue.bytes_text,size_receiptValue]
  rfl

theorem read_recordText (r : PauseRecord) :
    (JsonValue.read (recordText r)).bind recordOf = some r := by
  unfold recordText
  rw [JsonValue.read_text,Option.bind_some,recordOf_recordValue]

theorem read_receiptText (t : TerminalReceipt) :
    (JsonValue.read (receiptText t)).bind receiptOf = some t := by
  unfold receiptText
  rw [JsonValue.read_text,Option.bind_some,receiptOf_receiptValue]

/-- A stored record is either too large for its reader or read back. -/
theorem loadOne_stored (describe : List Char → String)
    (h : files.records record.caravanHead = some (recordText record)) :
    loadOne describe files record.caravanHead =
      if maxFileBytes < record.fileBytes then
        .error recordTooLarge
      else .ok (some record) := by
  unfold loadOne
  rw [h]
  dsimp only
  rw [bytes_recordText,read_recordText]

theorem loadAll_error {entries : List (Option PrNumber)} {entry : Option PrNumber} {e : PauseError}
    (hentry : entry ∈ entries) (h : loadEntry describe files entry = .error e) :
    ∃ e', loadAll describe files entries = .error e' := by
  cases hall : loadAll describe files entries with
  | error e' => exact ⟨e',rfl⟩
  | ok records =>
    obtain ⟨found,hfound,-⟩ := Guard.bind_eq_ok.mp hall
    obtain ⟨found',-,hload⟩ := Guard.mem_of_mapM_eq_ok hfound hentry
    rw [h] at hload
    cases hload

theorem loadAll_ok {entries : List (Option PrNumber)}
    (hrecord : loadOne describe files record.caravanHead = .ok (some record))
    (hmem : some record.caravanHead ∈ entries)
    (hothers : ∀ entry ∈ entries, ∃ found, loadEntry describe files entry = .ok found) :
    ∃ records, loadAll describe files entries = .ok records ∧ record ∈ records := by
  obtain ⟨found,hfound⟩ := Guard.mapM_ok hothers
  refine ⟨found.filterMap id,?_,?_⟩
  · unfold loadAll
    rw [hfound]
    rfl
  · obtain ⟨found',hmem',hload⟩ := Guard.mem_of_mapM_eq_ok hfound hmem
    have hsame : loadEntry describe files (some record.caravanHead) = .ok (some record) := hrecord
    rw [hsame] at hload
    cases hload
    exact List.mem_filterMap.mpr ⟨some record,hmem',rfl⟩

/-- A status succeeds exactly when the inventory does, and reports every record of it. -/
theorem applyToStatus_of_ok {entries : List (Option PrNumber)} {records : List PauseRecord}
    (h : loadAll describe files entries = .ok records) (now : ℕ) (status : StatusOutput) :
    ∃ status', applyToStatus describe files entries now status = .ok status' ∧
      ∀ r ∈ records, r ∈ status'.pauses.map (·.record) := by
  unfold applyToStatus
  rw [h]
  refine ⟨_,rfl,?_⟩
  intro r hr
  refine List.mem_map.mpr ⟨classify status now r,?_,rfl⟩
  exact (StableSort.sortByKey_perm _ _).mem_iff.mpr (List.mem_map_of_mem hr)

theorem applyToStatus_of_error {entries : List (Option PrNumber)} {e : PauseError}
    (h : loadAll describe files entries = .error e) (now : ℕ) (status : StatusOutput) :
    applyToStatus describe files entries now status = .error e := by
  unfold applyToStatus
  rw [h]
  rfl

/-- A later reader finds exactly the record, and it fails no inventory and no status in which
every other file can be read. -/
structure ReadBack (describe : List Char → String) (files : Files) (record : PauseRecord) :
    Prop where
  one : loadOne describe files record.caravanHead = .ok (some record)
  all : ∀ entries : List (Option PrNumber), some record.caravanHead ∈ entries →
    (∀ entry ∈ entries, entry ≠ some record.caravanHead →
      ∃ found, loadEntry describe files entry = .ok found) →
    ∃ records, loadAll describe files entries = .ok records ∧ record ∈ records
  status : ∀ entries : List (Option PrNumber), some record.caravanHead ∈ entries →
    (∀ entry ∈ entries, entry ≠ some record.caravanHead →
      ∃ found, loadEntry describe files entry = .ok found) →
    ∀ now status, ∃ status', applyToStatus describe files entries now status = .ok status' ∧
      record ∈ status'.pauses.map (·.record)

theorem ReadBack.of_loadOne (h : loadOne describe files record.caravanHead = .ok (some record)) :
    ReadBack describe files record := by
  have hall : ∀ entries : List (Option PrNumber), some record.caravanHead ∈ entries →
      (∀ entry ∈ entries, entry ≠ some record.caravanHead →
        ∃ found, loadEntry describe files entry = .ok found) →
      ∃ records, loadAll describe files entries = .ok records ∧ record ∈ records := by
    intro entries hmem hothers
    apply loadAll_ok h hmem
    intro entry hentry
    by_cases hself : entry = some record.caravanHead
    · rw [hself]
      exact ⟨some record,h⟩
    · exact hothers entry hentry hself
  refine ⟨h,hall,?_⟩
  intro entries hmem hothers now status
  obtain ⟨records,hload,hrecord⟩ := hall entries hmem hothers
  obtain ⟨status',hstatus,hreported⟩ := applyToStatus_of_ok hload now status
  exact ⟨status',hstatus,hreported record hrecord⟩

theorem writeRecord_eq_ok (h : writeRecord files io record = .ok files') :
    record.encodedBytes ≤ maxFileBytes ∧ files'.records record.caravanHead =
      some (recordText record) := by
  obtain ⟨hsize,h⟩ := Guard.unit_bind_eq_ok.mp h
  obtain ⟨-,h⟩ := Guard.unit_bind_eq_ok.mp h
  cases h
  rw [validateRecordSize,Guard.refuse_eq_ok,decide_eq_false_iff_not] at hsize
  exact ⟨by omega,Function.update_self _ _ _⟩

theorem readBack_iff (h : files.records record.caravanHead = some (recordText record)) :
    ReadBack describe files record ↔ record.fileBytes ≤ maxFileBytes := by
  have hload := loadOne_stored describe h
  by_cases hlarge : maxFileBytes < record.fileBytes
  · rw [if_pos hlarge] at hload
    constructor
    · intro hread
      rw [hread.one] at hload
      cases hload
    · intro hsmall
      omega
  · rw [if_neg hlarge] at hload
    exact ⟨fun _ => by omega,fun _ => .of_loadOne hload⟩

theorem writeTerminalReceipt_eq_ok
    (h : writeTerminalReceipt digest files io receipt = .ok files') :
    receipt.fileBytes ≤ maxFileBytes ∧ files'.terminals (terminalPath digest receipt.binding) =
      some (receiptText receipt) := by
  obtain ⟨hsize,h⟩ := Guard.unit_bind_eq_ok.mp h
  rw [Guard.refuse_eq_ok,decide_eq_false_iff_not,bytes_receiptText] at hsize
  refine ⟨by omega,?_⟩
  split at h
  case h_1 existing hexisting =>
    obtain ⟨hsame,h⟩ := Guard.unit_bind_eq_ok.mp h
    cases h
    rw [Guard.refuse_eq_ok,decide_eq_false_iff_not,not_not] at hsame
    rw [hexisting,hsame]
  case h_2 =>
    obtain ⟨-,h⟩ := Guard.unit_bind_eq_ok.mp h
    cases h
    exact Function.update_self _ _ _

theorem loadTerminalReceipt_stored (hsize : receipt.fileBytes ≤ maxFileBytes)
    (h : files.terminals (terminalPath digest receipt.binding) = some (receiptText receipt)) :
    loadTerminalReceipt describe digest files receipt.binding = .ok (some receipt) := by
  have hfits : ¬ maxFileBytes < receipt.fileBytes := by omega
  unfold loadTerminalReceipt
  rw [h]
  dsimp only
  rw [bytes_receiptText,if_neg hfits,read_receiptText]
  exact if_neg (not_not.mpr rfl)

/-- A written record is read back exactly when its indented text keeps to the bound; a written
terminal receipt always is. -/
theorem pauseStorage_readBack (describe : List Char → String) :
    (∀ (files files' : Files) (io : Except PauseError Unit) (record : PauseRecord),
      writeRecord files io record = .ok files' →
      (ReadBack describe files' record ↔ record.fileBytes ≤ maxFileBytes)) ∧
    ∀ (digest : String → String) (files files' : Files) (io : Except PauseError Unit)
      (receipt : TerminalReceipt),
      writeTerminalReceipt digest files io receipt = .ok files' →
      loadTerminalReceipt describe digest files' receipt.binding = .ok (some receipt) := by
  constructor
  · intro files files' io record hwrite
    exact readBack_iff (writeRecord_eq_ok hwrite).2
  · intro digest files files' io receipt hwrite
    obtain ⟨hsize,hstored⟩ := writeTerminalReceipt_eq_ok hwrite
    exact loadTerminalReceipt_stored hsize hstored

end RoundTrip

section Example

/-- A hold of caravan #1 with this many check rows on its head. -/
def heldRecord (checks : ℕ) : PauseRecord where
  version := 1
  caravanHead := 1
  members := [1]
  expectedHead := {
    number := 1
    state := .open
    headOid := oldHead
    baseRef := "main"
    baseOid := oldBase
    labels := {"caravan"}
    checks := List.replicate checks buildCheck
    autoMerge := .squash }
  expectedChecks := List.replicate checks buildCheck
  actor := "ops"
  reason := "incident"
  pausedUnixSecs := 1700000000

/-- With 450 check rows on the head the record is accepted, and from then on neither it nor any
status of the repository can be read. -/
theorem heldRecord_not_readBack : ∃ files',
    writeRecord Files.empty (.ok ()) (heldRecord 450) = .ok files' ∧
    ∀ describe, ¬ ReadBack describe files' (heldRecord 450) ∧
      (∃ e, loadOne describe files' 1 = .error e) ∧
      ∀ entries, some 1 ∈ entries → ∀ now status,
        ∃ e, applyToStatus describe files' entries now status = .error e := by
  have hcompact : (heldRecord 450).encodedBytes ≤ maxFileBytes := by decide +kernel
  have hlarge : maxFileBytes < (heldRecord 450).fileBytes := by decide +kernel
  have hwrite : ∃ files', writeRecord Files.empty (.ok ()) (heldRecord 450) = .ok files' := by
    unfold writeRecord
    rw [show validateRecordSize (heldRecord 450) = .ok () from
      (Guard.refuse_eq_ok _ _ ()).mpr (decide_eq_false (by omega))]
    exact ⟨_,rfl⟩
  obtain ⟨files',hwrite⟩ := hwrite
  have hstored := (writeRecord_eq_ok hwrite).2
  refine ⟨files',hwrite,?_⟩
  intro describe
  have hload := loadOne_stored describe hstored
  rw [if_pos hlarge] at hload
  refine ⟨?_,⟨_,hload⟩,?_⟩
  · intro hread
    have hsmall := (readBack_iff hstored).mp hread
    omega
  · intro entries hmem now status
    have hentry : loadEntry describe files' (some 1) = .error recordTooLarge := hload
    obtain ⟨e,hall⟩ := loadAll_error hmem hentry
    exact ⟨e,applyToStatus_of_error hall now status⟩

def rolledBackReceipt (binding : RecoveryBinding) : TerminalReceipt where
  version := 1
  binding := binding
  outcome := .rolledBack
  receiptId := "op-rollback"
  completedUnixMs := 1700000000000

/-- One check row keeps the record readable, beside the receipt of its rollback. -/
theorem pauseStorage_readBack_one : ∃ binding files' files'',
    recoveryBinding (retargetInput 1) = .ok binding ∧
    writeRecord Files.empty (.ok ()) (heldRecord 1) = .ok files' ∧
    writeTerminalReceipt retargetDigest files' (.ok ()) (rolledBackReceipt binding) = .ok files'' ∧
    ReadBack String.ofList files' (heldRecord 1) ∧
    loadTerminalReceipt String.ofList retargetDigest files'' binding =
      .ok (some (rolledBackReceipt binding)) := by
  have hwritten : (do
      let binding ← recoveryBinding (retargetInput 1)
      let files' ← writeRecord Files.empty (.ok ()) (heldRecord 1)
      let _ ← writeTerminalReceipt retargetDigest files' (.ok ()) (rolledBackReceipt binding)
      return ()).isOk = true := by
    decide +kernel
  have hsmall : (heldRecord 1).fileBytes ≤ maxFileBytes := by decide +kernel
  obtain ⟨binding,hbinding,h⟩ := Guard.bind_eq_ok.mp (Guard.isOk_iff.mp hwritten)
  obtain ⟨files',hrecord,h⟩ := Guard.bind_eq_ok.mp h
  obtain ⟨files'',hreceipt,_⟩ := Guard.bind_eq_ok.mp h
  obtain ⟨hread,hload⟩ := pauseStorage_readBack String.ofList
  exact ⟨binding,files',files'',hbinding,hrecord,hreceipt,(hread _ _ _ _ hrecord).mpr hsmall,
    hload _ _ _ _ _ hreceipt⟩

end Example

end Storage
end Pause
end Cara
