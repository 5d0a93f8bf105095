import Cara.PauseModel
import Cara.Lib.JsonRecord

/-! Check rows as documents: the reader finds each field by its name, so a row is read back
from any order of its fields. -/
namespace Cara

open JsonValue (required optional asStr asNum asBool)

def checkStateOf (name : String) : Option CheckState :=
  [.expected,.queued,.inProgress,.success,.failure,.neutral,.skipped,.cancelled,.timedOut,
    .actionRequired,.unknown].find? fun state => decide (Pause.checkStateName state = name)

theorem checkStateOf_name (state : CheckState) :
    checkStateOf (Pause.checkStateName state) = some state := by
  cases state <;> decide

def checkOf (v : JsonValue) : Option CheckSnapshot := do
  let fields ← v.asObj
  let name ← required fields "name" asStr
  let state ← required fields "state" fun s => s.asStr.bind checkStateOf
  let providerState ← optional fields "provider_state" asStr
  let detailsUrl ← optional fields "details_url" asStr
  let providerKind ← optional fields "provider_kind" asStr
  let workflowName ← optional fields "workflow_name" asStr
  let appId ← optional fields "app_id" asNum
  let checkSuiteId ← optional fields "check_suite_id" asNum
  let headOid ← optional fields "head_oid" asStr
  let startedAt ← optional fields "started_at" asStr
  let completedAt ← optional fields "completed_at" asStr
  let superseded ← optional fields "superseded" asBool
  return {
    name := name
    state := state
    providerState := providerState
    detailsUrl := detailsUrl
    providerKind := providerKind
    workflowName := workflowName
    appId := appId
    checkSuiteId := checkSuiteId
    headOid := headOid
    startedAt := startedAt
    completedAt := completedAt
    superseded := superseded.getD false }

structure HoldsCheck (fields : List (String × JsonValue)) (c : CheckSnapshot) : Prop where
  name : fields.lookup "name" = some (.str c.name)
  state : fields.lookup "state" = some (.str (Pause.checkStateName c.state))
  providerState : fields.lookup "provider_state" = c.providerState.map .str
  detailsUrl : fields.lookup "details_url" = c.detailsUrl.map .str
  providerKind : fields.lookup "provider_kind" = c.providerKind.map .str
  workflowName : fields.lookup "workflow_name" = c.workflowName.map .str
  appId : fields.lookup "app_id" = c.appId.map .num
  checkSuiteId : fields.lookup "check_suite_id" = c.checkSuiteId.map .num
  headOid : fields.lookup "head_oid" = c.headOid.map .str
  startedAt : fields.lookup "started_at" = c.startedAt.map .str
  completedAt : fields.lookup "completed_at" = c.completedAt.map .str
  superseded : fields.lookup "superseded" =
    (if c.superseded then some true else none).map .bool

theorem HoldsCheck.read {fields : List (String × JsonValue)} {c : CheckSnapshot}
    (h : HoldsCheck fields c) : checkOf (.obj fields) = some c := by
  have hname : required fields "name" asStr = some c.name := JsonValue.required_eq h.name rfl
  have hstate : required fields "state" (fun s => s.asStr.bind checkStateOf) = some c.state :=
    JsonValue.required_eq h.state (checkStateOf_name c.state)
  have hsuperseded : optional fields "superseded" asBool =
      some (if c.superseded then some true else none) :=
    JsonValue.optional_eq h.superseded (fun _ => rfl) fun _ => JsonValue.noConfusion
  have hflag : (if c.superseded then some true else none : Option Bool).getD false =
      c.superseded := by
    cases c.superseded <;> rfl
  refine (JsonValue.read_bind (JsonValue.asObj_obj _) _).trans ?_
  refine (JsonValue.read_bind hname _).trans ?_
  refine (JsonValue.read_bind hstate _).trans ?_
  refine (JsonValue.read_bind (JsonValue.optional_str h.providerState) _).trans ?_
  refine (JsonValue.read_bind (JsonValue.optional_str h.detailsUrl) _).trans ?_
  refine (JsonValue.read_bind (JsonValue.optional_str h.providerKind) _).trans ?_
  refine (JsonValue.read_bind (JsonValue.optional_str h.workflowName) _).trans ?_
  refine (JsonValue.read_bind (JsonValue.optional_num h.appId) _).trans ?_
  refine (JsonValue.read_bind (JsonValue.optional_num h.checkSuiteId) _).trans ?_
  refine (JsonValue.read_bind (JsonValue.optional_str h.headOid) _).trans ?_
  refine (JsonValue.read_bind (JsonValue.optional_str h.startedAt) _).trans ?_
  refine (JsonValue.read_bind (JsonValue.optional_str h.completedAt) _).trans ?_
  refine (JsonValue.read_bind hsuperseded _).trans ?_
  rw [hflag]
  rfl

end Cara
