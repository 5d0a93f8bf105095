import Cara.Model
import Cara.Lib.Json
import Mathlib.Data.Finset.Sort
import Mathlib.Data.String.Lemmas

/-! Durable pause records, the exact-owner recovery carried inside them and the terminal
receipts of finished recoveries, with the sizes of their files. -/
namespace Cara

structure PullRequestPrecondition where
  number : PrNumber
  state : PullRequestState
  mergedAt : Option String := none
  headOid : CommitOid
  baseRef : String
  baseOid : CommitOid
  labels : Finset String := ∅
  checks : List CheckSnapshot := []
  autoMerge : AutoMergeState
deriving DecidableEq

def PullRequestPrecondition.ofSnapshot (p : PullRequestSnapshot) : PullRequestPrecondition where
  number := p.number
  state := p.state
  mergedAt := p.mergedAt
  headOid := p.head.oid
  baseRef := p.base.name
  baseOid := p.base.oid
  labels := p.labels
  checks := p.checks
  autoMerge := p.autoMerge

structure SyntheticMergeCandidate where
  gitRef : String
  oid : CommitOid
  treeOid : CommitOid
  parents : List CommitOid
deriving DecidableEq

structure GitCommitIdentity where
  oid : CommitOid
  treeOid : CommitOid
  parents : List CommitOid := []
deriving DecidableEq

namespace Pause

inductive Phase where
  | prepare
  | checkpointBase
  | checkpointHead
  | finalize
  | rollback
deriving DecidableEq

structure CheckAttribution where
  headOid : CommitOid
  checkRunCount : ℕ
  statusContextCount : ℕ
deriving DecidableEq

structure RecoveryInput where
  schemaVersion : ℕ := 1
  operationId : String
  externalReference : String
  idempotencyKey : String
  actor : String
  ownerProject : String
  ownerAgent : String
  ownershipGeneration : String
  repository : String
  caravanId : PrNumber
  members : List PrNumber
  pauseId : String
  pauseGeneration : String
  targetPr : PrNumber
  expectedBaseRef : String
  expectedBaseOid : String
  expectedHeadOid : String
  desiredBaseRef : String
  desiredBaseOid : String
  desiredHeadOid : String
  desiredHeadTree : String
  virtualMergeParents : List String := []
  virtualMergeTree : Option String := none
  checkAttribution : Option CheckAttribution := none
  reason : String
deriving DecidableEq

structure RecoveryBinding where
  schemaVersion : ℕ
  operationId : String
  externalReference : String
  idempotencyKey : String
  actor : String
  ownerProject : String
  ownerAgent : String
  ownershipGeneration : String
  repository : String
  caravanId : PrNumber
  members : List PrNumber
  pauseId : String
  pauseGeneration : String
  targetPr : PrNumber
  expectedBaseRef : String
  expectedBaseOid : CommitOid
  expectedHeadOid : CommitOid
  desiredBaseRef : String
  desiredBaseOid : CommitOid
  desiredHeadOid : CommitOid
  desiredHeadTree : CommitOid
  reason : String
deriving DecidableEq

inductive Checkpoint where
  | prepared
  | baseCheckpointed
  | headCheckpointed
deriving DecidableEq

structure RecoveryRecord where
  version : ℕ
  binding : RecoveryBinding
  checkpoint : Checkpoint
  receiptId : String
  preparedUnixMs : ℕ
  updatedUnixMs : ℕ
deriving DecidableEq

structure PauseRecord where
  version : ℕ
  caravanHead : PrNumber
  members : List PrNumber
  expectedHead : PullRequestPrecondition
  expectedChecks : List CheckSnapshot
  actor : String
  reason : String
  pausedUnixSecs : ℕ
  expiresUnixSecs : Option ℕ := none
  externalReference : Option String := none
  resumeAuthorizedBy : Option String := none
  recovery : Option RecoveryRecord := none
deriving DecidableEq

structure FinalEvidence where
  head : CommitOid
  headTree : CommitOid
  headParents : List CommitOid
  virtualMerge : SyntheticMergeCandidate
  checkAttribution : CheckAttribution
deriving DecidableEq

inductive TerminalOutcome where
  | finalized
  | rolledBack
deriving DecidableEq

structure TerminalReceipt where
  version : ℕ
  binding : RecoveryBinding
  outcome : TerminalOutcome
  receiptId : String
  completedUnixMs : ℕ
  finalEvidence : Option FinalEvidence := none
deriving DecidableEq

inductive PauseState where
  | active
  | expired
  | stale
  | recovering
  | recoveryDrift
  | retired
deriving DecidableEq

def PauseState.isEffective : PauseState → Bool
  | active | expired | recovering | recoveryDrift => true
  | stale | retired => false

structure PauseStatus where
  record : PauseRecord
  state : PauseState
  autoMergeSuspended : Bool
  retiredState : Option PullRequestState := none
  safeNextAction : String
deriving DecidableEq

def maxText : ℕ := 512

def maxFileBytes : ℕ := 64 * 1024

section Encoding

open Json

def numbersJson (l : List ℕ) : Json := array (l.map num)

def textsJson (l : List String) : Json := array (l.map str)

def prStateName : PullRequestState → String
  | .open => "open"
  | .closed => "closed"
  | .merged => "merged"

def checkStateName : CheckState → String
  | .expected => "expected"
  | .queued => "queued"
  | .inProgress => "in_progress"
  | .success => "success"
  | .failure => "failure"
  | .neutral => "neutral"
  | .skipped => "skipped"
  | .cancelled => "cancelled"
  | .timedOut => "timed_out"
  | .actionRequired => "action_required"
  | .unknown => "unknown"

def checkpointName : Checkpoint → String
  | .prepared => "prepared"
  | .baseCheckpointed => "base_checkpointed"
  | .headCheckpointed => "head_checkpointed"

def outcomeName : TerminalOutcome → String
  | .finalized => "finalized"
  | .rolledBack => "rolled_back"

def checkJson (c : CheckSnapshot) : Json := object [field "name" (str c.name),
  field "state" (str (checkStateName c.state)),optional "provider_state" c.providerState str,
  optional "details_url" c.detailsUrl str,optional "provider_kind" c.providerKind str,
  optional "workflow_name" c.workflowName str,optional "app_id" c.appId num,
  optional "check_suite_id" c.checkSuiteId num,optional "head_oid" c.headOid str,
  optional "started_at" c.startedAt str,optional "completed_at" c.completedAt str,
  if c.superseded then field "superseded" (bool true) else []]

def autoMergeJson (m : AutoMergeState) : Json := object [field "enabled" (bool m.enabled),
  optional "merge_method" m.mergeMethod fun _ => str "squash",optional "actor" m.actor str]

def preconditionJson (p : PullRequestPrecondition) : Json := object [field "number" (num p.number),
  field "state" (str (prStateName p.state)),optional "merged_at" p.mergedAt str,
  field "head_oid" (str p.headOid),field "base_ref" (str p.baseRef),
  field "base_oid" (str p.baseOid),field "labels" (textsJson (p.labels.sort (· ≤ ·))),
  field "checks" (array (p.checks.map checkJson)),field "auto_merge" (autoMergeJson p.autoMerge)]

def bindingJson (b : RecoveryBinding) : Json := object [
  field "schema_version" (num b.schemaVersion),field "operation_id" (str b.operationId),
  field "external_reference" (str b.externalReference),
  field "idempotency_key" (str b.idempotencyKey),field "actor" (str b.actor),
  field "owner_project" (str b.ownerProject),field "owner_agent" (str b.ownerAgent),
  field "ownership_generation" (str b.ownershipGeneration),field "repository" (str b.repository),
  field "caravan_id" (num b.caravanId),field "members" (numbersJson b.members),
  field "pause_id" (str b.pauseId),field "pause_generation" (str b.pauseGeneration),
  field "target_pr" (num b.targetPr),field "expected_base_ref" (str b.expectedBaseRef),
  field "expected_base_oid" (str b.expectedBaseOid),
  field "expected_head_oid" (str b.expectedHeadOid),
  field "desired_base_ref" (str b.desiredBaseRef),field "desired_base_oid" (str b.desiredBaseOid),
  field "desired_head_oid" (str b.desiredHeadOid),
  field "desired_head_tree" (str b.desiredHeadTree),field "reason" (str b.reason)]

def recoveryJson (r : RecoveryRecord) : Json := object [field "version" (num r.version),
  field "binding" (bindingJson r.binding),field "checkpoint" (str (checkpointName r.checkpoint)),
  field "receipt_id" (str r.receiptId),field "prepared_unix_ms" (num r.preparedUnixMs),
  field "updated_unix_ms" (num r.updatedUnixMs)]

def recordJson (r : PauseRecord) : Json := object [field "version" (num r.version),
  field "caravan_head" (num r.caravanHead),field "members" (numbersJson r.members),
  field "expected_head" (preconditionJson r.expectedHead),
  field "expected_checks" (array (r.expectedChecks.map checkJson)),field "actor" (str r.actor),
  field "reason" (str r.reason),field "paused_unix_secs" (num r.pausedUnixSecs),
  optional "expires_unix_secs" r.expiresUnixSecs num,
  optional "external_reference" r.externalReference str,
  optional "resume_authorized_by" r.resumeAuthorizedBy str,
  optional "recovery" r.recovery recoveryJson]

def attributionJson (a : CheckAttribution) : Json := object [field "head_oid" (str a.headOid),
  field "check_run_count" (num a.checkRunCount),
  field "status_context_count" (num a.statusContextCount)]

def syntheticJson (s : SyntheticMergeCandidate) : Json := object [field "git_ref" (str s.gitRef),
  field "oid" (str s.oid),field "tree_oid" (str s.treeOid),field "parents" (textsJson s.parents)]

def evidenceJson (e : FinalEvidence) : Json := object [field "head" (str e.head),
  field "head_tree" (str e.headTree),field "head_parents" (textsJson e.headParents),
  field "virtual_merge" (syntheticJson e.virtualMerge),
  field "check_attribution" (attributionJson e.checkAttribution)]

def receiptJson (t : TerminalReceipt) : Json := object [field "version" (num t.version),
  field "binding" (bindingJson t.binding),field "outcome" (str (outcomeName t.outcome)),
  field "receipt_id" (str t.receiptId),field "completed_unix_ms" (num t.completedUnixMs),
  optional "final_evidence" t.finalEvidence evidenceJson]

def PauseRecord.encodedBytes (r : PauseRecord) : ℕ := (recordJson r).compact

def PauseRecord.fileBytes (r : PauseRecord) : ℕ := (recordJson r).indented 0

def TerminalReceipt.fileBytes (t : TerminalReceipt) : ℕ := (receiptJson t).indented 0

end Encoding

end Pause
end Cara
