import Cara.Sync.Provider

/-! Durable CI starts of one exact pull-request generation. A start is a checkpoint file that
holds the intent before the provider is asked and what is known of the answer after; a later
call reads it back instead of asking again. -/
namespace Cara
namespace CiDispatch

open Sync (GitHubMutationReceipt)

structure WorkflowPullRequestBinding where
  number : PrNumber
  headSha : String
  headRef : String
  baseSha : String
  baseRef : String
deriving DecidableEq

structure CiExecution where
  appId : ℕ
  appSlug : String
  workflowId : ℕ
  workflowName : String
  contexts : List String
  restartRequired : Bool
  runId : ℕ
  runAttempt : ℕ
  checkSuiteId : ℕ
  pullRequest : WorkflowPullRequestBinding
  event : String
  status : String
  conclusion : String
deriving DecidableEq

namespace CiExecution

def reusable (e : CiExecution) : Bool :=
  (decide (e.status ∈ ["queued","requested","waiting","pending","in_progress"]) && e.conclusion.isEmpty) ||
    (decide (e.status = "completed") && !e.restartRequired && decide (e.conclusion ∈ ["success","failure",
      "cancelled","timed_out","action_required","neutral","skipped"]))

def requestable (e : CiExecution) : Bool :=
  e.restartRequired && decide (e.status = "completed") && decide (e.conclusion ∈ ["failure","cancelled",
    "timed_out","action_required","neutral","skipped"])

def sameExecution (e other : CiExecution) : Bool :=
  decide (e.appId = other.appId) && decide (e.appSlug = other.appSlug) &&
    decide (e.workflowId = other.workflowId) && decide (e.runId = other.runId) &&
    decide (e.runAttempt = other.runAttempt) && decide (e.checkSuiteId = other.checkSuiteId) &&
    decide (e.pullRequest = other.pullRequest) && decide (e.event = other.event)

def succeeds (e old : CiExecution) : Bool :=
  decide (e.appId = old.appId) && decide (e.appSlug = old.appSlug) &&
    decide (e.workflowId = old.workflowId) && decide (e.pullRequest = old.pullRequest) &&
    decide (e.event = old.event) &&
    (decide (e.runId > old.runId) || (decide (e.runId = old.runId) &&
      decide (e.runAttempt > old.runAttempt) && decide (e.checkSuiteId = old.checkSuiteId)))

end CiExecution

inductive DispatchDisposition where
  | requested
  | reused
  | successorObserved
deriving DecidableEq

structure DispatchBinding where
  repository : RepositoryId
  pullRequest : WorkflowPullRequestBinding
  caravanMembers : List PrNumber
  workflowId : ℕ
deriving DecidableEq

structure DispatchCheckpoint where
  schemaVersion : ℕ
  binding : DispatchBinding
  selected : CiExecution
  operationId : String
  disposition : DispatchDisposition := .requested
  providerReceipt : Option GitHubMutationReceipt := none
  observedSuccessor : Option CiExecution := none
  rejectedBeforeWrite : Option String := none
deriving DecidableEq

structure DispatchResult where
  disposition : DispatchDisposition
  operationId : String
  providerReceipt : Option GitHubMutationReceipt
deriving DecidableEq

inductive DispatchDetails where
  | unavailable (mutated : Bool) (safeNextAction : String)
  | indeterminate (checkpoint : String) (intent : DispatchCheckpoint) (observed : CiExecution)
      (membershipReplayAllowed : Bool)
  | callback (providerWriteAttempted : Option Bool)
deriving DecidableEq

abbrev DispatchError := AppError DispatchDetails

def unavailable (reason : String) : DispatchError where
  category := .executionFailure
  code := "post_mutation_ci_dispatch_unavailable"
  message := reason
  details := some (.unavailable false ("refresh exact provider execution evidence; never choose " ++
    "another App or replay membership to start CI"))

def providerWriteAttempted (error : DispatchError) : Option Bool :=
  error.details.bind fun details => match details with
    | .callback attempted => attempted
    | _ => none

structure DispatchWire where
  bindingJson : DispatchBinding → Except String (List UInt8)
  checkpointJson : DispatchCheckpoint → Except String (List UInt8)
  sha256 : List UInt8 → String

def startKey (w : DispatchWire) (encoded : List UInt8) : String := "ci-start-" ++ w.sha256 encoded

def archiveKey (w : DispatchWire) (bytes : List UInt8) : String := "ci-refused-" ++ w.sha256 bytes

inductive Request where
  | load (key : String)
  | write (key : String) (checkpoint : DispatchCheckpoint)
  | remove (key : String)
  | preflight
  | request
deriving DecidableEq

inductive Answer where
  | loaded (saved : Except DispatchError (Option DispatchCheckpoint))
  | stored (result : Except DispatchError Unit)
  | preflighted (result : Except DispatchError Unit)
  | requested (receipt : Except DispatchError GitHubMutationReceipt)
deriving DecidableEq

abbrev Io (α : Type) := Prog.Fallible Request Answer DispatchError α

def load (key : String) : Io (Option DispatchCheckpoint) :=
  Prog.query (.load key) fun answer => match answer with
    | .loaded saved => some saved
    | _ => none

def stored : Answer → Option (Except DispatchError Unit)
  | .stored result => some result
  | _ => none

def write (key : String) (checkpoint : DispatchCheckpoint) : Io Unit :=
  Prog.query (.write key checkpoint) stored

def remove (key : String) : Io Unit := Prog.query (.remove key) stored

def preflight : Io Unit :=
  Prog.query .preflight fun answer => match answer with
    | .preflighted result => some result
    | _ => none

def request : Io GitHubMutationReceipt :=
  Prog.query .request fun answer => match answer with
    | .requested receipt => some receipt
    | _ => none

section Dispatch

variable (w : DispatchWire) (binding : DispatchBinding) (selected : CiExecution) (operationId : String)

/-- A later call on an intent that was not rejected: it never asks the provider again. -/
def reconcile (key : String) (saved : DispatchCheckpoint) : Io DispatchResult := do
  Prog.refuseIf (saved.observedSuccessor.any fun observed =>
      !selected.sameExecution observed && !selected.succeeds observed)
    (unavailable "provider execution regressed behind a durably observed successor")
  if selected.succeeds saved.selected then
    write key { saved with observedSuccessor := some selected }
    return ⟨.successorObserved,saved.operationId,none⟩
  else if selected.sameExecution saved.selected &&
      (saved.providerReceipt.isSome || decide (saved.disposition = .reused)) then
    return ⟨saved.disposition,saved.operationId,none⟩
  else
    throw { category := .executionFailure
            code := "ci_dispatch_indeterminate"
            message := "an exact CI-start intent already exists without proved successor; no " ++
              "provider write was repeated"
            details := some (.indeterminate key saved selected false) }

def freshDisposition : Io DispatchDisposition :=
  if selected.reusable then pure .reused
  else do
    Prog.refuseIf (!selected.requestable) (unavailable "execution is not restartable")
    preflight
    return .requested

def intent (disposition : DispatchDisposition) : DispatchCheckpoint where
  schemaVersion := 1
  binding := binding
  selected := selected
  operationId := operationId
  disposition := disposition

/-- The start of a generation without an intent that stands. -/
def dispatchFresh (key : String) : Io DispatchResult := do
  let disposition ← freshDisposition selected
  let checkpoint := intent binding selected operationId disposition
  write key checkpoint
  if disposition = .reused then
    return ⟨disposition,operationId,none⟩
  else
    match ← Prog.attempt request with
    | .error error =>
        if providerWriteAttempted error = some false then
          write key { checkpoint with rejectedBeforeWrite := some error.code }
          throw error
        else throw error
    | .ok receipt =>
        write key { checkpoint with providerReceipt := some receipt }
        return ⟨disposition,operationId,some receipt⟩

def dispatch : Io DispatchResult := do
  Prog.refuseIf (decide (binding.pullRequest ≠ selected.pullRequest) ||
      decide (binding.workflowId ≠ selected.workflowId))
    (unavailable "CI-start binding does not match its selected execution")
  let encoded ← Prog.ofResult ((w.bindingJson binding).mapError unavailable)
  let key := startKey w encoded
  match ← load key with
  | none => dispatchFresh binding selected operationId key
  | some saved =>
      Prog.refuseIf (decide (saved.schemaVersion ≠ 1) || decide (saved.binding ≠ binding) ||
          decide (saved.disposition = .successorObserved))
        (unavailable "CI dispatch checkpoint identity is invalid")
      match saved.rejectedBeforeWrite with
      | none => reconcile selected key saved
      | some _ =>
          let bytes ← Prog.ofResult ((w.checkpointJson saved).mapError unavailable)
          write (archiveKey w bytes) saved
          remove key
          dispatchFresh binding selected operationId key

end Dispatch

end CiDispatch
end Cara
