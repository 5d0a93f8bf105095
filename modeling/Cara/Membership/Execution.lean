import Cara.Lib.Stateful
import Cara.Membership.Policy
import Cara.Sync.Progress

/-! Resumable membership mutation: the primitive edits of one pull request, each checked before
and read back after, the receipts that they leave, and the rollback over these receipts. -/
namespace Cara
namespace Membership

open Check (CheckDetail)
open Prog
open Sync (GitHubMutationReceipt MutationError)

section Requests

inductive PullEdit where
  | base (name : String)
  | addLabel (label : String)
  | removeLabel (label : String)
  | squashAutoMerge
  | disableAutoMerge
deriving DecidableEq

inductive ProviderRequest where
  | repositoryLabels
  | viewerPermission
  | repositoryAllowsAutoMerge
  | branchIsProtected (branch : String)
  | refetch (number : PrNumber)
  | refetchUrl (url : String)
  | edit (number : PrNumber) (edit : PullEdit)
  | commentBodies (number : PrNumber)
  | comment (number : PrNumber) (body : String)
  | createPullRequest (head base : String)
  | openGenerationFacts
  | compareCommits (base head : CommitOid)
  | branchHeadOid (branch : String)
  | membershipConfig
deriving DecidableEq

inductive ProviderAnswer where
  | failed (error : MutationError)
  | labels (labels : Finset String)
  | flag (value : Bool)
  | pull (pull : PullRequestSnapshot)
  | output (stdout : Option String)
  | bodies (bodies : List String)
  | facts (facts : List PullRequestGenerationFact)
  | relation (relation : Generation.CommitRelation)
  | text (value : String)

abbrev ProviderIo (α : Type) := Fallible ProviderRequest ProviderAnswer MutationError α

/-- A call of the provider: a failure is the call's, an answer of another kind never comes. -/
def ask {α : Type} (request : ProviderRequest) (value : ProviderAnswer → Option α) : ProviderIo α :=
  query request fun answer => match answer with
    | .failed e => some (.error e)
    | answer => (value answer).map .ok

def pullOf : ProviderAnswer → Option PullRequestSnapshot
  | .pull p => some p
  | _ => none

def outputOf : ProviderAnswer → Option (Option String)
  | .output stdout => some stdout
  | _ => none

def bodiesOf : ProviderAnswer → Option (List String)
  | .bodies bodies => some bodies
  | _ => none

def labelsOf : ProviderAnswer → Option (Finset String)
  | .labels labels => some labels
  | _ => none

def flagOf : ProviderAnswer → Option Bool
  | .flag value => some value
  | _ => none

end Requests

section Primitives

def refetchPullRequest (number : PrNumber) : ProviderIo PullRequestSnapshot := ask (.refetch number) pullOf

def verifyPrecondition (expected : PullRequestPrecondition) : ProviderIo PullRequestSnapshot := do
  let snapshot ← refetchPullRequest expected.number
  let actual := PullRequestPrecondition.ofSnapshot snapshot
  let changed := Sync.changedPreconditionFields expected actual
  refuseIf (!changed.isEmpty) (.stalePrecondition expected actual changed)
  return snapshot

def PullEdit.kind : PullEdit → MutationKind
  | base _ => .setBase
  | addLabel _ => .addLabel
  | removeLabel _ => .removeLabel
  | squashAutoMerge => .enableAutoMerge
  | disableAutoMerge => .disableAutoMerge

def mutatePullRequest (expected : PullRequestPrecondition) (edit : PullEdit) :
    ProviderIo GitHubMutationReceipt := do
  let before ← verifyPrecondition expected
  let output ← ask (.edit expected.number edit) outputOf
  let after ← refetchPullRequest expected.number
  return { kind := edit.kind,before := some before,after := after,providerOutput := output }

def createdUrl (stdout : Option String) : Option String :=
  (((stdout.getD "").toList.splitBy fun a b => !Text.isWhitespace a && !Text.isWhitespace b).find?
    fun token => "https://".toList.isPrefixOf token).map String.ofList

def createPullRequest (head base : String) : ProviderIo GitHubMutationReceipt := do
  let stdout ← ask (.createPullRequest head base) outputOf
  match createdUrl stdout with
  | none => throw (.other "created pull request is missing from the provider output")
  | some url => do
      let after ← ask (.refetchUrl url) pullOf
      return { kind := .createPullRequest,after := after,providerOutput := stdout }

end Primitives

section Audit

structure ControlLabelAudit where
  operation : String
  marker : String
  beforeLabels : Finset String
  afterLabels : Finset String
  actor : String
  reason : String
  reasonSource : String
  compatibilityEvidence : String
  cleanSquashEvidence : String
  admissionPriorityBasis : String
deriving DecidableEq

def sortedLabels (labels : Finset String) : List String := labels.sort (· ≤ ·)

def isControlLabel (label : String) : Bool :=
  decide (label ∈ ["caravan","caravan-evicted","caravan-force","caravan-join-skipped"]) ||
    Text.startsWith label "caravan-priority:"

def controls (labels : Finset String) : String :=
  "|".intercalate ((sortedLabels labels).filter isControlLabel)

def hexDigit (n : ℕ) : Char := "0123456789abcdef".toList.getD n '0'

def hexOf (text : String) : String :=
  String.ofList ((Text.utf8Bytes text).flatMap fun b => [hexDigit (b.toNat / 16),hexDigit (b.toNat % 16)])

/-- A second transition on the same head has another marker, an exact retry the same. -/
def controlLabelMarker (operation : String) (number : PrNumber) (headOid : CommitOid)
    (before after : Finset String) : String :=
  "v2:" ++ operation ++ ":" ++ toString number ++ ":" ++ headOid ++ ":" ++
    hexOf (controls before ++ "->" ++ controls after)

namespace ControlLabelAudit

def labelList (labels : Finset String) : String := ", ".intercalate (sortedLabels labels)

def visibleMarker (audit : ControlLabelAudit) : String :=
  "<!-- caravan-control-label-audit:" ++ audit.marker ++ " -->"

def body (audit : ControlLabelAudit) : String :=
  audit.visibleMarker ++ "\n### Caravan queue transition: \x60" ++ audit.operation ++
    "\x60\n\n- **Labels:** \x60" ++ labelList audit.beforeLabels ++ "\x60 → \x60" ++
    labelList audit.afterLabels ++ "\x60\n- **Actor/source:** " ++ audit.actor ++ "\n- **Reason:** " ++
    audit.reason ++ " (" ++ audit.reasonSource ++ ")\n- **Compatibility:** " ++
    audit.compatibilityEvidence ++ "\n- **Clean squash:** " ++ audit.cleanSquashEvidence ++
    "\n- **Admission priority:** " ++ audit.admissionPriorityBasis ++ "\n"

/-- Whether the latest audit of the pull request already tells this transition. -/
def isVisible (audit : ControlLabelAudit) (expected : PullRequestPrecondition) (bodies : List String) :
    Bool :=
  let markerPrefix := "<!-- caravan-control-label-audit:v2:" ++ audit.operation ++ ":" ++
    toString expected.number ++ ":" ++ expected.headOid ++ ":"
  let afterState := " → \x60" ++ labelList audit.afterLabels ++ "\x60"
  (bodies.reverse.find? fun body => Text.contains body "<!-- caravan-control-label-audit:").any fun body =>
    Text.contains body audit.visibleMarker ||
      (Text.contains body markerPrefix && Text.contains body afterState)

end ControlLabelAudit

def existingComment : String := "existing GitHub comment "

/-- What the provider, or the comment that is there, says of the audit. -/
def postAudit (number : PrNumber) (audit : ControlLabelAudit) (visible : Bool) : ProviderIo String :=
  if visible then pure (existingComment ++ audit.visibleMarker)
  else do
    let stdout ← ask (.comment number audit.body) outputOf
    return stdout.getD audit.visibleMarker

def controlLabelComment (expected : PullRequestPrecondition) (audit : ControlLabelAudit) :
    ProviderIo GitHubMutationReceipt := do
  let before ← verifyPrecondition expected
  let bodies ← ask (.commentBodies expected.number) bodiesOf
  let output ← postAudit expected.number audit (audit.isVisible expected bodies)
  let after ← refetchPullRequest expected.number
  return { kind := .comment,before := some before,after := after,providerOutput := some output }

end Audit

section State

structure ExecutionState where
  operationId : String
  operation : MembershipOperation
  steps : List MutationStep := []
  providerReceipts : List GitHubMutationReceipt := []
  current : PullRequestSnapshot

namespace ExecutionState

variable (s : ExecutionState)

def record (receipt : GitHubMutationReceipt) (summary : String) : ExecutionState :=
  { s with
    current := receipt.after
    steps := s.steps ++ [⟨receipt.kind,.completed,some receipt.after.number,summary⟩]
    providerReceipts := s.providerReceipts ++ [receipt] }

def already (kind : MutationKind) (summary : String) : ExecutionState :=
  { s with steps := s.steps ++ [⟨kind,.alreadySatisfied,some s.current.number,summary⟩] }

def precondition : PullRequestPrecondition := .ofSnapshot s.current

def operationReceipt : OperationReceipt where
  operationId := s.operationId
  operation := s.operation.name
  completedSteps := s.steps
  changed := s.steps.any fun step => decide (step.state = .completed)

end ExecutionState

inductive MembershipDetail (δ : Type) where
  | check (details : CheckDetail δ)
  | fields (details : Option (List (String × String)))
  | missingLabels (repository : RepositoryId) (labels : List String)
  | provider (operationId : String) (completedSteps : List MutationStep)
      (providerReceipts : List GitHubMutationReceipt)
  | rolledBack (sourceCode : String) (providerReceipts rollbackReceipts : List GitHubMutationReceipt)
      (safeNextAction : String)
  | indeterminate (sourceCode : String) (providerReceipts : List GitHubMutationReceipt)
      (rollbackError : String)

inductive MembershipFailure (δ : Type) where
  | error (e : AppError (MembershipDetail δ))
  | panic (message : String)

abbrev MembershipIo (δ α : Type) := Fallible ProviderRequest ProviderAnswer (MembershipFailure δ) α

variable {δ : Type}

def mutationError (error : MutationError) (operationId : String) (steps : List MutationStep)
    (receipts : List GitHubMutationReceipt) : AppError (MembershipDetail δ) :=
  let classified : ErrorCategory × String := match error with
    | .outputLimit _ => (.executionFailure,"command_output_limit")
    | .timeout _ => (.timeout,"github_mutation_timeout")
    | .stalePrecondition .. => (.validation,"stale_precondition")
    | _ => (.executionFailure,"github_mutation_failed")
  ⟨classified.1,classified.2,error.display,some (.provider operationId steps receipts)⟩

def commentError (error : MutationError) (s : ExecutionState) : AppError (MembershipDetail δ) :=
  ⟨.executionFailure,"github_comment_failed",
    "control labels changed but their durable GitHub comment failed: " ++ error.display,
    some (.provider s.operationId s.steps s.providerReceipts)⟩

/-- Steps of the envelope; one that fails leaves the state as it was before it. -/
abbrev EnvelopeIo (δ α : Type) :=
  Fallible ProviderRequest ProviderAnswer (ExecutionState × AppError (MembershipDetail δ)) α

def stepCall {α : Type} (s : ExecutionState) (onError : MutationError → AppError (MembershipDetail δ))
    (call : ProviderIo α) : EnvelopeIo δ α :=
  mapError (fun e => (s,onError e)) call

end State

section Ensure

variable {δ : Type}

/-- Whether the pull request already is what the edit makes it. -/
def PullEdit.satisfied (p : PullRequestSnapshot) : PullEdit → Bool
  | base name => decide (p.base.name = name)
  | addLabel label => p.hasLabel label
  | removeLabel label => !p.hasLabel label
  | squashAutoMerge => p.autoMerge.enabled && decide (p.autoMerge.mergeMethod = some .squash)
  | disableAutoMerge => !p.autoMerge.enabled

def PullEdit.alreadySummary : PullEdit → String
  | base _ => "PR already targets the required base"
  | addLabel label => "label `" ++ label ++ "` already present"
  | removeLabel label => "label `" ++ label ++ "` already absent"
  | squashAutoMerge => "squash auto-merge already enabled"
  | disableAutoMerge => "auto-merge already disabled"

def PullEdit.doneSummary : PullEdit → String
  | base _ => "changed PR base branch"
  | addLabel label => "added label `" ++ label ++ "`"
  | removeLabel label => "removed label `" ++ label ++ "`"
  | squashAutoMerge => "enabled squash auto-merge"
  | disableAutoMerge => "disabled auto-merge"

/-- Make one edit, unless the pull request last seen needs none. -/
def ensureEdit (edit : PullEdit) (s : ExecutionState) : EnvelopeIo δ ExecutionState :=
  if edit.satisfied s.current then pure (s.already edit.kind edit.alreadySummary)
  else do
    let receipt ← stepCall s (fun e => mutationError e s.operationId s.steps s.providerReceipts)
      (mutatePullRequest s.precondition edit)
    pure (s.record receipt edit.doneSummary)

def ensureBase (base : String) : ExecutionState → EnvelopeIo δ ExecutionState := ensureEdit (.base base)

def ensureLabelPresent (label : String) : ExecutionState → EnvelopeIo δ ExecutionState :=
  ensureEdit (.addLabel label)

def ensureLabelAbsent (label : String) : ExecutionState → EnvelopeIo δ ExecutionState :=
  ensureEdit (.removeLabel label)

def ensureSquashAutoMerge : ExecutionState → EnvelopeIo δ ExecutionState := ensureEdit .squashAutoMerge

def ensureAutoMergeDisabled : ExecutionState → EnvelopeIo δ ExecutionState := ensureEdit .disableAutoMerge

/-- One step after another from the state that each leaves. -/
def inSequence : List (ExecutionState → EnvelopeIo δ ExecutionState) → ExecutionState →
    EnvelopeIo δ ExecutionState
  | [],s => pure s
  | step::rest,s => do
      let s ← step s
      inSequence rest s

def ensureControlLabelComment (audit : ControlLabelAudit) (s : ExecutionState) :
    EnvelopeIo δ ExecutionState := do
  let receipt ← stepCall s (commentError · s) (controlLabelComment s.precondition audit)
  if receipt.providerOutput.any fun output => Text.startsWith output "existing GitHub comment" then
    pure { s.already .comment "control-label audit comment already present" with
      current := receipt.after }
  else pure (s.record receipt "posted durable control-label audit comment")

end Ensure

section Rollback

/-- The first label of the first set that the second lacks. -/
def firstMissing (labels others : Finset String) : Option String := (sortedLabels (labels \ others)).head?

/-- The edit that takes a recorded one back; other receipts are passed over. -/
def inverse (receipt : GitHubMutationReceipt) : Option PullEdit :=
  receipt.before.bind fun before => match receipt.kind with
    | .setBase => some (.base before.base.name)
    | .addLabel => (firstMissing receipt.after.labels before.labels).map .removeLabel
    | .removeLabel => (firstMissing before.labels receipt.after.labels).map .addLabel
    | .enableAutoMerge | .disableAutoMerge =>
        some (if before.autoMerge.enabled then .squashAutoMerge else .disableAutoMerge)
    | _ => none

/-- Take the receipts back in this order, each from the state that the last one left. -/
def takeBack : List GitHubMutationReceipt → PullRequestSnapshot → ProviderIo (List GitHubMutationReceipt)
  | [],_ => pure []
  | completed::rest,current => match inverse completed with
      | none => takeBack rest current
      | some edit => do
          let receipt ← mutatePullRequest (.ofSnapshot current) edit
          let later ← takeBack rest receipt.after
          return receipt::later

def rollbackMembershipEnvelope (s : ExecutionState) : ProviderIo (List GitHubMutationReceipt) :=
  takeBack s.providerReceipts.reverse s.current

end Rollback

end Membership
end Cara
