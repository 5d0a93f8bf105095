import Cara.Github.StackLock

/-! Bounded asynchronous merge transactions. The provider leases only the selected top
head; every lower generation is sealed in the plan, re-read before submission and proved
again from fresh truth afterwards. A lost answer without a UUID is indeterminate and never
permission to submit again. -/
namespace Cara
namespace Github

open Generation (CommitRelation)
open Prog (send attempt mapError ofResult forEach crashed)

def stackMergeSchemaVersion : ℕ := 1

def mergeMethodValue : String := "squash"

def mergeActionValue : String := "direct_merge"

/-- The whole Stack is locked, not only the entries selected for merge. -/
def StackAsyncMergePlan.branchLockPlan (plan : StackAsyncMergePlan) : StackBranchLockPlan where
  operationId := plan.operationId
  actor := plan.actor
  stackNumber := plan.before.number
  selected := plan.before.topology.entries

def mergeCheckpointSeal : Sealing StackMergeCheckpoint where
  get r := r.evidenceHash
  set r h := { r with evidenceHash := h }
  get_set _ _ := rfl
  set_set _ _ _ := rfl

def mergeReceiptSeal : Sealing StackMergeReceipt where
  get r := r.evidenceHash
  set r h := { r with evidenceHash := h }
  get_set _ _ := rfl
  set_set _ _ _ := rfl

def lockedMergeCheckpointSeal : Sealing StackLockedMergeCheckpoint where
  get r := r.evidenceHash
  set r h := { r with evidenceHash := h }
  get_set _ _ := rfl
  set_set _ _ _ := rfl

def lockedMergeReceiptSeal : Sealing StackLockedMergeReceipt where
  get r := r.evidenceHash
  set r h := { r with evidenceHash := h }
  get_set _ _ := rfl
  set_set _ _ _ := rfl

def StackMergeCheckpoint.sealed (w : Wire) : StackMergeCheckpoint → StackMergeCheckpoint :=
  mergeCheckpointSeal.sealed w.mergeCheckpoint

def StackMergeCheckpoint.verify (w : Wire) : StackMergeCheckpoint → Bool :=
  mergeCheckpointSeal.verify w.mergeCheckpoint

def StackMergeReceipt.sealed (w : Wire) : StackMergeReceipt → StackMergeReceipt :=
  mergeReceiptSeal.sealed w.mergeReceipt

def StackLockedMergeCheckpoint.sealed (w : Wire) :
    StackLockedMergeCheckpoint → StackLockedMergeCheckpoint :=
  lockedMergeCheckpointSeal.sealed w.lockedMergeCheckpoint

def StackLockedMergeCheckpoint.verify (w : Wire) : StackLockedMergeCheckpoint → Bool :=
  lockedMergeCheckpointSeal.verify w.lockedMergeCheckpoint

def StackLockedMergeReceipt.sealed (w : Wire) :
    StackLockedMergeReceipt → StackLockedMergeReceipt :=
  lockedMergeReceiptSeal.sealed w.lockedMergeReceipt

def StackLockedMergeReceipt.verify (w : Wire) : StackLockedMergeReceipt → Bool :=
  lockedMergeReceiptSeal.verify w.lockedMergeReceipt

def StackMergeError.display (w : Wire) : StackMergeError → String
  | .invalidPlan code message => code ++ ": " ++ message
  | .staleGeneration _ _ => "GitHub Stack changed before async merge submission"
  | .invalidCheckpoint diagnostic => "invalid GitHub Stack merge checkpoint: " ++ diagnostic
  | .stack error => error.display w
  | .lock error => error.display w
  | .provider error => error.display w

structure ProviderAsyncMergeResult where
  uuid : Option String := none
  status : Option String := none
  message : Option String := none
  sha : Option CommitOid := none
  expectedHeadSha : Option CommitOid := none
  mergeMethod : Option String := none
  mergeAction : Option String := none
deriving DecidableEq

section Pure

variable (w : Wire)

/-- A document with response headers in front of it is read after the first empty line. -/
def includedJson (stdout : String) : Except String AsyncMergeBody :=
  match w.asyncMerge (Text.trimmed stdout) with
  | .ok body => .ok body
  | .error _ =>
      let body := match Text.splitOnce ['\r','\n','\r','\n'] stdout.toList with
        | some (_,body) => body
        | none => match Text.splitOnce ['\n','\n'] stdout.toList with
          | some (_,body) => body
          | none => stdout.toList
      w.asyncMerge (String.ofList (Text.trim body))

def parseAsyncMergeResponse (output : CommandOutput) : Except String ProviderAsyncMergeResult := do
  let body ← includedJson w output.stdout
  let text (name : String) : Option String := (body.field name).or (body.details name)
  return {
    uuid := text "uuid"
    status := text "status"
    message := text "message"
    sha := text "sha"
    expectedHeadSha := text "expected_head_sha"
    mergeMethod := text "merge_method"
    mergeAction := text "merge_action" }

def parsedResponse : Response → ProviderAsyncMergeResult
  | .ok output => match parseAsyncMergeResponse w output with
    | .ok parsed => parsed
    | .error _ => {}
  | .error _ => {}

def providerDiagnostic (output : CommandOutput) : Option String :=
  let value := if Text.isBlank output.stderr then Text.trimmed output.stdout
    else Text.trimmed output.stderr
  if value = "" then none else some (diagnosticExcerpt value)

def providerMessageOf (response : Response) (parsed : ProviderAsyncMergeResult) : Option String :=
  parsed.message.or (match response with
    | .error error => some error.diagnostic
    | .ok output => providerDiagnostic output)

def normalizedProviderStatus (status : Option String) : Option StackMergeStatus :=
  match status with
  | none => none
  | some word =>
      if Text.eqIgnoreAsciiCase word "pending" then some .pending
      else if Text.eqIgnoreAsciiCase word "enqueued" then some .enqueued
      else if Text.eqIgnoreAsciiCase word "merged" then some .merged
      else if Text.eqIgnoreAsciiCase word "failed" then some .failed
      else none

def validAsyncUuid (value : String) : Bool :=
  decide (value ≠ "") && decide (value.utf8ByteSize ≤ 128) &&
    value.toList.all fun c => c.isAlphanum || decide (c = '-')

def providerRequestMatchesPlan (provider : ProviderAsyncMergeResult)
    (plan : StackAsyncMergePlan) : Bool :=
  match plan.selected.getLast? with
  | none => false
  | some top => decide (provider.expectedHeadSha = some top.head.oid ∧
      provider.mergeMethod = some mergeMethodValue ∧ provider.mergeAction = some mergeActionValue)

def mergeAsyncPath (repository : RepositoryId) (pr : PrNumber) : String :=
  "repos/" ++ repository.slug ++ "/pulls/" ++ toString pr ++ "/merge-async"

def mergeRequestIdentity (repository : RepositoryId) (plan : StackAsyncMergePlan) :
    Option StackMergeRequestIdentity :=
  plan.selected.getLast?.map fun top => {
    method := "PUT"
    path := mergeAsyncPath repository top.pr
    selectedTop := top.pr
    selectedTopSha := top.head.oid
    orderedPullRequests := plan.selected.map StackEntryGeneration.pr
    orderedHeads := plan.selected.map fun entry => entry.head.oid }

def selectedStart (plan : StackAsyncMergePlan) : ℕ :=
  (firstOpen plan.before.topology.entries).getD plan.before.topology.entries.length

def selectedEnd (plan : StackAsyncMergePlan) : ℕ := selectedStart plan + plan.selected.length

def invalidMerge {α : Type} (code message : String) : Except StackMergeError α :=
  .error (.invalidPlan code message)

def validateMergePlan (repository : RepositoryId) (plan : StackAsyncMergePlan) :
    Except StackMergeError Unit :=
  let entries := plan.before.topology.entries
  if Text.isBlank plan.operationId then
    invalidMerge "github_stack_merge_operation_id_missing"
      "native Stack merge requires a non-empty operation identity"
  else if Text.isBlank plan.actor then
    invalidMerge "github_stack_merge_actor_missing"
      "native Stack merge requires a non-empty actor"
  else if plan.before.topology.base.repository ≠ repository then
    invalidMerge "github_stack_merge_repository_mismatch"
      "native Stack merge generation belongs to another repository"
  else if plan.selected = [] ∨ entries.length < plan.selected.length then
    invalidMerge "github_stack_merge_prefix_invalid"
      "selected Stack merge prefix must be non-empty and bounded by the Stack"
  else if ∃ entry ∈ entries.take (selectedStart plan),
      entry.pullRequestState ≠ .merged ∨ entry.mergedAt = none then
    invalidMerge "github_stack_merge_prefix_invalid"
      "only a freshly proven merged prefix may precede selected open entries"
  else if plan.before.isOpen = false ∨ entries.length < selectedEnd plan ∨
      plan.selected ≠ (entries.take (selectedEnd plan)).drop (selectedStart plan) then
    invalidMerge "github_stack_merge_prefix_invalid"
      ("selected entries must be the exact first remaining open prefix of one open Stack " ++
        "generation")
  else if ∃ entry ∈ plan.selected, entry.pullRequestState ≠ .open ∨ entry.draft = true ∨
      Text.eqIgnoreAsciiCase entry.stackState "open" = false then
    invalidMerge "github_stack_merge_entry_ineligible"
      "every selected Stack entry must be open and non-draft"
  else .ok ()

/-- The smallest plan: one open entry on the default branch. -/
def singleEntry : StackEntryGeneration where
  position := 0
  pr := 11
  stackState := "open"
  pullRequestState := .open
  draft := false
  base := ⟨⟨"octo","repo"⟩,"main","c0"⟩
  head := ⟨⟨"octo","repo"⟩,"feature","c1"⟩

def singlePlan : StackAsyncMergePlan where
  operationId := "land-1"
  actor := "cara"
  before := {
    id := 30
    number := 3
    nodeId := "ST_3"
    isOpen := true
    createdAt := "2026-01-01T00:00:00Z"
    topology := ⟨⟨⟨"octo","repo"⟩,"main","c0"⟩,[singleEntry]⟩ }
  selected := [singleEntry]

example : validateMergePlan ⟨"octo","repo"⟩ singlePlan = .ok () := by decide +kernel

/-- A lock on the branch of the single entry, and the ruleset that the provider shows for it. -/
def singleLock (name : String) : StackBranchLockGeneration where
  id := 7
  nodeId := "RRS_7"
  name := name
  repository := ⟨"octo","repo"⟩
  source := "octo/repo"
  sourceType := "Repository"
  target := "branch"
  enforcement := "active"
  selectedPullRequests := [11]
  selectedRefs := ["refs/heads/feature"]
  currentUserCanBypass := "never"
  createdAt := "2026-01-01T00:00:00Z"
  updatedAt := "2026-01-01T00:00:00Z"

def singleRuleset (name : String) : RulesetResponse where
  id := 7
  nodeId := "RRS_7"
  name := name
  target := "branch"
  sourceType := "Repository"
  source := "octo/repo"
  enforcement := "active"
  includeRefs := ["refs/heads/feature"]
  excludeRefs := []
  ruleKinds := ["update","deletion"]
  bypassActors := []
  currentUserCanBypass := "never"
  createdAt := "2026-01-01T00:00:00Z"
  updatedAt := "2026-01-01T00:00:00Z"

def validateMergeLock (plan : StackAsyncMergePlan) (lock : StackBranchLockGeneration) :
    Except StackMergeError Unit :=
  if lock.repository ≠ plan.before.topology.base.repository ∨
      lock.selectedPullRequests ≠ plan.before.topology.entries.map StackEntryGeneration.pr ∨
      lock.selectedRefs ≠ sortedRefs (plan.before.topology.entries.map sourceRef) ∨
      lock.enforcement ≠ "active" ∨ lock.currentUserCanBypass ≠ "never" then
    invalidMerge "github_stack_merge_lock_mismatch"
      ("branch lock does not bind every exact source ref in the immutable Stack generation")
  else .ok ()

def validateCheckpoint (repository : RepositoryId) (checkpoint : StackMergeCheckpoint) :
    Except StackMergeError Unit := do
  if checkpoint.schemaVersion ≠ stackMergeSchemaVersion then
    .error (.invalidCheckpoint ("schema version " ++ toString checkpoint.schemaVersion ++
      " is unsupported"))
  else .ok ()
  if checkpoint.verify w = false then
    .error (.invalidCheckpoint "evidence hash does not match")
  else .ok ()
  if checkpoint.repository ≠ repository ∨ validAsyncUuid checkpoint.uuid = false then
    .error (.invalidCheckpoint "repository or UUID does not match the persisted intent")
  else .ok ()
  validateMergePlan repository checkpoint.plan
  if mergeRequestIdentity repository checkpoint.plan ≠
      some { checkpoint.request with githubRequestId := none } then
    .error (.invalidCheckpoint "request identity does not match the sealed merge plan")
  else .ok ()

def validateLockedCheckpoint (repository : RepositoryId)
    (checkpoint : StackLockedMergeCheckpoint) : Except StackMergeError Unit := do
  if checkpoint.schemaVersion ≠ stackMergeSchemaVersion ∨ checkpoint.repository ≠ repository ∨
      checkpoint.verify w = false then
    .error (.invalidCheckpoint "locked checkpoint schema, repository, or hash is invalid")
  else .ok ()
  validateCheckpoint w repository checkpoint.merge
  validateMergeLock checkpoint.merge.plan checkpoint.branchLock

def classifyObservation (plan : StackAsyncMergePlan) (observation : StackMergeObservation) :
    StackMergeStatus :=
  if observation.selectedMerged = plan.selected.length ∧
      observation.selectedCommitEvidence = .completeOrdered ∧
      observation.selectedHeadsExact = true ∧ observation.remainingOrderExact = true then .merged
  else if observation.selectedMerged = 0 then .failed
  else .indeterminate

def appendRediscoveryError : Option String → Option String → Option String
  | some message,some error => some (message ++ "; provider rediscovery failed: " ++ error)
  | none,some error => some ("provider rediscovery failed: " ++ error)
  | message,none => message

structure StackMergeReceiptInput where
  repository : RepositoryId
  plan : StackAsyncMergePlan
  request : StackMergeRequestIdentity
  checkpoint : Option StackMergeCheckpoint
  status : StackMergeStatus
  providerStatus : Option String
  providerMessage : Option String
  providerSha : Option CommitOid
  observation : Option StackMergeObservation := none

def stackMergeReceipt (input : StackMergeReceiptInput) : StackMergeReceipt :=
  StackMergeReceipt.sealed w {
    schemaVersion := stackMergeSchemaVersion
    repository := input.repository
    plan := input.plan
    request := input.request
    checkpoint := input.checkpoint
    status := input.status
    providerStatus := input.providerStatus
    providerMessage := input.providerMessage
    providerSha := input.providerSha
    observation := input.observation }

def stackMergeCheckpoint (repository : RepositoryId) (plan : StackAsyncMergePlan)
    (request : StackMergeRequestIdentity) (provider : ProviderAsyncMergeResult) :
    Option StackMergeCheckpoint :=
  (provider.uuid.filter validAsyncUuid).map fun uuid => StackMergeCheckpoint.sealed w {
    schemaVersion := stackMergeSchemaVersion
    repository := repository
    plan := plan
    request := request
    uuid := uuid
    initialProviderStatus := provider.status.getD "unknown" }

def lockedMergeReceipt (repository : RepositoryId) (merge : StackMergeReceipt)
    (branchLock : StackBranchLockGeneration) (branchLockVerified : Bool) :
    StackLockedMergeReceipt :=
  StackLockedMergeReceipt.sealed w {
    schemaVersion := stackMergeSchemaVersion
    merge := merge
    branchLock := branchLock
    branchLockVerified := branchLockVerified
    checkpoint := merge.checkpoint.map fun checkpoint => StackLockedMergeCheckpoint.sealed w {
      schemaVersion := stackMergeSchemaVersion
      repository := repository
      merge := checkpoint
      branchLock := branchLock } }

end Pure

section Observation

variable (w : Wire)

def observationOf (pr : PullRequestFacts) : StackMergePullRequestObservation where
  pr := pr.number
  state := pr.state
  draft := pr.draft
  base := pr.base
  head := pr.head
  mergedAt := pr.mergedAt

/-- One member; a merged one also carries its squash commit. -/
def observeMember (repository : RepositoryId) (entry : StackEntryGeneration) :
    Io MutationError StackMergePullRequestObservation := do
  let observation := observationOf (← refetchPullRequest w repository entry.pr)
  if observation.state = .merged then
    return { observation with mergeCommit := ← mergeCommitOid w repository entry.pr }
  else return observation

def StackMergePullRequestObservation.isMerged (row : StackMergePullRequestObservation) : Bool :=
  decide (row.state = .merged) && row.mergedAt.isSome

def selectedMergeCommitsComplete (selected : List StackMergePullRequestObservation) : Bool :=
  selected.all fun row => row.isMerged && row.mergeCommit.isSome

/-- Each consecutive pair of squash commits is compared; a pair without commits cannot be. -/
def compareMergeCommits (repository : RepositoryId)
    (selected : List StackMergePullRequestObservation) : Io MutationError (List CommitRelation) :=
  forEach (Vec.windows selected) fun pair =>
    match pair.1.mergeCommit,pair.2.mergeCommit with
    | some base,some head => compareCommits w repository base head
    | _,_ => crashed

def changedSelectedHeads (selected : List StackMergePullRequestObservation)
    (expected : List StackEntryGeneration) : List PrNumber :=
  ((selected.zip expected).filter fun row => decide (row.1.head ≠ row.2.head)).map fun row =>
    row.1.pr

def remainingOrderExact (stackAfter : Option StackGeneration) (expected : List PrNumber) : Bool :=
  match stackAfter with
  | some stack => decide ((stack.topology.entries.filter fun entry =>
      decide (entry.pullRequestState = .open)).map StackEntryGeneration.pr = expected)
  | none => expected.isEmpty

def commitEvidence (complete ordered : Bool) : StackMergeCommitEvidence :=
  if !complete then .missing else if ordered then .completeOrdered else .completeUnordered

/-- Commits are ordered when the last one is the default tip and each one is ahead of its
predecessor. -/
def mergeCommitsOrdered (repository : RepositoryId) (tip : CommitOid)
    (selected : List StackMergePullRequestObservation) : Io MutationError Bool :=
  if selectedMergeCommitsComplete selected &&
      decide (selected.getLast?.bind StackMergePullRequestObservation.mergeCommit = some tip) then do
    let relations ← compareMergeCommits w repository selected
    return relations.all fun relation => decide (relation = .ahead)
  else return false

def observeStackMerge (repository : RepositoryId) (plan : StackAsyncMergePlan) :
    Io StackMergeError StackMergeObservation := do
  let entries := plan.before.topology.entries
  let base := plan.before.topology.base.name
  let tip ← mapError .provider (json w.gitRef (.gitRef repository base))
  let observed ← mapError .provider (forEach entries (observeMember w repository))
  if observed.length < selectedEnd plan then crashed
  else
    let selected := (observed.take (selectedEnd plan)).drop (selectedStart plan)
    let complete := selectedMergeCommitsComplete selected
    let ordered ← mapError .provider (mergeCommitsOrdered w repository tip selected)
    let changed := changedSelectedHeads selected plan.selected
    let stackAfter ← mapError .stack (nativeStackGeneration w repository plan.before.number)
    return {
      defaultBranch := ⟨repository,base,tip⟩
      selected := selected
      remaining := observed.drop (selectedEnd plan)
      stackAfter := stackAfter
      selectedMerged := selected.countP StackMergePullRequestObservation.isMerged
      selectedCommitEvidence := commitEvidence complete ordered
      selectedHeadsExact := changed.isEmpty
      changedSelectedHeads := changed
      remainingOrderExact := remainingOrderExact stackAfter
        ((entries.drop (selectedEnd plan)).map StackEntryGeneration.pr) }

/-- Status of a terminal receipt, from the observation and the provider's own word. -/
def terminalStatusOf (plan : StackAsyncMergePlan) (observation : StackMergeObservation)
    (providerStatus : Option String) (providerSha : Option CommitOid) : StackMergeStatus :=
  let observed := classifyObservation plan observation
  if observed = .merged ∧ ∀ sha ∈ providerSha, observation.defaultBranch.oid = sha then .merged
  else if observed = .indeterminate then .indeterminate
  else if providerStatus.any fun status => Text.eqIgnoreAsciiCase status "failed" then .failed
  else .indeterminate

def terminalStackMergeReceipt (input : StackMergeReceiptInput) :
    Io StackMergeError StackMergeReceipt := do
  match ← attempt (observeStackMerge w input.repository input.plan) with
  | .error error => return stackMergeReceipt w { input with
      providerMessage := appendRediscoveryError input.providerMessage
        (some (StackMergeError.display w error))
      status := .indeterminate }
  | .ok observation => return stackMergeReceipt w { input with
      status := terminalStatusOf input.plan observation input.providerStatus input.providerSha
      observation := some observation }

end Observation

section Transport

variable (w : Wire)

/-- Without an identified or terminal answer only fresh truth can prove the whole landing. -/
def rediscoveredReceipt (input : StackMergeReceiptInput) :
    Io StackMergeError StackMergeReceipt := do
  match ← attempt (observeStackMerge w input.repository input.plan) with
  | .error error => return stackMergeReceipt w { input with
      providerMessage := appendRediscoveryError input.providerMessage
        (some (StackMergeError.display w error))
      status := .indeterminate }
  | .ok observation => return stackMergeReceipt w { input with
      status := if classifyObservation input.plan observation = .merged then .merged
        else .indeterminate
      observation := some observation }

def nativeStackMergeSubmitUnlocked (repository : RepositoryId) (plan : StackAsyncMergePlan) :
    Io StackMergeError StackMergeReceipt := do
  ofResult (validateMergePlan repository plan)
  let actual ← mapError .stack (nativeStackGeneration w repository plan.before.number)
  if actual ≠ some plan.before then throw (.staleGeneration plan.before actual)
  else match mergeRequestIdentity repository plan with
    | none => crashed
    | some identity =>
        let response ← send (.nativeStackMergeSubmit repository identity.selectedTop
          identity.selectedTopSha mergeMethodValue mergeActionValue)
        let request := { identity with githubRequestId := requestIdOf response }
        let parsed := parsedResponse w response
        let checkpoint := stackMergeCheckpoint w repository plan request parsed
        let input : StackMergeReceiptInput := {
          repository := repository
          plan := plan
          request := request
          checkpoint := checkpoint
          status := .indeterminate
          providerStatus := parsed.status
          providerMessage := providerMessageOf response parsed
          providerSha := parsed.sha }
        match normalizedProviderStatus parsed.status with
        | some .merged | some .failed => terminalStackMergeReceipt w input
        | some .enqueued =>
            if checkpoint.isSome then return stackMergeReceipt w { input with status := .enqueued }
            else rediscoveredReceipt w input
        | some .pending =>
            if checkpoint.isSome &&
                (succeeded response || providerRequestMatchesPlan parsed plan) then
              return stackMergeReceipt w { input with status := .submitted }
            else rediscoveredReceipt w input
        | _ => rediscoveredReceipt w input

def nativeStackMergePollUnlocked (repository : RepositoryId) (checkpoint : StackMergeCheckpoint) :
    Io StackMergeError StackMergeReceipt := do
  ofResult (validateCheckpoint w repository checkpoint)
  let response ← send (.nativeStackMergePoll repository checkpoint.request.selectedTop
    checkpoint.uuid)
  let parsed := parsedResponse w response
  let input : StackMergeReceiptInput := {
    repository := repository
    plan := checkpoint.plan
    request := { checkpoint.request with
      method := "GET"
      path := mergeAsyncPath repository checkpoint.request.selectedTop ++ "/" ++ checkpoint.uuid
      githubRequestId := requestIdOf response }
    checkpoint := some checkpoint
    status := .indeterminate
    providerStatus := parsed.status
    providerMessage := providerMessageOf response parsed
    providerSha := parsed.sha }
  if !succeeded response then terminalStackMergeReceipt w input
  else match normalizedProviderStatus parsed.status with
    | some .pending => return stackMergeReceipt w { input with status := .pending }
    | some .enqueued => return stackMergeReceipt w { input with status := .enqueued }
    | some .merged | some .failed | none => terminalStackMergeReceipt w input
    | some other => return stackMergeReceipt w { input with status := other }

def nativeStackMergeReobserveUnidentified (repository : RepositoryId)
    (plan : StackAsyncMergePlan) (branchLock : StackBranchLockGeneration) :
    Io StackMergeError StackLockedMergeReceipt :=
  match mergeRequestIdentity repository plan with
  | none => crashed
  | some request => do
      let merge ← terminalStackMergeReceipt w {
        repository := repository
        plan := plan
        request := request
        checkpoint := none
        status := .indeterminate
        providerStatus := none
        providerMessage :=
          some "submission response lost; read-only exact-generation reconciliation"
        providerSha := none }
      return lockedMergeReceipt w repository merge branchLock false

/-- Submit only while the exact ruleset locks every source ref of the Stack. -/
def nativeStackMergeSubmitLocked (repository : RepositoryId) (plan : StackAsyncMergePlan)
    (branchLock : StackBranchLockGeneration) : Io StackMergeError StackLockedMergeReceipt := do
  ofResult (validateMergeLock plan branchLock)
  let lock ← mapError .lock (nativeStackBranchLockVerify w repository branchLock)
  let merge ← nativeStackMergeSubmitUnlocked w repository plan
  return lockedMergeReceipt w repository merge lock true

def lockLostMessage (message : Option String) (diagnostic : String) : String :=
  match message with
  | some message => message ++ "; selected branch lock lost: " ++ diagnostic
  | none => "selected branch lock lost: " ++ diagnostic

/-- A lost lock still observes provider truth, but forces the outcome to indeterminate. -/
def nativeStackMergePollLocked (repository : RepositoryId)
    (checkpoint : StackLockedMergeCheckpoint) : Io StackMergeError StackLockedMergeReceipt := do
  ofResult (validateLockedCheckpoint w repository checkpoint)
  let lockResult ← attempt (nativeStackBranchLockVerify w repository checkpoint.branchLock)
  let merge ← nativeStackMergePollUnlocked w repository checkpoint.merge
  match lockResult with
  | .ok _ => return lockedMergeReceipt w repository merge checkpoint.branchLock true
  | .error error =>
      let lost := StackMergeReceipt.sealed w { merge with
        status := .indeterminate
        providerMessage := some
          (lockLostMessage merge.providerMessage (StackBranchLockError.display w error)) }
      return lockedMergeReceipt w repository lost checkpoint.branchLock false

def nativeStackMergeReobserveReleased (repository : RepositoryId)
    (checkpoint : StackLockedMergeCheckpoint) : Io StackMergeError StackLockedMergeReceipt := do
  ofResult (validateLockedCheckpoint w repository checkpoint)
  let merge ← nativeStackMergePollUnlocked w repository checkpoint.merge
  return lockedMergeReceipt w repository merge checkpoint.branchLock false

end Transport

section ReadOnly

variable (w : Wire) (repository : RepositoryId)

theorem observeMember_readOnly (entry : StackEntryGeneration) :
    ReadOnly (observeMember w repository entry) := by
  apply Prog.Only.bind (refetchPullRequest_readOnly w repository _)
  intro pr
  dsimp only
  split
  · apply Prog.Only.bind (mergeCommitOid_readOnly w repository _)
    exact fun _ => Prog.Only.pure _
  · exact Prog.Only.pure _

theorem compareMergeCommits_readOnly (selected : List StackMergePullRequestObservation) :
    ReadOnly (compareMergeCommits w repository selected) := by
  apply Prog.Only.forEach
  intro pair _
  split
  · exact compareCommits_readOnly w repository _ _
  · exact Prog.Only.crashed

theorem mergeCommitsOrdered_readOnly (tip : CommitOid)
    (selected : List StackMergePullRequestObservation) :
    ReadOnly (mergeCommitsOrdered w repository tip selected) := by
  unfold mergeCommitsOrdered
  split
  · apply Prog.Only.bind (compareMergeCommits_readOnly w repository selected)
    exact fun _ => Prog.Only.pure _
  · exact Prog.Only.pure _

theorem observeStackMerge_readOnly (plan : StackAsyncMergePlan) :
    ReadOnly (observeStackMerge w repository plan) := by
  refine Prog.Only.bind (Prog.Only.mapError (json_readOnly w.gitRef rfl)) ?_
  intro tip
  apply Prog.Only.bind (Prog.Only.mapError (Prog.Only.forEach _ fun entry _ =>
    observeMember_readOnly w repository entry))
  intro observed
  split
  · exact Prog.Only.crashed
  · apply Prog.Only.bind (Prog.Only.mapError (mergeCommitsOrdered_readOnly w repository _ _))
    intro ordered
    apply Prog.Only.bind (Prog.Only.mapError (nativeStackGeneration_readOnly w repository _))
    exact fun _ => Prog.Only.pure _

end ReadOnly

end Github
end Cara
