import Cara.Github.StackRead

/-! Create, append to and unstack one native Stack. Every write follows a fresh lease read
and is judged by the Stack that is read back, never by its response alone. -/
namespace Cara
namespace Github

open Prog (send attempt mapError ofResult forEach)

def stackSchemaVersion : ℕ := 1

def mutationReceiptSeal : Sealing StackMutationReceipt where
  get r := r.evidenceHash
  set r h := { r with evidenceHash := h }
  get_set _ _ := rfl
  set_set _ _ _ := rfl

def StackMutationReceipt.sealed (w : Wire) : StackMutationReceipt → StackMutationReceipt :=
  mutationReceiptSeal.sealed w.mutationReceipt

section Plan

def validateOperationIdentity (operationId actor : String) : Except StackMutationError Unit :=
  if Text.isBlank operationId then
    .error (invalidPlan "github_stack_operation_id_missing"
      "Stack mutation requires a non-empty operation identity")
  else if Text.isBlank actor then
    .error (invalidPlan "github_stack_actor_missing" "Stack mutation requires a non-empty actor")
  else .ok ()

def openEntry (entry : StackEntryGeneration) : Bool :=
  decide (entry.pullRequestState = .open) && !entry.draft &&
    Text.eqIgnoreAsciiCase entry.stackState "open"

def validateOpenEntries (topology : StackTopology) (start : ℕ) : Except StackMutationError Unit :=
  match (topology.entries.drop start).find? fun entry => !openEntry entry with
  | some entry => .error (invalidPlan "github_stack_entry_ineligible"
      ("PR #" ++ toString entry.pr ++
        " must be open, non-draft, and requested in open Stack state"))
  | none => .ok ()

def validateAddPlan (repository : RepositoryId) (plan : StackAddPlan) :
    Except StackMutationError Unit := do
  validateTopology repository plan.before.topology 2
  validateTopology repository plan.desired 2
  if plan.desired.entries.length ≤ plan.before.topology.entries.length then
    .error (invalidPlan "github_stack_add_empty" "Stack add requires at least one new top entry")
  else .ok ()
  if plan.desired.base ≠ plan.before.topology.base ∨
      plan.before.topology.entries.isPrefixOf plan.desired.entries = false then
    .error (invalidPlan "github_stack_add_not_append_only"
      "Stack add may append only an exact top suffix")
  else .ok ()
  validateOpenEntries plan.desired plan.before.topology.entries.length

/-- The provider may rebase exactly the newly appended tail; every entry below it is
immutable authority. -/
def providerConvergedAddTopology (before desired actual : StackTopology) : Bool :=
  let size := before.entries.length
  if desired.base ≠ before.base ∨ actual.base ≠ before.base ∨ desired.entries.length ≠ size + 1 ∨
      actual.entries.length ≠ desired.entries.length ∨ actual.entries.take size ≠ before.entries then
    false
  else match before.entries.getLast?,desired.entries[size]?,actual.entries[size]? with
    | some predecessor,some expected,some observed =>
        decide (expected.base = predecessor.head ∧ observed.position = expected.position ∧
          observed.pr = expected.pr ∧ observed.pullRequestState = .open) &&
        Text.eqIgnoreAsciiCase observed.stackState "open" &&
        decide (observed.draft = false ∧ observed.mergedAt = none ∧
          observed.base = predecessor.head ∧ observed.head.repository = expected.head.repository ∧
          observed.head.name = expected.head.name) &&
        !Text.isBlank observed.head.oid
    | _,_,_ => false

def providerConvergedCreateTopology (desired actual : StackTopology) : Bool :=
  match desired.entries with
  | [] => false
  | entries => providerConvergedAddTopology ⟨desired.base,entries.dropLast⟩ desired actual

def sameStackIdentity (left right : StackGeneration) : Bool :=
  decide (left.id = right.id ∧ left.number = right.number ∧ left.nodeId = right.nodeId ∧
    left.createdAt = right.createdAt)

def changedEntryFields (row : (StackEntryGeneration × StackEntryGeneration) × ℕ) : List String :=
  let entry := "entries[" ++ toString row.2 ++ "]"
  let expected := row.1.1
  let actual := row.1.2
  (if expected.pr ≠ actual.pr then [entry ++ ".pr"] else []) ++
    (if expected.head ≠ actual.head then [entry ++ ".head"] else []) ++
    (if expected.base ≠ actual.base then [entry ++ ".base"] else []) ++
    (if expected.pullRequestState ≠ actual.pullRequestState ∨ expected.draft ≠ actual.draft ∨
        expected.stackState ≠ actual.stackState then [entry ++ ".state"] else [])

def changedTopologyFields (expected actual : StackTopology) : List String :=
  let changed := (if expected.base ≠ actual.base then ["base"] else []) ++
    (if expected.entries.length ≠ actual.entries.length then ["entry_count"] else []) ++
    (expected.entries.zip actual.entries).zipIdx.flatMap changedEntryFields
  if changed = [] then ["stack_identity"] else changed

def staleFields (expected : StackTopology) (actual : Option StackGeneration) : List String :=
  match actual with
  | none => ["stack_absent"]
  | some actual => changedTopologyFields expected actual.topology

def staleTopology (expected : StackTopology) (actual : Option StackGeneration) :
    StackMutationError :=
  .staleGeneration expected actual (staleFields expected actual)

def staleGeneration (expected : StackGeneration) (actual : Option StackGeneration) :
    StackMutationError :=
  .staleGeneration expected.topology actual (staleFields expected.topology actual ++
    (if actual.any fun generation => !sameStackIdentity generation expected then
      ["stack_identity"] else []))

def stacksPath (repository : RepositoryId) : String := "repos/" ++ repository.slug ++ "/stacks"

def createRequest (repository : RepositoryId) (topology : StackTopology) :
    StackRequestIdentity where
  method := "POST"
  path := stacksPath repository
  orderedPullRequests := topology.entries.map StackEntryGeneration.pr

def addedPullRequests (plan : StackAddPlan) : List PrNumber :=
  (plan.desired.entries.drop plan.before.topology.entries.length).map StackEntryGeneration.pr

def addRequest (repository : RepositoryId) (plan : StackAddPlan) : StackRequestIdentity where
  method := "POST"
  path := stacksPath repository ++ "/" ++ toString plan.before.number ++ "/add"
  orderedPullRequests := addedPullRequests plan

def unstackRequest (repository : RepositoryId) (number : ℕ) : StackRequestIdentity where
  method := "POST"
  path := stacksPath repository ++ "/" ++ toString number ++ "/unstack"

def mutationResponseDiagnostic : Response → String
  | .ok output => "provider exited " ++ debugCode output.code ++ ": " ++
      (if Text.isBlank output.stderr then "no diagnostic" else Text.trimmed output.stderr)
  | .error error => error.diagnostic

def boundedProviderOutput : Response → Option String
  | .ok output =>
      let value := Text.trimmed output.stdout
      if value = "" then none else some (diagnosticExcerpt value)
  | .error _ => none

end Plan

section Write

variable (w : Wire)

def ambiguousError (operation : StackMutationOperation) (diagnostic : String)
    (rediscovery : Except StackMutationError (Option StackGeneration)) : StackMutationError :=
  match rediscovery with
  | .ok observed => .ambiguousResponse operation diagnostic none observed
  | .error error => .ambiguousResponse operation diagnostic (some (error.display w)) none

structure StackReceiptInput where
  repository : RepositoryId
  operationId : String
  actor : String
  operation : StackMutationOperation
  disposition : StackMutationDisposition
  request : StackRequestIdentity
  before : Option StackGeneration
  after : Option StackGeneration
  providerOutput : Option String := none

def stackReceipt (input : StackReceiptInput) : StackMutationReceipt :=
  StackMutationReceipt.sealed w {
    schemaVersion := stackSchemaVersion
    operationId := input.operationId
    operation := input.operation
    repository := input.repository
    actor := input.actor
    disposition := input.disposition
    request := input.request
    before := input.before
    after := input.after
    providerOutput := input.providerOutput }

def freshEntry (repository : RepositoryId) (row : StackEntryGeneration × ℕ) :
    Io StackMutationError StackEntryGeneration := do
  let pr ← mapError .provider (refetchPullRequest w repository row.1.pr)
  ofResult (entryFromPr row.2 row.1.stackState pr)

def verifyTopologyFresh (repository : RepositoryId) (expected : StackTopology) :
    Io StackMutationError Unit := do
  let oid ← mapError .provider (json w.gitRef (.gitRef repository expected.base.name))
  let entries ← forEach expected.entries.zipIdx (freshEntry w repository)
  let actual : StackTopology := ⟨⟨repository,expected.base.name,oid⟩,entries⟩
  if actual = expected then return ()
  else throw (.staleGeneration expected none (changedTopologyFields expected actual))

def findIntersectingGeneration (repository : RepositoryId) (inventory : StackInventory)
    (desired : StackTopology) : Io StackMutationError (Option StackGeneration) := do
  let members := desired.entries.map StackEntryGeneration.pr
  match inventory.snapshots.filter fun stack =>
      stack.pullRequests.any fun row => decide (row.number ∈ members) with
  | [] => return none
  | [stack] => return some (← observeStackGeneration w repository stack none)
  | candidates => throw (.inconsistentProviderState
      ("desired PRs intersect multiple provider Stacks: " ++
        ", ".intercalate (candidates.map fun stack => toString stack.number)))

def rediscoverTopology (repository : RepositoryId) (desired : StackTopology) :
    Io StackMutationError (Option StackGeneration) := do
  let inventory ← exactInventory w repository
  findIntersectingGeneration w repository inventory desired

/-- How a write is judged: its response, the Stack read back and the wanted postcondition. -/
def judgeWrite (input : StackReceiptInput) (expected : Option StackTopology)
    (postcondition : Option StackGeneration → Bool) (response : Response)
    (rediscovered : Except StackMutationError (Option StackGeneration)) :
    Io StackMutationError StackMutationReceipt :=
  let failure := ambiguousError w input.operation (mutationResponseDiagnostic response) rediscovered
  match rediscovered with
  | .error _ => throw failure
  | .ok after =>
      if postcondition after then return stackReceipt w { input with
        disposition := if succeeded response then .completed else .recoveredAfterAmbiguousResponse
        request := { input.request with githubRequestId := requestIdOf response }
        after := after
        providerOutput := boundedProviderOutput response }
      else if succeeded response then throw (.postconditionFailed input.operation expected after)
      else throw failure

/-- Create a Stack of two to a hundred entries, or prove that an exact earlier attempt did. -/
def nativeStackCreate (repository : RepositoryId) (plan : StackCreatePlan) :
    Io StackMutationError StackMutationReceipt := do
  ofResult (validateOperationIdentity plan.operationId plan.actor)
  ofResult (validateTopology repository plan.desired 2)
  ofResult (validateOpenEntries plan.desired 0)
  let inventory ← exactInventory w repository
  let input : StackReceiptInput := {
    repository := repository
    operationId := plan.operationId
    actor := plan.actor
    operation := .create
    disposition := .alreadySatisfied
    request := createRequest repository plan.desired
    before := none
    after := none }
  match ← findIntersectingGeneration w repository inventory plan.desired with
  | some existing =>
      if providerConvergedCreateTopology plan.desired existing.topology then
        return stackReceipt w { input with before := some existing,after := some existing }
      else throw (staleTopology plan.desired (some existing))
  | none =>
      verifyTopologyFresh w repository plan.desired
      let response ← send (.nativeStackCreate repository
        (plan.desired.entries.map StackEntryGeneration.pr))
      let rediscovered ← attempt (rediscoverTopology w repository plan.desired)
      judgeWrite w input (some plan.desired) (fun after => after.any fun generation =>
        providerConvergedCreateTopology plan.desired generation.topology) response rediscovered

def completeKnownStackMutation (input : StackReceiptInput) (before : StackGeneration)
    (expected : Option StackTopology) (postcondition : Option StackGeneration → Bool)
    (command : Command) : Io StackMutationError StackMutationReceipt := do
  let response ← send command
  let rediscovered ← attempt (nativeStackGeneration w input.repository before.number)
  judgeWrite w { input with before := some before } expected postcondition response rediscovered

def addConverged (plan : StackAddPlan) (after : Option StackGeneration) : Bool :=
  after.any fun generation => sameStackIdentity generation plan.before &&
    providerConvergedAddTopology plan.before.topology plan.desired generation.topology

def nativeStackAdd (repository : RepositoryId) (plan : StackAddPlan) :
    Io StackMutationError StackMutationReceipt := do
  ofResult (validateOperationIdentity plan.operationId plan.actor)
  ofResult (validateAddPlan repository plan)
  let actual ← nativeStackGeneration w repository plan.before.number
  let input : StackReceiptInput := {
    repository := repository
    operationId := plan.operationId
    actor := plan.actor
    operation := .add
    disposition := .alreadySatisfied
    request := addRequest repository plan
    before := actual
    after := actual }
  if addConverged plan actual then return stackReceipt w input
  else match actual with
    | none => throw (staleTopology plan.before.topology none)
    | some before =>
        if before ≠ plan.before then throw (staleGeneration plan.before (some before))
        else
          verifyTopologyFresh w repository plan.desired
          let lease ← nativeStackGeneration w repository plan.before.number
          if lease ≠ some plan.before then throw (staleGeneration plan.before lease)
          else
            completeKnownStackMutation w input plan.before (some plan.desired) (addConverged plan)
              (.nativeStackAdd repository plan.before.number (addedPullRequests plan))

def unstackSatisfied (plan : StackUnstackPlan) (actual : Option StackGeneration) : Bool :=
  match actual,plan.desiredAfter with
  | none,none => true
  | some actual,some desired =>
      sameStackIdentity actual plan.before && decide (actual.topology = desired)
  | _,_ => false

def nativeStackUnstack (repository : RepositoryId) (plan : StackUnstackPlan) :
    Io StackMutationError StackMutationReceipt := do
  ofResult (validateOperationIdentity plan.operationId plan.actor)
  ofResult (if plan.allowedStaleTailBase.isSome && plan.desiredAfter.isSome then
    .error (invalidPlan "github_stack_stale_tail_unstack_scope_invalid"
      "a stale tail base may be tolerated only while removing the exact whole Stack")
    else .ok ())
  ofResult (validateTopologyAllowingStaleTailBase repository plan.before.topology 1
    plan.allowedStaleTailBase)
  ofResult (match plan.desiredAfter with
    | some desired => validateTopology repository desired 1
    | none => .ok ())
  let actual ← nativeStackGenerationAllowingStaleTailBase w repository plan.before.number
    plan.allowedStaleTailBase
  let input : StackReceiptInput := {
    repository := repository
    operationId := plan.operationId
    actor := plan.actor
    operation := .unstack
    disposition := .alreadySatisfied
    request := unstackRequest repository plan.before.number
    before := actual
    after := actual }
  if unstackSatisfied plan actual then return stackReceipt w input
  else match actual with
    | none => throw (staleTopology plan.before.topology none)
    | some before =>
        if before ≠ plan.before then throw (staleGeneration plan.before (some before))
        else
          completeKnownStackMutation w input plan.before plan.desiredAfter (unstackSatisfied plan)
            (.nativeStackUnstack repository plan.before.number)

end Write

/-- Besides reads the program makes at most this one request. -/
abbrev WritesOnly {ε α : Type} (write : Command) (p : Io ε α) : Prop :=
  Prog.Only (fun command : Command => command.isRead = true ∨ command = write) p

theorem ReadOnly.writesOnly {ε α : Type} {write : Command} {p : Io ε α} (h : ReadOnly p) :
    WritesOnly write p := h.weaken fun _ => .inl

section Writes

variable (w : Wire) (repository : RepositoryId)

theorem exactInventory_readOnly : ReadOnly (exactInventory w repository) := by
  apply Prog.Only.bind (Prog.Only.mapError (nativeStackInventory_readOnly w repository))
  intro inventory
  split
  · exact Prog.Only.throw _
  · exact Prog.Only.pure _

theorem verifyTopologyFresh_readOnly (expected : StackTopology) :
    ReadOnly (verifyTopologyFresh w repository expected) := by
  refine Prog.Only.bind (Prog.Only.mapError (json_readOnly w.gitRef rfl)) ?_
  intro oid
  refine Prog.Only.bind (Prog.Only.forEach _ fun row _ => ?_) ?_
  · apply Prog.Only.bind (Prog.Only.mapError (refetchPullRequest_readOnly w repository _))
    exact fun _ => Prog.Only.ofResult _
  · intro entries
    dsimp only
    split
    · exact Prog.Only.pure _
    · exact Prog.Only.throw _

theorem findIntersectingGeneration_readOnly (inventory : StackInventory)
    (desired : StackTopology) :
    ReadOnly (findIntersectingGeneration w repository inventory desired) := by
  unfold findIntersectingGeneration
  dsimp only
  split
  · exact Prog.Only.pure _
  · apply Prog.Only.bind (observeStackGeneration_readOnly w repository _ _)
    exact fun _ => Prog.Only.pure _
  · exact Prog.Only.throw _

theorem rediscoverTopology_readOnly (desired : StackTopology) :
    ReadOnly (rediscoverTopology w repository desired) := by
  apply Prog.Only.bind (exactInventory_readOnly w repository)
  exact fun inventory => findIntersectingGeneration_readOnly w repository inventory desired

theorem judgeWrite_readOnly (input : StackReceiptInput) (expected : Option StackTopology)
    (postcondition : Option StackGeneration → Bool) (response : Response)
    (rediscovered : Except StackMutationError (Option StackGeneration)) :
    ReadOnly (judgeWrite w input expected postcondition response rediscovered) := by
  unfold judgeWrite
  dsimp only
  split
  · exact Prog.Only.throw _
  · split
    · exact Prog.Only.pure _
    · split
      · exact Prog.Only.throw _
      · exact Prog.Only.throw _

theorem nativeStackCreate_writesOnly (plan : StackCreatePlan) :
    WritesOnly (.nativeStackCreate repository (plan.desired.entries.map StackEntryGeneration.pr))
      (nativeStackCreate w repository plan) := by
  apply Prog.Only.bind (Prog.Only.ofResult _)
  intro _
  apply Prog.Only.bind (Prog.Only.ofResult _)
  intro _
  apply Prog.Only.bind (Prog.Only.ofResult _)
  intro _
  apply Prog.Only.bind (exactInventory_readOnly w repository).writesOnly
  intro inventory
  apply Prog.Only.bind (findIntersectingGeneration_readOnly w repository _ _).writesOnly
  intro existing
  split
  · split
    · exact Prog.Only.pure _
    · exact Prog.Only.throw _
  · apply Prog.Only.bind (verifyTopologyFresh_readOnly w repository _).writesOnly
    intro _
    apply Prog.Only.bind (Prog.Only.send (.inr rfl))
    intro response
    apply Prog.Only.bind (Prog.Only.attempt (rediscoverTopology_readOnly w repository _).writesOnly)
    intro rediscovered
    exact (judgeWrite_readOnly w _ _ _ _ _).writesOnly

theorem nativeStackUnstack_writesOnly (plan : StackUnstackPlan) :
    WritesOnly (.nativeStackUnstack repository plan.before.number)
      (nativeStackUnstack w repository plan) := by
  apply Prog.Only.bind (Prog.Only.ofResult _)
  intro _
  apply Prog.Only.bind (Prog.Only.ofResult _)
  intro _
  apply Prog.Only.bind (Prog.Only.ofResult _)
  intro _
  apply Prog.Only.bind (Prog.Only.ofResult _)
  intro _
  apply Prog.Only.bind
    (nativeStackGenerationAllowingStaleTailBase_readOnly w repository _ _).writesOnly
  intro actual
  dsimp only
  split
  · exact Prog.Only.pure _
  · split
    · exact Prog.Only.throw _
    · split
      · exact Prog.Only.throw _
      · apply Prog.Only.bind (Prog.Only.send (.inr rfl))
        intro response
        apply Prog.Only.bind (Prog.Only.attempt (nativeStackGeneration_readOnly w _ _).writesOnly)
        intro rediscovered
        exact (judgeWrite_readOnly w _ _ _ _ _).writesOnly

end Writes

end Github
end Cara
