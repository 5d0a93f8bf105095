import Cara.Github.StackRead

/-! Provider-enforced source-ref lock for one native Stack merge group: one active,
no-bypass ruleset over every source ref of the complete Stack generation, released only
by its exact generation. -/
namespace Cara
namespace Github

open Prog (send attempt mapError ofResult)

def rulesetPageSize : ℕ := 100

def lockSchemaVersion : ℕ := 1

def lockNamePrefix : String := "cara-stack-merge-lock-"

def StackBranchLockError.display (w : Wire) : StackBranchLockError → String
  | .invalidPlan code message => code ++ ": " ++ message
  | .provider error => error.display w
  | .inventoryTruncated => "repository ruleset inventory is truncated"
  | .nameCollision name => "ruleset `" ++ name ++ "` exists with different lock policy"
  | .staleLock _ _ => "Stack branch-lock generation changed"
  | .ambiguousResponse operation diagnostic _ =>
      "Stack branch-lock " ++ operation.debug ++ " is ambiguous: " ++ diagnostic
  | .postconditionFailed operation =>
      "Stack branch-lock " ++ operation.debug ++ " postcondition failed"

def lockReceiptSeal : Sealing StackBranchLockReceipt where
  get r := r.evidenceHash
  set r h := { r with evidenceHash := h }
  get_set _ _ := rfl
  set_set _ _ _ := rfl

def StackBranchLockReceipt.sealed (w : Wire) : StackBranchLockReceipt → StackBranchLockReceipt :=
  lockReceiptSeal.sealed w.lockReceipt

def sourceRef (entry : StackEntryGeneration) : String := "refs/heads/" ++ entry.head.name

def sortedRefs (refs : List String) : List String := refs.mergeSort fun a b => decide (a ≤ b)

def rulesetsPath (repository : RepositoryId) : String := "repos/" ++ repository.slug ++ "/rulesets"

def rulesetPath (repository : RepositoryId) (id : ℕ) : String :=
  rulesetsPath repository ++ "/" ++ toString id

def lockResponseDiagnostic : Response → String
  | .ok output => "provider exited " ++ debugCode output.code ++ ": " ++ Text.trimmed output.stderr
  | .error error => error.diagnostic

def validateLockRefs (repository : RepositoryId) :
    List StackEntryGeneration → List String → Except StackBranchLockError Unit
  | [],_ => .ok ()
  | entry::entries,refs =>
      if entry.head.repository ≠ repository ∨ Text.isBlank entry.head.name ∨
          entry.head.name ∈ refs then
        .error (.invalidPlan "github_stack_lock_ref_invalid"
          "selected branches must be unique same-repository refs")
      else validateLockRefs repository entries (entry.head.name::refs)

def validateLockPlan (repository : RepositoryId) (plan : StackBranchLockPlan) :
    Except StackBranchLockError Unit :=
  if Text.isBlank plan.operationId ∨ Text.isBlank plan.actor ∨ plan.selected = [] then
    .error (.invalidPlan "github_stack_lock_identity_missing"
      "branch lock requires operation, actor, and selected entries")
  else validateLockRefs repository plan.selected []

section Lock

variable (w : Wire)

def expectedLock (repository : RepositoryId) (plan : StackBranchLockPlan) :
    Except StackBranchLockError StackBranchLockGeneration := do
  validateLockPlan repository plan
  return {
    id := 0
    nodeId := ""
    name := lockNamePrefix ++
      Fnv.fnv1a64 (w.lockIdentity (repository,plan.operationId,plan.stackNumber))
    repository := repository
    source := repository.slug
    sourceType := "Repository"
    target := "branch"
    enforcement := "active"
    selectedPullRequests := plan.selected.map StackEntryGeneration.pr
    selectedRefs := sortedRefs (plan.selected.map sourceRef)
    currentUserCanBypass := "never"
    createdAt := ""
    updatedAt := "" }

def observedLock (repository : RepositoryId) (response : RulesetResponse) :
    Except StackBranchLockError StackBranchLockGeneration :=
  if response.excludeRefs ≠ [] ∨ response.bypassActors ≠ [] then
    .error (.invalidPlan "github_stack_lock_bypass_detected"
      "Stack lock ruleset must have no exclusions or bypass actors")
  else if response.ruleKinds.toFinset ≠ {"deletion","update"} then
    .error (.invalidPlan "github_stack_lock_rules_invalid"
      "Stack lock ruleset requires exactly update and deletion rules")
  else .ok {
    id := response.id
    nodeId := response.nodeId
    name := response.name
    repository := repository
    source := response.source
    sourceType := response.sourceType
    target := response.target
    enforcement := response.enforcement
    selectedPullRequests := []
    selectedRefs := sortedRefs response.includeRefs
    currentUserCanBypass := response.currentUserCanBypass
    createdAt := response.createdAt
    updatedAt := response.updatedAt }

def bindSelectedPullRequests (lock : StackBranchLockGeneration) (plan : StackBranchLockPlan) :
    StackBranchLockGeneration :=
  { lock with selectedPullRequests := plan.selected.map StackEntryGeneration.pr }

def sameLockPolicy (actual expected : StackBranchLockGeneration) : Bool :=
  decide (actual.name = expected.name ∧ actual.repository = expected.repository ∧
    actual.source = expected.source ∧ actual.sourceType = "Repository" ∧
    actual.target = "branch" ∧ actual.enforcement = "active" ∧
    actual.selectedRefs = expected.selectedRefs ∧ actual.currentUserCanBypass = "never")

def readStackBranchLock (repository : RepositoryId) (id : ℕ) :
    Io StackBranchLockError (Option StackBranchLockGeneration) := do
  match ← send (.readRuleset repository id) with
  | .error error => throw (.provider (.provider (.runner error)))
  | .ok output =>
      if output.isSuccess then
        match w.ruleset output.stdout with
        | .error message => throw (.invalidPlan "github_stack_lock_provider_json_invalid" message)
        | .ok response => return some (← ofResult (observedLock repository response))
      else if Text.contains output.stderr "HTTP 404" then return none
      else throw (.provider (.provider
        (.commandFailed (.readRuleset repository id) output.code output.stderr)))

def findStackBranchLock (repository : RepositoryId) (name : String) :
    Io StackBranchLockError (Option StackBranchLockGeneration) := do
  let summaries ← mapError .provider (json w.rulesets (.listRulesets repository))
  match summaries.filter fun ruleset => decide (ruleset.name = name) with
  | [] =>
      if summaries.length = rulesetPageSize then throw .inventoryTruncated else return none
  | [found] => readStackBranchLock w repository found.id
  | _ => throw (.nameCollision name)

def lockReceipt (repository : RepositoryId) (plan : StackBranchLockPlan)
    (operation : StackBranchLockOperation) (disposition : StackBranchLockDisposition)
    (requestMethod requestPath : String) (githubRequestId : Option String)
    (lock : Option StackBranchLockGeneration) : StackBranchLockReceipt :=
  StackBranchLockReceipt.sealed w {
    schemaVersion := lockSchemaVersion
    operationId := plan.operationId
    actor := plan.actor
    repository := repository
    operation := operation
    disposition := disposition
    requestMethod := requestMethod
    requestPath := requestPath
    githubRequestId := githubRequestId
    lock := lock }

def ambiguousLock (operation : StackBranchLockOperation) (diagnostic : String)
    (result : Except StackBranchLockError (Option StackBranchLockGeneration)) :
    StackBranchLockError :=
  .ambiguousResponse operation diagnostic (match result with
    | .ok _ => none
    | .error error => some (error.display w))

/-- Acquire one exact-ref ruleset. Exact retries write nothing and an ambiguous write
recovers only from an exact active readback. -/
def nativeStackBranchLockAcquire (repository : RepositoryId) (plan : StackBranchLockPlan) :
    Io StackBranchLockError StackBranchLockReceipt := do
  let expected ← ofResult (expectedLock w repository plan)
  let receipt (disposition : StackBranchLockDisposition) (requestId : Option String)
      (lock : StackBranchLockGeneration) : StackBranchLockReceipt :=
    lockReceipt w repository plan .acquire disposition "POST" (rulesetsPath repository) requestId
      (some (bindSelectedPullRequests lock plan))
  match ← findStackBranchLock w repository expected.name with
  | some existing =>
      if sameLockPolicy existing expected then return receipt .alreadySatisfied none existing
      else throw (.nameCollision expected.name)
  | none =>
      let response ← send (.createRuleset repository expected.name expected.selectedRefs)
      let rediscovered ← attempt (findStackBranchLock w repository expected.name)
      match rediscovered with
      | .ok (some actual) =>
          if sameLockPolicy actual expected then
            return receipt (if succeeded response then .completed
              else .recoveredAfterAmbiguousResponse) (requestIdOf response) actual
          else if succeeded response then throw (.postconditionFailed .acquire)
          else throw (ambiguousLock w .acquire (lockResponseDiagnostic response) rediscovered)
      | .ok none =>
          if succeeded response then throw (.postconditionFailed .acquire)
          else throw (ambiguousLock w .acquire (lockResponseDiagnostic response) rediscovered)
      | .error _ =>
          throw (ambiguousLock w .acquire (lockResponseDiagnostic response) rediscovered)

/-- A read ruleset carries no pull requests of its own; the expected ones are bound to it. -/
def bindExpected (actual : Option StackBranchLockGeneration)
    (expected : StackBranchLockGeneration) : Option StackBranchLockGeneration :=
  actual.map fun lock => { lock with selectedPullRequests := expected.selectedPullRequests }

def nativeStackBranchLockVerify (repository : RepositoryId)
    (expected : StackBranchLockGeneration) :
    Io StackBranchLockError StackBranchLockGeneration := do
  let actual := bindExpected (← readStackBranchLock w repository expected.id) expected
  if actual = some expected then return expected
  else throw (.staleLock expected actual)

def remainingStackBranchLock (repository : RepositoryId) (expected : StackBranchLockGeneration) :
    Io StackBranchLockError (Option StackBranchLockGeneration) := do
  match ← readStackBranchLock w repository expected.id with
  | none => findStackBranchLock w repository expected.name
  | some lock => return some lock

/-- Release only the exact generation: a changed ruleset is never deleted and an exact
retry proves absence without another write. -/
def nativeStackBranchLockRelease (repository : RepositoryId) (plan : StackBranchLockPlan)
    (expected : StackBranchLockGeneration) :
    Io StackBranchLockError StackBranchLockReceipt := do
  ofResult (validateLockPlan repository plan)
  let receipt (disposition : StackBranchLockDisposition) (requestId : Option String) :
      StackBranchLockReceipt :=
    lockReceipt w repository plan .release disposition "DELETE"
      (rulesetPath repository expected.id) requestId none
  match bindExpected (← readStackBranchLock w repository expected.id) expected with
  | none =>
      match ← findStackBranchLock w repository expected.name with
      | some actual => throw (.staleLock expected (some actual))
      | none => return receipt .alreadySatisfied none
  | some before =>
      if before ≠ expected then throw (.staleLock expected (some before))
      else
        let response ← send (.deleteRuleset repository expected.id)
        let after ← attempt (remainingStackBranchLock w repository expected)
        match after with
        | .ok none => return receipt (if succeeded response then .completed
            else .recoveredAfterAmbiguousResponse) (requestIdOf response)
        | .ok (some _) =>
            if succeeded response then throw (.postconditionFailed .release)
            else throw (ambiguousLock w .release (lockResponseDiagnostic response) after)
        | .error _ =>
            throw (ambiguousLock w .release (lockResponseDiagnostic response) after)

/-- The rulesets of the first page that carry the lock name, each read by its identity. -/
def listActiveStackBranchLocks (repository : RepositoryId) :
    Io StackBranchLockError (List StackBranchLockGeneration) := do
  let summaries ← mapError .provider (json w.rulesets (.listRulesets repository))
  let locks ← Prog.forEach (summaries.filter fun summary => Text.startsWith summary.name lockNamePrefix)
    fun summary => readStackBranchLock w repository summary.id
  return locks.filterMap id

/-- Delete a ruleset by its identity; one that is gone already is no failure. -/
def deleteStackBranchLock (repository : RepositoryId) (lock : StackBranchLockGeneration) :
    Io StackBranchLockError Unit := do
  match ← send (.deleteRuleset repository lock.id) with
  | .error error => throw (.provider (.provider (.runner error)))
  | .ok output =>
      if output.isSuccess ∨ Text.contains output.stderr "HTTP 404" then return ()
      else throw (.provider (.provider
        (.commandFailed (.deleteRuleset repository lock.id) output.code output.stderr)))

theorem readStackBranchLock_readOnly (repository : RepositoryId) (id : ℕ) :
    ReadOnly (readStackBranchLock w repository id) := by
  refine Prog.Only.bind (Prog.Only.send rfl) ?_
  intro response
  split
  · exact Prog.Only.throw _
  · split
    · split
      · exact Prog.Only.throw _
      · apply Prog.Only.bind (Prog.Only.ofResult _)
        exact fun _ => Prog.Only.pure _
    · split
      · exact Prog.Only.pure _
      · exact Prog.Only.throw _

theorem findStackBranchLock_readOnly (repository : RepositoryId) (name : String) :
    ReadOnly (findStackBranchLock w repository name) := by
  refine Prog.Only.bind (Prog.Only.mapError (json_readOnly w.rulesets rfl)) ?_
  intro summaries
  split
  · split
    · exact Prog.Only.throw _
    · exact Prog.Only.pure _
  · exact readStackBranchLock_readOnly w repository _
  · exact Prog.Only.throw _

theorem remainingStackBranchLock_readOnly (repository : RepositoryId)
    (expected : StackBranchLockGeneration) :
    ReadOnly (remainingStackBranchLock w repository expected) := by
  apply Prog.Only.bind (readStackBranchLock_readOnly w repository _)
  intro reread
  split
  · exact findStackBranchLock_readOnly w repository _
  · exact Prog.Only.pure _

end Lock

end Github
end Cara
