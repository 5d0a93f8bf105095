import Cara.Github.StackWrite
import Cara.Lib.Guard

/-! Resumable native-Stack rebuild of an eviction or a split: preflight, unstack, the bound
Cara reshape, one replacement Stack at a time and a final proof, each boundary a sealed
checkpoint. -/
namespace Cara
namespace Github

open Prog (mapError ofResult forEach)
open Guard (refuse)

def reshapeSchemaVersion : ℕ := 1

def activeLabel : String := "caravan"

def evictedLabel : String := "caravan-evicted"

def forceLabel : String := "caravan-force"

def maxReplacementChains : ℕ := 2

inductive StackReshapeOperation where
  | evict
  | split
deriving DecidableEq

def StackReshapeOperation.asStr : StackReshapeOperation → String
  | .evict => "evict"
  | .split => "split"

structure StackReshapePrPostcondition where
  pr : PrNumber
  head : BranchSnapshot
  base : BranchSnapshot
  requiredLabels : List String
  forbiddenLabels : List String
  autoMergeEnabled : Bool
deriving DecidableEq

/-- Complete no-write replacement plan for one exact generation; singleton chains are part
of it, only longer ones are created. -/
structure StackReshapePlan where
  schemaVersion : ℕ
  repository : RepositoryId
  operationId : String
  actor : String
  operation : StackReshapeOperation
  selectedPr : PrNumber
  before : StackGeneration
  replacementChains : List StackTopology
  prPostconditions : List StackReshapePrPostcondition
  planHash : String := ""
deriving DecidableEq

inductive StackReshapePhase where
  | preflighted
  | unstacked
  | reshapeApplied
  | rebuilding
  | rebuilt
  | verified
deriving DecidableEq

def StackReshapePhase.rank : StackReshapePhase → ℕ
  | .preflighted => 0
  | .unstacked => 1
  | .reshapeApplied => 2
  | .rebuilding => 3
  | .rebuilt => 4
  | .verified => 5

structure StackReshapeCheckpoint where
  schemaVersion : ℕ
  repository : RepositoryId
  plan : StackReshapePlan
  phase : StackReshapePhase
  providerAtomic : Bool := false
  unstackReceipt : Option StackMutationReceipt := none
  reshapeReceipt : Option OperationReceipt := none
  replacementReceipts : List StackMutationReceipt := []
  finalStacks : List StackGeneration := []
  evidenceHash : String := ""
deriving DecidableEq

inductive StackReshapeError where
  | invalidPlan (code message : String)
  | invalidCheckpoint (diagnostic : String)
  | staleGeneration (expected : StackGeneration) (actual : Option StackGeneration)
  | existingReshapeIncomplete (pr : PrNumber) (changedFields : List String)
  | finalTopologyMismatch (diagnostic : String)
  | stackMutation (error : StackMutationError)
  | stackRead (error : StackReadError)
  | provider (error : MutationError)
deriving DecidableEq

structure ReshapeWire extends Wire where
  reshapePlan : StackReshapePlan → List UInt8
  reshapeCheckpoint : StackReshapeCheckpoint → List UInt8

def reshapePlanSeal : Sealing StackReshapePlan where
  get p := p.planHash
  set p h := { p with planHash := h }
  get_set _ _ := rfl
  set_set _ _ _ := rfl

def reshapeCheckpointSeal : Sealing StackReshapeCheckpoint where
  get c := c.evidenceHash
  set c h := { c with evidenceHash := h }
  get_set _ _ := rfl
  set_set _ _ _ := rfl

section Plan

def mapPlanError : StackMutationError → StackReshapeError
  | .invalidPlan code message => .invalidPlan code message
  | other => .stackMutation other

def invalidReshape {α : Type} (code message : String) : Except StackReshapeError α :=
  .error (.invalidPlan code message)

def staleTailBaseException (plan : StackReshapePlan) : Option PrNumber :=
  if plan.operation = .evict ∧ plan.before.topology.entries.getLast?.map StackEntryGeneration.pr =
      some plan.selectedPr then some plan.selectedPr else none

def providerReplacementChains (plan : StackReshapePlan) : List StackTopology :=
  plan.replacementChains.filter fun chain => decide (2 ≤ chain.entries.length)

def unstackOperationId (plan : StackReshapePlan) : String := plan.operationId ++ ":unstack"

def replacementOperationId (plan : StackReshapePlan) (index : ℕ) : String :=
  plan.operationId ++ ":replacement:" ++ toString index

/-- The planned entry of a pull request; a later chain overrides an earlier one. -/
def replacementEntry (chains : List StackTopology) (pr : PrNumber) : Option StackEntryGeneration :=
  (chains.flatMap StackTopology.entries).reverse.find? fun entry => decide (entry.pr = pr)

def derivePostcondition (operation : StackReshapeOperation) (selectedPr : PrNumber)
    (chains : List StackTopology) (original : StackEntryGeneration) :
    Except StackReshapeError StackReshapePrPostcondition :=
  if operation = .evict ∧ original.pr = selectedPr then .ok {
    pr := original.pr
    head := original.head
    base := original.base
    requiredLabels := [evictedLabel]
    forbiddenLabels := [activeLabel,forceLabel]
    autoMergeEnabled := false }
  else match replacementEntry chains original.pr with
    | none => invalidReshape "github_stack_reshape_member_missing"
        "a non-evicted member is absent from replacement chains"
    | some generation => .ok {
        pr := original.pr
        head := generation.head
        base := generation.base
        requiredLabels := [activeLabel]
        forbiddenLabels := [evictedLabel]
        autoMergeEnabled := false }

def derivePostconditions (operation : StackReshapeOperation) (selectedPr : PrNumber)
    (before : StackGeneration) (chains : List StackTopology) :
    Except StackReshapeError (List StackReshapePrPostcondition) :=
  before.topology.entries.mapM (derivePostcondition operation selectedPr chains)

def validateChain (plan : StackReshapePlan) (chain : StackTopology) :
    Except StackReshapeError Unit := do
  (validateTopology plan.repository chain 1).mapError mapPlanError
  (validateOpenEntries chain 0).mapError mapPlanError
  refuse (chain.base ≠ plan.before.topology.base) (.invalidPlan "github_stack_reshape_base_changed"
    "every replacement chain must retain the exact Stack base generation")

def expectedMembers (plan : StackReshapePlan) (selectedIndex : ℕ) :
    Except StackReshapeError (List StackEntryGeneration) :=
  let before := plan.before.topology.entries
  match plan.operation with
  | .evict =>
      if (if 1 < before.length then 1 else 0) < plan.replacementChains.length then
        invalidReshape "github_stack_reshape_evict_partition_invalid"
          "eviction produces zero or one surviving chain"
      else .ok (before.filter fun entry => decide (entry.pr ≠ plan.selectedPr))
  | .split =>
      match plan.replacementChains with
      | [lower,upper] =>
          if selectedIndex = 0 then
            invalidReshape "github_stack_reshape_split_partition_invalid"
              "split requires a non-head selected PR and exactly two replacement chains"
          else if lower.entries.length ≠ selectedIndex ∨
              upper.entries.head?.map StackEntryGeneration.pr ≠ some plan.selectedPr then
            invalidReshape "github_stack_reshape_split_boundary_invalid"
              "replacement chains do not split immediately before the selected PR"
          else .ok before
      | _ => invalidReshape "github_stack_reshape_split_partition_invalid"
          "split requires a non-head selected PR and exactly two replacement chains"

def sameGeneration (desired original : StackEntryGeneration) : Bool :=
  decide (desired.pr = original.pr ∧ desired.head = original.head ∧
    desired.pullRequestState = original.pullRequestState ∧ desired.draft = original.draft ∧
    desired.mergedAt = original.mergedAt)

/-- The chains against the members they replace, and the postconditions that follow. -/
def validateMembers (plan : StackReshapePlan) : Except StackReshapeError Unit :=
  match plan.before.topology.entries.findIdx? fun entry => decide (entry.pr = plan.selectedPr) with
  | none => invalidReshape "github_stack_reshape_selected_missing"
      "selected PR is not in the exact provider Stack generation"
  | some selectedIndex => do
      let desired := plan.replacementChains.flatMap StackTopology.entries
      let expected ← expectedMembers plan selectedIndex
      if desired.length ≠ expected.length then
        invalidReshape "github_stack_reshape_member_set_invalid"
          "replacement chains do not contain the complete expected member set"
      else if (desired.zip expected).all (fun row => sameGeneration row.1 row.2) = false then
        invalidReshape "github_stack_reshape_generation_changed"
          "replacement chains must preserve every surviving exact PR/head generation"
      else
        let derived ← derivePostconditions plan.operation plan.selectedPr plan.before
          plan.replacementChains
        if plan.prPostconditions ≠ derived then
          invalidReshape "github_stack_reshape_postconditions_invalid"
            "PR postconditions do not exactly match the existing Cara reshape contract"
        else .ok ()

def validatePlanSemantics (plan : StackReshapePlan) : Except StackReshapeError Unit := do
  (validateOperationIdentity plan.operationId plan.actor).mapError mapPlanError
  refuse (plan.schemaVersion ≠ reshapeSchemaVersion) (.invalidPlan
    "github_stack_reshape_schema_invalid" "unsupported Stack reshape plan schema")
  refuse (plan.before.isOpen = false ∨ plan.before.number = 0 ∨ plan.before.id = 0) (.invalidPlan
    "github_stack_reshape_generation_invalid" "reshape requires one open identified provider Stack")
  (validateTopologyAllowingStaleTailBase plan.repository plan.before.topology 2
    (staleTailBaseException plan)).mapError mapPlanError
  (validateOpenEntries plan.before.topology 0).mapError mapPlanError
  refuse (maxReplacementChains < plan.replacementChains.length) (.invalidPlan
    "github_stack_reshape_too_many_chains"
    "evict/split replacement is bounded to at most two chains")
  plan.replacementChains.forM (validateChain plan)
  validateMembers plan

def changedPrFields (expected : StackReshapePrPostcondition) (actual : PullRequestFacts) :
    List String :=
  (if actual.state ≠ .open then ["state"] else []) ++
    (if actual.draft then ["draft"] else []) ++
    (if actual.crossRepository then ["repository"] else []) ++
    (if actual.head ≠ expected.head then ["head"] else []) ++
    (if actual.base ≠ expected.base then ["base"] else []) ++
    (if expected.requiredLabels.all (fun label => decide (label ∈ actual.labels)) then []
      else ["required_labels"]) ++
    (if expected.forbiddenLabels.any (fun label => decide (label ∈ actual.labels)) then
      ["forbidden_labels"] else []) ++
    (if actual.autoMergeEnabled ≠ expected.autoMergeEnabled then ["auto_merge"] else [])

def validateExistingReceipt (plan : StackReshapePlan) (receipt : OperationReceipt) :
    Except StackReshapeError Unit :=
  refuse (receipt.operation ≠ plan.operation.asStr ∨ Text.isBlank receipt.operationId)
    (.invalidCheckpoint "existing Cara receipt does not match the planned evict/split operation")

end Plan

section Checkpoint

variable (w : ReshapeWire)

def StackMutationReceipt.verify (w : Wire) : StackMutationReceipt → Bool :=
  mutationReceiptSeal.verify w.mutationReceipt

def StackReshapePlan.new (repository : RepositoryId) (operationId actor : String)
    (operation : StackReshapeOperation) (selectedPr : PrNumber) (before : StackGeneration)
    (replacementChains : List StackTopology) : Except StackReshapeError StackReshapePlan := do
  let prPostconditions ← derivePostconditions operation selectedPr before replacementChains
  let plan : StackReshapePlan := {
    schemaVersion := reshapeSchemaVersion
    repository := repository
    operationId := operationId
    actor := actor
    operation := operation
    selectedPr := selectedPr
    before := before
    replacementChains := replacementChains
    prPostconditions := prPostconditions }
  validatePlanSemantics plan
  return reshapePlanSeal.sealed w.reshapePlan plan

def StackReshapePlan.verify (plan : StackReshapePlan) : Bool :=
  decide (plan.schemaVersion = reshapeSchemaVersion) && decide (plan.planHash ≠ "") &&
    reshapePlanSeal.verify w.reshapePlan plan && (validatePlanSemantics plan).isOk

def unstackReceiptExact (c : StackReshapeCheckpoint) (receipt : StackMutationReceipt) : Bool :=
  receipt.verify w.toWire && decide (receipt.repository = c.repository ∧
    receipt.operation = .unstack ∧ receipt.operationId = unstackOperationId c.plan ∧
    receipt.after = none)

/-- A replacement receipt is exact for its chain: the Stack read back is the planned one. -/
def replacementReceiptExact (c : StackReshapeCheckpoint)
    (row : (StackMutationReceipt × StackTopology) × ℕ) : Bool :=
  let receipt := row.1.1
  receipt.verify w.toWire && decide (receipt.repository = c.repository ∧
    receipt.operation = .create ∧ receipt.operationId = replacementOperationId c.plan row.2 ∧
    receipt.after.map StackGeneration.topology = some row.1.2)

def fieldsMatchPhase (c : StackReshapeCheckpoint) : Bool :=
  let chains := providerReplacementChains c.plan
  match c.phase with
  | .preflighted => c.unstackReceipt.isNone && c.reshapeReceipt.isNone &&
      c.replacementReceipts.isEmpty && c.finalStacks.isEmpty
  | .unstacked => c.unstackReceipt.isSome && c.reshapeReceipt.isNone &&
      c.replacementReceipts.isEmpty && c.finalStacks.isEmpty
  | .reshapeApplied => c.unstackReceipt.isSome && c.reshapeReceipt.isSome &&
      c.replacementReceipts.isEmpty && c.finalStacks.isEmpty
  | .rebuilding => c.unstackReceipt.isSome && c.reshapeReceipt.isSome &&
      !c.replacementReceipts.isEmpty &&
      decide (c.replacementReceipts.length < chains.length) && c.finalStacks.isEmpty
  | .rebuilt => c.unstackReceipt.isSome && c.reshapeReceipt.isSome &&
      decide (c.replacementReceipts.length = chains.length) && c.finalStacks.isEmpty
  | .verified => c.unstackReceipt.isSome && c.reshapeReceipt.isSome &&
      decide (c.replacementReceipts.length = chains.length) &&
      decide (c.finalStacks.map StackGeneration.topology = chains)

def validateCheckpointShape (c : StackReshapeCheckpoint) : Except StackReshapeError Unit := do
  let chains := providerReplacementChains c.plan
  refuse (chains.length < c.replacementReceipts.length)
    (.invalidCheckpoint "too many replacement receipts")
  refuse (!c.unstackReceipt.all (unstackReceiptExact w c))
    (.invalidCheckpoint "unstack receipt is not exact")
  refuse (!(c.replacementReceipts.zip chains).zipIdx.all (replacementReceiptExact w c))
    (.invalidCheckpoint "replacement create receipt is not exact")
  c.reshapeReceipt.elim (.ok ()) (validateExistingReceipt c.plan)
  refuse (!fieldsMatchPhase c)
    (.invalidCheckpoint "receipts do not match the declared non-atomic phase")

def StackReshapeCheckpoint.sealed : StackReshapeCheckpoint → StackReshapeCheckpoint :=
  reshapeCheckpointSeal.sealed w.reshapeCheckpoint

def StackReshapeCheckpoint.verify (c : StackReshapeCheckpoint) : Bool :=
  decide (c.schemaVersion = reshapeSchemaVersion) && !c.providerAtomic &&
    decide (c.repository = c.plan.repository) && c.plan.verify w &&
    reshapeCheckpointSeal.verify w.reshapeCheckpoint c && (validateCheckpointShape w c).isOk

def StackReshapeCheckpoint.preflighted (plan : StackReshapePlan) : StackReshapeCheckpoint :=
  StackReshapeCheckpoint.sealed w {
    schemaVersion := reshapeSchemaVersion
    repository := plan.repository
    plan := plan
    phase := .preflighted }

def validateReshapePlan (repository : RepositoryId) (plan : StackReshapePlan) :
    Except StackReshapeError Unit :=
  refuse (plan.repository ≠ repository ∨ plan.verify w = false) (.invalidPlan
    "github_stack_reshape_plan_invalid"
    "reshape plan repository, schema, semantics, or hash is invalid")

def validateReshapeCheckpoint (repository : RepositoryId) (c : StackReshapeCheckpoint) :
    Except StackReshapeError Unit :=
  refuse (c.repository ≠ repository ∨ c.verify w = false)
    (.invalidCheckpoint "schema, repository, plan, phase evidence, or hash is invalid")

end Checkpoint

section Steps

variable (w : ReshapeWire)

def nativeStackReshapePreflight (repository : RepositoryId) (plan : StackReshapePlan) :
    Io StackReshapeError StackReshapeCheckpoint := do
  ofResult (validateReshapePlan w repository plan)
  let actual ← mapError .stackMutation (nativeStackGenerationAllowingStaleTailBase w.toWire
    repository plan.before.number (staleTailBaseException plan))
  if actual ≠ some plan.before then throw (.staleGeneration plan.before actual)
  else return StackReshapeCheckpoint.preflighted w plan

def nativeStackReshapeUnstack (repository : RepositoryId) (c : StackReshapeCheckpoint) :
    Io StackReshapeError StackReshapeCheckpoint := do
  ofResult (validateReshapeCheckpoint w repository c)
  if StackReshapePhase.preflighted.rank < c.phase.rank then return c
  else
    let receipt ← mapError .stackMutation (nativeStackUnstack w.toWire repository {
      operationId := unstackOperationId c.plan
      actor := c.plan.actor
      before := c.plan.before
      allowedStaleTailBase := staleTailBaseException c.plan
      desiredAfter := none })
    return StackReshapeCheckpoint.sealed w { c with
      phase := .unstacked
      unstackReceipt := some receipt }

def verifyReshapePrPostcondition (repository : RepositoryId)
    (expected : StackReshapePrPostcondition) : Io StackReshapeError Unit := do
  let actual ← mapError .provider (refetchPullRequest w.toWire repository expected.pr)
  if changedPrFields expected actual ≠ [] then
    throw (.existingReshapeIncomplete expected.pr (changedPrFields expected actual))
  else return ()

def verifyReshapePrPostconditions (repository : RepositoryId) (plan : StackReshapePlan) :
    Io StackReshapeError (List Unit) :=
  forEach plan.prPostconditions (verifyReshapePrPostcondition w repository)

/-- Bind the Cara receipt only after fresh truth proves every planned outcome. -/
def nativeStackReshapeRecordExisting (repository : RepositoryId) (c : StackReshapeCheckpoint)
    (receipt : OperationReceipt) : Io StackReshapeError StackReshapeCheckpoint := do
  ofResult (validateReshapeCheckpoint w repository c)
  if StackReshapePhase.reshapeApplied.rank ≤ c.phase.rank then
    if c.reshapeReceipt = some receipt then return c
    else throw (.invalidCheckpoint "a different existing-reshape receipt is already bound")
  else if c.phase ≠ .unstacked then
    throw (.invalidCheckpoint "existing reshape can be recorded only after exact unstack proof")
  else
    ofResult (validateExistingReceipt c.plan receipt)
    let _ ← verifyReshapePrPostconditions w repository c.plan
    return StackReshapeCheckpoint.sealed w { c with
      phase := .reshapeApplied
      reshapeReceipt := some receipt }

/-- The receipts after the next missing replacement Stack, when there is one. -/
def createReplacement (repository : RepositoryId) (c : StackReshapeCheckpoint) :
    Io StackReshapeError (List StackMutationReceipt) :=
  match (providerReplacementChains c.plan)[c.replacementReceipts.length]? with
  | none => return c.replacementReceipts
  | some topology => do
      let receipt ← mapError .stackMutation (nativeStackCreate w.toWire repository {
        operationId := replacementOperationId c.plan c.replacementReceipts.length
        actor := c.plan.actor
        desired := topology })
      return c.replacementReceipts ++ [receipt]

def nativeStackReshapeRebuildNext (repository : RepositoryId) (c : StackReshapeCheckpoint) :
    Io StackReshapeError StackReshapeCheckpoint := do
  ofResult (validateReshapeCheckpoint w repository c)
  if StackReshapePhase.rebuilt.rank ≤ c.phase.rank then return c
  else if c.phase ≠ .reshapeApplied ∧ c.phase ≠ .rebuilding then
    throw (.invalidCheckpoint "replacement creation requires a proven existing reshape")
  else
    let _ ← verifyReshapePrPostconditions w repository c.plan
    let receipts ← createReplacement w repository c
    return StackReshapeCheckpoint.sealed w { c with
      replacementReceipts := receipts
      phase := if receipts.length = (providerReplacementChains c.plan).length then .rebuilt
        else .rebuilding }

def debugPrs (prs : List PrNumber) : String :=
  "[" ++ ", ".intercalate (prs.map fun pr => "PrNumber(" ++ toString pr ++ ")") ++ "]"

def matchReplacement (observed : List StackGeneration) (expected : StackTopology) :
    Except StackReshapeError StackGeneration :=
  match observed.filter fun generation => decide (generation.topology = expected) with
  | [generation] => .ok generation
  | matching => .error (.finalTopologyMismatch ("replacement chain " ++
      debugPrs (expected.entries.map StackEntryGeneration.pr) ++ " matched " ++
      toString matching.length ++ " provider Stacks"))

def readFinalStack (repository : RepositoryId) (summary : StackSnapshot) :
    Io StackReshapeError StackGeneration := do
  match ← mapError .stackMutation (nativeStackGeneration w.toWire repository summary.number) with
  | some generation => return generation
  | none => throw (.finalTopologyMismatch ("Stack #" ++ toString summary.number ++
      " disappeared during final exact read"))

def verifyFinalStackTopology (repository : RepositoryId) (plan : StackReshapePlan) :
    Io StackReshapeError (List StackGeneration) := do
  let inventory ← mapError .stackRead (nativeStackInventory w.toWire repository)
  if inventory.truncated then
    throw (.finalTopologyMismatch "Stack inventory is truncated; exact absence is unproven")
  else
    let affected := plan.before.topology.entries.map StackEntryGeneration.pr
    let overlapping := inventory.snapshots.filter fun stack =>
      stack.pullRequests.any fun row => decide (row.number ∈ affected)
    let desired := providerReplacementChains plan
    if overlapping.length ≠ desired.length then
      throw (.finalTopologyMismatch ("expected " ++ toString desired.length ++
        " replacement Stacks intersecting the original members, observed " ++
        toString overlapping.length))
    else
      let observed ← forEach overlapping (readFinalStack w repository)
      ofResult (desired.mapM (matchReplacement observed))

/-- Prove that every longer chain exists exactly once and nothing else holds a member. -/
def nativeStackReshapeVerifyFinal (repository : RepositoryId) (c : StackReshapeCheckpoint) :
    Io StackReshapeError StackReshapeCheckpoint := do
  ofResult (validateReshapeCheckpoint w repository c)
  if c.phase = .verified then return c
  else if c.phase ≠ .rebuilt then
    throw (.invalidCheckpoint "final verification requires every replacement create receipt")
  else
    let _ ← verifyReshapePrPostconditions w repository c.plan
    let finalStacks ← verifyFinalStackTopology w repository c.plan
    return StackReshapeCheckpoint.sealed w { c with
      phase := .verified
      finalStacks := finalStacks }

end Steps

end Github
end Cara
