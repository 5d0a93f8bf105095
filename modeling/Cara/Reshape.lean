import Cara.GraphHealth
import Cara.GraphCompatibility
import Cara.Sync.Provider

/-! Planning of an eviction or a split. The edit is made on a copy of the discovered pull
requests, the graph of the copy is derived again, and the operation is refused when the
copy has a problem that the discovered pull requests do not have. -/
namespace Cara
namespace Reshape

open Cara.Graph (rowsOf deriveForActor analyzeForActor)
open Sync (MutationError)
open Guard (refuse)

def activeLabel : String := "caravan"

def evictedLabel : String := "caravan-evicted"

def forceLabel : String := "caravan-force"

def parkedLabel : String := "caravan-parked"

inductive ReshapeOperation where
  | evict
  | split
deriving DecidableEq

structure ReshapePlan where
  child : Option PrNumber
  childBase : Option BranchSnapshot
  createsHead : Bool
  releasesHead : Bool
  affectedPrs : List PrNumber
deriving DecidableEq

inductive ReshapeDetail (δ : Type) where
  | plain
  | initialization (details : Option (List (String × String)))
  | checker (details : Option δ)
  | provider (error : MutationError)
  | brokenFleet (introduced preexisting : List GraphProblem) (safeNextAction : String)

inductive ReshapeFailure (δ : Type) where
  | error (e : AppError (ReshapeDetail δ))
  | panic (message : String)

abbrev ReshapeResult (δ α : Type) := Except (ReshapeFailure δ) α

structure ReshapeProvider where
  repositoryAllowsAutoMerge : RepositoryId → Except MutationError Bool
  branchIsProtected : RepositoryId → String → Except MutationError Bool

variable {δ : Type}

def invalid (code message : String) : ReshapeFailure δ :=
  .error ⟨.validation,code,message,some .plain⟩

def carried {ε α : Type} (details : Option ε → ReshapeDetail δ) (r : Except (AppError ε) α) :
    ReshapeResult δ α :=
  r.mapError fun e => .error ⟨e.category,e.code,e.message,some (details e.details)⟩

def providerError {α : Type} (r : Except MutationError α) : ReshapeResult δ α :=
  r.mapError fun e => .error <| match e with
    | .stalePrecondition .. =>
        ⟨.validation,"stale_precondition",e.display,some (.provider e)⟩
    | _ => ⟨.executionFailure,"github_mutation_failed",e.display,some (.provider e)⟩

def missingPr (number : PrNumber) : ReshapeFailure δ :=
  .error ⟨.targetNotFound,"reshape_pr_not_found",
    "PR #" ++ toString number ++ " is missing from discovery",none⟩

def expect {α : Type} (value : Option α) (message : String) : ReshapeResult δ α :=
  match value with
  | some value => .ok value
  | none => .error (.panic message)

def edit (prs : PullRequestMap) (number : PrNumber)
    (change : PullRequestSnapshot → PullRequestSnapshot) : PullRequestMap :=
  match prs[number]? with
  | some p => prs.insert number (change p)
  | none => prs

section Plan

variable (status : StatusOutput) (target : PullRequestSnapshot)

/-- Merging is armed on a new head only where the provider merges. -/
def headAutoMerge : AutoMergeState :=
  if status.headMergeActor.isGithub then .squash else .disabled

/-- The snapshot that the discovered pull requests are projected from. -/
def projection (status : StatusOutput) (prs : PullRequestMap) : RepositorySnapshot where
  repository := status.repository
  defaultBranch := status.analysis.fleet.defaultBranch
  currentBranch := status.currentBranch
  currentPr := status.currentPr
  pullRequests := rowsOf prs

/-- The status after the edit: its graph is derived for the configured merge actor and admission is
resolved on it, its other merge facts are the defaults. -/
def virtualStatus (prs : PullRequestMap) : StatusOutput :=
  let analysis := deriveForActor (projection status prs) status.headMergeActor
  { status with
    headMergeActor := .github
    externalAutoMergePolicy := .disable
    maxRootMergesPerTick := 1
    mergeCandidates := []
    healthy := false
    analysis
    admission := Admission.resolveAdmissionWithGenerationAndGate analysis status.admission.priorityLabels
      status.admission.generationIntegrity none }

def caravanNeighbours (caravan : Caravan) :
    ReshapeResult δ (Option PrNumber × Option PrNumber) := do
  let position ← expect (caravan.position target.number) "containing caravan has target"
  return (if position = 0 then none else caravan.members[position - 1]?,
    caravan.members[position + 1]?)

/-- Neighbours that a resumed eviction finds by branch name. -/
def branchNeighbours : Option PrNumber × Option PrNumber :=
  (((rowsOf status.analysis.pullRequests).find? fun p =>
      decide (p.head.name = target.base.name)).map (·.number),
    ((rowsOf status.analysis.pullRequests).find? fun p =>
      p.isActiveCaravanMember && decide (p.base.name = target.head.name)).map (·.number))

def evictionNeighbours : ReshapeResult δ (Option PrNumber × Option PrNumber) :=
  match status.analysis.fleet.containing target.number with
  | some caravan => caravanNeighbours target caravan
  | none =>
      if target.hasLabel evictedLabel && !target.hasLabel activeLabel then
        .ok (branchNeighbours status target)
      else .error (invalid "eviction_pr_not_active" ("PR #" ++ toString target.number ++
        " is neither active nor a resumable evicted PR"))

/-- A child is based on what the evicted member was based on. -/
def evictionBase (parent child : Option PrNumber) : ReshapeResult δ (Option BranchSnapshot) :=
  match child,parent with
  | none,_ => .ok none
  | some _,none => .ok (some status.analysis.fleet.defaultBranch)
  | some _,some parent => do
      let p ← expect status.analysis.pullRequests[parent]? "eviction parent has a snapshot"
      return some p.head

def evicted (p : PullRequestSnapshot) : PullRequestSnapshot :=
  { p with
    autoMerge := .disabled
    labels := insert evictedLabel
      (((p.labels.erase activeLabel).erase forceLabel).erase parkedLabel) }

def rebased (base : BranchSnapshot) (autoMerge : AutoMergeState) (p : PullRequestSnapshot) :
    PullRequestSnapshot := { p with base := base,autoMerge := autoMerge }

def evictionEdit (child : Option PrNumber) (childBase : Option BranchSnapshot)
    (createsHead : Bool) : PullRequestMap :=
  let prs := edit status.analysis.pullRequests target.number evicted
  match child,childBase with
  | some child,some base =>
      edit prs child (rebased base (if createsHead then headAutoMerge status else .disabled))
  | _,_ => prs

def planEviction : ReshapeResult δ (StatusOutput × ReshapePlan) := do
  let (parent,child) ← evictionNeighbours status target
  let childBase ← evictionBase status parent child
  let createsHead := child.isSome && parent.isNone
  return (virtualStatus status (evictionEdit status target child childBase createsHead),
    { child := child
      childBase := childBase
      createsHead := createsHead
      releasesHead := parent.isNone
      affectedPrs := target.number::child.toList })

/-- A root that is already what the configured merge actor makes of a head. -/
def alreadyHead (position : ℕ) : Bool :=
  decide (position = 0) &&
    if status.headMergeActor.isGithub then
      target.autoMerge.enabled && decide (target.autoMerge.mergeMethod = some .squash)
    else decide (target.base = status.analysis.fleet.defaultBranch)

def splitEdit : PullRequestMap :=
  edit status.analysis.pullRequests target.number
    (rebased status.analysis.fleet.defaultBranch (headAutoMerge status))

def planSplit : ReshapeResult δ (StatusOutput × ReshapePlan) := do
  refuse (!target.isActiveCaravanMember) (invalid "split_pr_not_active"
    ("PR #" ++ toString target.number ++ " is not an active caravan member"))
  let caravan ← expect (status.analysis.fleet.containing target.number)
    "active target has a caravan"
  let position ← expect (caravan.position target.number) "containing caravan has target"
  refuse (alreadyHead status target position &&
      decide (status.stackBackend.configured ≠ .github)) (invalid "split_pr_is_head"
    ("PR #" ++ toString target.number ++ " is already a caravan head"))
  return (virtualStatus status (splitEdit status target),
    { child := none
      childBase := none
      createsHead := true
      releasesHead := false
      affectedPrs := [target.number] })

def planReshape : ReshapeOperation → ReshapeResult δ (StatusOutput × ReshapePlan)
  | .evict => planEviction status target
  | .split => planSplit status target

end Plan

section Preflight

variable (checker : CompatibilityChecker δ)

/-- The problems of a status as the analysis with the default merge actor reports them. -/
def projectedProblems (status : StatusOutput) : ReshapeResult δ (List GraphProblem) := do
  let a ← carried .checker
    (analyzeForActor checker (projection status status.analysis.pullRequests) default)
  return a.fleet.problems

def introducedProblems (before after : List GraphProblem) : List GraphProblem :=
  after.filter fun problem => decide (problem ∉ before)

def wouldBreakFleet (before after : List GraphProblem) : ReshapeFailure δ :=
  .error ⟨.validation,"reshape_would_break_fleet",
    "the proposed reshape would introduce new Caravan graph/compatibility problems",
    some (.brokenFleet (introducedProblems before after) before
      ("resolve the introduced problems, or reshape tail-first so no surviving edge has to " ++
        "be re-linked across a removed member"))⟩

/-- Only a problem that the reshape introduces refuses it, and never the release of a head. -/
def preflightResult (current projected : StatusOutput) (releasesHead : Bool) :
    ReshapeResult δ (List GraphProblem) := do
  let before ← projectedProblems checker current
  let after ← projectedProblems checker projected
  refuse (!(introducedProblems before after).isEmpty && !releasesHead)
    (wouldBreakFleet before after)
  return after

def requireNativeAutoMerge (provider : ReshapeProvider) (status : StatusOutput) :
    ReshapeResult δ Unit :=
  if status.headMergeActor.isGithub then do
    let allowed ← providerError (provider.repositoryAllowsAutoMerge status.repository)
    refuse (!allowed) (invalid "auto_merge_not_enabled" ("repository settings do not permit " ++
      "auto-merge for the new head; enable it, or set sync.head_merge_actor=\"caravan\" so " ++
      "cara owns the merge"))
  else .ok ()

def preflightNewHead (provider : ReshapeProvider) (status : StatusOutput) :
    ReshapeResult δ Unit := do
  requireNativeAutoMerge provider status
  let isProtected ←
    providerError (provider.branchIsProtected status.repository status.defaultBranch)
  refuse (!isProtected) (invalid "default_branch_not_protected"
    "the default branch must be protected before creating a new head")

structure PreparedReshape where
  number : PrNumber
  virtualStatus : StatusOutput
  plan : ReshapePlan
  remainingProblems : List GraphProblem

/-- A replacement head with problems left is never armed: the graph is projected once more
with its auto-merge off. -/
def disarmReplacement (status projected : StatusOutput) (plan : ReshapePlan)
    (remaining : List GraphProblem) : ReshapeResult δ (StatusOutput × List GraphProblem) :=
  match plan.child with
  | some child =>
      if plan.createsHead && plan.releasesHead && !remaining.isEmpty &&
          status.headMergeActor.isGithub then do
        let disarmed := virtualStatus status (edit projected.analysis.pullRequests child
          fun p => { p with autoMerge := .disabled })
        let problems ← projectedProblems checker disarmed
        return (disarmed,problems)
      else .ok (projected,remaining)
  | none => .ok (projected,remaining)

def selectedTarget (status : StatusOutput) (selected : Option PrNumber) :
    ReshapeResult δ (PrNumber × PullRequestSnapshot) :=
  match selected.or status.currentPr with
  | none => .error (invalid "reshape_pr_not_selected"
      "select a PR with --pr or run from a branch with one unique open PR")
  | some number => match status.analysis.pullRequests[number]? with
      | none => .error (missingPr number)
      | some target =>
          if target.state = .open then .ok (number,target)
          else .error (invalid "reshape_pr_not_open" ("PR #" ++ toString number ++ " is not open"))

def requireNewHead (provider : ReshapeProvider) (status : StatusOutput) (plan : ReshapePlan)
    (remaining : List GraphProblem) : ReshapeResult δ Unit :=
  if plan.createsHead && remaining.isEmpty then preflightNewHead provider status else .ok ()

def prepareReshape (status : StatusOutput) (provider : ReshapeProvider)
    (operation : ReshapeOperation) (selected : Option PrNumber) :
    ReshapeResult δ PreparedReshape := do
  carried .initialization status.initialization.requireReady
  let (number,target) ← selectedTarget status selected
  let (projected,plan) ← planReshape status target operation
  let remaining ← preflightResult checker status projected plan.releasesHead
  let (projected,remaining) ← disarmReplacement checker status projected plan remaining
  requireNewHead provider status plan remaining
  return ⟨number,projected,plan,remaining⟩

end Preflight

end Reshape
end Cara
