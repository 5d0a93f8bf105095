import Cara.Lib.Stateful
import Cara.NativeStackRebase
import Cara.PhysicalRebase
import Cara.StackMembership

/-! Applying a native Stack plan: members are replayed in order, one that cannot be is released with those
behind it, and the members that are left are retargeted and rebuilt as a new Stack. -/
namespace Cara
namespace NativeStackRebase

open Github (StackCreatePlan StackTopology)
open PhysicalRebase (AtomicRebaseReceipt BranchRewriteReason PlannedBase PlannedRangeBase PreparedFacts
  RebasePlan)

section Requests

inductive ConflictPolicy where
  | refuse
  | evictSuffix
deriving DecidableEq

/-- Facts about one exact generation of a member, and none about the environment. -/
def evictablePreparationRefusals : List String :=
  ["rebase_conflict","rebase_merge_replay_conflict","rebase_merge_tree_conflict",
    "rebase_resolution_conflict","rebase_topology_changed","rebase_cousin_history",
    "rebase_external_merge_parents","rebase_unsupported_octopus"]

/-- The refusal of a preparation, with the paths that conflict. -/
abbrev PreparationRefusal := AppError (List String)

structure NativeStackRepairRequest where
  schemaVersion : ℕ
  kind : String
  repository : RepositoryId
  stack : ℕ
  planHash : String
  caravanId : PrNumber
  pr : PrNumber
  head : BranchSnapshot
  base : BranchSnapshot
  target : BranchSnapshot
  targetPr : Option PrNumber
  refusalCode : String
  refusal : String
  conflictingPaths : List String
  evicted : List PrNumber
  suggestedCommands : List String
deriving DecidableEq

structure ApplyDetail where
  planHash : Option String := none
  physical : Option AtomicRebaseReceipt := none
  repairRequest : Option NativeStackRepairRequest := none
  source : Option String := none
  mutated : Bool := false
  resumable : Bool := false
  publicationStarted : Option Bool := none
deriving DecidableEq

abbrev ApplyError := AppError ApplyDetail

structure FleetStatus where
  status : StatusOutput
  indexed : Graph.Indexed status.analysis.pullRequests

inductive RebaseRequest where
  | prepareCandidate (candidate : PullRequestSnapshot) (rangeSource : PlannedRangeBase)
      (newBase : PlannedBase) (workflowSource : BranchSnapshot) (cumulativeTreeReplay : Bool)
  | applyPreparedAtomically (prepared : List RebasePlan)
  | fleetStatus
  | clearDrifted (operationId actor : String) (before : Github.StackSnapshot)
  | queueEvictSuffix (members : List PrNumber) (actor reason evidence : String)
  | refetchPullRequest (number : PrNumber)
  | setBase (current : PullRequestSnapshot) (base : String)
  | nativeStackCreate (plan : StackCreatePlan)
  | writeCheckpoint (key : String)
deriving DecidableEq

inductive RebaseAnswer where
  | prepared (result : Except PreparationRefusal PreparedFacts)
  | published (result : Except ApplyError AtomicRebaseReceipt)
  | status (result : Except ApplyError FleetStatus)
  | pullRequest (result : Except ApplyError PullRequestSnapshot)
  | done (result : Except ApplyError Unit)

abbrev Apply (α : Type) := Prog.Fallible RebaseRequest RebaseAnswer ApplyError α

variable (plan : NativeStackRebasePlan)

def applyError (code message : String) (detail : ApplyDetail) : ApplyError := {
  category := .executionFailure
  code := code
  message := message
  details := some detail }

/-- A call that answers with a status, its failure under the caller's code. -/
def readStatus (error : ApplyError → ApplyError) : Apply FleetStatus :=
  Prog.query .fleetStatus fun answer => match answer with
    | .status result => some (result.mapError error)
    | _ => none

def perform (request : RebaseRequest) (error : ApplyError → ApplyError) : Apply Unit :=
  Prog.query request fun answer => match answer with
    | .done result => some (result.mapError error)
    | _ => none

end Requests

section Prepare

variable (plan : NativeStackRebasePlan)

def targetFlag (member : NativeStackRebaseMemberPlan) : String :=
  member.parentPr.elim "" fun parent => " --target-pr " ++ toString parent

/-- The request to repair the first member that could not be replayed; it names the suffix it begins. -/
def conflictRepairRequest (member : NativeStackRebaseMemberPlan) (rest : List NativeStackRebaseMemberPlan)
    (target : BranchSnapshot) (refusal : PreparationRefusal) : NativeStackRepairRequest where
  schemaVersion := 1
  kind := "native_stack_member_unreplayable"
  repository := plan.repository
  stack := plan.stack
  planHash := plan.planHash
  caravanId := plan.rootPr
  pr := member.pr
  head := ⟨plan.repository,member.branch,member.oldHead⟩
  base := member.oldBase
  target := target
  targetPr := member.parentPr
  refusalCode := refusal.code
  refusal := refusal.message
  conflictingPaths := refusal.details.getD []
  evicted := (member::rest).map (·.pr)
  suggestedCommands :=
    ["cara repair start --pr " ++ toString member.pr ++ targetFlag member ++
      " --non-force --actor <actor> --reason \"resolve " ++ refusal.code ++ " against " ++ target.name ++
      "@" ++ target.oid ++ "\"","cara rejoin --pr " ++ toString member.pr]

/-- A root that is still based on a retained closed row binds the immutable head of that row. -/
def memberRangeSource (member : NativeStackRebaseMemberPlan) (candidate : PullRequestSnapshot)
    (parent : BranchSnapshot) : PlannedRangeBase :=
  let retained := plan.providerBefore.pullRequests.find? fun row => !isOpenRow row &&
    decide (row.head.refName = candidate.base.name ∧ row.head.sha = candidate.base.oid)
  match retained with
  | some row =>
      if member.parentPr = none ∧ candidate.base.name ≠ parent.name then
        .pullRequestHead row.number candidate.base
      else PhysicalRebase.rangeBaseForRewrittenParent candidate parent
  | none => PhysicalRebase.rangeBaseForRewrittenParent candidate parent

def rewriteReason (member : NativeStackRebaseMemberPlan) : BranchRewriteReason :=
  member.parentPr.elim .currentDefaultAdvanced .parentAdvanced

/-- A topology that the replay would lose goes back to the owner of the source. -/
def ownerContinuationRefusal (refusal : PreparationRefusal) : ApplyError where
  category := refusal.category
  code := refusal.code
  message := if refusal.code = "rebase_topology_changed" then
    "source replay could not preserve topology; return this generation to its authorized source owner " ++
      "without relaxing the guard or retrying force publication"
    else refusal.message
  details := if refusal.code = "rebase_topology_changed" then some { planHash := some plan.planHash }
    else none

def beforePublication (error : ApplyError) : ApplyError :=
  let detail := error.details.getD {}
  { error with details := some { detail with publicationStarted := some false } }

structure Preparation where
  prepared : List RebasePlan := []
  unreplayable : Option NativeStackRepairRequest := none
deriving DecidableEq

variable (status : FleetStatus) (conflicts : ConflictPolicy)

/-- Each member on the planned head of the one before it, up to the first that cannot be replayed. -/
def prepareMembers : PlannedBase → List NativeStackRebaseMemberPlan → Apply Preparation
  | _,[] => pure {}
  | target,member::rest =>
      match status.status.analysis.pullRequests[member.pr]? with
      | none => Prog.crashed
      | some candidate => do
          let range := memberRangeSource plan member candidate
            ⟨plan.repository,member.parentBranch,member.parentHead⟩
          let result ← Prog.query (.prepareCandidate candidate range target
              status.status.analysis.fleet.defaultBranch (decide (conflicts = .evictSuffix)))
            fun answer => match answer with
              | .prepared result => some (.ok result)
              | _ => none
          match result with
          | .ok facts => do
              let item := PhysicalRebase.planOf candidate range target (rewriteReason member) facts
              let later ← prepareMembers
                (.simulated ⟨plan.repository,member.branch,item.newHeadOid⟩) rest
              return { later with prepared := item::later.prepared }
          | .error refusal =>
              if conflicts = .evictSuffix ∧ refusal.code ∈ evictablePreparationRefusals then
                return { unreplayable := some (conflictRepairRequest plan member rest target.branch refusal) }
              else throw (beforePublication (ownerContinuationRefusal plan refusal))

end Prepare

section Scope

variable (plan : NativeStackRebasePlan) (status : FleetStatus) (conflicts : ConflictPolicy)

structure Replacement where
  preparation : Preparation
  physical : Option AtomicRebaseReceipt
  rewritten : FleetStatus
  caravan : Caravan
  evicted : List PrNumber
  survivors : List PrNumber

/-- The survivors as they will be once each targets the one before it. -/
def projectLinearBases (rewritten : FleetStatus) (survivors : List PrNumber) :
    Except ApplyError (List PullRequestSnapshot) :=
  survivors.foldlM (fun projected number =>
    match rewritten.status.analysis.pullRequests[number]? with
    | none => .error {
        category := .validation
        code := "native_stack_rebase_postcondition_member_missing"
        message := "rewritten active member is absent before provider Stack replacement" }
    | some pull =>
        let base := (projected.getLast?.map (·.head)).getD rewritten.status.analysis.fleet.defaultBranch
        .ok (projected ++ [{ pull with base := base }])) []

def topologyInvalid (physical : Option AtomicRebaseReceipt) : ApplyError :=
  applyError "native_stack_rebase_replacement_topology_invalid" "the replacement topology is not linear" {
    planHash := some plan.planHash
    physical := physical
    mutated := physical.isSome }

/-- A refusal with no physical publication is still one without a write. -/
def unpublished (physical : Option AtomicRebaseReceipt) (error : ApplyError) : ApplyError :=
  if physical.isSome then error else beforePublication error

/-- The survivors are what the fresh caravan holds besides the evicted members. -/
def replacementScope (preparation : Preparation) (physical : Option AtomicRebaseReceipt)
    (rewritten : FleetStatus) : Except ApplyError Replacement :=
  match rewritten.status.analysis.fleet.caravan plan.rootPr with
  | none => .error (applyError "native_stack_rebase_postcondition_caravan_missing"
      "rewritten active fleet is absent before provider Stack replacement" {
        planHash := some plan.planHash
        physical := physical
        mutated := true })
  | some caravan => do
      let evicted := preparation.unreplayable.elim [] (·.evicted)
      Guard.refuse (evicted.any fun number => decide (number ∉ caravan.members))
        (unpublished physical (applyError "native_stack_repair_eviction_scope_changed"
          "the unreplayable suffix is no longer part of the rewritten active caravan" {
            planHash := some plan.planHash
            physical := physical
            repairRequest := preparation.unreplayable
            mutated := physical.isSome
            resumable := true }))
      let survivors := caravan.members.filter fun number => decide (number ∉ evicted)
      let projected ← (projectLinearBases rewritten survivors).mapError (unpublished physical)
      let _ ← (StackMembership.topologyFromMembers rewritten.status.analysis.fleet.defaultBranch
        projected).mapError fun _ => unpublished physical (topologyInvalid plan physical)
      return ⟨preparation,physical,rewritten,caravan,evicted,survivors⟩

def postconditionReadFailed (physical : Option AtomicRebaseReceipt) (source : ApplyError) : ApplyError :=
  applyError "native_stack_rebase_postcondition_read_failed"
    "atomic branch rewrite completed but provider rediscovery failed" {
      planHash := some plan.planHash
      physical := physical
      source := some source.message
      mutated := true
      resumable := true }

def prepareAll : Apply Preparation :=
  match plan.members with
  | [] => pure {}
  | first::_ => prepareMembers plan status conflicts
      (.remote ⟨plan.repository,first.parentBranch,first.parentHead⟩) plan.members

/-- The branch of every prepared member in one push, or nothing. -/
def publish (prepared : List RebasePlan) : Apply (Option AtomicRebaseReceipt) :=
  if prepared.isEmpty then pure none
  else Prog.query (.applyPreparedAtomically prepared) fun answer => match answer with
    | .published result => some (result.map some)
    | _ => none

def rewrittenStatus (physical : Option AtomicRebaseReceipt) : Apply FleetStatus :=
  match physical with
  | none => pure status
  | some _ => readStatus (postconditionReadFailed plan physical)

def scopeStage : Apply Replacement := do
  let preparation ← prepareAll plan status conflicts
  let physical ← publish preparation.prepared
  let rewritten ← rewrittenStatus plan status physical
  Prog.ofResult (replacementScope plan preparation physical rewritten)

end Scope

section Replace

variable (plan : NativeStackRebasePlan) (replacement : Replacement) (key : String)

def replaceError (code message : String) (source : ApplyError) : ApplyError :=
  applyError code message {
    planHash := some plan.planHash
    physical := replacement.physical
    repairRequest := replacement.preparation.unreplayable
    source := some source.message
    mutated := true
    resumable := true }

/-- At most five of the conflicting paths, and how many more there are. -/
def pathsText (paths : List String) : String :=
  if paths.isEmpty then ""
  else " in " ++ ", ".intercalate (paths.take 5) ++
    (if paths.length ≤ 5 then "" else " (+" ++ toString (paths.length - 5) ++ " more)")

def descendantsText (evicted : List PrNumber) : String :=
  if evicted.length ≤ 1 then ""
  else "; descendant(s) " ++ ", ".intercalate ((evicted.drop 1).map fun pr => "#" ++ toString pr) ++
    " carry its patch and were released with it"

def conflictEvictionReason (request : NativeStackRepairRequest) : String :=
  request.refusalCode ++ ": queue-owned native Stack #" ++ toString request.stack ++
    " repair could not replay PR #" ++ toString request.pr ++ " " ++ request.head.oid ++ " onto " ++
    request.target.name ++ "@" ++ request.target.oid ++ pathsText request.conflictingPaths ++
    descendantsText request.evicted ++ "; repair with `" ++ request.suggestedCommands.headD "" ++
    "`, then `" ++ (request.suggestedCommands.drop 1).headD "" ++ "` (bd-7efe6a)"

/-- The evicted suffix leaves the caravan tail first; no source head is written. -/
def release : Apply Unit :=
  match replacement.preparation.unreplayable with
  | none => pure ()
  | some request =>
      perform (.queueEvictSuffix request.evicted plan.actor (conflictEvictionReason request)
        (request.refusalCode ++ " preparing PR #" ++ toString request.pr ++ " onto " ++ request.target.name ++
          "@" ++ request.target.oid ++ "; no source head was rewritten for the released suffix"))
        (replaceError plan replacement "native_stack_repair_eviction_failed"
          "the drifted Stack was cleared but releasing its unreplayable suffix failed")

/-- Each survivor's base is the branch before it; a base that is already there is left alone. -/
def retargetSurvivors (error : ApplyError → ApplyError) : String → List PrNumber → Apply (List PrNumber)
  | _,[] => pure []
  | expected,number::rest => do
      let current ← Prog.query (.refetchPullRequest number) fun answer => match answer with
        | .pullRequest result => some (result.mapError error)
        | _ => none
      if current.base.name ≠ expected then
        perform (.setBase current expected) error
        let later ← retargetSurvivors error current.head.name rest
        return number::later
      else retargetSurvivors error current.head.name rest

/-- A status that shows the new bases, where there are any. -/
def rebuildStatus (retargets : List PrNumber) : Apply FleetStatus :=
  if retargets.isEmpty then pure replacement.rewritten else readStatus id

def rebuild (retargets : List PrNumber) : Apply Unit := do
  let fresh ← rebuildStatus replacement retargets
  let pulls ← Prog.ofResult (replacement.survivors.mapM fun number =>
    match fresh.status.analysis.pullRequests[number]? with
    | none => .error {
        category := .validation
        code := "native_stack_rebase_postcondition_member_missing"
        message := "rewritten active member is absent before provider Stack replacement" }
    | some pull => .ok pull)
  let desired ← Prog.ofResult
    ((StackMembership.topologyFromMembers fresh.status.analysis.fleet.defaultBranch pulls).mapError fun _ =>
      topologyInvalid plan replacement.physical)
  perform (.nativeStackCreate ⟨"native-stack-rebase-rebuild-" ++ plan.planHash,plan.actor,desired⟩)
    (replaceError plan replacement "native_stack_rebase_rebuild_failed"
      "drifted Stack was cleared but exact replacement creation failed")

def postconditionError (code message : String) : ApplyError :=
  applyError code message {
    planHash := some plan.planHash
    physical := replacement.physical
    repairRequest := replacement.preparation.unreplayable
    mutated := true }

/-- The Stack that the provider shows in the end must be exact and linear, or absent for a singleton. -/
def finalCheck (final : StatusOutput) : Except ApplyError Unit :=
  let found := final.stackBackend.nativeStacks.find? fun native => decide (native.caravanId = some plan.rootPr)
  if 2 ≤ replacement.survivors.length then
    match found with
    | none => .error (postconditionError plan replacement "native_stack_rebase_postcondition_stack_missing"
        "replacement Stack creation returned but exact active-fleet mapping is absent")
    | some native => Guard.refuse
        (decide (native.consistency ≠ .exact) || native.ancestry.any fun edge => !edge.linear)
        (postconditionError plan replacement "native_stack_rebase_postcondition_diverged"
          "replacement provider Stack is not exact and linear")
  else Guard.refuse found.isSome (postconditionError plan replacement
    "native_stack_rebase_singleton_still_stacked"
    "terminal drift clearance left the singleton root in a provider Stack")

structure RebaseOutput where
  plan : NativeStackRebasePlan
  physical : Option AtomicRebaseReceipt
  evicted : List PrNumber
  retargets : List PrNumber
  freshCiRequired : Bool

def rebuildSurvivors (retargets : List PrNumber) : Apply Unit :=
  if 2 ≤ replacement.survivors.length then rebuild plan replacement retargets else pure ()

/-- What follows the retargets: the rebuilt Stack, its check and the checkpoint. -/
def settle (retargets : List PrNumber) : Apply RebaseOutput := do
  rebuildSurvivors plan replacement retargets
  let final ← readStatus id
  Prog.ofResult (finalCheck plan replacement final.status)
  perform (.writeCheckpoint key) id
  return {
    plan := plan
    physical := replacement.physical
    evicted := replacement.evicted
    retargets := retargets
    freshCiRequired := replacement.physical.any fun physical =>
      physical.receipts.any fun receipt => !receipt.alreadySatisfied }

def replaceStage : Apply RebaseOutput := do
  perform (.clearDrifted ("native-stack-rebase-clear-" ++ plan.planHash) plan.actor plan.providerBefore)
    (replaceError plan replacement "native_stack_rebase_drift_clear_failed"
      "branch rewrite completed but exact drifted provider Stack clearance failed")
  release plan replacement
  let retargets ← retargetSurvivors (replaceError plan replacement "native_stack_rebase_retarget_failed"
    "drifted Stack was cleared but linear survivor retargeting failed")
    replacement.rewritten.status.analysis.fleet.defaultBranch.name replacement.survivors
  settle plan replacement key retargets

/-- The application of a plan: what is to be replaced, and then its replacement. -/
def applyPlan (status : FleetStatus) (conflicts : ConflictPolicy) : Apply RebaseOutput := do
  let replacement ← scopeStage plan status conflicts
  replaceStage plan replacement key

end Replace

section Spec

variable (plan : NativeStackRebasePlan)

def RebaseRequest.isClear : RebaseRequest → Bool
  | .clearDrifted .. => true
  | _ => false

def RebaseRequest.refetched : RebaseRequest → Option PrNumber
  | .refetchPullRequest number => some number
  | _ => none

def retargeted (t : List (RebaseRequest × RebaseAnswer)) : List PrNumber := t.filterMap (·.1.refetched)

/-- The members before the first evicted one are left, in a Stack of their own, and the rest is released. -/
structure Releases (r : Replacement) (t : List (RebaseRequest × RebaseAnswer)) : Prop where
  fresh : r.rewritten.status.analysis.fleet.caravan plan.rootPr = some r.caravan
  survivors : r.survivors = r.caravan.members.takeWhile fun number => decide (number ∉ r.evicted)
  whole : ∀ number,number ∈ r.caravan.members ↔ number ∈ r.survivors ∨ number ∈ r.evicted
  retargets : retargeted t <+: r.survivors
  rebuilt : ∀ e ∈ t,∀ create,e.1 = .nativeStackCreate create →
    create.desired.entries.map (·.pr) = r.survivors
  released : ∀ e ∈ t,∀ members actor reason evidence,
    e.1 = .queueEvictSuffix members actor reason evidence → members = r.evicted
  preserved : ∀ e ∈ t,∀ items,e.1 = .applyPreparedAtomically items → ∀ item ∈ items,
    ∀ member ∈ plan.members,member.pr ∈ r.evicted → item.branch ≠ member.branch

def NothingBehind (members evicted : List PrNumber) : Prop :=
  ∀ before number behind,members = before ++ number::behind → number ∈ evicted →
    ∀ other ∈ behind,other ∈ evicted

/-- No planned member ahead of the evicted suffix has the branch of one in it. -/
def BranchesApart (evicted : List PrNumber) : Prop :=
  ∀ kept suffix,plan.members = kept ++ suffix → suffix.map (·.pr) = evicted →
    ∀ member ∈ kept,∀ other ∈ suffix,member.branch ≠ other.branch

end Spec

section Proofs

variable {encode : NativeStackRebasePlan → List UInt8} {context : RebaseContext} {status : FleetStatus}
  {native : NativeStackStatus} {caravan : Caravan} {active : List PullRequestSnapshot}
  {plan : NativeStackRebasePlan} {scope : PlanScope} {start : ℕ} {conflicts : ConflictPolicy}
  {preparation : Preparation} {r : Replacement} {t : List (RebaseRequest × RebaseAnswer)} {key : String}

theorem retargeted_append (t t' : List (RebaseRequest × RebaseAnswer)) :
    retargeted (t ++ t') = retargeted t ++ retargeted t' := List.filterMap_append

theorem retargeted_eq_nil (h : ∀ e ∈ t,e.1.refetched = none) : retargeted t = [] := by
  unfold retargeted
  rw [List.filterMap_eq_nil_iff]
  exact h

/-- What each request of the replacement may ask for, when these are the evicted and these the survivors. -/
def Replaces (r : Replacement) : RebaseRequest → Prop
  | .prepareCandidate .. | .applyPreparedAtomically _ => False
  | .nativeStackCreate create => create.desired.entries.map (·.pr) = r.survivors
  | .queueEvictSuffix members .. => members = r.evicted
  | _ => True

/-- The requests before anything of the provider Stack is written. -/
def Scopes : RebaseRequest → Prop
  | .prepareCandidate .. | .applyPreparedAtomically _ | .fleetStatus => True
  | _ => False

theorem only_perform {allowed : RebaseRequest → Prop} {request : RebaseRequest} {error : ApplyError → ApplyError}
    (h : allowed request) : Prog.Only allowed (perform request error) := Prog.Only.query h

theorem only_readStatus {allowed : RebaseRequest → Prop} {error : ApplyError → ApplyError}
    (h : allowed .fleetStatus) : Prog.Only allowed (readStatus error) := Prog.Only.query h

section Prepared

/-- The planned members that were replayed, and the suffix that is to be released. -/
structure Divided (status : FleetStatus) (preparation : Preparation)
    (kept suffix : List NativeStackRebaseMemberPlan) : Prop where
  replayed : List.Forall₂ (fun member item => ∃ pull,
    status.status.analysis.pullRequests[member.pr]? = some pull ∧ item.branch = pull.head.name)
      kept preparation.prepared
  evicted : preparation.unreplayable.elim [] (·.evicted) = suffix.map (·.pr)

theorem prepareMembers_divided {target : PlannedBase} {members : List NativeStackRebaseMemberPlan}
    (h : Prog.Yields (prepareMembers plan status conflicts target members) t (.ok preparation)) :
    ∃ kept suffix,members = kept ++ suffix ∧ Divided status preparation kept suffix := by
  induction members generalizing target t preparation with
  | nil =>
    cases ((Prog.yields_pure _ _).mp h).2
    exact ⟨[],[],rfl,.nil,rfl⟩
  | cons member rest ih =>
    unfold prepareMembers at h
    cases hpull : status.status.analysis.pullRequests[member.pr]? with
    | none =>
      rw [hpull] at h
      exact absurd h (Prog.yields_crashed _)
    | some candidate =>
      rw [hpull] at h
      obtain ⟨result,_,t₂,_,_,h⟩ := (Prog.yields_bind_ok _ _ _).mp h
      cases result with
      | ok facts =>
        obtain ⟨later,t₃,_,_,hlater,h⟩ := (Prog.yields_bind_ok _ _ _).mp h
        cases ((Prog.yields_pure _ _).mp h).2
        obtain ⟨kept,suffix,hrest,hdivided⟩ := ih hlater
        exact ⟨member::kept,suffix,congrArg (member::·) hrest,.cons ⟨candidate,hpull,rfl⟩ hdivided.replayed,
          hdivided.evicted⟩
      | error refusal =>
        dsimp only at h
        split at h
        · cases ((Prog.yields_pure _ _).mp h).2
          exact ⟨[],member::rest,rfl,.nil,rfl⟩
        · cases ((Prog.yields_throw _ _).mp h).2

theorem prepareAll_divided (h : Prog.Yields (prepareAll plan status conflicts) t (.ok preparation)) :
    ∃ kept suffix,plan.members = kept ++ suffix ∧ Divided status preparation kept suffix := by
  unfold prepareAll at h
  split at h
  case h_1 hnil =>
    cases ((Prog.yields_pure _ _).mp h).2
    exact ⟨[],[],hnil,.nil,rfl⟩
  case h_2 first rest hmembers => exact prepareMembers_divided h

theorem only_prepareMembers {allowed : RebaseRequest → Prop}
    (h : ∀ candidate range base source replay,allowed (.prepareCandidate candidate range base source replay))
    (target : PlannedBase) (members : List NativeStackRebaseMemberPlan) :
    Prog.Only allowed (prepareMembers plan status conflicts target members) := by
  induction members generalizing target with
  | nil => exact .pure _
  | cons member rest ih =>
    unfold prepareMembers
    split
    · exact .crashed
    · apply (Prog.Only.query (h ..)).bind
      intro result
      cases result with
      | ok facts => exact (ih _).bind fun _ => .pure _
      | error refusal =>
        dsimp only
        split
        · exact .pure _
        · exact .throw _

theorem only_prepareAll {allowed : RebaseRequest → Prop}
    (h : ∀ candidate range base source replay,allowed (.prepareCandidate candidate range base source replay)) :
    Prog.Only allowed (prepareAll plan status conflicts) := by
  unfold prepareAll
  split
  · exact .pure _
  · exact only_prepareMembers h _ _

end Prepared

section Scoped

theorem only_scopeStage : Prog.Only Scopes (scopeStage plan status conflicts) := by
  unfold scopeStage
  apply (only_prepareAll fun _ _ _ _ _ => trivial).bind
  intro preparation
  refine Prog.Only.bind ?_ fun physical => ?_
  · unfold publish
    split
    · exact .pure _
    · exact .query trivial
  · refine Prog.Only.bind ?_ fun rewritten => .ofResult _
    unfold rewrittenStatus
    split
    · exact .pure _
    · exact only_readStatus trivial

structure Scoped (plan : NativeStackRebasePlan) (status : FleetStatus) (r : Replacement)
    (t : List (RebaseRequest × RebaseAnswer)) : Prop where
  divided : ∃ kept suffix,plan.members = kept ++ suffix ∧ Divided status r.preparation kept suffix
  published : ∀ e ∈ t,∀ items,e.1 = .applyPreparedAtomically items → items = r.preparation.prepared
  pushed : r.preparation.prepared ≠ [] → ∃ e ∈ t,e.1 = .applyPreparedAtomically r.preparation.prepared
  fresh : r.rewritten.status.analysis.fleet.caravan plan.rootPr = some r.caravan
  evicted : r.evicted = r.preparation.unreplayable.elim [] (·.evicted)
  present : ∀ number ∈ r.evicted,number ∈ r.caravan.members
  survivors : r.survivors = r.caravan.members.filter fun number => decide (number ∉ r.evicted)

theorem replacementScope_ok {physical : Option AtomicRebaseReceipt} {rewritten : FleetStatus}
    (h : replacementScope plan preparation physical rewritten = .ok r) :
    r.preparation = preparation ∧ r.rewritten.status.analysis.fleet.caravan plan.rootPr = some r.caravan ∧
      r.evicted = preparation.unreplayable.elim [] (·.evicted) ∧
      (∀ number ∈ r.evicted,number ∈ r.caravan.members) ∧
      r.survivors = r.caravan.members.filter fun number => decide (number ∉ r.evicted) := by
  unfold replacementScope at h
  cases hcaravan : rewritten.status.analysis.fleet.caravan plan.rootPr with
  | none =>
    rw [hcaravan] at h
    cases h
  | some caravan =>
    rw [hcaravan] at h
    obtain ⟨hpresent,h⟩ := (Guard.refuse_bind_eq_ok _ _ _ _).mp h
    obtain ⟨_,_,h⟩ := Guard.bind_eq_ok.mp h
    obtain ⟨_,_,h⟩ := Guard.bind_eq_ok.mp h
    cases h
    refine ⟨rfl,hcaravan,rfl,?_,rfl⟩
    intro number hnumber
    simpa using List.any_eq_false.mp hpresent number hnumber

theorem scopeStage_scoped (h : Prog.Yields (scopeStage plan status conflicts) t (.ok r)) :
    Scoped plan status r t := by
  unfold scopeStage at h
  obtain ⟨preparation,tp,t₁,rfl,hprepare,h⟩ := (Prog.yields_bind_ok _ _ _).mp h
  obtain ⟨physical,tq,t₂,rfl,hpublish,h⟩ := (Prog.yields_bind_ok _ _ _).mp h
  obtain ⟨rewritten,ts,t₃,rfl,hrewritten,h⟩ := (Prog.yields_bind_ok _ _ _).mp h
  obtain ⟨rfl,hscope⟩ := (Prog.yields_ofResult _ _).mp h
  obtain ⟨hpreparation,hfresh,hevicted,hpresent,hsurvivors⟩ := replacementScope_ok hscope.symm
  have hprepared : ∀ e ∈ tp,∀ items,e.1 ≠ .applyPreparedAtomically items := by
    have honly : Prog.Only (fun q => ∀ items,q ≠ .applyPreparedAtomically items)
        (prepareAll plan status conflicts) := only_prepareAll fun _ _ _ _ _ _ => nofun
    exact honly.requests hprepare
  have hread : ∀ e ∈ ts,∀ items,e.1 ≠ .applyPreparedAtomically items := by
    have honly : Prog.Only (fun q => ∀ items,q ≠ .applyPreparedAtomically items)
        (rewrittenStatus plan status physical) := by
      unfold rewrittenStatus
      split
      · exact .pure _
      · exact only_readStatus nofun
    exact honly.requests hrewritten
  subst hpreparation
  have hpush : (∀ e ∈ tq,e.1 = .applyPreparedAtomically r.preparation.prepared) ∧
      (r.preparation.prepared ≠ [] → tq ≠ []) := by
    unfold publish at hpublish
    split at hpublish
    case isTrue hempty =>
      obtain ⟨rfl,_⟩ := (Prog.yields_pure _ _).mp hpublish
      exact ⟨by simp,fun hne => absurd (List.isEmpty_iff.mp hempty) hne⟩
    case isFalse =>
      obtain ⟨answer,rfl,_⟩ := (Prog.yields_query _ _ _).mp hpublish
      exact ⟨fun e he => by rw [List.mem_singleton.mp he],fun _ => List.cons_ne_nil _ _⟩
  refine ⟨prepareAll_divided hprepare,?_,?_,hfresh,hevicted,hpresent,hsurvivors⟩
  · intro e he items hitems
    rw [List.append_nil,List.mem_append,List.mem_append] at he
    rcases he with he | he | he
    · exact absurd hitems (hprepared e he items)
    · rw [hpush.1 e he] at hitems
      cases hitems
      rfl
    · exact absurd hitems (hread e he items)
  · intro hne
    obtain ⟨e,he⟩ := List.exists_mem_of_ne_nil _ (hpush.2 hne)
    exact ⟨e,by simp [he],hpush.1 e he⟩

end Scoped

section Replaced

theorem only_retargetSurvivors {allowed : RebaseRequest → Prop} {error : ApplyError → ApplyError}
    (hread : ∀ number,allowed (.refetchPullRequest number)) (hset : ∀ current base,allowed (.setBase current base))
    (expected : String) (survivors : List PrNumber) :
    Prog.Only allowed (retargetSurvivors error expected survivors) := by
  induction survivors generalizing expected with
  | nil => exact .pure _
  | cons number rest ih =>
    unfold retargetSurvivors
    apply (Prog.Only.query (hread _)).bind
    intro current
    split
    · exact (only_perform (hset ..)).bind fun _ => (ih _).bind fun _ => .pure _
    · exact ih _

/-- A part that reads no member again does not change which ones were. -/
theorem retargeted_after {α β : Type} {p : Apply α} {f : α → Apply β} {x : Except ApplyError β}
    {survivors : List PrNumber} (hp : Prog.Only (fun q => q.refetched = none) p)
    (hf : ∀ a t',Prog.Yields (f a) t' x → retargeted t' <+: survivors) (h : Prog.Yields (p >>= f) t x) :
    retargeted t <+: survivors := by
  obtain ⟨y,t₁,t₂,rfl,hfirst,h⟩ := (Prog.yields_bind _ _ _).mp h
  rw [retargeted_append,retargeted_eq_nil (hp.requests hfirst),List.nil_append]
  cases y with
  | ok a => exact hf a t₂ h
  | error e =>
    rw [h.1]
    exact List.nil_prefix

theorem retargeted_before {α β : Type} {p : Apply α} {f : α → Apply β} {x : Except ApplyError β}
    {survivors : List PrNumber} (hp : ∀ y t',Prog.Yields p t' y → retargeted t' <+: survivors)
    (hf : ∀ a,Prog.Only (fun q => q.refetched = none) (f a)) (h : Prog.Yields (p >>= f) t x) :
    retargeted t <+: survivors := by
  obtain ⟨y,t₁,t₂,rfl,hfirst,h⟩ := (Prog.yields_bind _ _ _).mp h
  have hlater : retargeted t₂ = [] := by
    cases y with
    | ok a => exact retargeted_eq_nil ((hf a).requests h)
    | error e =>
      rw [h.1]
      rfl
  rw [retargeted_append,hlater,List.append_nil]
  exact hp y t₁ hfirst

theorem retargetSurvivors_retargeted {error : ApplyError → ApplyError} {expected : String}
    {survivors : List PrNumber} {x : Except ApplyError (List PrNumber)}
    (h : Prog.Yields (retargetSurvivors error expected survivors) t x) : retargeted t <+: survivors := by
  induction survivors generalizing expected t x with
  | nil =>
    rw [((Prog.yields_pure _ _).mp h).1]
    exact List.nil_prefix
  | cons number rest ih =>
    unfold retargetSurvivors at h
    obtain ⟨y,t₁,t₂,rfl,hread,h⟩ := (Prog.yields_bind _ _ _).mp h
    obtain ⟨answer,rfl,_⟩ := (Prog.yields_query _ _ _).mp hread
    rw [retargeted_append]
    show [number] ++ retargeted t₂ <+: [number] ++ rest
    rw [List.prefix_append_right_inj]
    cases y with
    | error e =>
      rw [h.1]
      exact List.nil_prefix
    | ok current =>
      dsimp only at h
      split at h
      · apply retargeted_after (only_perform rfl) _ h
        intro _ t' h'
        exact retargeted_before (fun _ _ => ih) (fun _ => .pure _) h'
      · exact ih h

theorem only_release {allowed : RebaseRequest → Prop}
    (h : ∀ request,r.preparation.unreplayable = some request →
      ∀ actor reason evidence,allowed (.queueEvictSuffix request.evicted actor reason evidence)) :
    Prog.Only allowed (release plan r) := by
  unfold release
  split
  case h_1 => exact .pure _
  case h_2 request hrequest => exact only_perform (h request hrequest _ _ _)

theorem only_rebuild {allowed : RebaseRequest → Prop} (hread : allowed .fleetStatus)
    (hcreate : ∀ create,create.desired.entries.map (·.pr) = r.survivors → allowed (.nativeStackCreate create))
    (retargets : List PrNumber) : Prog.Only allowed (rebuild plan r retargets) := by
  unfold rebuild
  refine Prog.Only.bind ?_ fun fresh => ?_
  · unfold rebuildStatus
    split
    · exact .pure _
    · exact only_readStatus hread
  · apply Prog.Calls.ofResult fun _ => trivial
    intro pulls hpulls
    apply Prog.Calls.ofResult fun _ => trivial
    intro desired hdesired
    apply only_perform
    apply hcreate
    have hnumbers : pulls.map (·.number) = r.survivors := by
      apply fresh.indexed.numbers_of_mapM _ hpulls
      intro number pull hpull
      split at hpull
      · cases hpull
      case h_2 found hfound =>
        cases hpull
        exact hfound
    rw [← hnumbers]
    cases htopology : StackMembership.topologyFromMembers fresh.status.analysis.fleet.defaultBranch pulls with
    | error e =>
      rw [htopology] at hdesired
      cases hdesired
    | ok topology =>
      rw [htopology] at hdesired
      cases hdesired
      exact StackMembership.topologyFromMembers_numbers htopology

theorem only_settle {allowed : RebaseRequest → Prop} (hread : allowed .fleetStatus)
    (hcreate : ∀ create,create.desired.entries.map (·.pr) = r.survivors → allowed (.nativeStackCreate create))
    (hwrite : allowed (.writeCheckpoint key)) (retargets : List PrNumber) :
    Prog.Only allowed (settle plan r key retargets) := by
  unfold settle
  refine Prog.Only.bind ?_ fun _ => ?_
  · unfold rebuildSurvivors
    split
    · exact only_rebuild hread hcreate retargets
    · exact .pure _
  · exact (only_readStatus hread).bind fun _ => (Prog.Only.ofResult _).bind fun _ =>
      (only_perform hwrite).bind fun _ => .pure _

theorem only_replaceStage (hevicted : r.evicted = r.preparation.unreplayable.elim [] (·.evicted)) :
    Prog.Only (Replaces r) (replaceStage plan r key) := by
  unfold replaceStage
  apply (only_perform trivial).bind
  intro _
  refine Prog.Only.bind (only_release ?_) fun _ => ?_
  · intro request hrequest _ _ _
    show request.evicted = r.evicted
    rw [hevicted,hrequest]
    rfl
  · refine Prog.Only.bind (only_retargetSurvivors (fun _ => trivial) (fun _ _ => trivial) _ _) fun retargets => ?_
    exact only_settle trivial (fun _ hcreate => hcreate) trivial retargets

theorem replaceStage_retargeted {x : Except ApplyError RebaseOutput}
    (h : Prog.Yields (replaceStage plan r key) t x) : retargeted t <+: r.survivors := by
  unfold replaceStage at h
  apply retargeted_after (only_perform rfl) _ h
  intro _ t₁ h
  apply retargeted_after (only_release fun _ _ _ _ _ => rfl) _ h
  intro _ t₂ h
  have hsettled (retargets : List PrNumber) : Prog.Only (fun q => q.refetched = none)
      (settle plan r key retargets) := by
    apply only_settle
    · rfl
    · exact fun _ _ => rfl
    · rfl
  exact retargeted_before (fun _ _ => retargetSurvivors_retargeted) hsettled h

end Replaced

section Main

/-- Only a member behind an evicted one keeps the survivors from being the first members. -/
theorem filter_eq_takeWhile_iff (members evicted : List PrNumber) :
    (members.filter fun number => decide (number ∉ evicted)) =
        (members.takeWhile fun number => decide (number ∉ evicted)) ↔ NothingBehind members evicted := by
  induction members with
  | nil =>
    refine ⟨fun _ => ?_,fun _ => rfl⟩
    intro before number behind hsplit
    simp at hsplit
  | cons first rest ih =>
    by_cases hfirst : first ∈ evicted
    · rw [List.filter_cons_of_neg (by simpa using hfirst),List.takeWhile_cons_of_neg (by simpa using hfirst),
        List.filter_eq_nil_iff]
      constructor
      · intro hall before number behind hsplit _ other hother
        have hmem : other ∈ first::rest := by simp [hsplit,hother]
        rcases List.mem_cons.mp hmem with rfl | hrest
        · exact hfirst
        · simpa using hall other hrest
      · intro hbehind other hother
        simpa using hbehind [] first rest rfl hfirst other hother
    · rw [List.filter_cons_of_pos (by simpa using hfirst),List.takeWhile_cons_of_pos (by simpa using hfirst),
        List.cons_inj_right,ih]
      constructor
      · intro hbehind before number behind hsplit hnumber
        cases before with
        | nil =>
          cases hsplit
          exact absurd hnumber hfirst
        | cons _ before =>
          cases hsplit
          exact hbehind before number behind rfl hnumber
      · intro hbehind before number behind hsplit hnumber
        exact hbehind (first::before) number behind (congrArg (first::·) hsplit) hnumber

/-- A planned member carries the branch that the sealed status shows for it. -/
theorem BuiltFrom.branch
    (h : BuiltFrom encode context status.status native scope caravan active start plan)
    {member : NativeStackRebaseMemberPlan} (hmember : member ∈ plan.members) :
    ∃ pull,status.status.analysis.pullRequests[member.pr]? = some pull ∧ member.branch = pull.head.name := by
  rw [h.members] at hmember
  obtain ⟨i,hi⟩ := List.mem_iff_getElem?.mp hmember
  obtain ⟨pull,parent,hpull,_,rfl⟩ := memberPlans_getElem? i hi
  obtain ⟨number,_,hread⟩ := Guard.exists_of_mem_mapM h.pulls (List.mem_of_getElem? hpull)
  refine ⟨pull,?_,rfl⟩
  cases hfound : status.status.analysis.pullRequests[number]? with
  | none =>
    rw [hfound] at hread
    cases hread
  | some found =>
    rw [hfound] at hread
    cases hread
    rw [← hfound]
    exact congrArg (status.status.analysis.pullRequests[·]?) (status.indexed number pull hfound)

theorem Divided.branches {kept suffix : List NativeStackRebaseMemberPlan}
    (hbuilt : BuiltFrom encode context status.status native scope caravan active start plan)
    (hmembers : plan.members = kept ++ suffix) (h : Divided status preparation kept suffix) :
    preparation.prepared.map (·.branch) = kept.map (·.branch) := by
  have hplanned : ∀ member ∈ kept,member ∈ plan.members := by
    intro member hmember
    rw [hmembers]
    exact List.mem_append_left _ hmember
  have hall := h.replayed
  clear h hmembers
  generalize preparation.prepared = prepared at hall ⊢
  induction hall with
  | nil => rfl
  | @cons member item _ _ hhead _ ih =>
    obtain ⟨pull,hpull,hitem⟩ := hhead
    obtain ⟨found,hfound,hbranch⟩ := hbuilt.branch (hplanned member (List.mem_cons_self ..))
    cases hpull.symm.trans hfound
    rw [List.map_cons,List.map_cons,ih fun other hother => hplanned other (List.mem_cons_of_mem _ hother),
      hitem,hbranch]

/-- No pushed branch belongs to an evicted member exactly when the suffix has branches of its own. -/
theorem preserved_iff (hbuilt : BuiltFrom encode context status.status native scope caravan active start plan)
    (h : Scoped plan status r t) :
    (∀ item ∈ r.preparation.prepared,∀ member ∈ plan.members,member.pr ∈ r.evicted →
      item.branch ≠ member.branch) ↔ BranchesApart plan r.evicted := by
  obtain ⟨kept,suffix,hmembers,hdivided⟩ := h.divided
  have hevicted : suffix.map (·.pr) = r.evicted := by rw [h.evicted,hdivided.evicted]
  have hbranches := hdivided.branches hbuilt hmembers
  constructor
  · intro hpreserved kept' suffix' hmembers' hevicted' member hmember other hother
    have hlength : kept.length = kept'.length := by
      have htotal := congrArg List.length (hmembers.symm.trans hmembers')
      have hshort := congrArg List.length (hevicted.trans hevicted'.symm)
      rw [List.length_append,List.length_append] at htotal
      rw [List.length_map,List.length_map] at hshort
      omega
    obtain ⟨rfl,rfl⟩ := List.append_inj (hmembers.symm.trans hmembers') hlength
    have hown : member.branch ∈ r.preparation.prepared.map (·.branch) := by
      rw [hbranches]
      exact List.mem_map_of_mem hmember
    obtain ⟨item,hitem,hbranch⟩ := List.mem_map.mp hown
    rw [← hbranch]
    refine hpreserved item hitem other ?_ ?_
    · rw [hmembers]
      exact List.mem_append_right _ hother
    · rw [← hevicted]
      exact List.mem_map_of_mem hother
  · intro hapart item hitem member hmember hout
    have hpushed : item.branch ∈ kept.map (·.branch) := by
      rw [← hbranches]
      exact List.mem_map_of_mem hitem
    obtain ⟨own,hown,hbranch⟩ := List.mem_map.mp hpushed
    rw [← hevicted] at hout
    obtain ⟨other,hother,hpr⟩ := List.mem_map.mp hout
    -- The branch of a member is a matter of its number alone.
    obtain ⟨pull,hpull,hmemberBranch⟩ := hbuilt.branch hmember
    obtain ⟨pull',hpull',hotherBranch⟩ := hbuilt.branch
      (hmembers ▸ List.mem_append_right kept hother)
    rw [hpr] at hpull'
    cases hpull.symm.trans hpull'
    rw [← hbranch,hmemberBranch,← hotherBranch]
    exact hapart kept suffix hmembers hevicted own hown other hother

/-- Once the drifted Stack is cleared, the release keeps no descendant exactly when the fresh caravan shows
nobody behind the planned suffix and the suffix has branches of its own. -/
theorem releases_iff (hbuilt : BuiltFrom encode context status.status native scope caravan active start plan)
    {x : Except ApplyError RebaseOutput} (h : Prog.Yields (applyPlan plan key status conflicts) t x)
    (hclear : ∃ e ∈ t,e.1.isClear = true) :
    ∃ r before after,t = before ++ after ∧ Prog.Yields (scopeStage plan status conflicts) before (.ok r) ∧
      (Releases plan r t ↔ NothingBehind r.caravan.members r.evicted ∧ BranchesApart plan r.evicted) := by
  unfold applyPlan at h
  obtain ⟨y,before,after,rfl,hscope,h⟩ := (Prog.yields_bind _ _ _).mp h
  have hscopes := only_scopeStage.requests hscope
  cases y with
  | error e =>
    obtain ⟨e,he,hclear⟩ := hclear
    rw [h.1,List.append_nil] at he
    have hscoped := hscopes e he
    cases hrequest : e.1 <;> simp_all [Scopes,RebaseRequest.isClear]
  | ok r =>
    refine ⟨r,before,after,rfl,hscope,?_⟩
    have hscoped := scopeStage_scoped hscope
    have hreplaces := (only_replaceStage hscoped.evicted).requests h
    rw [← filter_eq_takeWhile_iff,← hscoped.survivors,← preserved_iff hbuilt hscoped]
    constructor
    · intro hreleases
      refine ⟨hreleases.survivors,?_⟩
      intro item hitem
      obtain ⟨e,he,hpush⟩ := hscoped.pushed (List.ne_nil_of_mem hitem)
      exact hreleases.preserved e (List.mem_append_left _ he) _ hpush item hitem
    · rintro ⟨hsurvivors,hpreserved⟩
      refine ⟨hscoped.fresh,hsurvivors,?_,?_,?_,?_,?_⟩
      · intro number
        rw [hscoped.survivors,List.mem_filter,decide_eq_true_eq]
        constructor
        · intro hmember
          by_cases hout : number ∈ r.evicted
          · exact .inr hout
          · exact .inl ⟨hmember,hout⟩
        · rintro (⟨hmember,_⟩ | hout)
          · exact hmember
          · exact hscoped.present number hout
      · rw [retargeted_append,retargeted_eq_nil,List.nil_append]
        · exact replaceStage_retargeted h
        · intro e he
          have hkind := hscopes e he
          cases hrequest : e.1 <;> simp_all [Scopes,RebaseRequest.refetched]
      · intro e he create hcreate
        rcases List.mem_append.mp he with he | he
        · have hkind := hscopes e he
          rw [hcreate] at hkind
          exact hkind.elim
        · have hkind := hreplaces e he
          rw [hcreate] at hkind
          exact hkind
      · intro e he members actor reason evidence hevict
        rcases List.mem_append.mp he with he | he
        · have hkind := hscopes e he
          rw [hevict] at hkind
          exact hkind.elim
        · have hkind := hreplaces e he
          rw [hevict] at hkind
          exact hkind
      · intro e he items hitems
        rcases List.mem_append.mp he with he | he
        · rw [hscoped.published e he items hitems]
          exact hpreserved
        · have hkind := hreplaces e he
          rw [hitems] at hkind
          exact hkind.elim

end Main

end Proofs

section Example

private def repairRepository : RepositoryId := ⟨"octo","repo"⟩

private def repairBranch (name : String) : BranchSnapshot := ⟨repairRepository,name,name ++ "-oid"⟩

private def repairPull (number : PrNumber) (head base : String) : PullRequestSnapshot where
  number := number
  state := .open
  head := repairBranch head
  base := repairBranch base
  labels := {"caravan"}
  autoMerge := .disabled

private def repairStack (rows : List (PrNumber × String)) : Github.StackSnapshot where
  id := 1
  number := 7
  nodeId := "S_7"
  baseRef := "main"
  isOpen := true
  createdAt := ""
  pullRequests := rows.map fun row => {
    number := row.1
    state := "open"
    draft := false
    head := ⟨row.2,row.2 ++ "-oid"⟩ }

private def repairPulls : List PullRequestSnapshot → PullRequestMap
  | [] => ∅
  | pull::rest => (repairPulls rest).insert pull.number pull

private theorem repairPulls_indexed (pulls : List PullRequestSnapshot) : Graph.Indexed (repairPulls pulls) := by
  induction pulls with
  | nil => exact Graph.indexed_empty
  | cons pull rest ih => exact ih.insert pull

/-- A caravan of these members with one Stack of these rows. -/
private def repairStatus (members : List PullRequestSnapshot) (native : NativeStackStatus) : FleetStatus where
  status := {
    repository := repairRepository
    defaultBranch := "main"
    analysis := {
      fleet := {
        repository := repairRepository
        defaultBranch := repairBranch "main"
        caravans := [⟨1,members.map (·.number),false⟩] }
      pullRequests := repairPulls members }
    stackBackend := { configured := .github,nativeStacks := [native] } }
  indexed := repairPulls_indexed members

private def repairNative : NativeStackStatus where
  stack := repairStack [(1,"a"),(2,"b")]
  caravanId := some 1
  consistency := .drifted
  problems := [⟨"github_stack_head_drift","drift"⟩]

private def repairSealed : FleetStatus := repairStatus [repairPull 1 "a" "main",repairPull 2 "b" "a"] repairNative

/-- The third member joins behind the second while the plan is applied. -/
private def repairFresh (base : String) (native : NativeStackStatus) : FleetStatus :=
  repairStatus [repairPull 1 "a" "main",repairPull 2 "b" "a",repairPull 3 "c" base] native

private def repairContext : RebaseContext := ⟨.github,true,[]⟩

private def repairPlanned : Except RebaseError NativeStackRebasePlan :=
  planFromNative (fun _ => []) repairContext repairSealed.status repairNative "operator" "repair" .ordinary

private theorem repairPlanned_isSome : repairPlanned.toOption.isSome = true := by decide

private def repairPlan : NativeStackRebasePlan := repairPlanned.toOption.get repairPlanned_isSome

private def repairReceipt : AtomicRebaseReceipt := ⟨true,[],[],[],false⟩

private def repairAnswers : List RebaseAnswer :=
  [.prepared (.ok ⟨"base","a-new","tree",1,[]⟩),
    .prepared (.error { category := .validation,code := "rebase_conflict",message := "conflict" }),
    .published (.ok repairReceipt),.status (.ok (repairFresh "b" repairNative)),.done (.ok ()),.done (.ok ()),
    .pullRequest (.ok (repairPull 1 "a" "main")),.pullRequest (.ok (repairPull 3 "c" "b")),.done (.ok ()),
    .status (.ok (repairFresh "a" repairNative)),.done (.ok ()),
    .status (.ok (repairFresh "a" { repairNative with
      stack := repairStack [(1,"a"),(3,"c")]
      consistency := .exact })),.done (.ok ())]

private def repairRun : Option (Option (Except ApplyError RebaseOutput) × List (RebaseRequest × RebaseAnswer)) :=
  (applyPlan repairPlan "rebase-key" repairSealed .evictSuffix).run.replay repairAnswers

private def repairTalk : List (RebaseRequest × RebaseAnswer) := repairRun.elim [] (·.2)

private theorem repairPlan_built : ∃ caravan active start,
    BuiltFrom (fun _ => []) repairContext repairSealed.status repairNative .ordinary caravan active start
      repairPlan :=
  planFromNative_built (Guard.ok_of_toOption (Option.some_get repairPlanned_isSome).symm)

/-- The repair that is answered so rebuilds the Stack and succeeds. -/
private theorem repairTalk_yields : ∃ output,
    Prog.Yields (applyPlan repairPlan "rebase-key" repairSealed .evictSuffix) repairTalk (.ok output) := by
  have hsucceeds : (repairRun.bind (·.1)).any (·.isOk) = true := by
    decide
  obtain ⟨result,hresult,hok⟩ := (Option.any_eq_true _ _).mp hsucceeds
  obtain ⟨⟨_,talk⟩,hrun,hfirst⟩ := Option.bind_eq_some_iff.mp hresult
  cases hfirst
  have htalk : repairTalk = talk := by
    unfold repairTalk
    rw [hrun]
    rfl
  cases result with
  | error e => cases hok
  | ok output =>
    rw [htalk]
    exact ⟨output,Prog.yields_of_replay hrun⟩

private theorem repairTalk_clears : ∃ e ∈ repairTalk,e.1.isClear = true := by
  have hany : repairTalk.any (·.1.isClear) = true := by
    decide
  exact List.any_eq_true.mp hany

/-- The third member stands behind the evicted second one and is rebuilt into the Stack. -/
theorem releases_not_joined : ∃ output r before after,
    Prog.Yields (applyPlan repairPlan "rebase-key" repairSealed .evictSuffix) repairTalk (.ok output) ∧
    (∃ caravan active start,BuiltFrom (fun _ => []) repairContext repairSealed.status repairNative .ordinary
      caravan active start repairPlan) ∧ (∃ e ∈ repairTalk,e.1.isClear = true) ∧
    repairTalk = before ++ after ∧
    Prog.Yields (scopeStage repairPlan repairSealed .evictSuffix) before (.ok r) ∧ r.evicted = [2] ∧
    r.survivors = [1,3] ∧ ¬Releases repairPlan r repairTalk := by
  obtain ⟨output,h⟩ := repairTalk_yields
  have hstages := h
  unfold applyPlan at hstages
  obtain ⟨r,before,after,htalk,hscope,_⟩ := (Prog.yields_bind_ok _ _ _).mp hstages
  have hfollow := hscope.follow after
  rw [← htalk] at hfollow
  have hvalues : ((scopeStage repairPlan repairSealed .evictSuffix).run.follow repairTalk).map (fun left =>
      left.1.toOption.map fun r => (r.caravan.members,r.evicted,r.survivors)) =
        some (some ([1,2,3],[2],[1,3])) := by
    decide
  rw [hfollow] at hvalues
  have hr : (r.caravan.members,r.evicted,r.survivors) = ([1,2,3],[2],[1,3]) :=
    Option.some_inj.mp (Option.some_inj.mp hvalues)
  obtain ⟨hmembers,hrest⟩ := Prod.mk.inj hr
  obtain ⟨hevicted,hsurvivors⟩ := Prod.mk.inj hrest
  refine ⟨output,r,before,after,h,repairPlan_built,repairTalk_clears,htalk,hscope,hevicted,hsurvivors,?_⟩
  intro hreleases
  have hfirst := hreleases.survivors
  rw [hsurvivors,hmembers,hevicted] at hfirst
  exact absurd hfirst (by decide)

theorem releases_iff_joined : ∃ r before after,repairTalk = before ++ after ∧
    Prog.Yields (scopeStage repairPlan repairSealed .evictSuffix) before (.ok r) ∧
      (Releases repairPlan r repairTalk ↔
        NothingBehind r.caravan.members r.evicted ∧ BranchesApart repairPlan r.evicted) := by
  obtain ⟨output,h⟩ := repairTalk_yields
  obtain ⟨_,_,_,hbuilt⟩ := repairPlan_built
  exact releases_iff hbuilt h repairTalk_clears

end Example

end NativeStackRebase
end Cara
