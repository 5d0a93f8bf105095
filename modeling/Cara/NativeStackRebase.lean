import Cara.GraphMembership
import Cara.Lib.Guard
import Cara.Lib.Saturating
import Cara.Lib.Sealing
import Cara.Status

/-! The repair of a drifted native Stack: which members of the mapped caravan are replayed, the sealed plan
that an operator reviews, and what `apply` makes of the reviewed hash. -/
namespace Cara
namespace NativeStackRebase

open Github (StackSnapshot StackPullRequest)

section Plan

structure NativeStackRebaseMemberPlan where
  position : ℕ
  pr : PrNumber
  branch : String
  oldHead : CommitOid
  oldBase : BranchSnapshot
  parentPr : Option PrNumber
  parentBranch : String
  parentHead : CommitOid
deriving DecidableEq

structure NativeStackRebasePlan where
  schemaVersion : ℕ
  repository : RepositoryId
  stack : ℕ
  rootPr : PrNumber
  stackBaseRef : String
  providerBefore : StackSnapshot
  members : List NativeStackRebaseMemberPlan
  actor : String
  reason : String
  configFingerprint : String
  planHash : String := ""
deriving DecidableEq

inductive RebaseDetail where
  | stack (native : NativeStackStatus)
  | problems (unexpected : List StackBackendProblem)
  | notRequired (stack : ℕ)
  | ancestry (edges : List NativeStackAncestryEdge)
  | stale (expected : String) (actual : NativeStackRebasePlan)
deriving DecidableEq

abbrev RebaseError := AppError RebaseDetail

structure RebaseContext where
  stackType : Config.StackType
  mutationsOptIn : Bool
  bytes : List UInt8
deriving DecidableEq

structure RebaseInput where
  stack : ℕ
  actor : String
  reason : String
deriving DecidableEq

inductive PlanScope where
  | ordinary
  | closedHistory
deriving DecidableEq

def planSeal : Sealing NativeStackRebasePlan where
  get := NativeStackRebasePlan.planHash
  set plan hash := { plan with planHash := hash }
  get_set _ _ := rfl
  set_set _ _ _ := rfl

variable (encode : NativeStackRebasePlan → List UInt8)

def NativeStackRebasePlan.verify (plan : NativeStackRebasePlan) : Bool :=
  decide (plan.schemaVersion = 1) && !plan.members.isEmpty && planSeal.verify encode plan

def refused (code message : String) : RebaseError := {
  category := .validation
  code := code
  message := message }

def validatedText (value field : String) (max : ℕ) : Except RebaseError String :=
  if value = "" ∨ max < (Text.utf8Bytes value).length ∨ !Text.isTrimmed value ∨
      value.toList.any Text.isControl then
    .error (refused "native_stack_rebase_input_invalid"
      ("native Stack rebase requires a trimmed bounded " ++ field))
  else .ok value

end Plan

section Evidence

variable (status : StatusOutput) (native : NativeStackStatus)

def isOpenRow (row : StackPullRequest) : Bool := Text.eqIgnoreAsciiCase row.state "open"

def openRows : List StackPullRequest := native.stack.pullRequests.filter isOpenRow

/-- Every base is the branch before it, the default branch for the root. -/
def linearBases (pulls : List PullRequestSnapshot) : Bool :=
  (pulls.zip (status.analysis.fleet.defaultBranch::pulls.map (·.head))).all fun row =>
    decide (row.1.state = .open) && !row.1.draft && row.1.hasLabel "caravan" &&
      decide (row.1.base.repository = row.2.repository ∧ row.1.base.name = row.2.name)

/-- The open rows are a strict prefix of the caravan, which has the shape of an ordinary join. -/
def provenActiveFleetPrefix : Bool :=
  match native.caravanId.bind status.analysis.fleet.caravan with
  | none => false
  | some caravan =>
      let opened := openRows native
      if opened.isEmpty || decide (caravan.members.length ≤ opened.length) then false
      else if opened.map (·.number) ≠ caravan.members.take opened.length then false
      else match caravan.members.mapM fun number => status.analysis.pullRequests[number]? with
        | none => false
        | some pulls =>
            (opened.zip pulls).all (fun row =>
              decide (row.2.head.name = row.1.head.refName ∧ row.2.head.oid = row.1.head.sha)) &&
              linearBases status pulls

def provenRetainedClosedRows : Bool :=
  let retained := native.stack.pullRequests.filter fun row => !isOpenRow row
  !retained.isEmpty && retained.all fun row =>
    Text.eqIgnoreAsciiCase row.state "closed" && !row.draft &&
      (row.mergedAt.isSome || (openRows native).any fun opened => decide (opened.head.sha = row.head.sha))

def repairableProblem (retainedClosedRows activePrefix : Bool) (problem : StackBackendProblem) : Bool :=
  decide (problem.code ∈ ["native_stack_rebase_required","github_stack_pr_base_drift",
    "github_stack_head_drift"]) ||
  (retainedClosedRows &&
    decide (problem.code ∈ ["github_stack_pr_missing","github_stack_merged_prefix_invalid"])) ||
  (activePrefix && decide (problem.code = "github_stack_member_order_drift"))

def closedHistoryRepairableProblems : List String :=
  ["native_stack_rebase_required","github_stack_pr_base_drift","github_stack_head_drift",
    "github_stack_member_order_drift","github_stack_pr_missing","github_stack_merged_prefix_invalid",
    "github_stack_state_order_invalid"]

variable (scope : PlanScope)

/-- The rows differ from the caravan in their membership alone. -/
def representationOnlyMembershipRepair : Bool :=
  decide (scope ≠ .closedHistory) && !provenActiveFleetPrefix status native &&
    !native.problems.isEmpty && native.problems.all fun problem =>
      decide (problem.code = "github_stack_member_order_drift")

def unexpectedProblems : List StackBackendProblem :=
  native.problems.filter fun problem =>
    match scope with
    | .closedHistory => decide (problem.code ∉ closedHistoryRepairableProblems)
    | .ordinary => !(repairableProblem (provenRetainedClosedRows native)
        (provenActiveFleetPrefix status native) problem ||
          (representationOnlyMembershipRepair status native scope &&
            decide (problem.code = "github_stack_member_order_drift")))

/-- The representation is replaced as a whole, so that every member is replayed. -/
def representationDrift : Bool :=
  decide (scope = .closedHistory) || native.problems.any fun problem =>
    decide (problem.code ∈ ["github_stack_pr_base_drift","github_stack_head_drift"]) ||
    (provenRetainedClosedRows native &&
      decide (problem.code ∈ ["github_stack_pr_missing","github_stack_merged_prefix_invalid"])) ||
    (provenActiveFleetPrefix status native && decide (problem.code = "github_stack_member_order_drift"))

def rootStale (root : PullRequestSnapshot) : Bool :=
  ((status.mergeCandidates.find? fun candidate => decide (candidate.pr = root.number)).any fun candidate =>
    candidate.staleBase || candidate.staleHead) ||
  decide (root.base ≠ status.analysis.fleet.defaultBranch)

/-- The edge that is looked up for a member, by the member alone, is absent or not linear. -/
def unproven (number : PrNumber) : Bool :=
  (native.ancestry.find? fun edge => decide (edge.childPr = number)).all fun edge => !edge.linear

/-- The first member behind the root without a linear edge. -/
def firstUnproven (active : List PullRequestSnapshot) : Option ℕ :=
  ((active.zipIdx.drop 1).find? fun row => unproven native row.1.number).map (·.2)

def firstDiverged (root : PullRequestSnapshot) (active : List PullRequestSnapshot) : Option ℕ :=
  if representationOnlyMembershipRepair status native scope then none
  else if rootStale status root || representationDrift status native scope then some 0
  else firstUnproven native active

def relationUnknown : Generation.CommitRelation → Bool
  | .unknown _ => true
  | _ => false

end Evidence

section Planning

variable (encode : NativeStackRebasePlan → List UInt8) (context : RebaseContext) (status : StatusOutput)

def activePulls (caravan : Caravan) : Except RebaseError (List PullRequestSnapshot) :=
  caravan.members.mapM fun number =>
    match status.analysis.pullRequests[number]? with
    | none => .error (refused "native_stack_rebase_member_missing"
        "one active fleet member is absent from complete status")
    | some pull => .ok pull

/-- What each member is replayed on: the default branch, then the head before it. -/
def parents (active : List PullRequestSnapshot) : List (Option PrNumber × BranchSnapshot) :=
  (none,status.analysis.fleet.defaultBranch)::active.map fun pull => (some pull.number,pull.head)

def memberPlan (row : (PullRequestSnapshot × Option PrNumber × BranchSnapshot) × ℕ) :
    NativeStackRebaseMemberPlan where
  position := min row.2 Saturating.maxU32
  pr := row.1.1.number
  branch := row.1.1.head.name
  oldHead := row.1.1.head.oid
  oldBase := row.1.1.base
  parentPr := row.1.2.1
  parentBranch := row.1.2.2.name
  parentHead := row.1.2.2.oid

def memberPlans (active : List PullRequestSnapshot) (start : ℕ) : List NativeStackRebaseMemberPlan :=
  ((active.zip (parents status active)).zipIdx.drop start).map memberPlan

def planFromNative (native : NativeStackStatus) (actor reason : String) (scope : PlanScope) :
    Except RebaseError NativeStackRebasePlan := do
  Guard.refuse (status.stackBackend.providerStacksTruncated ||
      decide (native.consistency = .unknown ∨ native.consistency = .orphaned))
    { refused "native_stack_rebase_provider_incomplete"
        "complete exact provider Stack evidence is required before planning" with
      details := some (.stack native) }
  let unexpected := unexpectedProblems status native scope
  Guard.refuse (!unexpected.isEmpty)
    { refused "native_stack_rebase_topology_unhealthy"
        "native Stack rebase cannot repair incomplete, ambiguous, or membership drift" with
      details := some (.problems unexpected) }
  match native.caravanId with
  | none => .error (refused "native_stack_rebase_caravan_missing"
      "provider Stack does not map to one complete current Cara fleet")
  | some caravanId =>
      match status.analysis.fleet.caravan caravanId with
      | none => .error (refused "native_stack_rebase_caravan_missing"
          "provider Stack mapping is absent from the current Cara fleet")
      | some caravan => do
          let active ← activePulls status caravan
          match active with
          -- A caravan has members, so the source indexes the first one.
          | [] => .error (refused "native_stack_rebase_member_missing" "")
          | root::_ => do
              let diverged := firstDiverged status native scope root active
              Guard.refuse (!representationOnlyMembershipRepair status native scope && diverged.isNone)
                { refused "native_stack_rebase_not_required"
                    "the active fleet root and every adjacent head already match current ancestry" with
                  details := some (.notRequired native.stack.number) }
              let start := diverged.getD active.length
              Guard.refuse (native.ancestry.any fun edge =>
                  decide (edge.childPr ∈ caravan.members.drop start) && relationUnknown edge.relation)
                { refused "native_stack_rebase_ancestry_unknown"
                    "an unknown active-suffix commit relation cannot authorize branch rewrites" with
                  category := .executionFailure
                  details := some (.ancestry native.ancestry) }
              return planSeal.sealed encode {
                schemaVersion := 1
                repository := status.repository
                stack := native.stack.number
                rootPr := caravanId
                stackBaseRef := native.stack.baseRef
                providerBefore := native.stack
                members := memberPlans status active start
                actor := actor
                reason := reason
                configFingerprint := Fnv.fnv1a64 context.bytes }

def planFromStatus (input : RebaseInput) : Except RebaseError NativeStackRebasePlan := do
  let actor ← validatedText input.actor "actor" 256
  let reason ← validatedText input.reason "reason" 512
  Guard.refuse (decide (context.stackType ≠ .github) || !context.mutationsOptIn)
    (refused "native_stack_rebase_not_authorized"
      "native Stack rebase requires reviewed GitHub Stack mutation opt-in")
  match status.stackBackend.nativeStacks.find? fun native => decide (native.stack.number = input.stack) with
  | none => .error (refused "native_stack_rebase_stack_missing"
      "requested provider Stack is absent from complete status")
  | some native => planFromNative encode context status native actor reason .ordinary

end Planning

section Apply

variable (encode : NativeStackRebasePlan → List UInt8) (context : RebaseContext)

structure ApplyInput where
  intent : RebaseInput
  expectedPlanHash : String
deriving DecidableEq

def receiptKey (planHash : String) : Except RebaseError String :=
  if planHash = "" ∨ 96 < (Text.utf8Bytes planHash).length ∨ !planHash.toList.all fun c =>
      c.isAlphanum || decide (c = ':' ∨ c = '-') then
    .error (refused "native_stack_rebase_plan_hash_invalid"
      "native Stack rebase plan hash is not a bounded Cara fingerprint")
  else .ok ("rebase-" ++ String.ofList (planHash.toList.map fun c => if c = ':' then '-' else c))

inductive Admission where
  | replayed (plan : NativeStackRebasePlan)
  | start (plan : NativeStackRebasePlan)
deriving DecidableEq

def staleError (expected : String) (plan : NativeStackRebasePlan) : RebaseError :=
  { refused "native_stack_rebase_plan_stale" "native Stack rebase facts changed after preview" with
    details := some (.stale expected plan) }

/-- The reviewed hash is replayed from its checkpoint, or compared with a plan of the current status. -/
def applyAdmission (checkpoint : Except RebaseError (Option NativeStackRebasePlan)) (status : StatusOutput)
    (input : ApplyInput) : Except RebaseError Admission := do
  let _ ← receiptKey input.expectedPlanHash
  let stored ← checkpoint
  match stored.filter fun plan => decide (plan.planHash = input.expectedPlanHash) with
  | some plan => return .replayed plan
  | none =>
      let plan ← planFromStatus encode context status input.intent
      if plan.planHash ≠ input.expectedPlanHash ∨ !plan.verify encode then
        .error (staleError input.expectedPlanHash plan)
      else return .start plan

end Apply

section Spec

variable (encode : NativeStackRebasePlan → List UInt8) (context : RebaseContext) (status : StatusOutput)
  (native : NativeStackStatus) (caravan : Caravan)

/-- A linear ancestry edge leads to the member at a position from the member before it. -/
def ProvenLinear (position : ℕ) : Prop :=
  ∃ edge ∈ native.ancestry,edge.linear = true ∧ caravan.members[position]? = some edge.childPr ∧
    ∃ before,position = before + 1 ∧ caravan.members[before]? = some edge.parentPr

/-- The member at a position is the first behind the root without a proven linear edge. -/
structure FirstGap (start : ℕ) : Prop where
  inside : 0 < start ∧ start < caravan.members.length
  gap : ¬ProvenLinear native caravan start
  linear : ∀ position,0 < position → position < start → ProvenLinear native caravan position

/-- Everything is replayed where the root is stale or the representation drifted. -/
def Replaced (active : List PullRequestSnapshot) : Prop :=
  active.head?.any (rootStale status) = true ∨ representationDrift status native .ordinary = true

/-- The snapshot before a position: the default branch for the root. -/
def parentAt (active : List PullRequestSnapshot) : ℕ → Option (Option PrNumber × BranchSnapshot)
  | 0 => some (none,status.analysis.fleet.defaultBranch)
  | before + 1 => active[before]?.map fun pull => (some pull.number,pull.head)

structure Applicable (active : List PullRequestSnapshot) (input : RebaseInput)
    (plan : NativeStackRebasePlan) : Prop where
  verified : plan.verify encode = true
  suffix : ∃ start,plan.members.map (·.pr) = caravan.members.drop start ∧
    (Replaced status native active → start = 0) ∧
    (¬Replaced status native active → FirstGap native caravan start) ∧
    ∀ i member,plan.members[i]? = some member → ∃ parent,
      parentAt status active (start + i) = some parent ∧ member.parentPr = parent.1 ∧
        member.parentBranch = parent.2.name ∧ member.parentHead = parent.2.oid
  known : ∀ edge ∈ native.ancestry,edge.childPr ∈ plan.members.map (·.pr) →
    relationUnknown edge.relation = false
  admitted : ∀ checkpoint,(∀ error,checkpoint = .error error → error.code ≠ "native_stack_rebase_plan_stale") →
    ∀ error,applyAdmission encode context checkpoint status ⟨input,plan.planHash⟩ = .error error →
      error.code ≠ "native_stack_rebase_plan_stale"

/-- The edge that is looked up for the member at a position is linear. -/
def LookedUpLinear (position : ℕ) : Prop :=
  ∃ number,caravan.members[position]? = some number ∧ unproven native number = false

/-- Up to the first member without a linear edge, the edge looked up for a member is linear exactly when one
from its predecessor is. -/
def EdgesAgree : Prop :=
  ∀ position,0 < position → position < caravan.members.length →
    (∀ before,0 < before → before < position → LookedUpLinear native caravan before) →
      (LookedUpLinear native caravan position ↔ ProvenLinear native caravan position)

end Spec

section Proofs

variable {encode : NativeStackRebasePlan → List UInt8} {context : RebaseContext} {status : StatusOutput}
  {native : NativeStackStatus} {caravan : Caravan} {active : List PullRequestSnapshot} {input : RebaseInput}
  {plan : NativeStackRebasePlan} {actor reason : String} {scope : PlanScope} {root : PullRequestSnapshot}
  {start : ℕ}

structure BuiltFrom (encode : NativeStackRebasePlan → List UInt8) (context : RebaseContext)
    (status : StatusOutput) (native : NativeStackStatus) (scope : PlanScope) (caravan : Caravan)
    (active : List PullRequestSnapshot) (start : ℕ) (plan : NativeStackRebasePlan) : Prop where
  nonempty : active ≠ []
  mapped : native.caravanId.bind status.analysis.fleet.caravan = some caravan
  pulls : activePulls status caravan = .ok active
  begins : ∃ root,active.head? = some root ∧ start =
    (firstDiverged status native scope root active).getD active.length ∧
      (representationOnlyMembershipRepair status native scope = false →
        (firstDiverged status native scope root active).isSome = true)
  known : (native.ancestry.any fun edge =>
    decide (edge.childPr ∈ caravan.members.drop start) && relationUnknown edge.relation) = false
  members : plan.members = memberPlans status active start
  schemaVersion : plan.schemaVersion = 1
  isSealed : planSeal.verify encode plan = true

theorem planFromNative_built (h : planFromNative encode context status native actor reason scope = .ok plan) :
    ∃ caravan active start,BuiltFrom encode context status native scope caravan active start plan := by
  unfold planFromNative at h
  obtain ⟨_,h⟩ := (Guard.refuse_bind_eq_ok _ _ _ _).mp h
  obtain ⟨_,h⟩ := (Guard.refuse_bind_eq_ok _ _ _ _).mp h
  cases hid : native.caravanId with
  | none =>
    rw [hid] at h
    cases h
  | some caravanId =>
    rw [hid] at h
    dsimp only at h
    cases hcaravan : status.analysis.fleet.caravan caravanId with
    | none =>
      rw [hcaravan] at h
      cases h
    | some caravan =>
      rw [hcaravan] at h
      obtain ⟨active,hactive,h⟩ := Guard.bind_eq_ok.mp h
      cases active with
      | nil => cases h
      | cons root rest =>
        obtain ⟨hrequired,h⟩ := (Guard.refuse_bind_eq_ok _ _ _ _).mp h
        obtain ⟨hknown,h⟩ := (Guard.refuse_bind_eq_ok _ _ _ _).mp h
        cases h
        refine ⟨caravan,root::rest,_,List.cons_ne_nil _ _,?_,hactive,⟨root,rfl,rfl,?_⟩,hknown,rfl,rfl,?_⟩
        · rw [hid,Option.bind_some,hcaravan]
        · intro hrepair
          rw [hrepair] at hrequired
          cases hdiverged : firstDiverged status native scope root (root::rest) with
          | none =>
            rw [hdiverged] at hrequired
            cases hrequired
          | some position => rfl
        · exact planSeal.verify_sealed encode _

theorem activePulls_numbers (hindexed : Graph.Indexed status.analysis.pullRequests)
    (h : activePulls status caravan = .ok active) : active.map (·.number) = caravan.members := by
  apply hindexed.numbers_of_mapM _ h
  intro number pull hread
  cases hpull : status.analysis.pullRequests[number]? with
  | none =>
    rw [hpull] at hread
    cases hread
  | some found =>
    rw [hpull] at hread
    cases hread
    rfl

theorem parents_getElem? (position : ℕ) :
    (parents status active)[position]? = parentAt status active position := by
  cases position with
  | zero => rfl
  | succ before =>
    unfold parents parentAt
    rw [List.getElem?_cons_succ,List.getElem?_map]

theorem memberPlans_getElem? (i : ℕ) {member : NativeStackRebaseMemberPlan}
    (h : (memberPlans status active start)[i]? = some member) : ∃ pull parent,
      active[start + i]? = some pull ∧ parentAt status active (start + i) = some parent ∧
        member = memberPlan ((pull,parent),start + i) := by
  unfold memberPlans at h
  rw [List.getElem?_map,List.getElem?_drop,List.getElem?_zipIdx] at h
  obtain ⟨row,hrow,hmember⟩ := Option.map_eq_some_iff.mp h
  obtain ⟨⟨pull,parent⟩,hpair,hrow⟩ := Option.map_eq_some_iff.mp hrow
  obtain ⟨hpull,hparent⟩ := List.getElem?_zip_eq_some.mp hpair
  rw [parents_getElem?] at hparent
  refine ⟨pull,parent,hpull,hparent,?_⟩
  rw [← hmember,← hrow,Nat.zero_add]

theorem memberPlans_prs : (memberPlans status active start).map (·.pr) = (active.map (·.number)).drop start := by
  have hzip : (active.zip (parents status active)).map Prod.fst = active := by
    apply List.map_fst_zip
    unfold parents
    rw [List.length_cons,List.length_map]
    omega
  unfold memberPlans
  rw [List.map_map,List.map_drop]
  congr 1
  calc (active.zip (parents status active)).zipIdx.map ((·.pr) ∘ memberPlan)
      = ((active.zip (parents status active)).zipIdx.map Prod.fst).map (·.1.number) := by
        rw [List.map_map]
        rfl
    _ = ((active.zip (parents status active)).map Prod.fst).map (·.number) := by
        rw [List.zipIdx_map_fst,List.map_map]
        rfl
    _ = active.map (·.number) := by rw [hzip]

/-- The position that the lookup finds, and that every one before it has a linear edge. -/
theorem firstUnproven_eq_some (h : firstUnproven native active = some start) :
    0 < start ∧ start < active.length ∧
      (∃ pull,active[start]? = some pull ∧ unproven native pull.number = true) ∧
      ∀ position,0 < position → position < start → ∃ pull,active[position]? = some pull ∧
        unproven native pull.number = false := by
  have hat (i : ℕ) (hi : i < (active.zipIdx.drop 1).length) :
      ∃ pull,active[i + 1]? = some pull ∧ (active.zipIdx.drop 1)[i] = (pull,i + 1) := by
    have hget : (active.zipIdx.drop 1)[i]? = some (active.zipIdx.drop 1)[i] := List.getElem?_eq_getElem hi
    rw [List.getElem?_drop,List.getElem?_zipIdx] at hget
    obtain ⟨pull,hpull,heq⟩ := Option.map_eq_some_iff.mp hget
    refine ⟨pull,by rw [Nat.add_comm i 1]; exact hpull,?_⟩
    rw [← heq,Nat.zero_add,Nat.add_comm 1 i]
  unfold firstUnproven at h
  obtain ⟨row,hfind,hrow⟩ := Option.map_eq_some_iff.mp h
  obtain ⟨hunproven,i,hi,hget,hbefore⟩ := List.find?_eq_some_iff_getElem.mp hfind
  obtain ⟨pull,hpull,heq⟩ := hat i hi
  rw [heq] at hget
  cases hget
  cases hrow
  refine ⟨by omega,(List.getElem?_eq_some_iff.mp hpull).1,⟨pull,hpull,hunproven⟩,?_⟩
  intro position hpos hlt
  obtain ⟨j,rfl⟩ : ∃ j,position = j + 1 := ⟨position - 1,by omega⟩
  have hj : j < i := by omega
  obtain ⟨other,hother,hrow⟩ := hat j (hj.trans hi)
  have hlinear := hbefore j hj
  rw [hrow] at hlinear
  exact ⟨other,hother,by simpa using hlinear⟩

/-- Where the plan begins, once the membership is not all that it repairs. -/
theorem BuiltFrom.cases (h : BuiltFrom encode context status native .ordinary caravan active start plan)
    (hrepair : representationOnlyMembershipRepair status native .ordinary = false) :
    (Replaced status native active ∧ start = 0) ∨
      ¬Replaced status native active ∧ firstUnproven native active = some start := by
  obtain ⟨root,hroot,hstart,hsome⟩ := h.begins
  have hreplaced : Replaced status native active ↔
      (rootStale status root || representationDrift status native .ordinary) = true := by
    unfold Replaced
    rw [hroot,Option.any_some,Bool.or_eq_true]
  have hdiverged : firstDiverged status native .ordinary root active = some start := by
    obtain ⟨position,hposition⟩ := Option.isSome_iff_exists.mp (hsome hrepair)
    rw [hposition,Option.getD_some] at hstart
    rw [hposition,hstart]
  unfold firstDiverged at hdiverged
  rw [if_neg (Bool.eq_false_iff.mp hrepair)] at hdiverged
  split at hdiverged
  case isTrue hdrift =>
    cases hdiverged
    exact .inl ⟨hreplaced.mpr hdrift,rfl⟩
  case isFalse hstill => exact .inr ⟨fun hdrift => hstill (hreplaced.mp hdrift),hdiverged⟩

theorem BuiltFrom.start_lt (h : BuiltFrom encode context status native .ordinary caravan active start plan)
    (hrepair : representationOnlyMembershipRepair status native .ordinary = false) :
    start < active.length := by
  rcases h.cases hrepair with ⟨_,hstart⟩ | ⟨_,hstart⟩
  · rw [hstart]
    exact List.length_pos_iff.mpr h.nonempty
  · exact (firstUnproven_eq_some hstart).2.1

/-- A repair of the membership alone plans no member, and such a plan never verifies. -/
theorem BuiltFrom.not_verify (h : BuiltFrom encode context status native .ordinary caravan active start plan)
    (hrepair : representationOnlyMembershipRepair status native .ordinary = true) :
    plan.verify encode = false := by
  obtain ⟨root,_,hstart,_⟩ := h.begins
  unfold firstDiverged at hstart
  rw [if_pos hrepair,Option.getD_none] at hstart
  have hnone : (plan.members.map (·.pr)) = [] := by
    rw [h.members,memberPlans_prs,hstart,List.drop_eq_nil_iff,List.length_map]
  unfold NativeStackRebasePlan.verify
  rw [List.map_eq_nil_iff.mp hnone,List.isEmpty_nil,Bool.not_true,Bool.and_false,Bool.false_and]

theorem BuiltFrom.verify (h : BuiltFrom encode context status native .ordinary caravan active start plan)
    (hrepair : representationOnlyMembershipRepair status native .ordinary = false) :
    plan.verify encode = true := by
  have hmembers : plan.members.isEmpty = false := by
    rw [List.isEmpty_eq_false_iff,h.members]
    intro hnil
    have hprs : (active.map (·.number)).drop start = [] := by
      rw [← memberPlans_prs,hnil,List.map_nil]
    rw [List.drop_eq_nil_iff,List.length_map] at hprs
    exact absurd (h.start_lt hrepair) (not_lt.mpr hprs)
  unfold NativeStackRebasePlan.verify
  rw [h.schemaVersion,hmembers,h.isSealed]
  rfl

/-- The looked-up edge of a member is the one that the position names. -/
theorem lookedUpLinear_iff (hnumbers : active.map (·.number) = caravan.members) {position : ℕ}
    {pull : PullRequestSnapshot} (hpull : active[position]? = some pull) :
    LookedUpLinear native caravan position ↔ unproven native pull.number = false := by
  have hmember : caravan.members[position]? = some pull.number := by
    rw [← hnumbers,List.getElem?_map,hpull]
    rfl
  unfold LookedUpLinear
  rw [hmember]
  constructor
  · rintro ⟨number,heq,hlinear⟩
    cases heq
    exact hlinear
  · exact fun hlinear => ⟨pull.number,rfl,hlinear⟩

/-- The plan begins at the first gap exactly when lookups and predecessors agree up to it. -/
theorem firstGap_iff (hnumbers : active.map (·.number) = caravan.members)
    (h : firstUnproven native active = some start) :
    FirstGap native caravan start ↔ EdgesAgree native caravan := by
  obtain ⟨hpos,hlt,⟨pull,hpull,hunproven⟩,hbefore⟩ := firstUnproven_eq_some h
  have hlength : caravan.members.length = active.length := by rw [← hnumbers,List.length_map]
  have hgap : ¬LookedUpLinear native caravan start := by
    rw [lookedUpLinear_iff hnumbers hpull,hunproven]
    decide
  have hlinear (position : ℕ) (hposition : 0 < position) (hle : position < start) :
      LookedUpLinear native caravan position := by
    obtain ⟨other,hother,hproven⟩ := hbefore position hposition hle
    exact (lookedUpLinear_iff hnumbers hother).mpr hproven
  constructor
  · intro hfirst position hposition _ hall
    have hle : position ≤ start := not_lt.mp fun hover => hgap (hall start hpos hover)
    rcases Nat.lt_or_eq_of_le hle with hlt | heq
    · exact ⟨fun _ => hfirst.linear position hposition hlt,fun _ => hlinear position hposition hlt⟩
    · rw [heq]
      exact ⟨fun hlooked => absurd hlooked hgap,fun hproven => absurd hproven hfirst.gap⟩
  · intro hagree
    refine ⟨⟨hpos,hlength ▸ hlt⟩,?_,?_⟩
    · intro hproven
      exact hgap ((hagree start hpos (hlength ▸ hlt) hlinear).mpr hproven)
    · intro position hposition hbelow
      refine (hagree position hposition (hlength ▸ hbelow.trans hlt) ?_).mp (hlinear position hposition hbelow)
      exact fun before hbefore hless => hlinear before hbefore (hless.trans hbelow)

/-- Applying the hash of a plan that verifies, on the status it was made from, is never stale. -/
theorem applyAdmission_not_stale (h : planFromStatus encode context status input = .ok plan)
    (hverify : plan.verify encode = true)
    {checkpoint : Except RebaseError (Option NativeStackRebasePlan)}
    (hcheckpoint : ∀ error,checkpoint = .error error → error.code ≠ "native_stack_rebase_plan_stale")
    {error : RebaseError}
    (herror : applyAdmission encode context checkpoint status ⟨input,plan.planHash⟩ = .error error) :
    error.code ≠ "native_stack_rebase_plan_stale" := by
  unfold applyAdmission at herror
  cases hkey : receiptKey plan.planHash with
  | error refusal =>
    rw [hkey] at herror
    cases herror
    unfold receiptKey at hkey
    split at hkey
    · cases hkey
      decide
    · cases hkey
  | ok key =>
    rw [hkey] at herror
    cases hstored : checkpoint with
    | error refusal =>
      rw [hstored] at herror
      cases herror
      exact hcheckpoint _ hstored
    | ok stored =>
      rw [hstored] at herror
      cases hfound : stored.filter fun old => decide (old.planHash = plan.planHash) with
      | some old =>
        simp only [bind,Except.bind,hfound] at herror
        cases herror
      | none =>
        simp only [bind,Except.bind,hfound,h] at herror
        rw [if_neg (by simp [hverify])] at herror
        cases herror

/-- The Stack that a request names, the caravan it maps to and its members. -/
structure Mapped (status : StatusOutput) (input : RebaseInput) (native : NativeStackStatus)
    (caravan : Caravan) (active : List PullRequestSnapshot) : Prop where
  named : (status.stackBackend.nativeStacks.find? fun found =>
    decide (found.stack.number = input.stack)) = some native
  mapped : native.caravanId.bind status.analysis.fleet.caravan = some caravan
  pulls : activePulls status caravan = .ok active

theorem planFromStatus_built (hmapped : Mapped status input native caravan active)
    (h : planFromStatus encode context status input = .ok plan) :
    ∃ start,BuiltFrom encode context status native .ordinary caravan active start plan := by
  unfold planFromStatus at h
  obtain ⟨actor,_,h⟩ := Guard.bind_eq_ok.mp h
  obtain ⟨reason,_,h⟩ := Guard.bind_eq_ok.mp h
  obtain ⟨_,h⟩ := (Guard.refuse_bind_eq_ok _ _ _ _).mp h
  rw [hmapped.named] at h
  obtain ⟨caravan',active',start,hbuilt⟩ := planFromNative_built h
  cases hmapped.mapped.symm.trans hbuilt.mapped
  cases hmapped.pulls.symm.trans hbuilt.pulls
  exact ⟨start,hbuilt⟩

/-- A plan can be applied unless it repairs the membership alone, or a lookup by the child took the edge of
another parent for the predecessor's. -/
theorem applicable_iff (hindexed : Graph.Indexed status.analysis.pullRequests)
    (hmapped : Mapped status input native caravan active)
    (h : planFromStatus encode context status input = .ok plan) :
    Applicable encode context status native caravan active input plan ↔
      representationOnlyMembershipRepair status native .ordinary = false ∧
        (Replaced status native active ∨ EdgesAgree native caravan) := by
  obtain ⟨start,hbuilt⟩ := planFromStatus_built hmapped h
  have hnumbers := activePulls_numbers hindexed hmapped.pulls
  have hprs : plan.members.map (·.pr) = caravan.members.drop start := by
    rw [hbuilt.members,memberPlans_prs,hnumbers]
  cases hrepair : representationOnlyMembershipRepair status native .ordinary with
  | true =>
    constructor
    · intro happlicable
      have hverified := happlicable.verified
      rw [hbuilt.not_verify hrepair] at hverified
      cases hverified
    · rintro ⟨hfalse,_⟩
      cases hfalse
  | false =>
    have hlength : caravan.members.length = active.length := by rw [← hnumbers,List.length_map]
    have hinside : start < caravan.members.length := hlength ▸ hbuilt.start_lt hrepair
    constructor
    · intro happlicable
      refine ⟨rfl,?_⟩
      rcases hbuilt.cases hrepair with ⟨hreplaced,_⟩ | ⟨hstill,hfirst⟩
      · exact .inl hreplaced
      · obtain ⟨begins,hsuffix,_,hgap,_⟩ := happlicable.suffix
        have hgap := hgap hstill
        have heq : begins = start := by
          have hlengths := congrArg List.length (hsuffix.symm.trans hprs)
          rw [List.length_drop,List.length_drop] at hlengths
          have hin := hgap.inside.2
          omega
        exact .inr ((firstGap_iff hnumbers hfirst).mp (heq ▸ hgap))
    · rintro ⟨_,hcondition⟩
      refine ⟨hbuilt.verify hrepair,⟨start,hprs,?_,?_,?_⟩,?_,?_⟩
      · intro hreplaced
        rcases hbuilt.cases hrepair with ⟨_,hstart⟩ | ⟨hstill,_⟩
        · exact hstart
        · exact absurd hreplaced hstill
      · intro hstill
        rcases hbuilt.cases hrepair with ⟨hreplaced,_⟩ | ⟨_,hfirst⟩
        · exact absurd hreplaced hstill
        · exact (firstGap_iff hnumbers hfirst).mpr (hcondition.resolve_left hstill)
      · intro i member hmember
        rw [hbuilt.members] at hmember
        obtain ⟨pull,parent,_,hparent,rfl⟩ := memberPlans_getElem? i hmember
        exact ⟨parent,hparent,rfl,rfl,rfl⟩
      · intro edge hedge hmem
        rw [hprs] at hmem
        have hall := List.any_eq_false.mp hbuilt.known edge hedge
        simpa [hmem] using hall
      · intro checkpoint hcheckpoint error herror
        exact applyAdmission_not_stale h (hbuilt.verify hrepair) hcheckpoint herror

end Proofs

section Example

private def swapRepository : RepositoryId := ⟨"octo","repo"⟩

private def swapBranch (name : String) : BranchSnapshot := ⟨swapRepository,name,name ++ "-oid"⟩

private def swapPull (number : PrNumber) (head base : String) : PullRequestSnapshot where
  number := number
  state := .open
  head := swapBranch head
  base := swapBranch base
  labels := {"caravan"}
  autoMerge := .disabled

private def swapRow (number : PrNumber) (head : String) : StackPullRequest where
  number := number
  state := "open"
  draft := false
  head := ⟨head,head ++ "-oid"⟩

/-- Two members whose provider rows have the other order, with this problem. -/
private def swapNative (code : String) : NativeStackStatus where
  stack := {
    id := 1
    number := 7
    nodeId := "S_7"
    baseRef := "main"
    isOpen := true
    createdAt := ""
    pullRequests := [swapRow 2 "b",swapRow 1 "a"] }
  caravanId := some 1
  consistency := .drifted
  problems := [⟨code,"drift"⟩]

private def swapPulls : PullRequestMap :=
  ((∅ : PullRequestMap).insert 1 (swapPull 1 "a" "main")).insert 2 (swapPull 2 "b" "a")

private def swapStatus (code : String) : StatusOutput where
  repository := swapRepository
  defaultBranch := "main"
  analysis := {
    fleet := { repository := swapRepository,defaultBranch := swapBranch "main",caravans := [⟨1,[1,2],false⟩] }
    pullRequests := swapPulls }
  stackBackend := { configured := .github,nativeStacks := [swapNative code] }

private def swapContext : RebaseContext := ⟨.github,true,[]⟩

private def swapInput : RebaseInput := ⟨7,"operator","repair"⟩

private def swapActive : List PullRequestSnapshot := [swapPull 1 "a" "main",swapPull 2 "b" "a"]

/-- The plan that is offered for a swapped membership names no member. -/
theorem applicable_not_swapped : ∃ plan,
    planFromStatus (fun _ => []) swapContext (swapStatus "github_stack_member_order_drift") swapInput =
      .ok plan ∧
    ¬Applicable (fun _ => []) swapContext (swapStatus "github_stack_member_order_drift")
      (swapNative "github_stack_member_order_drift") ⟨1,[1,2],false⟩ swapActive swapInput plan := by
  have hplan : (planFromStatus (fun _ => []) swapContext (swapStatus "github_stack_member_order_drift")
      swapInput).toOption.any (fun plan => !plan.verify fun _ => []) = true := by
    decide +kernel
  obtain ⟨plan,hok,hverify⟩ := (Option.any_eq_true _ _).mp hplan
  cases hresult : planFromStatus (fun _ => []) swapContext (swapStatus "github_stack_member_order_drift")
      swapInput with
  | error error =>
    rw [hresult] at hok
    cases hok
  | ok found =>
    rw [hresult] at hok
    cases hok
    refine ⟨plan,rfl,?_⟩
    intro happlicable
    rw [happlicable.verified] at hverify
    cases hverify

theorem applicable_iff_diverged : ∃ plan,
    Applicable (fun _ => []) swapContext (swapStatus "native_stack_rebase_required")
        (swapNative "native_stack_rebase_required") ⟨1,[1,2],false⟩ swapActive swapInput plan ↔
      representationOnlyMembershipRepair (swapStatus "native_stack_rebase_required")
          (swapNative "native_stack_rebase_required") .ordinary = false ∧
        (Replaced (swapStatus "native_stack_rebase_required") (swapNative "native_stack_rebase_required")
            swapActive ∨
          EdgesAgree (swapNative "native_stack_rebase_required") ⟨1,[1,2],false⟩) := by
  have hplan : (planFromStatus (fun _ => []) swapContext (swapStatus "native_stack_rebase_required")
      swapInput).isOk = true := by
    decide +kernel
  cases hresult : planFromStatus (fun _ => []) swapContext (swapStatus "native_stack_rebase_required")
      swapInput with
  | error error =>
    rw [hresult] at hplan
    cases hplan
  | ok plan =>
    refine ⟨plan,applicable_iff ?_ ⟨?_,?_,?_⟩ hresult⟩
    · exact (Graph.indexed_empty.insert (swapPull 1 "a" "main")).insert (swapPull 2 "b" "a")
    · decide
    · decide
    · decide +kernel

end Example

end NativeStackRebase
end Cara
