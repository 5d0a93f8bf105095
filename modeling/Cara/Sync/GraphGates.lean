import Cara.GraphCompatibility
import Cara.GraphHealth
import Cara.Sync.Progress

/-! The graph gates of a tick: which caravans it selects, which problems stop it before the
first rewrite and before the first mutation, and which one is left after the final discovery.
Each gate filters the same problem rows by a rule of its own. -/
namespace Cara
namespace Sync

section Selection

def checkIsFailure (check : CheckSnapshot) : Bool :=
  decide (check.state = .failure ∨ check.state = .cancelled ∨ check.state = .timedOut ∨
    check.state = .actionRequired ∨ check.state = .unknown)

def checksHaveExactDeferredGate (gate : Config.CiAdmissionGateConfig) (checks : List CheckSnapshot) :
    Bool :=
  let current := (latestChecksPerIdentity checks).1
  match current.filter fun check => decide (check.name = gate.context) with
  | [found] => decide (found.state = .failure) && current.all fun check =>
      decide (check.name = gate.context ∨ ¬ (check.state = .failure ∨ check.state = .timedOut ∨
        check.state = .actionRequired ∨ check.state = .unknown))
  | _ => false

/-- A parked caravan one of whose members is red by the admission gate alone. -/
def parkedCaravanMayNeedGateRecovery (status : StatusOutput) (c : Caravan) : Bool :=
  status.admissionGate.any fun gate => c.members.any fun number =>
    (status.analysis.pullRequests[number]?).any fun candidate =>
      candidate.hasLabel gate.memberLabel && checksHaveExactDeferredGate gate candidate.checks &&
        ((latestChecksPerIdentity candidate.checks).1.filter checkIsFailure).all fun check =>
          decide (check.name = gate.context ∧ check.state = .failure)

def quarantinableStackProblems : List String :=
  ["github_stack_member_order_drift","native_stack_rebase_required","github_stack_pr_base_drift",
    "github_stack_head_drift"]

/-- One open mapped Stack with problems that only concern its caravan. -/
def nativeStackQuarantinable (native : NativeStackStatus) : Bool :=
  native.stack.isOpen && native.caravanId.isSome && !native.problems.isEmpty &&
    native.problems.all fun problem => decide (problem.code ∈ quarantinableStackProblems)

def quarantinedNativeCaravanIds (status : StatusOutput) : List PrNumber :=
  (status.stackBackend.nativeStacks.filter nativeStackQuarantinable).filterMap (·.caravanId)

/-- Immutable age of the root, then its number; a root without an age comes last. -/
def selectionOrder (status : StatusOutput) (a b : Caravan) : Bool :=
  let createdAt := fun (c : Caravan) =>
    ((status.analysis.pullRequests[c.id]?).bind (·.createdAt) : Option String)
  match createdAt a,createdAt b with
  | some x,some y => decide (x < y ∨ x = y ∧ a.id ≤ b.id)
  | some _,none => true
  | none,some _ => false
  | none,none => decide (a.id ≤ b.id)

inductive SelectionRefusal where
  | historicalSuccessorNotFound (predecessor : PrNumber)
  | currentPrNotFound
  | currentPrNotInCaravan (current : PrNumber)
  | membershipRepairRequired (c : Caravan)
  | caravanParkedRed (c : Caravan)
deriving DecidableEq

def SelectionRefusal.code : SelectionRefusal → String
  | .historicalSuccessorNotFound _ => "historical_successor_not_found"
  | .currentPrNotFound => "current_pr_not_found"
  | .currentPrNotInCaravan _ => "current_pr_not_in_caravan"
  | .membershipRepairRequired _ => "github_stack_membership_repair_required"
  | .caravanParkedRed _ => "caravan_parked_red"

def required {α : Type} (value : Option α) (refusal : SelectionRefusal) : Except SelectionRefusal α :=
  match value with
  | none => .error refusal
  | some a => .ok a

variable (historicalPredecessor : Option PrNumber) (status : StatusOutput)

def selectable (c : Caravan) : Bool :=
  decide (c.id ∉ quarantinedNativeCaravanIds status) &&
    (!c.parked || parkedCaravanMayNeedGateRecovery status c)

def selectCurrent : Except SelectionRefusal (List Caravan) := do
  let current ← required status.currentPr (historicalPredecessor.elim .currentPrNotFound
    .historicalSuccessorNotFound)
  let c ← required (status.analysis.fleet.containing current) (.currentPrNotInCaravan current)
  Guard.refuse (decide (c.id ∈ quarantinedNativeCaravanIds status)) (.membershipRepairRequired c)
  Guard.refuse (c.parked && !parkedCaravanMayNeedGateRecovery status c) (.caravanParkedRed c)
  return [c]

/-- The caravans a tick converges. Reactivation keeps the root's age. -/
def selectCaravans (all : Bool) : Except SelectionRefusal (List Caravan) := do
  let caravans ← (if all then .ok (status.analysis.fleet.caravans.filter (selectable status))
    else selectCurrent historicalPredecessor status)
  return caravans.insertionSort fun a b => selectionOrder status a b

end Selection

section Gates

variable (status : StatusOutput) (selected : List Caravan) (problem : GraphProblem) (forceMerge : Bool)

def memberOfSelected (number : PrNumber) : Bool :=
  selected.any fun c => decide (number ∈ c.members)

def problemAffectsSelectedCaravans : Bool :=
  problem.prs.isEmpty || problem.prs.any (memberOfSelected selected)

/-- A forced head without native auto-merge, while the force path is open. -/
def forceHeadAutoMergeGap : Option PrNumber :=
  if !forceMerge || decide (problem.kind ≠ .autoMergeInvariant) then none
  else match problem.prs with
    | [number] =>
        (status.analysis.pullRequests[number]?).bind fun pull =>
          (status.analysis.fleet.containing number).bind fun c =>
            if c.head = some number ∧ pull.state = .open ∧ pull.draft = false ∧
                pull.hasLabel "caravan-force" = true ∧ pull.autoMerge.enabled = false then some number
            else none
    | _ => none

/-- A selected head still based on the branch of its one merged predecessor. -/
def recoverableDanglingProblem : Bool :=
  match problem.prs with
  | [child,predecessor] =>
      selected.any (fun c => decide (c.head = some child)) &&
      (status.analysis.pullRequests[child]?).any fun child =>
        (status.analysis.pullRequests[predecessor]?).any fun predecessor =>
          let matching := (Graph.rowsOf status.analysis.pullRequests).filter fun candidate =>
            decide (candidate.state = .merged) && candidate.hasLabel "caravan" &&
              decide (candidate.head.name = child.base.name)
          decide (predecessor.state = .merged) && predecessor.hasLabel "caravan" &&
            decide (child.base.name = predecessor.head.name) && decide (matching.length = 1)
  | _ => false

def correctableAutoMerge : Bool :=
  decide (problem.kind = .autoMergeInvariant) && problem.prs.all (memberOfSelected selected)

def correctableAdvancement : Bool :=
  decide (problem.kind = .danglingBase) && recoverableDanglingProblem status selected problem

def deferredForceHead : Bool :=
  (forceHeadAutoMergeGap status problem forceMerge).any fun number => !memberOfSelected selected number

/-- An incompatibility inside one selected chain, which a rewrite may resolve. -/
def correctableRebase : Bool :=
  decide (problem.kind = .incompatible) && selected.any fun c =>
    problem.prs.all (fun number => decide (number ∈ c.members)) &&
      (decide (problem.prs.length = 1) || (c.members.zip c.members.tail).any fun pair =>
        decide (problem.prs = [pair.1,pair.2] ∨ problem.prs = [pair.2,pair.1]))

inductive DecisionKind where
  | headConflict
  | linkConflict
  | crossCaravanConflict
  | invalidGraph
deriving DecidableEq

def DecisionKind.code : DecisionKind → String
  | .headConflict => "head_conflict"
  | .linkConflict => "link_conflict"
  | .crossCaravanConflict => "cross_caravan_conflict"
  | .invalidGraph => "invalid_graph"

structure DecisionPoint where
  kind : DecisionKind
  caravanId : Option PrNumber
  affectedPrs : List PrNumber
  message : String
deriving DecidableEq

def isAdjacentPair (prs : List PrNumber) : Bool :=
  match prs with
  | [first,second] => status.analysis.fleet.caravans.any fun c =>
      (c.members.zip c.members.tail).any fun pair =>
        decide (pair = (first,second) ∨ pair = (second,first))
  | _ => false

def decisionForProblem (rebaseOnJoin : Bool) : DecisionPoint :=
  let kind := if problem.kind = .incompatible then
      if problem.prs.length = 1 then DecisionKind.headConflict
      else if isAdjacentPair status problem.prs then .linkConflict
      else .crossCaravanConflict
    else .invalidGraph
  { kind := kind
    caravanId := problem.prs.findSome? fun number =>
      (status.analysis.fleet.containing number).map (·.id)
    affectedPrs := problem.prs
    message := if (kind = .headConflict ∨ kind = .linkConflict) ∧ !rebaseOnJoin then
        problem.message ++ "; rebase_on_join=disabled, so Cara will not rewrite the affected branch"
      else problem.message }

/-- The first problem that blocks the fleet, affects the selection and is not carved out. -/
def refuseProblems (rebaseOnJoin : Bool) (carvedOut : GraphProblem → Bool) :
    Except DecisionPoint Unit :=
  match status.analysis.fleet.problems.find? fun problem => problem.kind.blocksFleet &&
      problemAffectsSelectedCaravans selected problem && !carvedOut problem with
  | some problem => .error (decisionForProblem status problem rebaseOnJoin)
  | none => .ok ()

def validateGraph (rebaseOnJoin : Bool) : Except DecisionPoint Unit :=
  refuseProblems status selected rebaseOnJoin fun problem =>
    correctableAutoMerge selected problem || correctableAdvancement status selected problem ||
      deferredForceHead status selected problem forceMerge

def validateRebasePreflightGraph (rebaseOnJoin : Bool) : Except DecisionPoint Unit :=
  refuseProblems status selected rebaseOnJoin fun problem =>
    correctableAutoMerge selected problem || correctableAdvancement status selected problem ||
      correctableRebase selected problem || deferredForceHead status selected problem forceMerge

structure CompletionEvidence where
  synchronizedCaravans : List PrNumber := []
  ci : List CiObservation := []
  events : List (Config.EventKind × List PrNumber) := []
deriving DecidableEq

/-- A forced head that this tick neither observed on its own path nor tried to merge. -/
def safelyDeferred (progress : CompletionEvidence) (number : PrNumber) : Bool :=
  let attempted := progress.events.any fun event =>
    decide (event.1 = .forceMergeAttempted ∧ number ∈ event.2)
  match progress.ci.find? fun item => decide (item.pr = number) with
  | none => true
  | some item => decide (item.disposition = .forced) && !attempted

def completionProblem (progress : CompletionEvidence) : Bool :=
  problem.kind.blocksFleet &&
    (problem.prs.isEmpty || problem.prs.any fun number =>
      (status.analysis.fleet.containing number).any fun c =>
        decide (c.id ∈ progress.synchronizedCaravans)) &&
    match forceHeadAutoMergeGap status problem forceMerge with
    | none => true
    | some number => !safelyDeferred progress number

def firstBlockingCompletionProblem (progress : CompletionEvidence) : Option GraphProblem :=
  status.analysis.fleet.problems.find? fun problem =>
    completionProblem status problem forceMerge progress

end Gates

section Healthy

/-- An analysis as discovery makes it: the derived chains, proven by a checker or not. -/
inductive Derived {δ : Type} (checker : CompatibilityChecker δ) (a : GraphAnalysis) : Prop
  | structural (snapshot : RepositorySnapshot) (actor : HeadMergeActor)
      (h : a = Graph.deriveForActor snapshot actor)
  | analyzed (snapshot : RepositorySnapshot) (actor : HeadMergeActor)
      (h : Graph.analyzeForActor checker snapshot actor = .ok a)

variable {δ : Type} {checker : CompatibilityChecker δ} {status : StatusOutput}
  {historicalPredecessor : Option PrNumber} {selected : List Caravan} {forceMerge rebaseOnJoin : Bool}
  {problem : GraphProblem} {progress : CompletionEvidence}

theorem Derived.caravans {a : GraphAnalysis} (h : Derived checker a) :
    ∃ defaultName prs, Graph.Indexed prs ∧ a.fleet.caravans = Graph.deriveCaravans defaultName prs := by
  cases h with
  | structural snapshot actor h =>
    subst h
    exact ⟨_,_,Graph.collectPullRequests_indexed snapshot.pullRequests,rfl⟩
  | analyzed snapshot actor h =>
    exact ⟨_,_,Graph.collectPullRequests_indexed snapshot.pullRequests,
      (Graph.analyzeForActor_kept h).caravans⟩

theorem Derived.containing {a : GraphAnalysis} (h : Derived checker a) {c : Caravan}
    (hc : c ∈ a.fleet.caravans) {n : PrNumber} (hn : n ∈ c.members) : a.fleet.containing n = some c := by
  obtain ⟨defaultName,prs,hprs,hcaravans⟩ := h.caravans
  exact Graph.containing_eq_some hprs hcaravans hc hn

theorem Derived.containing_id {a : GraphAnalysis} (h : Derived checker a) {c : Caravan}
    (hc : c ∈ a.fleet.caravans) : a.fleet.containing c.id = some c := by
  obtain ⟨defaultName,prs,_,hcaravans⟩ := h.caravans
  rw [hcaravans] at hc
  exact h.containing (hcaravans ▸ hc) (List.mem_of_head? (Graph.mem_deriveCaravans_iff.mp hc).2.1)

theorem containing_mem {n : PrNumber} {c : Caravan} {fleet : CaravanFleet}
    (h : fleet.containing n = some c) : c ∈ fleet.caravans ∧ n ∈ c.members :=
  ⟨List.mem_of_find?_eq_some h,by simpa using List.find?_some h⟩

/-- A blocking problem of a healthy fleet names a member of some caravan, and only members of
parked ones. -/
theorem healthy_problem (hhealthy : status.analysis.healthy = true)
    (hproblem : problem ∈ status.analysis.fleet.problems) (hblocks : problem.kind.blocksFleet = true) :
    problem.prs ≠ [] ∧ ∀ n ∈ problem.prs, ∀ c, status.analysis.fleet.containing n = some c →
      c.parked = true := by
  have hquiet : status.analysis.problemBlocksActiveFleet problem = false := by
    rw [GraphAnalysis.healthy,Bool.not_eq_true',List.any_eq_false] at hhealthy
    simpa using hhealthy problem hproblem
  simp only [GraphAnalysis.problemBlocksActiveFleet,hblocks,Bool.true_and,Bool.or_eq_false_iff,
    List.any_eq_false] at hquiet
  constructor
  · intro hnil
    simp [hnil] at hquiet
  · intro n hn c hc
    have hparked := hquiet.1 c (List.mem_filterMap.mpr ⟨n,hn,hc⟩)
    simpa using hparked

theorem required_eq_ok {α : Type} {value : Option α} {refusal : SelectionRefusal} {a : α}
    (h : required value refusal = .ok a) : value = some a := by
  cases value with
  | none => cases h
  | some b =>
    cases h
    rfl

theorem selectCaravans_selectable {all : Bool}
    (h : selectCaravans historicalPredecessor status all = .ok selected) {c : Caravan}
    (hc : c ∈ selected) : c ∈ status.analysis.fleet.caravans ∧ selectable status c = true := by
  obtain ⟨caravans,hcaravans,h⟩ := Guard.bind_eq_ok.mp h
  cases h
  rw [List.mem_insertionSort] at hc
  cases all with
  | true =>
    cases hcaravans
    exact List.mem_filter.mp hc
  | false =>
    simp only [Bool.false_eq_true,if_false] at hcaravans
    obtain ⟨current,_,hrest⟩ := Guard.bind_eq_ok.mp hcaravans
    obtain ⟨found,hfound,hrest⟩ := Guard.bind_eq_ok.mp hrest
    rw [Guard.refuse_bind_eq_ok,Guard.refuse_bind_eq_ok] at hrest
    obtain ⟨hquarantined,hparked,hrest⟩ := hrest
    cases hrest
    rw [List.mem_singleton] at hc
    subst hc
    rw [decide_eq_false_iff_not] at hquarantined
    refine ⟨(containing_mem (required_eq_ok hfound)).1,?_⟩
    rw [selectable,decide_eq_true hquarantined]
    cases hc : c.parked <;> simp_all

theorem selectCaravans_all : ∃ selected, selectCaravans historicalPredecessor status true = .ok selected ∧
    ∀ c ∈ status.analysis.fleet.caravans, selectable status c = true → c ∈ selected := by
  refine ⟨_,rfl,?_⟩
  intro c hc hselectable
  rw [List.mem_insertionSort]
  exact List.mem_filter.mpr ⟨hc,hselectable⟩

/-- No gate of the tick refuses: every selection passes both validations, and no final
discovery of what it synchronized is blocked. -/
def GatesOpen (status : StatusOutput) : Prop :=
  ∀ historicalPredecessor all selected, selectCaravans historicalPredecessor status all = .ok selected →
    ∀ forceMerge rebaseOnJoin progress,
      (∀ id ∈ progress.synchronizedCaravans, id ∈ selected.map (·.id)) →
      validateGraph status selected forceMerge rebaseOnJoin = .ok () ∧
      validateRebasePreflightGraph status selected forceMerge rebaseOnJoin = .ok () ∧
      firstBlockingCompletionProblem status forceMerge progress = none

/-- No fleet-blocking problem touches a parked caravan that a tick selects for the recovery
of its admission gate. -/
def RecoveryClear (status : StatusOutput) : Prop :=
  ∀ c ∈ status.analysis.fleet.caravans, c.parked = true →
    c.id ∉ quarantinedNativeCaravanIds status → parkedCaravanMayNeedGateRecovery status c = true →
    ∀ problem ∈ status.analysis.fleet.problems, problem.kind.blocksFleet = true →
      ∀ n ∈ problem.prs, n ∉ c.members

/-- A problem of a healthy fleet whose recoveries are clear touches nothing selected. -/
theorem RecoveryClear.apart (hclear : RecoveryClear status) (hderived : Derived checker status.analysis)
    (hhealthy : status.analysis.healthy = true)
    (hproblem : problem ∈ status.analysis.fleet.problems) (hblocks : problem.kind.blocksFleet = true)
    {c : Caravan} (hc : c ∈ status.analysis.fleet.caravans) (hselectable : selectable status c = true)
    {n : PrNumber} (hn : n ∈ problem.prs) : n ∉ c.members := by
  intro hmember
  have hparked := (healthy_problem hhealthy hproblem hblocks).2 n hn c (hderived.containing hc hmember)
  rw [selectable,hparked,Bool.and_eq_true,decide_eq_true_eq] at hselectable
  exact hclear c hc hparked hselectable.1 (by simpa using hselectable.2) problem hproblem hblocks n hn
    hmember

theorem refuseProblems_ok {carvedOut : GraphProblem → Bool}
    (h : ∀ problem ∈ status.analysis.fleet.problems, problem.kind.blocksFleet = true →
      problemAffectsSelectedCaravans selected problem = false) :
    refuseProblems status selected rebaseOnJoin carvedOut = .ok () := by
  rw [refuseProblems]
  have hnone : status.analysis.fleet.problems.find? (fun problem => problem.kind.blocksFleet &&
      problemAffectsSelectedCaravans selected problem && !carvedOut problem) = none := by
    rw [List.find?_eq_none]
    intro problem hproblem
    cases hblocks : problem.kind.blocksFleet with
    | false => simp
    | true => simp [h problem hproblem hblocks]
  rw [hnone]

/-- A problem that reaches a synchronized caravan is left when no force path is open. -/
theorem completionProblem_of_member {c : Caravan} {n : PrNumber}
    (hblocks : problem.kind.blocksFleet = true) (hn : n ∈ problem.prs)
    (hcontaining : status.analysis.fleet.containing n = some c)
    (hsynchronized : c.id ∈ progress.synchronizedCaravans) :
    completionProblem status problem false progress = true := by
  have htouched : (problem.prs.any fun number => (status.analysis.fleet.containing number).any fun c =>
      decide (c.id ∈ progress.synchronizedCaravans)) = true :=
    List.any_eq_true.mpr ⟨n,hn,by simp [hcontaining,hsynchronized]⟩
  simp [completionProblem,hblocks,htouched,forceHeadAutoMergeGap]

/-- A healthy fleet passes every gate of the tick exactly when no parked caravan that is
selected for gate recovery has a blocking problem. -/
theorem gates_open_iff (hderived : Derived checker status.analysis)
    (hhealthy : status.analysis.healthy = true) : GatesOpen status ↔ RecoveryClear status := by
  constructor
  · intro hopen c hc hparked hquarantined hrecovery problem hproblem hblocks n hn hmember
    have hselectable : selectable status c = true := by
      rw [selectable,decide_eq_true hquarantined,hrecovery]
      simp
    obtain ⟨selected,hselected,hall⟩ : ∃ selected, selectCaravans none status true = .ok selected ∧
        ∀ c ∈ status.analysis.fleet.caravans, selectable status c = true → c ∈ selected :=
      selectCaravans_all
    have hsynchronized : ∀ id ∈ [c.id], id ∈ selected.map (·.id) := by
      intro id hid
      rw [List.mem_singleton.mp hid]
      exact List.mem_map.mpr ⟨c,hall c hc hselectable,rfl⟩
    have hnone := (hopen none true selected hselected false false
      { synchronizedCaravans := [c.id] } hsynchronized).2.2
    have hleft : completionProblem status problem false { synchronizedCaravans := [c.id] } = true :=
      completionProblem_of_member hblocks hn (hderived.containing hc hmember)
        (List.mem_singleton.mpr rfl)
    exact List.find?_eq_none.mp hnone problem hproblem hleft
  · intro hclear historicalPredecessor all selected hselected forceMerge rebaseOnJoin progress hids
    have hapart : ∀ problem ∈ status.analysis.fleet.problems, problem.kind.blocksFleet = true →
        problemAffectsSelectedCaravans selected problem = false := by
      intro problem hproblem hblocks
      have hprs := (healthy_problem hhealthy hproblem hblocks).1
      rw [problemAffectsSelectedCaravans,Bool.or_eq_false_iff,List.isEmpty_eq_false_iff,List.any_eq_false]
      refine ⟨hprs,?_⟩
      intro n hn hmember
      obtain ⟨c,hc,hcn⟩ := List.any_eq_true.mp hmember
      obtain ⟨hcaravan,hselectable⟩ := selectCaravans_selectable hselected hc
      exact hclear.apart hderived hhealthy hproblem hblocks hcaravan hselectable hn (by simpa using hcn)
    refine ⟨refuseProblems_ok hapart,refuseProblems_ok hapart,?_⟩
    rw [firstBlockingCompletionProblem,List.find?_eq_none]
    intro problem hproblem hleft
    simp only [completionProblem,Bool.and_eq_true,Bool.or_eq_true] at hleft
    obtain ⟨⟨hblocks,htouched⟩,_⟩ := hleft
    rcases htouched with hempty | htouched
    · exact (healthy_problem hhealthy hproblem hblocks).1 (List.isEmpty_iff.mp hempty)
    · obtain ⟨n,hn,htouched⟩ := List.any_eq_true.mp htouched
      obtain ⟨c,hcontaining,hid⟩ := (Option.any_eq_true _ _).mp htouched
      rw [decide_eq_true_eq] at hid
      obtain ⟨d,hd,hdc⟩ := List.mem_map.mp (hids c.id hid)
      obtain ⟨hcaravan,hselectable⟩ := selectCaravans_selectable hselected hd
      obtain ⟨hc,hcn⟩ := containing_mem hcontaining
      have hsame : c = d := by
        have hfound := hderived.containing_id hcaravan
        rw [hdc,hderived.containing_id hc] at hfound
        exact Option.some_inj.mp hfound
      exact hclear.apart hderived hhealthy hproblem hblocks hcaravan hselectable hn (hsame ▸ hcn)

end Healthy

section Samples

def acme : RepositoryId := ⟨"acme","app"⟩

/-- A parked member that is red by the admission gate alone, on a base of the given name. -/
def gateRedMember (baseName : String) : PullRequestSnapshot where
  number := 5
  state := .open
  head := ⟨acme,"feature-5","h5"⟩
  base := ⟨acme,baseName,"m0"⟩
  labels := ["caravan","caravan-parked"].toFinset
  autoMerge := .disabled
  checks := [{ name := "caravan-gate", state := .failure }]

def gateRedSnapshot (baseName : String) : RepositorySnapshot where
  repository := acme
  defaultBranch := ⟨acme,"main","m0"⟩
  pullRequests := [gateRedMember baseName]

def gateRedStatus (baseName : String) : StatusOutput where
  repository := acme
  defaultBranch := "main"
  analysis := Graph.deriveForActor (gateRedSnapshot baseName) .github
  admissionGate := some ⟨"caravan-gate","caravan"⟩

/-- The parked member was retargeted to a branch outside of the fleet. The fleet is healthy,
and a tick over all caravans stops as an invalid graph. -/
theorem healthy_fleet_refused :
    (gateRedStatus "release").analysis = Graph.deriveForActor (gateRedSnapshot "release") .github ∧
      (gateRedStatus "release").analysis.healthy = true ∧
      selectCaravans none (gateRedStatus "release") true = .ok [⟨5,[5],true⟩] ∧
      validateGraph (gateRedStatus "release") [⟨5,[5],true⟩] false true = .error {
        kind := .invalidGraph
        caravanId := some 5
        affectedPrs := [5]
        message := "PR #5 targets non-member branch `release`" } ∧
      ¬ GatesOpen (gateRedStatus "release") := by
  have hselected : selectCaravans none (gateRedStatus "release") true = .ok [⟨5,[5],true⟩] := by
    decide +kernel
  have hrefused : validateGraph (gateRedStatus "release") [⟨5,[5],true⟩] false true = .error {
      kind := .invalidGraph
      caravanId := some 5
      affectedPrs := [5]
      message := "PR #5 targets non-member branch `release`" } := by
    decide +kernel
  refine ⟨rfl,by decide +kernel,hselected,hrefused,?_⟩
  intro hopen
  have hok := (hopen none true _ hselected false true {} (by simp)).1
  rw [hrefused] at hok
  cases hok

/-- On the default branch the same member leaves every gate open. -/
theorem recovering_fleet_passes : GatesOpen (gateRedStatus "main") := by
  have hderived : Derived (δ := Unit) ⟨fun _ => .ok (),fun c t => .ok ⟨c,t,.clean,none⟩,
      fun _ _ => .ok none,fun _ _ => .ok ()⟩ (gateRedStatus "main").analysis :=
    .structural (gateRedSnapshot "main") .github rfl
  have hproblems : (gateRedStatus "main").analysis.fleet.problems = [] := by decide +kernel
  refine (gates_open_iff hderived (by decide +kernel)).mpr ?_
  intro c hc hparked hquarantined hrecovery problem hproblem
  rw [hproblems] at hproblem
  cases hproblem

end Samples

end Sync
end Cara
