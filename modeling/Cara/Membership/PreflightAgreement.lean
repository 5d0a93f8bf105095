import Cara.GraphHealth
import Cara.Membership.Policy

/-! What the read surface and the mutation preflight of one admission have in common: the same
candidate, the same target and the same proofs. The canonical order stands on one side only. -/
namespace Cara
namespace Membership

open Check

def DistinctTails (fleet : CaravanFleet) : Prop :=
  ∀ c ∈ fleet.caravans, ∀ d ∈ fleet.caravans, ∀ t, c.tail = some t → d.tail = some t → c = d

theorem derived_distinctTails (snapshot : RepositorySnapshot) (actor : HeadMergeActor) :
    DistinctTails (Graph.deriveForActor snapshot actor).fleet := by
  intro c hc d hd t hct hdt
  have hprs := Graph.collectPullRequests_indexed snapshot.pullRequests
  have hcontains := Graph.containing_eq_some hprs rfl hc (List.mem_of_getLast? hct)
  have hcontains' := Graph.containing_eq_some hprs rfl hd (List.mem_of_getLast? hdt)
  exact Option.some_inj.mp (hcontains.symm.trans hcontains')

variable {δ : Type}

section Check

variable {status : StatusOutput} {checker : CompatibilityChecker δ} {input : CheckInput} {n : PrNumber}
  {pull : PullRequestSnapshot} {out : CheckOutput} {a : Attachment} {target : Option Caravan}

theorem subject_eq (hnumber : input.pr.or status.currentPr = some n)
    (hpull : status.analysis.pullRequests[n]? = some pull) :
    subject (δ := δ) status input = .ok (n,pull) := by
  rw [subject,hnumber]
  simp only [hpull]

/-- A check of a pull request outside every caravan proves the requested attachment. -/
theorem checkRequested_eq (hready : requireReady (δ := δ) status = .ok ())
    (hnumber : input.pr.or status.currentPr = some n)
    (hpull : status.analysis.pullRequests[n]? = some pull)
    (houtside : status.analysis.fleet.containing n = none) :
    checkRequestedActionAnalysis status checker input = checkUnenrolled status checker input n pull := by
  have hnone : ∀ implicit : Option Caravan,implicit.elim (.ok none : CheckResult δ (Option CheckOutput))
      (fun _ => .ok none) = .ok none := by
    intro implicit
    cases implicit <;> rfl
  rw [checkRequestedActionAnalysis,checkAnalysisWithRecommendation,hready,subject_eq hnumber hpull]
  simp only [Guard.ok_bind]
  rw [houtside]
  simp only [hnone]
  rfl

theorem checkRequested_ready (h : checkRequestedActionAnalysis status checker input = .ok out) :
    requireReady (δ := δ) status = .ok () := by
  rw [checkRequestedActionAnalysis,checkAnalysisWithRecommendation] at h
  exact (Guard.unit_bind_eq_ok.mp h).1

/-- All problems of a candidate that do not depend on who selected it. -/
def ownProblems (status : StatusOutput) (n : PrNumber) (pull : PullRequestSnapshot) (a : Attachment) :
    List GraphProblem :=
  candidateProblems status n pull ++ attachmentProblems status n a

theorem conclude_remote (h : conclude (δ := δ) status true n pull target a = .ok out) :
    out.problems = candidateProblems status n pull ++ orderProblems status true n
      (Admission.evaluate status.admission status.analysis pull target .explicit) ++
        attachmentProblems status n a ∧ out.eligible = out.problems.isEmpty := by
  rw [conclude,eligibleOrError,if_pos (Bool.or_true _)] at h
  cases h
  exact ⟨rfl,rfl⟩

/-- The owner's own check accepts exactly a candidate without such problems. -/
theorem conclude_local (h : ownProblems status n pull a = []) :
    ∃ accepted,conclude (δ := δ) status false n pull target a = .ok accepted := by
  obtain ⟨hcandidate,hattachment⟩ := List.append_eq_nil_iff.mp h
  rw [conclude,eligibleOrError]
  simp [hcandidate,hattachment,orderProblems,orderRefuses]

theorem conclude_local_refused (h : ownProblems status n pull a ≠ []) :
    ∃ e,conclude (δ := δ) status false n pull target a = .error (.error e) := by
  have hsome : ¬ (candidateProblems status n pull = [] ∧ attachmentProblems status n a = []) :=
    fun hnil => h (List.append_eq_nil_iff.mpr hnil)
  rw [conclude,eligibleOrError]
  have hproblems : (candidateProblems status n pull ++ orderProblems status false n
      (Admission.evaluate status.admission status.analysis pull target (admissionSelection false)) ++
        attachmentProblems status n a).isEmpty = false := by
    simpa [orderProblems,orderRefuses] using hsome
  simp only [hproblems]
  exact ⟨_,rfl⟩

end Check

section Target

variable {status : StatusOutput} {request : MembershipRequest} {target : JoinTarget} {c : Caravan}

theorem elim_ok {ε α β : Type} {o : Option α} {e : ε} {f : α → Except ε β} {b : β}
    (h : o.elim (.error e) f = .ok b) : ∃ a,o = some a ∧ f a = .ok b := by
  cases o with
  | none => cases h
  | some a => exact ⟨a,rfl,h⟩

theorem requireActive_ok {d : Caravan} (h : requireActive (δ := δ) c = .ok d) : d = c := by
  rw [requireActive] at h
  split at h
  · cases h
  · cases h
    rfl

/-- The mutation's target with its tail, for a request that names one. -/
theorem resolveJoinTarget_ok (h : resolveJoinTarget (δ := δ) status request = .ok target) :
    joinCaravan (δ := δ) status request = .ok target.caravan ∧
      ∃ t,target.caravan.tail = some t := by
  obtain ⟨c,hc,h⟩ := Guard.bind_eq_ok.mp h
  obtain ⟨tail,htail,h⟩ := Guard.bind_eq_ok.mp h
  cases h
  refine ⟨hc,?_⟩
  cases hmember : c.tail with
  | none =>
    rw [hmember] at htail
    cases htail
  | some t => exact ⟨t,rfl⟩

theorem joinCaravan_mem (hnamed : request.namesTarget = true)
    (h : joinCaravan (δ := δ) status request = .ok c) : c ∈ status.analysis.fleet.caravans := by
  rw [joinCaravan] at h
  split at h
  · obtain ⟨d,hd,h⟩ := elim_ok h
    cases h
    exact List.mem_of_find?_eq_some hd
  · obtain ⟨d,hd,h⟩ := elim_ok h
    cases h
    exact List.mem_of_find?_eq_some hd
  case h_3 hhead htail => simp [MembershipRequest.namesTarget,hhead,htail] at hnamed

/-- A request that names its target resolves to the caravan that a check of it resolves to. -/
theorem resolveTarget_same (hnamed : request.namesTarget = true)
    (h : joinCaravan (δ := δ) status request = .ok c) {input : CheckInput}
    (htail : input.tailPr = request.tailPr) (hhead : input.headPr = request.headPr) :
    resolveTargetCaravan (δ := δ) status input = requireActive c := by
  rw [resolveTargetCaravan,htail,hhead]
  rw [joinCaravan] at h
  cases hhead' : request.headPr with
  | some merged =>
    rw [hhead'] at h
    obtain ⟨d,hd,h⟩ := elim_ok h
    cases h
    simp only [hd]
  | none =>
    rw [hhead'] at h
    cases htail' : request.tailPr with
    | some departed =>
      rw [htail'] at h
      obtain ⟨d,hd,h⟩ := elim_ok h
      cases h
      simp only [hd]
    | none => simp [MembershipRequest.namesTarget,hhead',htail'] at hnamed

theorem caravanOfTail_tail (hdistinct : DistinctTails status.analysis.fleet)
    (hc : c ∈ status.analysis.fleet.caravans) {t : PrNumber} (ht : c.tail = some t) :
    caravanOfTail status t = some c := by
  cases hfind : caravanOfTail status t with
  | none =>
    have hnone := List.find?_eq_none.mp hfind c hc
    simp [ht] at hnone
  | some d =>
    have hd : d ∈ status.analysis.fleet.caravans := List.mem_of_find?_eq_some hfind
    have hdt : d.tail = some t := by simpa using List.find?_some hfind
    rw [hdistinct d hd c hc t hdt ht]

end Target

section Agreement

variable {status : StatusOutput} {request : MembershipRequest} {n : PrNumber}
  {candidate : PullRequestSnapshot} {target : Option JoinTarget} {checker : CompatibilityChecker δ}
  {out : CheckOutput}

/-- One explicit admission of a pull request outside every caravan, as the current one. -/
structure ExplicitAdmission (δ : Type) (status : StatusOutput) (request : MembershipRequest) (n : PrNumber)
    (candidate : PullRequestSnapshot) (target : Option JoinTarget) : Prop where
  operation : request.operation = if request.namesTarget then .join else .new
  resolved : requestTarget (δ := δ) status request = .ok target
  current : status.currentPr = some n
  discovered : status.analysis.pullRequests[n]? = some candidate
  number : candidate.number = n
  outside : status.analysis.fleet.containing n = none

def checkOf (request : MembershipRequest) (n : PrNumber) : CheckInput :=
  { pr := some n,tailPr := request.tailPr,headPr := request.headPr }

namespace ExplicitAdmission

variable (h : ExplicitAdmission δ status request n candidate target)

include h

theorem isRenewal : request.operation.isRenewal = false := by
  rw [h.operation]
  split <;> rfl

theorem isJoin : request.operation.isJoin = request.namesTarget := by
  rw [h.operation]
  cases request.namesTarget <;> rfl

theorem explicitTarget_preflight (hdistinct : DistinctTails status.analysis.fleet)
    {resolved : Option Caravan}
    (hresolved : explicitTarget (δ := δ) status (checkOf request n) = .ok resolved) :
    explicitTarget (δ := δ) status { tailPr := target.bind (·.caravan.tail) } = .ok resolved := by
  have htarget := h.resolved
  rw [requestTarget,h.isJoin] at htarget
  cases hnamed : request.namesTarget with
  | false =>
    have hcheck : ((checkOf request n).tailPr.isSome || (checkOf request n).headPr.isSome) = false := hnamed
    rw [hnamed] at htarget
    cases htarget
    rw [explicitTarget,hcheck] at hresolved
    cases hresolved
    rfl
  | true =>
    have hcheck : ((checkOf request n).tailPr.isSome || (checkOf request n).headPr.isSome) = true := hnamed
    rw [hnamed] at htarget
    cases hjoin : resolveJoinTarget (δ := δ) status request with
    | error e =>
      rw [hjoin] at htarget
      cases htarget
    | ok t =>
      rw [hjoin] at htarget
      cases htarget
      obtain ⟨hc,number,htail⟩ := resolveJoinTarget_ok hjoin
      rw [explicitTarget,hcheck,if_pos rfl,resolveTarget_same hnamed hc rfl rfl] at hresolved
      have hfound := caravanOfTail_tail hdistinct (joinCaravan_mem hnamed hc) htail
      show (if (t.caravan.tail.isSome || false) = true then
        (resolveTargetCaravan status { tailPr := t.caravan.tail }).map some else .ok none) = _
      simp only [htail,Option.isSome_some,Bool.true_or,if_true,resolveTargetCaravan,hfound]
      exact hresolved

/-- Nothing of the candidate is projected away for an admission that is not a renewal. -/
theorem virtualStatus_eq : virtualStatus (δ := δ) status candidate request none = .ok status := by
  have hsame : status.analysis.pullRequests.insert n candidate = status.analysis.pullRequests := by
    apply Std.ExtTreeMap.ext_getElem?
    intro k
    rw [Std.ExtTreeMap.getElem?_insert]
    split
    case isTrue hk =>
      have hkey : n = k := Std.LawfulEqCmp.eq_of_compare hk
      rw [← hkey,h.discovered]
    case isFalse => rfl
  rw [virtualStatus,h.number,h.discovered]
  simp only [virtualCandidate,h.isRenewal,Option.elim_none,Bool.false_eq_true,if_false,hsame]

end ExplicitAdmission

/-- What the preflight asks of a candidate that a check of the same admission has refused. -/
def Resumable (status : StatusOutput) (candidate : PullRequestSnapshot) : Prop :=
  ∀ problem ∈ status.analysis.fleet.problems,isOwnAutoMerge candidate problem = true

/-- Only the canonical order stands against the admission. -/
def OnlyOrder (status : StatusOutput) (n : PrNumber) (candidate : PullRequestSnapshot)
    (target : Option JoinTarget) (out : CheckOutput) : Prop :=
  let intent := Admission.evaluate status.admission status.analysis candidate (target.map (·.caravan))
    .explicit
  orderRefuses status true n intent = true ∧ out.problems = [orderRefusal status n intent]

def Passes (status : StatusOutput) (n : PrNumber) (candidate : PullRequestSnapshot)
    (target : Option JoinTarget) (out : CheckOutput) : Prop :=
  Generation.requireAdmissible status.admission.generationIntegrity n = .ok () ∧
    if candidate.hasLabel activeLabel then Resumable status candidate
    else OnlyOrder status n candidate target out

theorem resumeEligibility_cases : (Resumable status candidate →
      ∃ accepted,resumeEligibility (δ := δ) status candidate request target = .ok accepted) ∧
    (¬ Resumable status candidate →
      ∃ e,resumeEligibility (δ := δ) status candidate request target = .error (.error e)) := by
  rw [resumeEligibility]
  cases hfind : status.analysis.fleet.problems.find? fun problem => !isOwnAutoMerge candidate problem with
  | none =>
    have hall : Resumable status candidate := by
      simpa [Resumable] using List.find?_eq_none.mp hfind
    exact ⟨fun _ => ⟨_,rfl⟩,fun h => absurd hall h⟩
  | some problem =>
    have hmem := List.mem_of_find?_eq_some hfind
    have hforeign : isOwnAutoMerge candidate problem = false := by simpa using List.find?_some hfind
    refine ⟨fun h => ?_,fun _ => ⟨_,rfl⟩⟩
    rw [h problem hmem] at hforeign
    cases hforeign

/-- A refusal without problems of the candidate itself is a refusal by the order. -/
theorem onlyOrder_iff {a : Attachment}
    (hproblems : out.problems = candidateProblems status n candidate ++ orderProblems status true n
      (Admission.evaluate status.admission status.analysis candidate (target.map (·.caravan)) .explicit) ++
        attachmentProblems status n a) (hrefused : out.problems ≠ []) :
    OnlyOrder status n candidate target out ↔ ownProblems status n candidate a = [] := by
  rw [OnlyOrder,ownProblems,List.append_eq_nil_iff]
  rw [orderProblems] at hproblems
  split at hproblems
  case isTrue horder =>
    constructor
    · intro h
      have hlength := congrArg List.length (hproblems.symm.trans h.2)
      simp only [List.length_append,List.length_cons,List.length_nil] at hlength
      exact ⟨List.eq_nil_of_length_eq_zero (by omega),List.eq_nil_of_length_eq_zero (by omega)⟩
    · intro h
      rw [h.1,h.2] at hproblems
      exact ⟨horder,hproblems⟩
  case isFalse horder =>
    constructor
    · exact fun h => absurd h.1 horder
    · intro h
      rw [h.1,h.2] at hproblems
      exact absurd hproblems hrefused

variable (h : ExplicitAdmission δ status request n candidate target)

include h

/-- The target that a check resolves is the target of the admission. -/
theorem ExplicitAdmission.resolved_eq {resolved : Option Caravan}
    (hresolved : explicitTarget (δ := δ) status (checkOf request n) = .ok resolved) :
    resolved = target.map (·.caravan) := by
  have htarget := h.resolved
  rw [requestTarget,h.isJoin] at htarget
  have hnames : ((checkOf request n).tailPr.isSome || (checkOf request n).headPr.isSome) =
    request.namesTarget := rfl
  rw [explicitTarget,hnames] at hresolved
  cases hnamed : request.namesTarget with
  | false =>
    rw [hnamed] at htarget hresolved
    cases htarget
    cases hresolved
    rfl
  | true =>
    rw [hnamed] at htarget hresolved
    cases hjoin : resolveJoinTarget (δ := δ) status request with
    | error e =>
      rw [hjoin] at htarget
      cases htarget
    | ok t =>
      rw [hjoin] at htarget
      cases htarget
      rw [if_pos rfl,resolveTarget_same hnamed (resolveJoinTarget_ok hjoin).1 rfl rfl] at hresolved
      cases hactive : requireActive (δ := δ) t.caravan with
      | error e =>
        rw [hactive] at hresolved
        cases hresolved
      | ok c =>
        rw [hactive] at hresolved
        cases hresolved
        rw [requireActive_ok hactive]
        rfl

/-- The preflight of an unlabelled candidate after a check of the same admission. -/
theorem preflight_unlabelled (hdistinct : DistinctTails status.analysis.fleet)
    (hcheck : checkRequestedActionAnalysis status checker (checkOf request n) = .ok out)
    (hrefused : out.eligible = false) (hlabel : candidate.hasLabel activeLabel = false)
    (hadmissible : Generation.requireAdmissible status.admission.generationIntegrity n = .ok ()) :
    (OnlyOrder status n candidate target out →
      ∃ accepted,preflightEligibility status candidate request target checker none = .ok accepted) ∧
    (¬ OnlyOrder status n candidate target out →
      ∃ e,preflightEligibility status candidate request target checker none = .error (.error e)) := by
  have hready := checkRequested_ready hcheck
  rw [checkRequested_eq hready rfl h.discovered h.outside] at hcheck
  obtain ⟨resolved,hresolved,hcheck⟩ := Guard.bind_eq_ok.mp hcheck
  obtain ⟨proven,hproven,hcheck⟩ := Guard.bind_eq_ok.mp hcheck
  obtain ⟨hproblems,heligible⟩ := conclude_remote hcheck
  have hpreflight : preflightEligibility status candidate request target checker none =
      conclude status false n candidate resolved proven := by
    rw [preflightEligibility,h.number,hadmissible,h.virtualStatus_eq]
    let requested : CheckInput := { tailPr := target.bind (·.caravan.tail) }
    have hcurrent : requested.pr.or status.currentPr = some n := h.current
    show (if candidate.hasLabel activeLabel = true then _ else
      checkRequestedActionAnalysis status checker requested) = _
    rw [hlabel,checkRequested_eq hready hcurrent h.discovered h.outside,checkUnenrolled,
      h.explicitTarget_preflight hdistinct hresolved]
    show attachment status checker n candidate resolved >>= _ = _
    rw [hproven]
    rfl
  have hsome : out.problems ≠ [] := by
    intro hnil
    rw [heligible,hnil] at hrefused
    cases hrefused
  rw [h.resolved_eq hresolved] at hproblems hpreflight
  rw [hpreflight,onlyOrder_iff hproblems hsome]
  exact ⟨conclude_local,conclude_local_refused⟩

/-- What becomes of a refused explicit admission in its preflight. -/
theorem refusedCheck_preflight (hdistinct : DistinctTails status.analysis.fleet)
    (hcheck : checkRequestedActionAnalysis status checker (checkOf request n) = .ok out)
    (hrefused : out.eligible = false) :
    (Passes status n candidate target out →
      ∃ accepted,preflightEligibility status candidate request target checker none = .ok accepted) ∧
    (¬ Passes status n candidate target out →
      ∃ e,preflightEligibility status candidate request target checker none = .error (.error e)) := by
  cases hadmissible : Generation.requireAdmissible status.admission.generationIntegrity n with
  | error e =>
    have hfails : ∃ e,preflightEligibility status candidate request target checker none =
        .error (.error e) := by
      rw [preflightEligibility,h.number,hadmissible]
      exact ⟨_,rfl⟩
    refine ⟨fun hpass => ?_,fun _ => hfails⟩
    have hok := hpass.1
    rw [hadmissible] at hok
    cases hok
  | ok u =>
    cases hlabel : candidate.hasLabel activeLabel with
    | false =>
      have hpasses : Passes status n candidate target out ↔ OnlyOrder status n candidate target out := by
        simp [Passes,hadmissible,hlabel]
      rw [hpasses]
      exact preflight_unlabelled h hdistinct hcheck hrefused hlabel hadmissible
    | true =>
      have hpasses : Passes status n candidate target out ↔ Resumable status candidate := by
        simp [Passes,hadmissible,hlabel]
      have hpreflight : preflightEligibility status candidate request target checker none =
          resumeEligibility status candidate request target := by
        rw [preflightEligibility,h.number,hadmissible,hlabel]
        rfl
      rw [hpasses,hpreflight]
      exact resumeEligibility_cases

end Agreement

section Samples

def acme : RepositoryId := ⟨"acme","app"⟩

def samplePull (n : PrNumber) (headName baseName : String) (labels : Finset String) :
    PullRequestSnapshot where
  number := n
  state := .open
  head := ⟨acme,headName,headName⟩
  base := ⟨acme,baseName,baseName⟩
  labels := labels
  autoMerge := .disabled

def sampleStatus (pulls : List PullRequestSnapshot) (current : PrNumber) : StatusOutput :=
  let analysis := Graph.deriveForActor
    { repository := acme,defaultBranch := ⟨acme,"main","main"⟩,pullRequests := pulls } .caravan
  { repository := acme
    defaultBranch := "main"
    analysis := analysis
    admission := Admission.resolveAdmissionWithGenerationAndGate analysis [] ⟨1,"",[],0,false⟩ none
    headMergeActor := .caravan
    currentPr := some current }

/-- Git proofs that are clean, apart from these pairs of branches. -/
def sampleChecker (conflicts : List (String × String)) : CompatibilityChecker Unit where
  prepare _ := .ok ()
  check c t := .ok ⟨c,t,if (c.name,t.name) ∈ conflicts then .conflict else .clean,none⟩
  cumulativeTree _ _ := .ok none
  squashEquivalence _ _ := .ok ()

/-- A candidate stacked on another that has not joined either. -/
def stacked : List PullRequestSnapshot := [samplePull 1 "a" "main" ∅,samplePull 2 "b" "a" ∅]

/-- The verdicts of the read surface and of the preflight on one admission. -/
def verdicts (status : StatusOutput) (request : MembershipRequest) (n : PrNumber)
    (candidate : PullRequestSnapshot) (target : Option JoinTarget)
    (checker : CompatibilityChecker Unit) : Option Bool × Option Bool :=
  ((checkRequestedActionAnalysis status checker (checkOf request n)).toOption.map (·.eligible),
    (preflightEligibility status candidate request target checker none).toOption.map (·.eligible))

def withCaravans (status : StatusOutput) (caravans : List Caravan) : StatusOutput :=
  { status with analysis := { status.analysis with
    fleet := { status.analysis.fleet with caravans := caravans } } }

/-- A labelled pull request outside every listed caravan. -/
def unlisted : StatusOutput := withCaravans (sampleStatus [samplePull 3 "c" "main" {"caravan"}] 3) []

def sharedTail : StatusOutput :=
  let pulls := [samplePull 1 "a" "main" ∅,samplePull 2 "b" "main" ∅,samplePull 5 "t" "main" ∅,
    samplePull 9 "n" "main" ∅]
  let status := withCaravans (sampleStatus pulls 9) [⟨1,[1,5],false⟩,⟨2,[2,5],false⟩]
  { status with admission := { status.admission with nextCandidate := some 9 } }

/-- The order that stands against an explicit request does not stand against its preflight, a
labelled pull request is resumed without the checks of a candidate, and a tail that two caravans
share names the first of them. -/
theorem refusedCheck_accepted :
    ExplicitAdmission Unit (sampleStatus stacked 2) { operation := .new } 2 (samplePull 2 "b" "a" ∅) none ∧
    verdicts (sampleStatus stacked 2) { operation := .new } 2 (samplePull 2 "b" "a" ∅) none
      (sampleChecker []) = (some false,some true) ∧
    ExplicitAdmission Unit unlisted { operation := .new } 3 (samplePull 3 "c" "main" {"caravan"}) none ∧
    verdicts unlisted { operation := .new } 3 (samplePull 3 "c" "main" {"caravan"}) none
      (sampleChecker []) = (some false,some true) ∧
    ExplicitAdmission Unit sharedTail { operation := .join,headPr := some 2 } 9
      (samplePull 9 "n" "main" ∅) (some ⟨⟨2,[2,5],false⟩,samplePull 5 "t" "main" ∅⟩) ∧
    verdicts sharedTail { operation := .join,headPr := some 2 } 9 (samplePull 9 "n" "main" ∅)
      (some ⟨⟨2,[2,5],false⟩,samplePull 5 "t" "main" ∅⟩) (sampleChecker [("a","n")]) =
      (some false,some true) := by
  have hstacked : ExplicitAdmission Unit (sampleStatus stacked 2) { operation := .new } 2
      (samplePull 2 "b" "a" ∅) none :=
    ⟨rfl,rfl,rfl,by decide +kernel,rfl,by decide +kernel⟩
  have hunlisted : ExplicitAdmission Unit unlisted { operation := .new } 3
      (samplePull 3 "c" "main" {"caravan"}) none :=
    ⟨rfl,rfl,rfl,by decide +kernel,rfl,by decide +kernel⟩
  have hresolved : requestTarget (δ := Unit) sharedTail { operation := .join,headPr := some 2 } =
      .ok (some ⟨⟨2,[2,5],false⟩,samplePull 5 "t" "main" ∅⟩) := by
    have htail : sharedTail.analysis.pullRequests[5]? = some (samplePull 5 "t" "main" ∅) := by
      decide +kernel
    show ((expectMember sharedTail "tail" (some 5) >>= fun tail =>
      (.ok ⟨⟨2,[2,5],false⟩,tail.2⟩ : CheckResult Unit JoinTarget)).map some) = _
    rw [expectMember]
    simp only [htail]
    rfl
  have hshared : ExplicitAdmission Unit sharedTail { operation := .join,headPr := some 2 } 9
      (samplePull 9 "n" "main" ∅) (some ⟨⟨2,[2,5],false⟩,samplePull 5 "t" "main" ∅⟩) :=
    ⟨rfl,hresolved,rfl,by decide +kernel,rfl,by decide +kernel⟩
  refine ⟨hstacked,?_,hunlisted,?_,hshared,?_⟩
  · decide +kernel
  · decide +kernel
  · decide +kernel

/-- A refused candidate that conflicts with the default branch is refused by the preflight too. -/
theorem refusedCheck_preflight_conflict :
    ∃ e,preflightEligibility (sampleStatus stacked 2) (samplePull 2 "b" "a" ∅) { operation := .new } none
      (sampleChecker [("b","main")]) none = .error (.error e) := by
  have hchecked : ((checkRequestedActionAnalysis (sampleStatus stacked 2) (sampleChecker [("b","main")])
      (checkOf { operation := .new } 2)).toOption.map fun out =>
        (out.eligible,out.problems.length)) = some (false,2) := by
    decide +kernel
  cases hcheck : checkRequestedActionAnalysis (sampleStatus stacked 2) (sampleChecker [("b","main")])
      (checkOf { operation := .new } 2) with
  | error e =>
    rw [hcheck] at hchecked
    cases hchecked
  | ok out =>
    rw [hcheck] at hchecked
    obtain ⟨hrefused,hproblems⟩ := Prod.mk.inj (Option.some_inj.mp hchecked)
    have hadmission : ExplicitAdmission Unit (sampleStatus stacked 2) { operation := .new } 2
        (samplePull 2 "b" "a" ∅) none :=
      ⟨rfl,rfl,rfl,by decide +kernel,rfl,by decide +kernel⟩
    apply (refusedCheck_preflight hadmission (derived_distinctTails _ _) hcheck hrefused).2
    intro hpasses
    have honly : OnlyOrder (sampleStatus stacked 2) 2 (samplePull 2 "b" "a" ∅) none out := hpasses.2
    rw [honly.2] at hproblems
    cases hproblems

end Samples

end Membership
end Cara
