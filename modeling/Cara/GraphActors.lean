import Cara.GraphCycles
import Cara.GraphCompatibility

/-! One graph under two merge actors. Only the problems of armed auto-merge depend on the
actor; the others and the mechanical compatibility are shared. A graph without new shared
problems has a new head only where a member moved to the default branch. -/
namespace Cara
open Std (ExtTreeMap)
namespace Graph

variable {snapshot before after : RepositorySnapshot} {actor : HeadMergeActor}

/-- The structural problems that no merge actor changes. -/
def commonProblems (snapshot : RepositorySnapshot) : List GraphProblem :=
  let defaultName := snapshot.defaultBranch.name
  let collected := collectPullRequests snapshot.pullRequests
  let prs := collected.1
  let active := activeMembers prs
  collected.2 ++
    (rowsOf prs).flatMap membershipProblems ++
    (rowsOf active).flatMap (forkProblems snapshot.repository) ++
    sharedHeadProblems (headsByBranch active) ++
    (rowsOf active).filterMap (fun p => (placement defaultName prs p).problem?) ++
    branchingProblems (parentOf defaultName prs) (childrenOf defaultName prs) ++
    detectCycles active (parentOf defaultName prs) ++
    (memberWalks defaultName prs).2.map missingHead

/-- The structural problems that the merge actor decides. -/
def armingProblems (snapshot : RepositorySnapshot) (actor : HeadMergeActor) : List GraphProblem :=
  (deriveCaravans snapshot.defaultBranch.name (indexOf snapshot)).flatMap
    (autoMergeProblems actor (activeMembers (indexOf snapshot)))

theorem structuralProblems_eq (snapshot : RepositorySnapshot) (actor : HeadMergeActor) :
    structuralProblems snapshot actor = commonProblems snapshot ++ armingProblems snapshot actor :=
  rfl

section Kinds

theorem commonProblems_cases {problem : GraphProblem} (h : problem ∈ commonProblems snapshot) :
    (problem.kind ≠ .autoMergeInvariant ∧ problem.kind ≠ .incompatible ∧
      problem.kind ≠ .candidateIncompatible ∧ ¬ PlacementKind problem.kind ∧
      problem.kind ≠ .missingHead) ∨
    (∃ p ∈ rowsOf (activeMembers (indexOf snapshot)),
      placement snapshot.defaultBranch.name (indexOf snapshot) p = .root (some problem)) ∨
    ∃ w ∈ (memberWalks snapshot.defaultBranch.name (indexOf snapshot)).2,
      missingHead w = problem := by
  unfold commonProblems at h
  simp only [List.mem_append] at h
  rcases h with ((((((h | h) | h) | h) | h) | h) | h) | h
  · left
    rw [collected_kind _ problem h]
    simp [PlacementKind]
  · left
    obtain ⟨p,-,hp⟩ := List.mem_flatMap.mp h
    rcases membership_kind p problem hp with hkind | hkind <;> simp [hkind,PlacementKind]
  · left
    obtain ⟨p,-,hp⟩ := List.mem_flatMap.mp h
    rw [fork_kind _ p problem hp]
    simp [PlacementKind]
  · left
    rw [sharedHead_kind _ problem h]
    simp [PlacementKind]
  · exact .inr (.inl (mem_placements_iff.mp h))
  · left
    rw [branching_kind _ _ problem h]
    simp [PlacementKind]
  · left
    obtain ⟨listed,-,rfl⟩ := List.mem_map.mp h
    simp [PlacementKind,cycleProblem]
  · exact .inr (.inr (List.mem_map.mp h))

theorem common_kind {problem : GraphProblem} (h : problem ∈ commonProblems snapshot) :
    problem.kind ≠ .autoMergeInvariant ∧ problem.kind ≠ .incompatible ∧
      problem.kind ≠ .candidateIncompatible := by
  rcases commonProblems_cases h with hother | ⟨p,-,hp⟩ | ⟨w,-,rfl⟩
  · exact ⟨hother.1,hother.2.1,hother.2.2.1⟩
  · rcases (placement_kind hp).1 with hkind | hkind | hkind <;> simp [hkind]
  · simp [missingHead]

/-- A placement problem was reported for the member it names first. -/
theorem placed_of_common {problem : GraphProblem} (h : problem ∈ commonProblems snapshot)
    (hkind : PlacementKind problem.kind) : ∃ p ∈ rowsOf (activeMembers (indexOf snapshot)),
      placement snapshot.defaultBranch.name (indexOf snapshot) p = .root (some problem) := by
  rcases commonProblems_cases h with hother | hplaced | ⟨w,-,rfl⟩
  · exact absurd hkind hother.2.2.2.1
  · exact hplaced
  · simp [PlacementKind,missingHead] at hkind

theorem leftover_of_common {w : List PrNumber} (h : missingHead w ∈ commonProblems snapshot) :
    w ∈ (memberWalks snapshot.defaultBranch.name (indexOf snapshot)).2 := by
  rcases commonProblems_cases h with hother | ⟨p,-,hp⟩ | ⟨w',hw',heq⟩
  · exact absurd rfl hother.2.2.2.2
  · rcases (placement_kind hp).1 with hkind | hkind | hkind <;> simp [missingHead] at hkind
  · have hprs : w' = w := congrArg GraphProblem.prs heq
    exact hprs ▸ hw'

theorem arming_kind {problem : GraphProblem} (h : problem ∈ armingProblems snapshot actor) :
    problem.kind = .autoMergeInvariant := by
  obtain ⟨c,-,hc⟩ := List.mem_flatMap.mp h
  exact autoMerge_kind _ c problem hc

end Kinds

section Heads

def IsHead (snapshot : RepositorySnapshot) (n : PrNumber) : Prop :=
  ∃ c ∈ deriveCaravans snapshot.defaultBranch.name (indexOf snapshot), c.id = n

theorem isHead_of_walk {w : List PrNumber} {n : PrNumber}
    (hw : w ∈ allWalks snapshot.defaultBranch.name (indexOf snapshot))
    (hn : w.head? = some n) : IsHead snapshot n := by
  let c : Caravan := ⟨n,w,isParked (activeMembers (indexOf snapshot)) ⟨n,w,false⟩⟩
  exact ⟨c,mem_deriveCaravans_iff.mpr ⟨hw,hn,rfl⟩,rfl⟩

/-- A member placed as a root is the head of its caravan: behind the head every member is
the only child of its predecessor. -/
theorem isHead_of_root {n : PrNumber}
    (h : n ∈ rootNumbers snapshot.defaultBranch.name (indexOf snapshot)) : IsHead snapshot n := by
  have hprs := collectPullRequests_indexed snapshot.pullRequests
  have hmem : n ∈ (allWalks snapshot.defaultBranch.name (indexOf snapshot)).flatten :=
    (mem_allWalks_iff hprs n).mpr (mem_activeSet_iff.mp (mem_rootNumbers_iff_parent.mp h).1)
  obtain ⟨w,hw,hn⟩ := List.mem_flatten.mp hmem
  obtain ⟨front,back,hsplit⟩ := List.append_of_mem hn
  cases front using List.reverseRecOn with
  | nil => exact isHead_of_walk hw (by rw [hsplit]; rfl)
  | append_singleton front m _ =>
    have hpair : [m,n] <:+: w := ⟨front,back,by simp [hsplit]⟩
    have hchain := List.IsChain.infix (allWalks_isChain hprs hw) hpair
    rw [List.isChain_pair] at hchain
    have hparent := parentStep_of_soleChild hchain
    rw [(mem_rootNumbers_iff_parent.mp h).2] at hparent
    cases hparent

theorem root_of_placement {n : PrNumber} {p : PullRequestSnapshot} {problem : Option GraphProblem}
    (hp : ActiveAt (indexOf snapshot) n p)
    (hplace : placement snapshot.defaultBranch.name (indexOf snapshot) p = .root problem) :
    n ∈ rootNumbers snapshot.defaultBranch.name (indexOf snapshot) := by
  rw [mem_rootNumbers_iff (collectPullRequests_indexed snapshot.pullRequests)]
  exact ⟨p,hp,by rw [hplace]; rfl⟩

theorem placement_default {p : PullRequestSnapshot}
    (hbase : p.base.name = snapshot.defaultBranch.name) :
    placement snapshot.defaultBranch.name (indexOf snapshot) p = .root none := if_pos hbase

/-- Without new shared problems a head was a head before or stands on the default branch. -/
theorem head_cases (hcommon : ∀ problem ∈ commonProblems after, problem ∈ commonProblems before)
    {n : PrNumber} {p : PullRequestSnapshot} (hp : ActiveAt (indexOf after) n p)
    (hhead : IsHead after n) :
    IsHead before n ∨ p.base.name = after.defaultBranch.name := by
  have hafter := collectPullRequests_indexed after.pullRequests
  obtain ⟨c,hc,rfl⟩ := hhead
  have hderived := mem_deriveCaravans_iff.mp hc
  rcases List.mem_append.mp hderived.1 with hrooted | hleft
  · obtain ⟨start,hstart,seen,hfresh,-,hwalk⟩ := LinearWalk.exists_walk_of_mem_walks _ _ hrooted
    obtain ⟨rest,hrest⟩ := LinearWalk.walk_cons
      (soleChild (childrenOf after.defaultBranch.name (indexOf after)))
      (activeMembers (indexOf after)).size hfresh
    have hid : start = c.id := by
      have hhead := hderived.2.1
      rw [hwalk,hrest] at hhead
      simpa using hhead
    subst hid
    obtain ⟨q,hq,hparent⟩ := (mem_rootNumbers_iff hafter).mp hstart
    rw [hq.unique hp] at hparent
    cases hplace : placement after.defaultBranch.name (indexOf after) p with
    | child parent => simp [hplace,Placement.parent?] at hparent
    | root found =>
      cases found with
      | none => exact .inr (placement_root_none hplace)
      | some problem =>
        -- the same problem was reported before, so the member was a root before
        left
        have hreported : problem ∈ commonProblems after := by
          simp only [commonProblems,List.mem_append]
          have hmem := mem_placements_iff.mpr ⟨p,mem_activeRows_iff.mpr ⟨c.id,hp⟩,hplace⟩
          tauto
        obtain ⟨hkind,hnamed⟩ := placement_kind hplace
        obtain ⟨r,hr,hplaced⟩ := placed_of_common (hcommon problem hreported) hkind
        have hbefore := collectPullRequests_indexed before.pullRequests
        obtain ⟨m,hm⟩ := mem_activeRows_iff.mp hr
        have hsame : r.number = p.number :=
          Option.some.inj ((placement_kind hplaced).2.symm.trans hnamed)
        have hmn : m = c.id :=
          (hbefore m r hm.1).symm.trans (hsame.trans (hafter c.id p hp.1))
        exact isHead_of_root (root_of_placement (hmn ▸ hm) hplaced)
  · left
    have hreported : missingHead c.members ∈ commonProblems after := by
      simp only [commonProblems,List.mem_append]
      have hmem := List.mem_map_of_mem (f := missingHead) hleft
      tauto
    exact isHead_of_walk (List.mem_append_right _ (leftover_of_common (hcommon _ hreported)))
      hderived.2.1

end Heads

section Arming

theorem mem_armingProblems_iff {problem : GraphProblem} :
    problem ∈ armingProblems snapshot actor ↔
      ∃ c ∈ deriveCaravans snapshot.defaultBranch.name (indexOf snapshot), ∃ (i : ℕ) (n : PrNumber)
        (p : PullRequestSnapshot), c.members[i]? = some n ∧ ActiveAt (indexOf snapshot) n p ∧
          autoMergeValid (rootMustBeArmed actor c i) p = false ∧
          autoMergeInvariant (rootMustBeArmed actor c i) i n = problem := by
  unfold armingProblems autoMergeProblems
  rw [List.mem_flatMap]
  refine exists_congr fun c => and_congr_right fun _ => ?_
  rw [List.mem_filterMap]
  constructor
  · intro h
    obtain ⟨⟨n,i⟩,hrow,hproblem⟩ := h
    obtain ⟨p,hp,hinvalid⟩ := Option.bind_eq_some_iff.mp hproblem
    split at hinvalid
    · cases hinvalid
    next hvalid =>
      exact ⟨i,n,p,List.mk_mem_zipIdx_iff_getElem?.mp hrow,activeMembers_getElem?_iff.mp hp,
        Bool.eq_false_iff.mpr hvalid,Option.some.inj hinvalid⟩
  · intro h
    obtain ⟨i,n,p,hn,hp,hinvalid,rfl⟩ := h
    refine ⟨(n,i),List.mk_mem_zipIdx_iff_getElem?.mpr hn,?_⟩
    show ((activeMembers (indexOf snapshot))[n]?).bind _ = _
    rw [activeMembers_getElem?_iff.mpr hp,Option.bind_some,if_neg (Bool.eq_false_iff.mp hinvalid)]

/-- The text of an arming problem tells the member, what was required of it and whether it
is a head. -/
theorem autoMergeInvariant_inj {a b : Bool} {i j : ℕ} {n m : PrNumber}
    (h : autoMergeInvariant a i n = autoMergeInvariant b j m) :
    n = m ∧ a = b ∧ (a = true ∨ (i = 0 ↔ j = 0)) := by
  have hprs : [n] = [m] := congrArg GraphProblem.prs h
  obtain rfl : n = m := List.singleton_injective hprs
  have hmessage := congrArg String.toList (congrArg GraphProblem.message h)
  unfold autoMergeInvariant at hmessage
  cases a <;> cases b <;> by_cases hi : i = 0 <;> by_cases hj : j = 0 <;>
    simp [hi,hj,String.toList_append] at hmessage ⊢

theorem parked_eq {c : Caravan}
    (hc : c ∈ deriveCaravans snapshot.defaultBranch.name (indexOf snapshot))
    {p : PullRequestSnapshot} (hp : ActiveAt (indexOf snapshot) c.id p) :
    c.parked = p.hasLabel "caravan-parked" := by
  rw [(mem_deriveCaravans_iff.mp hc).2.2,isParked,activeMembers_getElem?_iff.mpr hp]
  rfl

theorem id_of_first {c : Caravan}
    (hc : c ∈ deriveCaravans snapshot.defaultBranch.name (indexOf snapshot)) {n : PrNumber}
    (hn : c.members[0]? = some n) : c.id = n := by
  rw [← List.head?_eq_getElem?,(mem_deriveCaravans_iff.mp hc).2.1] at hn
  exact Option.some.inj hn

/-- An unparked head that the provider is not armed to merge. -/
def UnarmedHead (snapshot : RepositorySnapshot) (n : PrNumber) : Prop :=
  IsHead snapshot n ∧ ∃ p, ActiveAt (indexOf snapshot) n p ∧
    p.hasLabel "caravan-parked" = false ∧ autoMergeValid true p = false

/-- Under provider merging an unarmed head is reported, and nothing else with its text. -/
theorem unarmedHead_iff {n : PrNumber} :
    autoMergeInvariant true 0 n ∈ armingProblems snapshot .github ↔ UnarmedHead snapshot n := by
  rw [mem_armingProblems_iff]
  constructor
  · intro h
    obtain ⟨c,hc,i,m,p,hm,hp,hinvalid,heq⟩ := h
    obtain ⟨rfl,harmed,-⟩ := autoMergeInvariant_inj heq
    have hroot := harmed
    simp only [rootMustBeArmed,HeadMergeActor.isGithub,decide_true,Bool.true_and,
      Bool.and_eq_true,decide_eq_true_eq,Bool.not_eq_true'] at hroot
    obtain ⟨rfl,hparked⟩ := hroot
    have hid := id_of_first hc hm
    subst hid
    rw [harmed] at hinvalid
    exact ⟨⟨c,hc,rfl⟩,p,hp,(parked_eq hc hp).symm.trans hparked,hinvalid⟩
  · intro h
    obtain ⟨⟨c,hc,rfl⟩,p,hp,hparked,hinvalid⟩ := h
    have hfirst : c.members[0]? = some c.id := by
      rw [← List.head?_eq_getElem?]
      exact (mem_deriveCaravans_iff.mp hc).2.1
    have harmed : rootMustBeArmed .github c 0 = true := by
      simp [rootMustBeArmed,HeadMergeActor.isGithub,parked_eq hc hp,hparked]
    exact ⟨c,hc,0,c.id,p,hfirst,hp,by rw [harmed]; exact hinvalid,by rw [harmed]⟩

/-- Where Cara merges no new arming problem, only an unarmed head can be a new one where
the provider merges: the others have the same text for both actors. -/
theorem arming_new_cases (hlabels : ∀ n p q, ActiveAt (indexOf before) n p →
      ActiveAt (indexOf after) n q →
      q.hasLabel "caravan-parked" = p.hasLabel "caravan-parked")
    (hcaravan : ∀ problem ∈ armingProblems after .caravan,
      problem ∈ armingProblems before .caravan)
    {problem : GraphProblem} (h : problem ∈ armingProblems after .github) :
    problem ∈ armingProblems before .github ∨
      ∃ n, problem = autoMergeInvariant true 0 n ∧ UnarmedHead after n := by
  obtain ⟨c,hc,i,n,p,hn,hp,hinvalid,rfl⟩ := mem_armingProblems_iff.mp h
  cases harmed : rootMustBeArmed .github c i with
  | true =>
    right
    have hi : i = 0 := by
      simp only [rootMustBeArmed,Bool.and_eq_true,decide_eq_true_eq] at harmed
      exact harmed.1.2
    subst hi
    rw [harmed] at h
    exact ⟨n,rfl,unarmedHead_iff.mp h⟩
  | false =>
    left
    rw [harmed] at hinvalid
    have hcara (d : Caravan) (k : ℕ) : rootMustBeArmed .caravan d k = false := rfl
    have hshared : autoMergeInvariant false i n ∈ armingProblems after .caravan :=
      mem_armingProblems_iff.mpr ⟨c,hc,i,n,p,hn,hp,by rw [hcara]; exact hinvalid,by rw [hcara]⟩
    obtain ⟨d,hd,j,m,q,hm,hq,hinvalid',heq⟩ := mem_armingProblems_iff.mp (hcaravan _ hshared)
    rw [hcara] at hinvalid' heq
    obtain ⟨rfl,-,hpos⟩ := autoMergeInvariant_inj heq
    have hunarmed : rootMustBeArmed .github d j = false := by
      by_cases hj : j = 0
      · -- both positions are heads, and the caravan after is parked
        have hi : i = 0 := (hpos.resolve_left Bool.false_ne_true).mp hj
        subst hi hj
        have hdid := id_of_first hd hm
        have hcid := id_of_first hc hn
        subst hdid
        have hparked : c.parked = true := by
          simpa [rootMustBeArmed,HeadMergeActor.isGithub] using harmed
        rw [parked_eq hc (hcid ▸ hp)] at hparked
        have hlabel := hlabels d.id q p hq hp
        simp [rootMustBeArmed,parked_eq hd hq,← hlabel,hparked]
      · simp [rootMustBeArmed,hj]
    exact mem_armingProblems_iff.mpr ⟨d,hd,j,m,q,hm,hq,by rw [hunarmed]; exact hinvalid',
      by rw [hunarmed]; exact heq⟩

end Arming

section Mechanical

variable {δ : Type} (checker : CompatibilityChecker δ)

def prepend (problems : List GraphProblem) (a : GraphAnalysis) : GraphAnalysis :=
  { a with fleet := { a.fleet with problems := problems ++ a.fleet.problems } }

/-- The derived graph without its problems, the same for every merge actor. -/
def bare (snapshot : RepositorySnapshot) : GraphAnalysis :=
  let a := deriveForActor snapshot .caravan
  { a with fleet := { a.fleet with problems := [] } }

theorem deriveForActor_eq (snapshot : RepositorySnapshot) (actor : HeadMergeActor) :
    deriveForActor snapshot actor = prepend (structuralProblems snapshot actor) (bare snapshot) := by
  unfold prepend bare deriveForActor
  simp

theorem execute_prepend (task : CompatibilityAnalysisTask) (problems : List GraphProblem)
    (a : GraphAnalysis) : task.execute checker (prepend problems a) =
      (prepend problems (task.execute checker a).1,(task.execute checker a).2) := by
  cases task with
  | fleet candidate target prs message =>
    simp only [CompatibilityAnalysisTask.execute]
    cases checker.check candidate target with
    | error e => rfl
    | ok report =>
      simp only [recordCompatibility]
      cases (if report.outcome = .clean then Except.ok ()
        else checker.squashEquivalence report.candidate report.target) with
      | error e => simp [prepend,withProblems]
      | ok u => simp [prepend,withProblems]
  | cumulativeTree candidate target =>
    simp only [CompatibilityAnalysisTask.execute]
    cases checker.cumulativeTree candidate target <;> rfl
  | admissionCandidate candidate target pr =>
    simp only [CompatibilityAnalysisTask.execute]
    cases checker.check candidate target with
    | error e => rfl
    | ok report => simp [prepend,recordCandidateCompatibility]

theorem runTasks_prepend (problems : List GraphProblem) (i : ℕ)
    (tasks : List CompatibilityAnalysisTask) (a : GraphAnalysis) :
    runTasks checker none i tasks (prepend problems a) =
      (runTasks checker none i tasks a).map fun out => (prepend problems out.1,out.2) := by
  induction tasks generalizing i a with
  | nil => rfl
  | cons task rest ih =>
    simp only [runTasks,Option.any_none,Bool.false_eq_true,if_false,execute_prepend,
      Option.isSome_none,Bool.false_and]
    rcases task.execute checker a with ⟨next,error⟩
    cases error with
    | some e => rfl
    | none => exact ih (i + 1) next

def mechanicalProblems (snapshot : RepositorySnapshot) :
    Except (AppError δ) (List GraphProblem) := do
  checker.prepare (preparedBranches snapshot (bare snapshot))
  let out ← runTasks checker none 1 (compatibilityTasks snapshot (bare snapshot)) (bare snapshot)
  return out.1.fleet.problems

def graphProblems (snapshot : RepositorySnapshot) (actor : HeadMergeActor) :
    Except (AppError δ) (List GraphProblem) :=
  (analyzeForActor checker snapshot actor).map fun a => a.fleet.problems

theorem candidateTasks_prepend (problems : List GraphProblem) (a : GraphAnalysis) (selected : ℕ)
    (numbers : List PrNumber) : candidateTasks snapshot (prepend problems a) selected numbers =
      candidateTasks snapshot a selected numbers := by
  induction numbers generalizing selected with
  | nil => rfl
  | cons number rest ih =>
    rw [candidateTasks,candidateTasks]
    simp only [ih]
    rfl

theorem compatibilityTasks_prepend (problems : List GraphProblem) (a : GraphAnalysis) :
    compatibilityTasks snapshot (prepend problems a) = compatibilityTasks snapshot a := by
  have htasks : compatibilityTasks snapshot (prepend problems a) =
      a.fleet.caravans.flatMap (caravanTasks snapshot a) ++ crossTasks a ++
        candidateTasks snapshot (prepend problems a) 0 a.fleet.unqueued := rfl
  rw [htasks,candidateTasks_prepend]
  rfl

theorem graphProblems_eq (snapshot : RepositorySnapshot) (actor : HeadMergeActor) :
    graphProblems checker snapshot actor =
      (mechanicalProblems checker snapshot).map fun added =>
        structuralProblems snapshot actor ++ added := by
  -- A branch is prepared for what the snapshot says of it, whatever the problems are.
  have hprepared (problems : List GraphProblem) : preparedBranches snapshot
    (prepend problems (bare snapshot)) = preparedBranches snapshot (bare snapshot) := rfl
  unfold graphProblems analyzeForActor analyzeForActorInternal mechanicalProblems
  simp only [deriveForActor_eq,Option.any_none,Bool.false_eq_true,if_false,Option.isSome_none,
    Bool.false_and,hprepared,compatibilityTasks_prepend,runTasks_prepend]
  generalize structuralProblems snapshot actor = problems
  cases checker.prepare (preparedBranches snapshot (bare snapshot)) with
  | error e => rfl
  | ok u =>
    generalize runTasks checker none 1 (compatibilityTasks snapshot (bare snapshot))
      (bare snapshot) = result
    cases result <;> rfl

/-- An analysis that succeeds for one merge actor succeeds for the other. -/
theorem graphProblems_other {actor : HeadMergeActor} {problems : List GraphProblem}
    (h : graphProblems checker snapshot actor = .ok problems) (other : HeadMergeActor) :
    ∃ problems', graphProblems checker snapshot other = .ok problems' := by
  rw [graphProblems_eq] at h ⊢
  cases hadded : mechanicalProblems checker snapshot with
  | error e =>
    rw [hadded] at h
    cases h
  | ok added => exact ⟨_,rfl⟩

def MechanicalKind (kind : GraphProblemKind) : Prop :=
  kind = .incompatible ∨ kind = .candidateIncompatible

def AllMechanical (a : GraphAnalysis) : Prop :=
  ∀ problem ∈ a.fleet.problems, MechanicalKind problem.kind

variable {checker}

theorem reported_kind {kind : GraphProblemKind} {report : CompatibilityReport}
    {prs : List PrNumber} {message : String} {problem : GraphProblem}
    (h : problem ∈ reported kind report prs message) : problem.kind = kind := by
  unfold reported at h
  split at h
  · simp at h
  · rw [List.mem_singleton.mp h]

theorem AllMechanical.withProblems {a : GraphAnalysis} (ha : AllMechanical a)
    {kind : GraphProblemKind} (hkind : MechanicalKind kind) (report : CompatibilityReport)
    (prs : List PrNumber) (message : String) :
    AllMechanical (withProblems a (reported kind report prs message)) := by
  intro problem hproblem
  rcases List.mem_append.mp hproblem with hold | hnew
  · exact ha problem hold
  · rw [reported_kind hnew]
    exact hkind

theorem AllMechanical.execute {a : GraphAnalysis} (ha : AllMechanical a)
    (task : CompatibilityAnalysisTask) : AllMechanical (task.execute checker a).1 := by
  cases task with
  | fleet candidate target prs message =>
    simp only [CompatibilityAnalysisTask.execute]
    cases checker.check candidate target with
    | error e => exact ha
    | ok report =>
      have hmarked := ha.withProblems (.inl rfl) report prs message
      simp only [recordCompatibility]
      cases (if report.outcome = .clean then Except.ok ()
        else checker.squashEquivalence report.candidate report.target) <;> exact hmarked
  | cumulativeTree candidate target =>
    simp only [CompatibilityAnalysisTask.execute]
    cases checker.cumulativeTree candidate target <;> exact ha
  | admissionCandidate candidate target pr =>
    simp only [CompatibilityAnalysisTask.execute]
    cases checker.check candidate target with
    | error e => exact ha
    | ok report => exact ha.withProblems (.inr rfl) report [pr] _

theorem AllMechanical.runTasks {a b : GraphAnalysis} (ha : AllMechanical a) {i : ℕ}
    {tasks : List CompatibilityAnalysisTask} {complete : Bool}
    (h : runTasks checker none i tasks a = .ok (b,complete)) : AllMechanical b := by
  induction tasks generalizing i a with
  | nil =>
    cases h
    exact ha
  | cons task rest ih =>
    have hnext := @AllMechanical.execute δ checker a ha task
    simp only [Graph.runTasks,Option.any_none,Bool.false_eq_true,if_false,Option.isSome_none,
      Bool.false_and] at h
    rcases hexecute : task.execute checker a with ⟨next,error⟩
    rw [hexecute] at h hnext
    cases error with
    | some e => cases h
    | none => exact ih hnext h

theorem mechanical_kind {added : List GraphProblem}
    (h : mechanicalProblems checker snapshot = .ok added) :
    ∀ problem ∈ added, MechanicalKind problem.kind := by
  obtain ⟨-,h⟩ := Guard.unit_bind_eq_ok.mp h
  obtain ⟨⟨b,complete⟩,hrun,h⟩ := Guard.bind_eq_ok.mp h
  cases h
  exact AllMechanical.runTasks (fun _ hproblem => absurd hproblem List.not_mem_nil) hrun

end Mechanical

section Introduced

variable {addedBefore addedAfter : List GraphProblem}
  (hbefore : ∀ problem ∈ addedBefore, MechanicalKind problem.kind)
  (hafter : ∀ problem ∈ addedAfter, MechanicalKind problem.kind)
  (hnone : ∀ problem ∈ structuralProblems after .caravan ++ addedAfter,
    problem ∈ structuralProblems before .caravan ++ addedBefore)

include hbefore hnone in
theorem common_of_none : ∀ problem ∈ commonProblems after, problem ∈ commonProblems before := by
  intro problem hproblem
  obtain ⟨hauto,hincompatible,hcandidate⟩ := common_kind hproblem
  have hmem := hnone problem (List.mem_append_left _ (List.mem_append_left _ hproblem))
  rcases List.mem_append.mp hmem with hstructural | hadded
  · rcases List.mem_append.mp hstructural with hcommon | harming
    · exact hcommon
    · exact absurd (arming_kind harming) hauto
  · exact absurd (hbefore problem hadded) (not_or.mpr ⟨hincompatible,hcandidate⟩)

include hbefore hnone in
theorem arming_of_none : ∀ problem ∈ armingProblems after .caravan,
    problem ∈ armingProblems before .caravan := by
  intro problem hproblem
  have hkind := arming_kind hproblem
  have hmem := hnone problem (List.mem_append_left _ (List.mem_append_right _ hproblem))
  rcases List.mem_append.mp hmem with hstructural | hadded
  · rcases List.mem_append.mp hstructural with hcommon | harming
    · exact absurd hkind (common_kind hcommon).1
    · exact harming
  · rcases hbefore problem hadded with hmechanical | hmechanical <;>
      simp [hkind] at hmechanical

include hbefore hafter hnone in
/-- What is new under provider merging when nothing is new under Cara merging. -/
theorem introduced_cases (hlabels : ∀ n p q, ActiveAt (indexOf before) n p →
      ActiveAt (indexOf after) n q →
      q.hasLabel "caravan-parked" = p.hasLabel "caravan-parked") :
    ∀ problem ∈ structuralProblems after .github ++ addedAfter,
      problem ∈ structuralProblems before .github ++ addedBefore ∨
        ∃ n, problem = autoMergeInvariant true 0 n ∧ UnarmedHead after n := by
  intro problem hproblem
  rcases List.mem_append.mp hproblem with hstructural | hadded
  · rcases List.mem_append.mp hstructural with hcommon | harming
    · have hold := common_of_none hbefore hnone problem hcommon
      exact .inl (List.mem_append_left _ (List.mem_append_left _ hold))
    · apply (arming_new_cases hlabels (arming_of_none hbefore hnone) harming).imp_left
      intro hold
      exact List.mem_append_left _ (List.mem_append_right _ hold)
  · left
    have hmem := hnone problem (List.mem_append_right _ hadded)
    rcases List.mem_append.mp hmem with hstructural | hold
    · rcases List.mem_append.mp hstructural with hcommon | harming
      · exact List.mem_append_left _ (List.mem_append_left _ hcommon)
      · have hkind := arming_kind harming
        rcases hafter problem hadded with hmechanical | hmechanical <;>
          simp [hkind] at hmechanical
    · exact List.mem_append_right _ hold

end Introduced

end Graph
end Cara
