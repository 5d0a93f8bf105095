import Cara.Graph
import Cara.Lib.Guard

/-! Mechanical compatibility of a derived fleet. A checker proves heads against the default
branch, adjacent members and pairs of caravans against each other, and the leading candidates;
what is not clean becomes a problem beside the structural ones. -/
namespace Cara

structure CompatibilityChecker (δ : Type) where
  prepare : List BranchSnapshot → Except (AppError δ) Unit
  check : BranchSnapshot → BranchSnapshot → Except (AppError δ) CompatibilityReport
  cumulativeTree : BranchSnapshot → BranchSnapshot → Except (AppError δ) (Option CumulativeTreeProof)
  squashEquivalence : BranchSnapshot → BranchSnapshot → Except (AppError δ) Unit

namespace Graph

/-- How many leading unqueued candidates are proven against the default branch. -/
def leadingCandidateCompatibilityBound : ℕ := 3

inductive CompatibilityAnalysisTask where
  | fleet (candidate target : BranchSnapshot) (prs : List PrNumber) (message : String)
  | cumulativeTree (candidate target : BranchSnapshot)
  | admissionCandidate (candidate target : BranchSnapshot) (pr : PrNumber)
deriving DecidableEq

section Record

variable {δ : Type} (checker : CompatibilityChecker δ) (a : GraphAnalysis)

def reported (kind : GraphProblemKind) (report : CompatibilityReport) (prs : List PrNumber)
    (message : String) : List GraphProblem :=
  if report.outcome = .clean then [] else [⟨kind,prs,message⟩]

def recordCandidateCompatibility (report : CompatibilityReport) (pr : PrNumber) (message : String) :
    GraphAnalysis :=
  { a with
    fleet := { a.fleet with
      problems := a.fleet.problems ++ reported .candidateIncompatible report [pr] message }
    compatibility := a.compatibility ++ [report] }

def withProblems (problems : List GraphProblem) : GraphAnalysis :=
  { a with fleet := { a.fleet with problems := a.fleet.problems ++ problems } }

/-- What one task leaves in the analysis, with the error that stopped it. -/
abbrev Recorded (δ : Type) := GraphAnalysis × Option (AppError δ)

/-- A report with its problem. Squash equivalence is asked for only on a conflict; the problem
stays when that fails. -/
def recordCompatibility (report : CompatibilityReport) (prs : List PrNumber) (message : String) :
    Recorded δ :=
  let marked := withProblems a (reported .incompatible report prs message)
  let asked := if report.outcome = .clean then .ok ()
    else checker.squashEquivalence report.candidate report.target
  match asked with
  | .error e => (marked,some e)
  | .ok () => ({ marked with compatibility := a.compatibility ++ [report] },none)

def CompatibilityAnalysisTask.execute : CompatibilityAnalysisTask → Recorded δ
  | .fleet candidate target prs message =>
      match checker.check candidate target with
      | .error e => (a,some e)
      | .ok report => recordCompatibility checker a report prs message
  | .cumulativeTree candidate target =>
      match checker.cumulativeTree candidate target with
      | .error e => (a,some e)
      | .ok proof => ({ a with cumulativeTrees := a.cumulativeTrees ++ proof.toList },none)
  | .admissionCandidate candidate target pr =>
      match checker.check candidate target with
      | .error e => (a,some e)
      | .ok report => (recordCandidateCompatibility a report pr
          "leading admission candidate does not merge cleanly into the current default branch",none)

end Record

section Tasks

variable (snapshot : RepositorySnapshot) (a : GraphAnalysis)

def headBranch (n : PrNumber) : Option BranchSnapshot := (a.pullRequests[n]?).map (·.head)

/-- The head against the default branch, and every member against the one before it. -/
def caravanTasks (c : Caravan) : List CompatibilityAnalysisTask :=
  match c.head.bind fun n => (headBranch a n).map fun branch => (n,branch) with
  | none => []
  | some (head,branch) =>
      [.fleet branch snapshot.defaultBranch [head]
          "caravan head does not merge cleanly into the current default branch",
        .cumulativeTree branch snapshot.defaultBranch] ++
      (c.members.zip c.members.tail).filterMap fun pair =>
        (headBranch a pair.2).bind fun child => (headBranch a pair.1).map fun parent =>
          .fleet child parent [pair.1,pair.2] "adjacent caravan PRs are not mechanically compatible"

/-- Every unparked head against every other unparked tail. -/
def crossTasks : List CompatibilityAnalysisTask :=
  let unparked := a.fleet.caravans.zipIdx.filter fun entry => !entry.1.parked
  unparked.flatMap fun entry => unparked.filterMap fun other =>
    if entry.2 = other.2 then none
    else entry.1.head.bind fun head => other.1.tail.bind fun tail =>
      (headBranch a head).bind fun headBranch' => (headBranch a tail).map fun tailBranch =>
        .fleet headBranch' tailBranch [head,tail]
          "one caravan head cannot be attached after another caravan tail"

/-- The candidates that compete for the front; `selected` of them were counted before. -/
def candidateTasks : ℕ → List PrNumber → List CompatibilityAnalysisTask
  | _,[] => []
  | selected,number::rest =>
      match a.pullRequests[number]? with
      | none => candidateTasks selected rest
      | some candidate =>
          if candidate.hasLabel "caravan-join-skipped" then candidateTasks selected rest
          else if leadingCandidateCompatibilityBound ≤ selected then candidateTasks selected rest
          else if candidate.crossRepository ∨ candidate.draft then candidateTasks (selected + 1) rest
          else .admissionCandidate candidate.head snapshot.defaultBranch number::
            candidateTasks (selected + 1) rest

def compatibilityTasks : List CompatibilityAnalysisTask :=
  a.fleet.caravans.flatMap (caravanTasks snapshot a) ++ crossTasks a ++
    candidateTasks snapshot a 0 a.fleet.unqueued

/-- The default branch and the members' heads, each revision once. -/
def preparedBranches : List BranchSnapshot :=
  let branches := snapshot.defaultBranch::
    a.fleet.caravans.flatMap fun c => c.members.filterMap (headBranch a)
  (branches.insertionSort fun left right =>
      left.name < right.name ∨ left.name = right.name ∧ left.oid ≤ right.oid).foldr
    (fun branch rest => match rest with
      | next::_ => if branch.name = next.name ∧ branch.oid = next.oid then branch::rest.tail
          else branch::rest
      | [] => [branch]) []

end Tasks

section Analyze

variable {δ : Type} (checker : CompatibilityChecker δ)

/-- Run the tasks in their order. With a deadline, passing it or timing out ends the analysis
with what was completed; `expired i` is whether it has passed before task `i`. -/
def runTasks (expired : Option (ℕ → Bool)) :
    ℕ → List CompatibilityAnalysisTask → GraphAnalysis → Except (AppError δ) (GraphAnalysis × Bool)
  | _,[],a => .ok (a,true)
  | i,task::rest,a =>
      if expired.any (· i) then .ok (a,false)
      else match task.execute checker a with
        | (a,some e) =>
            if expired.isSome && decide (e.category = .timeout) then .ok (a,false) else .error e
        | (a,none) => runTasks expired (i + 1) rest a

def analyzeForActorInternal (snapshot : RepositorySnapshot) (actor : HeadMergeActor)
    (expired : Option (ℕ → Bool)) : Except (AppError δ) (GraphAnalysis × Bool) :=
  let a := deriveForActor snapshot actor
  if expired.any (· 0) then .ok (a,false)
  else match checker.prepare (preparedBranches snapshot a) with
    | .error e =>
        if expired.isSome && decide (e.category = .timeout) then .ok (a,false) else .error e
    | .ok () => runTasks checker expired 1 (compatibilityTasks snapshot a) a

def analyzeForActor (snapshot : RepositorySnapshot) (actor : HeadMergeActor) :
    Except (AppError δ) GraphAnalysis := do
  let out ← analyzeForActorInternal checker snapshot actor none
  return out.1

end Analyze

section Kept

structure Kept (a b : GraphAnalysis) : Prop where
  caravans : b.fleet.caravans = a.fleet.caravans
  pullRequests : b.pullRequests = a.pullRequests
  problems : ∀ problem ∈ a.fleet.problems, problem ∈ b.fleet.problems

theorem Kept.refl (a : GraphAnalysis) : Kept a a := ⟨rfl,rfl,fun _ h => h⟩

theorem Kept.trans {a b c : GraphAnalysis} (hab : Kept a b) (hbc : Kept b c) : Kept a c :=
  ⟨hbc.caravans.trans hab.caravans,hbc.pullRequests.trans hab.pullRequests,
    fun problem h => hbc.problems problem (hab.problems problem h)⟩

variable {δ : Type} {checker : CompatibilityChecker δ} {a b : GraphAnalysis}

theorem withProblems_kept (problems : List GraphProblem) : Kept a (withProblems a problems) :=
  ⟨rfl,rfl,fun _ h => List.mem_append_left _ h⟩

theorem recordCompatibility_kept (report : CompatibilityReport) (prs : List PrNumber)
    (message : String) : Kept a (recordCompatibility checker a report prs message).1 := by
  have hmarked := withProblems_kept (a := a) (reported .incompatible report prs message)
  rw [recordCompatibility]
  split
  · exact hmarked
  · exact ⟨hmarked.caravans,hmarked.pullRequests,hmarked.problems⟩

theorem execute_kept (task : CompatibilityAnalysisTask) : Kept a (task.execute checker a).1 := by
  cases task with
  | fleet candidate target prs message =>
    rw [CompatibilityAnalysisTask.execute]
    split
    · exact .refl a
    · exact recordCompatibility_kept _ _ _
  | cumulativeTree candidate target =>
    rw [CompatibilityAnalysisTask.execute]
    split
    · exact .refl a
    · exact ⟨rfl,rfl,fun _ h => h⟩
  | admissionCandidate candidate target pr =>
    rw [CompatibilityAnalysisTask.execute]
    split
    · exact .refl a
    · exact ⟨rfl,rfl,fun _ h => List.mem_append_left _ h⟩

theorem runTasks_kept {expired : Option (ℕ → Bool)} {i : ℕ} {tasks : List CompatibilityAnalysisTask}
    {complete : Bool} (h : runTasks checker expired i tasks a = .ok (b,complete)) : Kept a b := by
  induction tasks generalizing i a with
  | nil =>
    cases h
    exact .refl _
  | cons task rest ih =>
    have hkept : Kept a (task.execute checker a).1 := execute_kept task
    rw [runTasks] at h
    split at h
    · cases h
      exact .refl _
    · rcases hexecute : task.execute checker a with ⟨next,error⟩
      rw [hexecute] at h hkept
      cases error with
      | some e =>
        simp only at h
        split at h
        · cases h
          exact hkept
        · cases h
      | none => exact hkept.trans (ih h)

variable {snapshot : RepositorySnapshot} {actor : HeadMergeActor}

theorem analyzeForActorInternal_kept {expired : Option (ℕ → Bool)} {complete : Bool}
    (h : analyzeForActorInternal checker snapshot actor expired = .ok (b,complete)) :
    Kept (deriveForActor snapshot actor) b := by
  rw [analyzeForActorInternal] at h
  split at h
  · cases h
    exact .refl _
  · split at h
    · split at h
      · cases h
        exact .refl _
      · cases h
    · exact runTasks_kept h

theorem analyzeForActor_kept (h : analyzeForActor checker snapshot actor = .ok b) :
    Kept (deriveForActor snapshot actor) b := by
  obtain ⟨out,hout,h⟩ := Guard.bind_eq_ok.mp h
  cases h
  exact analyzeForActorInternal_kept hout

end Kept

section Collected

variable {δ : Type} {checker : CompatibilityChecker δ} {a b : GraphAnalysis}

/-- What every completed task appends to one field of the analysis is there at the end, in the
order of the tasks. -/
theorem runTasks_collects {β : Type} {f : GraphAnalysis → List β}
    {g : CompatibilityAnalysisTask → List β}
    (hadds : ∀ a task,(task.execute checker a).2 = none →
      f (task.execute checker a).1 = f a ++ g task)
    {i : ℕ} {tasks : List CompatibilityAnalysisTask} {complete : Bool}
    (h : runTasks checker none i tasks a = .ok (b,complete)) :
    f b = f a ++ tasks.flatMap g := by
  induction tasks generalizing i a with
  | nil =>
    cases h
    simp
  | cons task rest ih =>
    have htask := hadds a task
    simp only [runTasks,Option.any_none,Bool.false_eq_true,if_false,Option.isSome_none,
      Bool.false_and] at h
    rcases hexecute : task.execute checker a with ⟨next,error⟩
    rw [hexecute] at h htask
    cases error with
    | some e => cases h
    | none => rw [ih h,htask rfl,List.flatMap_cons,List.append_assoc]

theorem analyzeForActor_collects {β : Type} {f : GraphAnalysis → List β}
    {g : CompatibilityAnalysisTask → List β}
    (hadds : ∀ a task,(task.execute checker a).2 = none →
      f (task.execute checker a).1 = f a ++ g task)
    {snapshot : RepositorySnapshot} {actor : HeadMergeActor}
    (h : analyzeForActor checker snapshot actor = .ok b) :
    f b = f (deriveForActor snapshot actor) ++
      (compatibilityTasks snapshot (deriveForActor snapshot actor)).flatMap g := by
  obtain ⟨out,hout,h⟩ := Guard.bind_eq_ok.mp h
  cases h
  simp only [analyzeForActorInternal,Option.any_none,Bool.false_eq_true,if_false,
    Option.isSome_none,Bool.false_and] at hout
  split at hout
  · cases hout
  · exact runTasks_collects hadds hout

end Collected

end Graph
end Cara
