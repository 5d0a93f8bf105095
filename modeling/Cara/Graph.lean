import Cara.Model
import Cara.RequiredRuns
import Cara.Lib.Grouping
import Cara.Lib.LinearWalk
import Mathlib.Data.List.Sort

/-! Structural derivation of the caravans from one discovery snapshot. Chains are rebuilt
from branch names: pull requests are indexed by number, active members by head branch,
every active member is placed as a root or as the child of one parent, and the members
are then claimed by walks that share one visited set. -/
namespace Cara
open Std

abbrev PullRequestMap := ExtTreeMap PrNumber PullRequestSnapshot

structure GraphAnalysis where
  fleet : CaravanFleet
  pullRequests : PullRequestMap
  /-- The landing branch's required checks, once they were read. -/
  requiredPolicy : Option RequiredRuns.RequiredContextsRead := none
  compatibility : List CompatibilityReport := []
  cumulativeTrees : List CumulativeTreeProof := []

namespace GraphAnalysis

/-- Whether one problem gates the active fleet rather than quarantined parked caravans. A
problem with no identifiable caravan fails closed. -/
def problemBlocksActiveFleet (a : GraphAnalysis) (problem : GraphProblem) : Bool :=
  let touched := problem.prs.filterMap a.fleet.containing
  problem.kind.blocksFleet && (touched.any (fun c => !c.parked) || touched.isEmpty)

def healthy (a : GraphAnalysis) : Bool := !a.fleet.problems.any a.problemBlocksActiveFleet

end GraphAnalysis

namespace Graph

def rowsOf (prs : PullRequestMap) : List PullRequestSnapshot := prs.toList.map Prod.snd

def duplicateRow (number : PrNumber) : GraphProblem where
  kind := .duplicateMember
  prs := [number]
  message := "PR #" ++ toString number ++ " appeared more than once in one discovery snapshot"

/-- Index the rows by number. A repeated number keeps its last row and is reported. -/
def collectPullRequests (rows : List PullRequestSnapshot) : PullRequestMap × List GraphProblem :=
  rows.foldl (fun acc p => (acc.1.insert p.number p,
    if p.number ∈ acc.1 then acc.2 ++ [duplicateRow p.number] else acc.2)) (∅,[])

/-- Branches of labelled pull requests in one terminal state, by their largest number. -/
def numbersByHead (state : PullRequestState) (prs : PullRequestMap) :
    ExtTreeMap String PrNumber :=
  Grouping.indexRows (((rowsOf prs).filter fun p =>
    decide (p.state = state) && p.hasLabel "caravan").map fun p => (p.head.name,p.number))

def mergedByHead : PullRequestMap → ExtTreeMap String PrNumber := numbersByHead .merged

/-- Members closed without merging, so that a stranded child can name what left. -/
def departedByHead : PullRequestMap → ExtTreeMap String PrNumber := numbersByHead .closed

def dissolvedMember (number : PrNumber) : GraphProblem where
  kind := .dissolvedMember
  prs := [number]
  message := "caravan member #" ++ toString number ++ " was closed without merging, so its " ++
    "caravan no longer exists; requeue the work through its successor or remove the `caravan` " ++
    "label to acknowledge the dissolution"

def activeAndEvicted (number : PrNumber) : GraphProblem where
  kind := .activeAndEvicted
  prs := [number]
  message := "PR #" ++ toString number ++ " has both caravan and caravan-evicted labels"

def membershipProblems (p : PullRequestSnapshot) : List GraphProblem :=
  (if p.state = .closed ∧ p.hasLabel "caravan" then [dissolvedMember p.number] else []) ++
  (if p.state = .open ∧ p.hasLabel "caravan" ∧ p.hasLabel "caravan-evicted" then
    [activeAndEvicted p.number] else [])

def activeMembers (prs : PullRequestMap) : PullRequestMap :=
  prs.filter fun _ p => p.isActiveCaravanMember

/-- Active members by head branch, each list in number order. -/
def headsByBranch (active : PullRequestMap) : ExtTreeMap String (List PrNumber) :=
  (Grouping.groupRows ((rowsOf active).map fun p => (p.head.name,p.number))).map
    fun _ members => members.insertionSort (· ≤ ·)

def forkOnlyPredecessor (number : PrNumber) : GraphProblem where
  kind := .forkOnlyPredecessor
  prs := [number]
  message := "PR #" ++ toString number ++
    " has a fork-only head branch which cannot be a GitHub PR base"

def forkProblems (repository : RepositoryId) (p : PullRequestSnapshot) : List GraphProblem :=
  if p.crossRepository ∨ p.head.repository ≠ repository then [forkOnlyPredecessor p.number] else []

def sharedHead (members : List PrNumber) : GraphProblem where
  kind := .duplicateMember
  prs := members
  message := "multiple active PRs expose the same head branch"

def sharedHeadProblems (heads : ExtTreeMap String (List PrNumber)) : List GraphProblem :=
  heads.toList.filterMap fun entry =>
    if 1 < entry.2.length then some (sharedHead entry.2) else none

/-- Where one active member hangs: it starts a walk, with or without a problem, or it is
the child of exactly one parent. -/
inductive Placement where
  | root (problem : Option GraphProblem)
  | child (parent : PrNumber)
deriving DecidableEq

def reusedBranch (p : PullRequestSnapshot) (parent reused : PrNumber) : GraphProblem where
  kind := .reusedBranchProvenance
  prs := [p.number,parent,reused]
  message := "PR #" ++ toString p.number ++ " records base `" ++ p.base.name ++ "` at " ++
    p.base.oid ++ " but active PR #" ++ toString parent ++ " now holds that branch; a merged " ++
    "caravan member also used it, so the predecessor is ambiguous"

def ambiguousParent (p : PullRequestSnapshot) (parents : List PrNumber) : GraphProblem where
  kind := .multipleHeads
  prs := p.number::parents
  message := "PR #" ++ toString p.number ++ " targets ambiguous branch `" ++ p.base.name ++ "`"

def danglingBase (defaultName : String) (p : PullRequestSnapshot)
    (merged departed : Option PrNumber) : GraphProblem where
  kind := .danglingBase
  prs := p.number::(merged.toList ++ departed.toList)
  message := match merged,departed with
    | some merged,_ => "PR #" ++ toString p.number ++ " still targets merged predecessor #" ++
        toString merged ++ "; sync must advance it to `" ++ defaultName ++ "`"
    | none,some departed => "PR #" ++ toString p.number ++ " is stranded on branch `" ++
        p.base.name ++ "` of caravan member #" ++ toString departed ++
        ", which was closed without merging; the caravan lost that member and this PR must be " ++
        "rebased onto `" ++ defaultName ++ "` or evicted"
    | none,none => "PR #" ++ toString p.number ++ " targets non-member branch `" ++
        p.base.name ++ "`"

/-- A parent found by branch name must hold the recorded base revision when a merged
member used the same name. -/
def placeUnder (prs : PullRequestMap) (p : PullRequestSnapshot) (parent : PrNumber) : Placement :=
  let provenanceMatches := ((activeMembers prs)[parent]?).all fun q =>
    decide (q.head.oid = p.base.oid)
  match (mergedByHead prs)[p.base.name]? with
  | some reused =>
      if provenanceMatches then .child parent else .root (some (reusedBranch p parent reused))
  | none => .child parent

def placeDangling (defaultName : String) (prs : PullRequestMap) (p : PullRequestSnapshot) :
    Placement :=
  let merged := (mergedByHead prs)[p.base.name]?
  let departed := if merged.isNone then (departedByHead prs)[p.base.name]? else none
  .root (some (danglingBase defaultName p merged departed))

/-- Placement of one active member by the name of its base branch. -/
def placement (defaultName : String) (prs : PullRequestMap) (p : PullRequestSnapshot) :
    Placement :=
  if p.base.name = defaultName then .root none
  else match (headsByBranch (activeMembers prs))[p.base.name]? with
    | some [parent] => placeUnder prs p parent
    | some parents => .root (some (ambiguousParent p parents))
    | none => placeDangling defaultName prs p

namespace Placement

def problem? : Placement → Option GraphProblem
  | root problem => problem
  | child _ => none

def parent? : Placement → Option PrNumber
  | root _ => none
  | child parent => some parent

end Placement

def parentRows (defaultName : String) (prs : PullRequestMap) : List (PrNumber × PrNumber) :=
  (rowsOf (activeMembers prs)).filterMap fun p =>
    (placement defaultName prs p).parent?.map fun parent => (p.number,parent)

def parentOf (defaultName : String) (prs : PullRequestMap) : ExtTreeMap PrNumber PrNumber :=
  Grouping.indexRows (parentRows defaultName prs)

def childrenOf (defaultName : String) (prs : PullRequestMap) :
    ExtTreeMap PrNumber (List PrNumber) :=
  (Grouping.groupRows ((parentRows defaultName prs).map Prod.swap)).map
    fun _ children => children.insertionSort (· ≤ ·)

def rootNumbers (defaultName : String) (prs : PullRequestMap) : List PrNumber :=
  ((rowsOf (activeMembers prs)).filter fun p =>
    (placement defaultName prs p).parent?.isNone).map (·.number)

def branching (parent : PrNumber) (children : List PrNumber) : GraphProblem where
  kind := .branching
  prs := parent::children
  message := "PR #" ++ toString parent ++ " has multiple active caravan children"

/-- The parent named for a crowded child list is found through the first listed child. -/
def branchingProblems (parents : ExtTreeMap PrNumber PrNumber)
    (children : ExtTreeMap PrNumber (List PrNumber)) : List GraphProblem :=
  children.toList.filterMap fun entry =>
    if 1 < entry.2.length then
      (parents.toList.findSome? fun row => if row.1 ∈ entry.2 then some row.2 else none).map
        fun parent => branching parent entry.2
    else none

def cycleProblem (cycle : List PrNumber) : GraphProblem where
  kind := .cycle
  prs := cycle
  message := "active caravan base graph contains a cycle"

def detectCycles (active : PullRequestMap) (parents : ExtTreeMap PrNumber PrNumber) :
    List GraphProblem :=
  (active.keys.foldl (fun recorded start =>
    match LinearWalk.trail (fun n => parents[n]?) (active.size + 1) start [] with
    | none => recorded
    | some path =>
        let cycle := path.insertionSort (· ≤ ·)
        if cycle ∈ recorded then recorded else recorded ++ [cycle]) []).map cycleProblem

def soleChild (children : ExtTreeMap PrNumber (List PrNumber)) (number : PrNumber) :
    Option PrNumber :=
  match children[number]? with
  | some [child] => some child
  | _ => none

def walkLinear (children : ExtTreeMap PrNumber (List PrNumber)) (fuel : ℕ) (root : PrNumber)
    (visited : Finset PrNumber) : List PrNumber × Finset PrNumber :=
  LinearWalk.walk (soleChild children) fuel root visited

def missingHead (members : List PrNumber) : GraphProblem where
  kind := .missingHead
  prs := members
  message := "active component has no unique default-branch head"

/-- The walks of the roots, then those of the members that no root reaches. -/
def memberWalks (defaultName : String) (prs : PullRequestMap) :
    List (List PrNumber) × List (List PrNumber) :=
  let active := activeMembers prs
  let next := soleChild (childrenOf defaultName prs)
  let rooted := LinearWalk.walks next (active.size + 1) (rootNumbers defaultName prs) ∅
  (rooted.1,(LinearWalk.walks next (active.size + 1) active.keys rooted.2).1)

def isParked (active : PullRequestMap) (c : Caravan) : Bool :=
  (active[c.id]?).any fun head => head.hasLabel "caravan-parked"

def deriveCaravans (defaultName : String) (prs : PullRequestMap) : List Caravan :=
  let walks := memberWalks defaultName prs
  (((walks.1 ++ walks.2).filterMap Caravan.new).insertionSort fun a b => a.id ≤ b.id).map
    fun c => { c with parked := isParked (activeMembers prs) c }

def autoMergeInvariant (rootMustBeArmed : Bool) (position : ℕ) (number : PrNumber) :
    GraphProblem where
  kind := .autoMergeInvariant
  prs := [number]
  message :=
    if rootMustBeArmed then
      "caravan head #" ++ toString number ++ " must have squash auto-merge enabled"
    else if position = 0 then
      "caravan head #" ++ toString number ++ " must not delegate merging to native auto-merge; " ++
        "cara is the single merge actor"
    else "non-head caravan PR #" ++ toString number ++ " must have auto-merge disabled"

/-- Delegated merging arms exactly the unparked root; caravan-owned merging arms nobody. -/
def rootMustBeArmed (actor : HeadMergeActor) (c : Caravan) (position : ℕ) : Bool :=
  actor.isGithub && decide (position = 0) && !c.parked

def autoMergeValid (armed : Bool) (p : PullRequestSnapshot) : Bool :=
  if armed then p.autoMerge.enabled && decide (p.autoMerge.mergeMethod = some .squash)
  else !p.autoMerge.enabled

def autoMergeProblems (actor : HeadMergeActor) (active : PullRequestMap) (c : Caravan) :
    List GraphProblem :=
  c.members.zipIdx.filterMap fun (number,position) =>
    let armed := rootMustBeArmed actor c position
    (active[number]?).bind fun p =>
      if autoMergeValid armed p then none else some (autoMergeInvariant armed position number)

def unqueuedNumbers (prs : PullRequestMap) : List PrNumber :=
  ((rowsOf prs).filter fun p => decide (p.state = .open) && !p.draft && !p.hasLabel "caravan" &&
    !p.hasLabel "caravan-evicted").map (·.number)

def caravanHistory (rows : List PullRequestSnapshot) : CaravanHistory :=
  let merged := rows.filter fun p => decide (p.state = .merged) && p.hasLabel "caravan"
  let stamps := (merged.filterMap (·.mergedAt)).insertionSort (· ≤ ·)
  { mergedMembersObserved := merged.length
    earliestMergedAt := stamps.head?
    latestMergedAt := stamps.getLast?
    unlabelledMergedRows :=
      (rows.filter fun p => decide (p.state = .merged) && !p.hasLabel "caravan").length }

/-- All structural problems, in the order in which the passes report them. -/
def structuralProblems (snapshot : RepositorySnapshot) (actor : HeadMergeActor) :
    List GraphProblem :=
  let defaultName := snapshot.defaultBranch.name
  let collected := collectPullRequests snapshot.pullRequests
  let prs := collected.1
  let active := activeMembers prs
  collected.2 ++
    (rowsOf prs).flatMap membershipProblems ++
    (rowsOf active).flatMap (forkProblems snapshot.repository) ++
    sharedHeadProblems (headsByBranch active) ++
    (rowsOf active).filterMap (fun p => (placement defaultName prs p).problem?) ++
    branchingProblems (parentOf defaultName prs) (childrenOf defaultName prs) ++
    detectCycles active (parentOf defaultName prs) ++
    (memberWalks defaultName prs).2.map missingHead ++
    (deriveCaravans defaultName prs).flatMap (autoMergeProblems actor active)

def deriveForActor (snapshot : RepositorySnapshot) (actor : HeadMergeActor) : GraphAnalysis :=
  let prs := (collectPullRequests snapshot.pullRequests).1
  { fleet :=
      { repository := snapshot.repository
        defaultBranch := snapshot.defaultBranch
        caravans := deriveCaravans snapshot.defaultBranch.name prs
        unqueued := unqueuedNumbers prs
        problems := structuralProblems snapshot actor
        history := caravanHistory snapshot.pullRequests }
    pullRequests := prs }

end Graph

end Cara
