import Cara.Lib.Conversation
import Cara.Lib.Fields
import Cara.Lib.Vec
import Cara.PhysicalRebase
import Mathlib.Data.List.Sort
import Mathlib.Data.String.Basic

/-! Squash-equivalence of a candidate's earliest commits with the target: a linear prefix whose changes the
target holds byte for byte need not be replayed. -/
namespace Cara
namespace SquashEquivalence

open Prog (send ofResult)

section Git

structure CommandOutput where
  code : Option ℤ
  stdout : String
  stderr : String
deriving DecidableEq

def CommandOutput.isSuccess (output : CommandOutput) : Bool := decide (output.code = some 0)

structure GitCommand where
  arguments : List String
  stdin : Option String := none
deriving DecidableEq

inductive CommandRunError where
  | outputLimit (message : String)
  | timeout (message : String)
  | failed (message : String)
deriving DecidableEq

abbrev GitError := AppError (List (String × String))

def commandRunError : CommandRunError → GitError
  | .outputLimit message => { category := .executionFailure,code := "command_output_limit",message := message }
  | .timeout message => { category := .timeout,code := "git_compatibility_timeout",message := message }
  | .failed message => { category := .executionFailure,code := "git_command_failed",message := message }

def bytesPrefix : ℕ → List Char → List Char
  | _,[] => []
  | room,c::cs => if c.utf8Size ≤ room then c::bytesPrefix (room - c.utf8Size) cs else []

def boundedText (text : String) : String :=
  if text.utf8ByteSize ≤ 4096 then text
  else String.ofList (bytesPrefix 4096 text.toList) ++ "…[truncated]"

def gitFailure (code message : String) (output : CommandOutput) : GitError where
  category := .executionFailure
  code := code
  message := message
  details := some [("exit_code",(output.code.map toString).getD "null"),("stdout",boundedText output.stdout),
    ("stderr",boundedText output.stderr)]

def malformedGitOutput (code message : String) (output : CommandOutput) : GitError where
  category := .executionFailure
  code := code
  message := message
  details := some [("stdout",boundedText output.stdout),("stderr",boundedText output.stderr)]

abbrev Git := Prog.Fallible GitCommand (Except CommandRunError CommandOutput) GitError

def ask {α : Type} (command : GitCommand) (read : CommandOutput → Except GitError α) : Git α := do
  let answer ← send command
  let output ← ofResult (answer.mapError commandRunError)
  ofResult (read output)

def validFullOid (value : String) : Bool :=
  decide (value.utf8ByteSize = 40 ∨ value.utf8ByteSize = 64) && value.toList.all PhysicalRebase.isAsciiHexDigit

def linesOf (output : CommandOutput) : List (List Char) := Text.lines output.stdout.toList

end Git

section Objects

def mergeBaseCommand (candidateOid targetOid : CommitOid) : GitCommand :=
  ⟨["merge-base","--all",targetOid,candidateOid],none⟩

def isBlankLine (line : List Char) : Bool := (Text.trim line).isEmpty

def readMergeBase (output : CommandOutput) : Except GitError (Option CommitOid) :=
  if output.code = some 0 then
    match (linesOf output).filter fun line => !isBlankLine line with
    | [line] =>
        let base := String.ofList (Text.trim line)
        if validFullOid base then .ok (some base)
        else .error (malformedGitOutput "merge_base_output_invalid" "git merge-base returned an invalid object ID"
          output)
    | _ => .ok none
  else if output.code = some 1 then .ok none
  else .error (gitFailure "merge_base_failed" "git merge-base could not evaluate the candidate range boundary"
    output)

def treeRevision (commit : CommitOid) : String := commit ++ "^\x7btree\x7d"

def commitTreeCommand (commit : CommitOid) : GitCommand := ⟨["rev-parse",treeRevision commit],none⟩

def readCommitTree (output : CommandOutput) : Except GitError CommitOid := do
  Guard.refuse (!output.isSuccess)
    (gitFailure "commit_tree_failed" "git rev-parse could not resolve the exact commit tree" output)
  let tree := Text.trimmed output.stdout
  Guard.refuse (!validFullOid tree) (malformedGitOutput "commit_tree_output_invalid"
    "git rev-parse returned an invalid tree object ID" output)
  return tree

def mergeTreeCommand (candidateOid targetOid : CommitOid) (base : Option CommitOid) : GitCommand :=
  ⟨["merge-tree","--write-tree","--name-only","--no-messages","-z"] ++
    base.toList.map ("--merge-base=" ++ ·) ++ [targetOid,candidateOid],none⟩

structure MergeTree where
  outcome : CompatibilityOutcome
  tree : CommitOid
  conflictingPaths : List String
deriving DecidableEq

def mergeTreeOutcome (output : CommandOutput) : Except GitError CompatibilityOutcome :=
  if output.code = some 0 then .ok .clean
  else if output.code = some 1 then .ok .conflict
  else .error (gitFailure "merge_tree_failed" "git merge-tree could not construct compatibility evidence" output)

def readMergeTree (output : CommandOutput) : Except GitError MergeTree := do
  let outcome ← mergeTreeOutcome output
  let fields := Text.split Text.nul output.stdout.toList
  let tree := String.ofList (fields.headD [])
  Guard.refuse (decide (tree = "")) (malformedGitOutput "merge_tree_output_invalid"
    "git merge-tree did not return a result tree" output)
  Guard.refuse (!validFullOid tree) (malformedGitOutput "merge_tree_output_invalid"
    "git merge-tree returned an invalid result tree object ID" output)
  let paths := (fields.tail.filter fun field => !field.isEmpty).map String.ofList
  Guard.refuse (decide (outcome = .clean ∧ paths ≠ [])) (malformedGitOutput "merge_tree_output_invalid"
    "git merge-tree reported conflict paths with a clean exit status" output)
  return ⟨outcome,tree,paths⟩

end Objects

section Chain

def maxAnalyzedPrefixCommits : ℕ := 256

def revListCommand (candidateOid mergeBase : CommitOid) : GitCommand :=
  ⟨["rev-list","--reverse","--topo-order","--parents",candidateOid,"^" ++ mergeBase],none⟩

structure PrefixChain where
  commits : List CommitOid
  totalCommits : ℕ
deriving DecidableEq

/-- The walk ends at the first line that does not name one parent, the commit before it. -/
def walkChain (output : CommandOutput) : ℕ → CommitOid → List (List Char) → Except GitError (List CommitOid)
  | 0,_,_ => .ok []
  | _,_,[] => .ok []
  | room + 1,expectedParent,line::rest =>
      match (Text.words line).map String.ofList with
      | [] => .ok []
      | oid::parents =>
          if !validFullOid oid then
            .error (malformedGitOutput "rev_list_output_invalid" "git rev-list returned an invalid object ID" output)
          else if parents = [expectedParent] then (walkChain output room oid rest).map (oid::·)
          else .ok []

def linearPrefixChain (mergeBase : CommitOid) (output : CommandOutput) : Except GitError PrefixChain := do
  Guard.refuse (!output.isSuccess)
    (gitFailure "rev_list_failed" "git rev-list could not enumerate the exact candidate-only range" output)
  let commits ← walkChain output maxAnalyzedPrefixCommits mergeBase (linesOf output)
  return ⟨commits,(linesOf output).length⟩

end Chain

section Diff

structure DiffTarget where
  mode : String
  blob : String
deriving DecidableEq

def DiffTarget.deleted (t : DiffTarget) : Bool := t.mode.toList.all fun c => decide (c = '0')

/-- The records of a diff as they were read. A later record of a path replaces an earlier one. -/
abbrev DiffEntries := List (String × DiffTarget)

def entryOf (entries : DiffEntries) (path : String) : Option DiffTarget :=
  (entries.reverse.find? fun entry => decide (entry.1 = path)).map (·.2)

def pathsOf (entries : DiffEntries) : List String :=
  Vec.dedupAdjacent ((entries.map (·.1)).insertionSort (· ≤ ·))

def diffCommand (source target : CommitOid) : GitCommand :=
  ⟨["diff-tree","-r","-z","--no-commit-id","--no-renames",source,target],none⟩

def replacement : Char := Char.ofNat 0xfffd

def readMeta (output : CommandOutput) (raw : List Char) : Except GitError DiffTarget :=
  match raw with
  | [] => .error (malformedGitOutput "diff_tree_output_invalid"
      "git diff-tree returned a record without a raw-format marker" output)
  | c::record =>
      if c ≠ ':' then .error (malformedGitOutput "diff_tree_output_invalid"
        "git diff-tree returned a record without a raw-format marker" output)
      else match (Text.words record).map String.ofList with
        | _::mode::_::blob::_::_ => .ok ⟨mode,blob⟩
        | _ => .error (malformedGitOutput "diff_tree_output_invalid"
            "git diff-tree returned an incomplete raw record" output)

def diffRecords (output : CommandOutput) : List (List Char) → Except GitError (Option DiffEntries)
  | [] => .ok (some [])
  | [raw] => do
      let _ ← readMeta output raw
      .error (malformedGitOutput "diff_tree_output_invalid"
        "git diff-tree returned a raw record without a path" output)
  | raw::path::rest => do
      let target ← readMeta output raw
      if replacement ∈ path then return none
      else
        let entries ← diffRecords output rest
        return entries.map ((String.ofList path,target)::·)

def diffEntries (output : CommandOutput) : Except GitError (Option DiffEntries) := do
  Guard.refuse (!output.isSuccess) (gitFailure "diff_tree_failed"
    "git diff-tree could not construct exact cumulative content evidence" output)
  diffRecords output (Text.nulFields output.stdout.toList)

end Diff

section Report

inductive SquashEquivalenceOutcome where
  | noEquivalence
  | reconcilable
  | residualConflict
  | indeterminate
deriving DecidableEq

inductive ReconciliationAction where
  | dropped
  | retained
deriving DecidableEq

structure RepresentedPath where
  path : String
  mode : String
  blob : String
  deleted : Bool
deriving DecidableEq

structure AnalyzedCommit where
  oid : CommitOid
  treeOid : CommitOid
  action : ReconciliationAction
  paths : List String := []
deriving DecidableEq

structure MergeEvidence where
  mergeBase : CommitOid
  outcome : CompatibilityOutcome
  resultTree : CommitOid
  conflictingPaths : List String := []
deriving DecidableEq

structure SquashEquivalenceReport where
  candidate : BranchSnapshot
  target : BranchSnapshot
  candidateOid : CommitOid
  targetOid : CommitOid
  mergeBase : Option CommitOid := none
  outcome : SquashEquivalenceOutcome := .indeterminate
  before : Option MergeEvidence := none
  after : Option MergeEvidence := none
  provenBoundary : Option CommitOid := none
  boundaryTree : Option CommitOid := none
  targetTree : Option CommitOid := none
  commits : List AnalyzedCommit := []
  representedPaths : List RepresentedPath := []
  representedPathsTruncated : Bool := false
  candidateCommitCount : ℕ := 0
  analyzedPrefixComplete : Bool := false
  evaluatedBoundaries : ℕ := 0
  evaluationBounded : Bool := false
  reason : String := ""
deriving DecidableEq

namespace SquashEquivalenceReport

variable (report : SquashEquivalenceReport)

def commitsWith (action : ReconciliationAction) : List CommitOid :=
  (report.commits.filter fun commit => decide (commit.action = action)).map (·.oid)

def droppedCommits : List CommitOid := report.commitsWith .dropped

def retainedCommits : List CommitOid := report.commitsWith .retained

end SquashEquivalenceReport

end Report

section Analysis

def maxEvaluatedBoundaries : ℕ := 64

def maxReceiptPaths : ℕ := 512

def usizeMax : ℕ := 18446744073709551615

def commitTreesCommand (commits : List CommitOid) : GitCommand :=
  ⟨["cat-file","--batch-check=%(objectname) %(objecttype)"],
    some (String.join (commits.map fun commit => treeRevision commit ++ "\n"))⟩

def readTreeLine (output : CommandOutput) (line : List Char) : Except GitError CommitOid :=
  match (Text.words line).map String.ofList with
  | oid::kind::_ =>
      if kind ≠ "tree" then .error (malformedGitOutput "commit_tree_batch_invalid"
        "git cat-file did not resolve an expected commit tree" output)
      else if !validFullOid oid then .error (malformedGitOutput "commit_tree_batch_invalid"
        "git cat-file returned an invalid tree object ID" output)
      else .ok oid
  | _ => .error (malformedGitOutput "commit_tree_batch_invalid"
      "git cat-file did not resolve an expected commit tree" output)

def readCommitTrees (count : ℕ) (output : CommandOutput) : Except GitError (List CommitOid) := do
  Guard.refuse (!output.isSuccess) (gitFailure "commit_tree_batch_failed"
    "git cat-file could not resolve the exact commit trees" output)
  let trees ← (linesOf output).mapM (readTreeLine output)
  Guard.refuse (decide (trees.length ≠ count)) (malformedGitOutput "commit_tree_batch_invalid"
    "git cat-file returned an unexpected number of commit trees" output)
  return trees

def commitTrees (commits : List CommitOid) : Git (List CommitOid) :=
  if commits = [] then pure []
  else ask (commitTreesCommand commits) (readCommitTrees commits.length)

def receiptPaths (entries : Option DiffEntries) : List String := (pathsOf (entries.getD [])).take maxReceiptPaths

/-- Only dropped commits are asked for the paths they changed. -/
def changedPaths (action : ReconciliationAction) (parent oid : CommitOid) : Git (List String) :=
  if action = .dropped then do
    let entries ← ask (diffCommand parent oid) diffEntries
    return receiptPaths entries
  else pure []

def describeRows (droppedThrough : ℕ) (droppedAction : ReconciliationAction) :
    CommitOid → List ((CommitOid × ℕ) × CommitOid) → Git (List AnalyzedCommit)
  | _,[] => pure []
  | parent,((oid,index),tree)::rest => do
      let action := if index ≤ droppedThrough then droppedAction else .retained
      let paths ← changedPaths action parent oid
      let others ← describeRows droppedThrough droppedAction oid rest
      return ⟨oid,tree,action,paths⟩::others

def describeCommits (mergeBase : CommitOid) (commits : List CommitOid) (droppedThrough : ℕ)
    (droppedAction : ReconciliationAction) : Git (List AnalyzedCommit) := do
  let trees ← commitTrees commits
  describeRows droppedThrough droppedAction mergeBase (commits.zipIdx.zip trees)

def represented (target cumulative : DiffEntries) : Bool :=
  !cumulative.isEmpty && cumulative.all fun entry => decide (entryOf target entry.1 = entryOf cumulative entry.1)

inductive BoundarySearch where
  | unrepresentable
  | exhausted
  | proven (index : ℕ) (boundary : CommitOid) (entries : DiffEntries)

/-- The boundaries with an index below the given one, from the last down. -/
def searchBoundary (mergeBase : CommitOid) (target : DiffEntries) (commits : List CommitOid) : ℕ → Git BoundarySearch
  | 0 => pure .exhausted
  | index + 1 => do
      let boundary := commits.getD index ""
      match ← ask (diffCommand mergeBase boundary) diffEntries with
      | none => return .unrepresentable
      | some entries =>
          if represented target entries then return .proven index boundary entries
          else searchBoundary mergeBase target commits index

def representedPath (entries : DiffEntries) (path : String) : Option RepresentedPath :=
  (entryOf entries path).map fun t => ⟨path,t.mode,t.blob,t.deleted⟩

/-- The replay from a proven boundary decides whether its prefix is dropped. -/
def reconcile (report : SquashEquivalenceReport) (mergeBase : CommitOid) (commits : List CommitOid) (index : ℕ)
    (boundary : CommitOid) (entries : DiffEntries) : Git SquashEquivalenceReport := do
  let boundaryTree ← ask (commitTreeCommand boundary) readCommitTree
  let after ← ask (mergeTreeCommand report.candidateOid report.targetOid (some boundary)) readMergeTree
  let paths := (pathsOf entries).filterMap (representedPath entries)
  let report := { report with
    provenBoundary := some boundary
    boundaryTree := some boundaryTree
    after := some ⟨boundary,after.outcome,after.tree,after.conflictingPaths⟩
    representedPaths := paths.take maxReceiptPaths
    representedPathsTruncated := decide (maxReceiptPaths < paths.length) }
  if after.outcome = .clean then
    let rows ← describeCommits mergeBase commits index .dropped
    return { report with
      outcome := .reconcilable
      commits := rows
      reason := "commits through " ++ boundary ++ " are byte-identical to " ++ report.target.name ++ "@" ++
        report.targetOid ++ " on every one of the " ++ toString report.representedPaths.length ++
        " path(s) they change; replaying the " ++ toString (commits.length - index - 1) ++
        " retained commit(s) from that proven boundary merges cleanly" }
  else
    let rows ← describeCommits mergeBase commits usizeMax .retained
    return { report with
      outcome := .residualConflict
      commits := rows
      reason := "commits through " ++ boundary ++ " are byte-identical to " ++ report.target.name ++ "@" ++
        report.targetOid ++ ", but replaying the retained commits from that proven boundary still conflicts in " ++
        (if after.conflictingPaths = [] then "the reconciled merge" else ", ".intercalate after.conflictingPaths) ++
        "; this is ordinary three-way divergence after the equality point and nothing is dropped" }

def evaluatedBoundaries (commits : List CommitOid) : ℕ := min commits.length maxEvaluatedBoundaries

/-- A complete line of commits is compared with the target, boundary by boundary. -/
def evaluateChain (report : SquashEquivalenceReport) (mergeBase : CommitOid) (commits : List CommitOid) :
    Git SquashEquivalenceReport := do
  match ← ask (diffCommand mergeBase report.targetOid) diffEntries with
  | none => return { report with
      reason := "target diff contains a path Git could not represent exactly; failing closed" }
  | some target =>
      let evaluated := evaluatedBoundaries commits
      let report := { report with
        evaluatedBoundaries := evaluated
        evaluationBounded := decide (evaluated < commits.length) }
      match ← searchBoundary mergeBase target commits evaluated with
      | .unrepresentable => return { report with
          reason := "candidate prefix diff contains a path Git could not represent exactly; failing closed" }
      | .exhausted =>
          let rows ← describeCommits mergeBase commits usizeMax .retained
          return { report with
            outcome := .noEquivalence
            commits := rows
            reason := "no stacked prefix of the first " ++ toString evaluated ++ " of " ++
              toString commits.length ++ " candidate-only commit(s) is byte-identical to " ++
              report.target.name ++ "@" ++ report.targetOid ++ "; every commit is retained" }
      | .proven index boundary entries => reconcile report mergeBase commits index boundary entries

def analyzeRange (report : SquashEquivalenceReport) (mergeBase : CommitOid) : Git SquashEquivalenceReport := do
  let targetTree ← ask (commitTreeCommand report.targetOid) readCommitTree
  let before ← ask (mergeTreeCommand report.candidateOid report.targetOid none) readMergeTree
  let chain ← ask (revListCommand report.candidateOid mergeBase) (linearPrefixChain mergeBase)
  let complete := decide (chain.commits.length = chain.totalCommits) && !chain.commits.isEmpty
  let report := { report with
    mergeBase := some mergeBase
    targetTree := some targetTree
    before := some ⟨mergeBase,before.outcome,before.tree,before.conflictingPaths⟩
    candidateCommitCount := chain.totalCommits
    analyzedPrefixComplete := complete }
  if chain.commits = [] then return { report with
    outcome := .noEquivalence
    reason := if chain.totalCommits = 0 then
        "candidate has no commits beyond the merge base; there is no stacked history to reconcile"
      else "candidate history is not linear at the merge base; only an ancestor-closed linear range may be " ++
        "reconciled" }
  else if complete = false then return { report with
    reason := "candidate-only range is not an ancestor-closed linear range (" ++ toString chain.commits.length ++
      " of " ++ toString chain.totalCommits ++ " commits are linear from the merge base); reconciliation " ++
      "requires a linear range" }
  else evaluateChain report mergeBase chain.commits

def analyzeWithRunner (candidate target : BranchSnapshot) (candidateOid targetOid : CommitOid) :
    Git SquashEquivalenceReport := do
  let report : SquashEquivalenceReport :=
    { candidate := candidate,target := target,candidateOid := candidateOid,targetOid := targetOid }
  match ← ask (mergeBaseCommand candidateOid targetOid) readMergeBase with
  | none => return { report with reason := "candidate and target do not share exactly one merge base; no exact " ++
      "cumulative proof is possible" }
  | some mergeBase => analyzeRange report mergeBase

end Analysis

end SquashEquivalence
end Cara
