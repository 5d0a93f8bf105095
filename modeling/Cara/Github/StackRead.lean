import Cara.Generation
import Cara.Github.StackModel
import Cara.Lib.Vec
import Cara.Lib.Saturating

/-! Exact reads of the native Stack resource: every Stack row is rebound to fresh base,
pull-request and ancestry facts before it counts as one generation. -/
namespace Cara
namespace Github

open Generation (CommitRelation)
open Prog (send attempt mapError ofResult refuseIf forEach)

/-- Provider operations: a conversation of commands and responses with a fallible result. -/
abbrev Io (ε α : Type) := Prog.Fallible Command Response ε α

abbrev Conversation := List (Command × Response)

def statusCode (code : Option ℤ) : String := code.elim "signal" toString

def debugCode (code : Option ℤ) : String := code.elim "None" fun c => "Some(" ++ toString c ++ ")"

def DiscoveryError.display (w : Wire) : DiscoveryError → String
  | .runner error => error.diagnostic
  | .commandFailed command code stderr =>
      "`" ++ w.display command ++ "` failed with status " ++ statusCode code ++ ": " ++ stderr
  | .invalidJson command message =>
      "`" ++ w.display command ++ "` returned invalid JSON: " ++ message
  | .invalidRepositorySlug slug => "repository slug `" ++ slug ++ "` is not owner/name"
  | .missingHeadRepository pr => "PR #" ++ toString pr ++ " has no resolvable head repository"

def MutationError.display (w : Wire) : MutationError → String
  | .provider error => error.display w

def StackReadError.display : StackReadError → String
  | .unavailable diagnostic =>
      "GitHub native Stacks are unavailable for this repository: " ++ diagnostic
  | .runner error => error.diagnostic
  | .commandFailed code diagnostic =>
      "GitHub Stack inventory failed with status " ++ statusCode code ++ ": " ++ diagnostic
  | .invalidJson message => "GitHub Stack inventory returned invalid JSON: " ++ message

def StackMutationError.display (w : Wire) : StackMutationError → String
  | .invalidPlan code message => code ++ ": " ++ message
  | .unavailable diagnostic => "GitHub native Stacks are unavailable: " ++ diagnostic
  | .capabilityUnknown diagnostic => "GitHub Stack capability is unknown: " ++ diagnostic
  | .provider error => error.display w
  | .inventoryTruncated => "GitHub Stack inventory is truncated; exact absence cannot be proven"
  | .inconsistentProviderState diagnostic => "inconsistent GitHub Stack state: " ++ diagnostic
  | .staleGeneration _ _ fields =>
      "GitHub Stack generation changed: " ++ ", ".intercalate fields
  | .ambiguousResponse operation diagnostic _ _ =>
      "GitHub Stack " ++ operation.debug ++ " response is ambiguous: " ++ diagnostic
  | .postconditionFailed operation _ _ =>
      "GitHub Stack " ++ operation.debug ++ " returned without the exact requested postcondition"

/-- Lines of a response split at line feeds, a trailing carriage return dropped. -/
def outputLines (text : String) : List (List Char) :=
  (Text.split '\n' text.toList).map fun line =>
    if line.getLast? = some '\r' then line.dropLast else line

def headerValue (line : List Char) : Option String :=
  match Text.splitOnce [':'] line with
  | none => none
  | some (name,value) =>
      if Text.eqIgnoreAsciiCase (String.ofList (Text.trim name)) "x-github-request-id" then
        some (String.ofList (Text.trim value))
      else none

def githubRequestId (output : CommandOutput) : Option String :=
  (outputLines output.stdout ++ outputLines output.stderr).findSome? headerValue

def requestIdOf : Response → Option String
  | .ok output => githubRequestId output
  | .error _ => none

def succeeded : Response → Bool
  | .ok output => output.isSuccess
  | .error _ => false

def diagnosticEdgeBytes : ℕ := 4 * 1024

/-- The longest prefix of whole characters within a byte budget. -/
def takeBytes : ℕ → List Char → List Char
  | _,[] => []
  | budget,c::cs =>
      if c.utf8Size ≤ budget then c::takeBytes (budget - c.utf8Size) cs else []

/-- Long diagnostics keep both edges and the number of bytes omitted between them. -/
def diagnosticExcerpt (value : String) : String :=
  if value.utf8ByteSize ≤ diagnosticEdgeBytes * 2 then value
  else
    let front := String.ofList (takeBytes diagnosticEdgeBytes value.toList)
    let rear := String.ofList (takeBytes diagnosticEdgeBytes value.toList.reverse).reverse
    front ++ "\n...[" ++
      toString (value.utf8ByteSize - front.utf8ByteSize - rear.utf8ByteSize) ++
      " bytes omitted]...\n" ++ rear

section Adapter

variable (w : Wire)

def checked (command : Command) : Io MutationError CommandOutput := do
  match ← send command with
  | .error error => throw (.provider (.runner error))
  | .ok output =>
      if output.isSuccess then return output
      else throw (.provider (.commandFailed command output.code (Text.trimmed output.stderr)))

def json {α : Type} (decode : String → Except String α) (command : Command) :
    Io MutationError α := do
  let output ← checked command
  match decode output.stdout with
  | .ok value => return value
  | .error message => throw (.provider (.invalidJson command message))

def repositoryId (slug : String) : Except DiscoveryError RepositoryId :=
  match Text.splitOnce ['/'] slug.toList with
  | some (owner,name) =>
      if owner = [] ∨ name = [] ∨ '/' ∈ name then .error (.invalidRepositorySlug slug)
      else .ok ⟨String.ofList owner,String.ofList name⟩
  | none => .error (.invalidRepositorySlug slug)

/-- A missing head repository is the base repository unless the head is foreign. -/
def PullRequestJson.headRepository (pr : PullRequestJson) (base : RepositoryId) :
    Except DiscoveryError RepositoryId :=
  let composed := match pr.headRepositoryOwner,pr.headRepositoryName with
    | some owner,some name => some (owner ++ "/" ++ name)
    | _,_ => none
  match pr.headRepositoryNameWithOwner.or composed with
  | some slug => repositoryId slug
  | none => if pr.isCrossRepository then .error (.missingHeadRepository pr.number) else .ok base

def PullRequestJson.intoSnapshot (pr : PullRequestJson) (base : RepositoryId) :
    Except DiscoveryError PullRequestFacts := do
  let headRepository ← pr.headRepository base
  return {
    number := pr.number
    state := pr.state
    draft := pr.isDraft
    base := ⟨base,pr.baseRefName,pr.baseRefOid⟩
    head := ⟨headRepository,pr.headRefName,pr.headRefOid⟩
    mergedAt := pr.mergedAt
    crossRepository := pr.isCrossRepository
    labels := pr.labels
    autoMergeEnabled := pr.autoMergeRequested }

def refetchPullRequest (repository : RepositoryId) (number : PrNumber) :
    Io MutationError PullRequestFacts := do
  let row ← json w.pullRequest (.pullRequest repository number)
  mapError .provider (ofResult (row.intoSnapshot repository))

def mergeCommitOid (repository : RepositoryId) (number : PrNumber) :
    Io MutationError (Option CommitOid) := do
  let commit ← json w.mergeCommit (.mergeCommit repository number)
  return commit.filter fun oid => decide (oid ≠ "")

def commitRelation (status : String) : CommitRelation :=
  if status = "ahead" then .ahead
  else if status = "behind" then .behind
  else if status = "identical" then .identical
  else if status = "diverged" then .diverged
  else .unknown ("provider returned unknown compare status `" ++ status ++ "`")

def compareCommits (repository : RepositoryId) (base head : CommitOid) :
    Io MutationError CommitRelation := do
  let status ← json w.comparison (.compareCommits repository base head)
  return commitRelation status

def stackPageSize : ℕ := 100

def stackMaxPages : ℕ := 10

/-- A short page ends the inventory, the last page leaves it truncated. -/
def inventoryPages (repository : RepositoryId) :
    List ℕ → List StackSnapshot → Io StackReadError StackInventory
  | [],rows => return ⟨rows,true⟩
  | page::pages,rows => do
      match ← send (.nativeStackList repository page) with
      | .error error => throw (.runner error)
      | .ok output =>
          if output.isSuccess then
            match w.stackList output.stdout with
            | .error message => throw (.invalidJson message)
            | .ok pageRows =>
                if pageRows.length < stackPageSize then return ⟨rows ++ pageRows,false⟩
                else inventoryPages repository pages (rows ++ pageRows)
          else if Text.contains (Text.trimmed output.stderr) "HTTP 404" then
            throw (.unavailable (Text.trimmed output.stderr))
          else throw (.commandFailed output.code (Text.trimmed output.stderr))

def nativeStackInventory (repository : RepositoryId) : Io StackReadError StackInventory :=
  inventoryPages w repository (List.range' 1 stackMaxPages) []

def stackReadError : StackReadError → StackMutationError
  | .unavailable diagnostic => .unavailable diagnostic
  | other => .capabilityUnknown other.display

def exactInventory (repository : RepositoryId) : Io StackMutationError StackInventory := do
  let inventory ← mapError stackReadError (nativeStackInventory w repository)
  if inventory.truncated then throw .inventoryTruncated else return inventory

/-- A missing Stack and a missing feature both answer 404; the inventory tells them apart. -/
def readNativeStackSnapshot (repository : RepositoryId) (number : ℕ) :
    Io StackMutationError (Option StackSnapshot) := do
  match ← send (.nativeStackRead repository number) with
  | .error error => throw (.capabilityUnknown error.diagnostic)
  | .ok output =>
      if output.isSuccess then
        match w.stack output.stdout with
        | .ok stack => return some stack
        | .error message => throw (.capabilityUnknown ("invalid Stack JSON: " ++ message))
      else if Text.contains output.stderr "HTTP 404" then do
        let inventory ← mapError stackReadError (nativeStackInventory w repository)
        if inventory.snapshots.any fun stack => decide (stack.number = number) then
          throw (.inconsistentProviderState ("Stack #" ++ toString number ++
            " returned 404 but remains present in inventory"))
        else return none
      else throw (.capabilityUnknown ("Stack read exited " ++ debugCode output.code ++ ": " ++
        Text.trimmed output.stderr))

end Adapter

structure CollapsedFrontierProof where
  mergedPredecessors : List PrNumber
  currentOpenPr : PrNumber
  recordedBase : BranchSnapshot
  stackBase : BranchSnapshot
deriving DecidableEq

def invalidPlan (code message : String) : StackMutationError := .invalidPlan code message

section Topology

def sameRef (left right : BranchSnapshot) : Bool :=
  decide (left.repository = right.repository ∧ left.name = right.name)

def sameRefStaleRoot (position : ℕ) (entry : StackEntryGeneration) (topology : StackTopology) :
    Bool :=
  decide (position = 0) && sameRef entry.base topology.base

def sameRefStaleTail (allowed : Option PrNumber) (entry : StackEntryGeneration)
    (expectedBase : BranchSnapshot) : Bool :=
  decide (allowed = some entry.pr) && sameRef entry.base expectedBase

structure TopologyScan where
  seen : List PrNumber := []
  mergedPredecessors : List PrNumber := []
  previousOpenHead : Option BranchSnapshot := none
  collapsedFrontierConsumed : Bool := false
deriving DecidableEq

def collapsedProofMatches (collapsed : Option CollapsedFrontierProof) (topology : StackTopology)
    (scan : TopologyScan) (entry : StackEntryGeneration) : Bool :=
  collapsed.any fun proof => decide (proof.currentOpenPr = entry.pr ∧
    proof.mergedPredecessors = scan.mergedPredecessors ∧ proof.recordedBase = entry.base ∧
    proof.stackBase = topology.base)

/-- A plan may hold a sealed collapsed generation without its transient proof; a fresh read
has to rebuild it. -/
def allowedOpenBase (topology : StackTopology) (staleTail : Option PrNumber)
    (collapsed : Option CollapsedFrontierProof) (scan : TopologyScan) (position : ℕ)
    (entry : StackEntryGeneration) : Bool :=
  let expectedBase := scan.previousOpenHead.getD topology.base
  let collapsedShape := scan.previousOpenHead.isNone && !scan.mergedPredecessors.isEmpty &&
    sameRef entry.base topology.base
  decide (entry.base = expectedBase) ||
    sameRefStaleRoot position entry topology || sameRefStaleTail staleTail entry expectedBase ||
    collapsedShape && (collapsed.isNone || collapsedProofMatches collapsed topology scan entry)

def scanEntry (repository : RepositoryId) (topology : StackTopology)
    (staleTail : Option PrNumber) (collapsed : Option CollapsedFrontierProof)
    (scan : TopologyScan) (row : StackEntryGeneration × ℕ) :
    Except StackMutationError TopologyScan :=
  let entry := row.1
  if entry.position ≠ min row.2 Saturating.maxU32 then
    .error (invalidPlan "github_stack_position_invalid"
      "Stack positions must be contiguous and zero-based")
  else if entry.pr ∈ scan.seen then
    .error (invalidPlan "github_stack_duplicate_pr"
      "A pull request may appear only once in a Stack")
  else if entry.base.repository ≠ repository ∨ entry.head.repository ≠ repository then
    .error (invalidPlan "github_stack_repository_mismatch"
      "Stack entries must use same-repository base and head branches")
  else if entry.pullRequestState = .open then
    if allowedOpenBase topology staleTail collapsed scan row.2 entry then
      .ok { scan with
        seen := entry.pr::scan.seen
        previousOpenHead := some entry.head
        collapsedFrontierConsumed := scan.collapsedFrontierConsumed ||
          collapsedProofMatches collapsed topology scan entry }
    else .error (invalidPlan "github_stack_base_chain_invalid"
      ("open PR #" ++ toString entry.pr ++ " does not target the exact previous open generation"))
  else if scan.previousOpenHead.isSome then
    .error (invalidPlan "github_stack_state_order_invalid"
      "closed or merged Stack entries may only precede the open suffix")
  else if entry.pullRequestState ≠ .merged ∨ entry.mergedAt = none then
    .error (invalidPlan "github_stack_merged_prefix_invalid"
      "only freshly proven merged entries may precede the open Stack suffix")
  else .ok { scan with
    seen := entry.pr::scan.seen
    mergedPredecessors := scan.mergedPredecessors ++ [entry.pr] }

def validateTopologyWithCollapsedFrontier (repository : RepositoryId) (topology : StackTopology)
    (minimumEntries : ℕ) (staleTail : Option PrNumber)
    (collapsed : Option CollapsedFrontierProof) : Except StackMutationError Unit := do
  if staleTail.isSome ∧ topology.entries.getLast?.map StackEntryGeneration.pr ≠ staleTail then
    .error (invalidPlan "github_stack_stale_tail_identity_invalid"
      "the only tolerated stale base must belong to the exact final Stack entry")
  else .ok ()
  if topology.entries.length < minimumEntries ∨ 100 < topology.entries.length then
    .error (invalidPlan "github_stack_size_invalid" ("Stack requires " ++
      toString minimumEntries ++ "..=100 entries, observed " ++
      toString topology.entries.length))
  else .ok ()
  if topology.base.repository ≠ repository then
    .error (invalidPlan "github_stack_repository_mismatch"
      "Stack base belongs to another repository")
  else .ok ()
  let scan ← topology.entries.zipIdx.foldlM (scanEntry repository topology staleTail collapsed) {}
  if collapsed.isSome ∧ scan.collapsedFrontierConsumed = false then
    .error (invalidPlan "github_stack_collapsed_frontier_invalid"
      "collapsed-frontier proof does not match the exact first open Stack entry")
  else .ok ()

def validateTopologyAllowingStaleTailBase (repository : RepositoryId) (topology : StackTopology)
    (minimumEntries : ℕ) (staleTail : Option PrNumber) : Except StackMutationError Unit :=
  validateTopologyWithCollapsedFrontier repository topology minimumEntries staleTail none

def validateTopology (repository : RepositoryId) (topology : StackTopology)
    (minimumEntries : ℕ) : Except StackMutationError Unit :=
  validateTopologyAllowingStaleTailBase repository topology minimumEntries none

/-- Whether a recorded merge time does not exceed a later one; an absent time is smallest. -/
def mergedAtLe : Option String → Option String → Bool
  | none,_ => true
  | some _,none => false
  | some a,some b => decide (a ≤ b)

def containedIn : CommitRelation → Bool
  | .ahead | .identical => true
  | _ => false

end Topology

section Observation

variable (w : Wire)

/-- Each merged neighbour follows its predecessor's head or a proven repeated collapse. -/
def proveCollapsedMergedOrder (repository : RepositoryId) (topology : StackTopology)
    (merged : List StackEntryGeneration) : Io StackMutationError (List Unit) :=
  forEach (Vec.windows merged) fun pair => do
    if pair.2.base = pair.1.head then return ()
    else
      let repeatedCollapse ← (if sameRef pair.2.base topology.base &&
          mergedAtLe pair.1.mergedAt pair.2.mergedAt then do
        let relation ← mapError .provider
          (compareCommits w repository pair.2.base.oid topology.base.oid)
        return containedIn relation
      else return false : Io StackMutationError Bool)
      if repeatedCollapse then return ()
      else throw (invalidPlan "github_stack_collapsed_frontier_order_invalid"
        ("the merged Stack prefix preserves neither an exact source-head edge nor a proven " ++
          "repeated base collapse"))

def proveAncestor (repository : RepositoryId) (topology : StackTopology) (label : String)
    (ancestor : CommitOid) : Io StackMutationError Unit := do
  let relation ← mapError .provider (compareCommits w repository ancestor topology.base.oid)
  if containedIn relation then return ()
  else throw (invalidPlan "github_stack_collapsed_frontier_ancestry_invalid"
    (label ++ " " ++ ancestor ++ " is not an ancestor of current Stack base " ++
      topology.base.oid))

def provePredecessor (repository : RepositoryId) (topology : StackTopology)
    (predecessor : StackEntryGeneration) : Io StackMutationError Unit := do
  match ← mapError .provider (mergeCommitOid w repository predecessor.pr) with
  | none => throw (invalidPlan "github_stack_merged_predecessor_commit_missing"
      ("merged predecessor PR #" ++ toString predecessor.pr ++
        " has no exact provider merge commit"))
  | some mergeCommit =>
      let relation ← mapError .provider
        (compareCommits w repository mergeCommit topology.base.oid)
      if containedIn relation then return ()
      else throw (invalidPlan "github_stack_merged_predecessor_ancestry_invalid"
        ("merge commit " ++ mergeCommit ++ " for predecessor PR #" ++ toString predecessor.pr ++
          " is not contained by Stack base " ++ topology.base.oid))

def firstOpen (entries : List StackEntryGeneration) : Option ℕ :=
  entries.findIdx? fun entry => decide (entry.pullRequestState = .open)

def proveCollapsedFrontier (repository : RepositoryId) (topology : StackTopology) :
    Io StackMutationError (Option CollapsedFrontierProof) :=
  match firstOpen topology.entries with
  | none => return none
  | some index =>
      match topology.entries.take index,topology.entries.drop index with
      | firstMerged::mergedRest,current::_ => do
          let merged := firstMerged::mergedRest
          refuseIf (merged.any fun entry =>
              decide (entry.pullRequestState ≠ .merged ∨ entry.mergedAt = none))
            (invalidPlan "github_stack_merged_prefix_invalid"
              "a collapsed frontier requires a complete freshly merged predecessor prefix")
          refuseIf (!sameRef firstMerged.base topology.base)
            (invalidPlan "github_stack_collapsed_frontier_base_invalid"
              "the merged Stack prefix does not originate from the exact Stack base ref")
          let _ ← proveCollapsedMergedOrder w repository topology merged
          refuseIf (!sameRef current.base topology.base)
            (invalidPlan "github_stack_collapsed_frontier_base_invalid"
              "the first remaining open PR must target the Stack base ref after prefix merge")
          proveAncestor w repository topology "recorded current base" current.base.oid
          proveAncestor w repository topology "merged prefix base" firstMerged.base.oid
          let _ ← forEach merged (provePredecessor w repository topology)
          return some {
            mergedPredecessors := merged.map StackEntryGeneration.pr
            currentOpenPr := current.pr
            recordedBase := current.base
            stackBase := topology.base }
      | _,_ => return none

/-- Preview states stay verbatim; the fresh pull request supplies the canonical state. -/
def normalizedStackPrState (row : StackPullRequest) : Option PullRequestState :=
  if row.mergedAt.isSome || Text.eqIgnoreAsciiCase row.state "merged" then some .merged
  else if Text.eqIgnoreAsciiCase row.state "open" then some .open
  else if Text.eqIgnoreAsciiCase row.state "closed" then some .closed
  else none

def entryFromPr (position : ℕ) (stackState : String) (pr : PullRequestFacts) :
    Except StackMutationError StackEntryGeneration :=
  if Saturating.maxU32 < position then
    .error (.invalidPlan "github_stack_too_large" "Stack position exceeds u32")
  else .ok {
    position := position
    pr := pr.number
    stackState := stackState
    pullRequestState := pr.state
    draft := pr.draft
    mergedAt := pr.mergedAt
    base := pr.base
    head := pr.head }

def debugState : PullRequestState → String
  | .open => "Open"
  | .closed => "Closed"
  | .merged => "Merged"

/-- The Stack row must agree with the fresh pull request it names. -/
def rowConsistent (stack : StackSnapshot) (row : StackPullRequest) (pr : PullRequestFacts) :
    Except StackMutationError Unit := do
  let entry := "Stack #" ++ toString stack.number ++ " entry PR #" ++ toString row.number
  if pr.head.name ≠ row.head.refName ∨ pr.head.oid ≠ row.head.sha then
    .error (.inconsistentProviderState (entry ++ " head " ++ row.head.refName ++ "@" ++
      row.head.sha ++ " disagrees with fresh PR head " ++ pr.head.name ++ "@" ++ pr.head.oid))
  else .ok ()
  if pr.draft ≠ row.draft ∨ pr.mergedAt ≠ row.mergedAt then
    .error (.inconsistentProviderState
      (entry ++ " draft/merged state disagrees with fresh PR truth"))
  else .ok ()
  match normalizedStackPrState row with
  | some state =>
      if state ≠ pr.state then
        .error (.inconsistentProviderState (entry ++ " state `" ++ row.state ++
          "` disagrees with fresh PR state " ++ debugState pr.state))
      else .ok ()
  | none => .ok ()

def observeStackRow (repository : RepositoryId) (stack : StackSnapshot)
    (row : StackPullRequest × ℕ) : Io StackMutationError StackEntryGeneration := do
  let pr ← mapError .provider (refetchPullRequest w repository row.1.number)
  ofResult (rowConsistent stack row.1 pr)
  ofResult (entryFromPr row.2 row.1.state pr)

def observeStackRows (repository : RepositoryId) (stack : StackSnapshot) :
    Io StackMutationError StackGeneration := do
  let oid ← mapError .provider (json w.gitRef (.gitRef repository stack.baseRef))
  let entries ← forEach stack.pullRequests.zipIdx (observeStackRow w repository stack)
  return {
    id := stack.id
    number := stack.number
    nodeId := stack.nodeId
    isOpen := stack.isOpen
    createdAt := stack.createdAt
    topology := ⟨⟨repository,stack.baseRef,oid⟩,entries⟩ }

def observeStackGeneration (repository : RepositoryId) (stack : StackSnapshot)
    (staleTail : Option PrNumber) : Io StackMutationError StackGeneration := do
  let generation ← observeStackRows w repository stack
  let collapsed ← proveCollapsedFrontier w repository generation.topology
  ofResult (validateTopologyWithCollapsedFrontier repository generation.topology 1 staleTail
    collapsed)
  return generation

def nativeStackGenerationAllowingStaleTailBase (repository : RepositoryId) (number : ℕ)
    (staleTail : Option PrNumber) : Io StackMutationError (Option StackGeneration) := do
  match ← readNativeStackSnapshot w repository number with
  | none => return none
  | some stack => return some (← observeStackGeneration w repository stack staleTail)

/-- One Stack bound to its identity, base, ordered bases and exact heads. -/
def nativeStackGeneration (repository : RepositoryId) (number : ℕ) :
    Io StackMutationError (Option StackGeneration) :=
  nativeStackGenerationAllowingStaleTailBase w repository number none

end Observation

/-- The program reads provider state and does nothing else. -/
abbrev ReadOnly {ε α : Type} (p : Io ε α) : Prop :=
  Prog.Only (fun command : Command => command.isRead = true) p

section ReadOnly

variable (w : Wire) (repository : RepositoryId)

theorem checked_readOnly {command : Command} (h : command.isRead = true) :
    ReadOnly (checked command) := by
  refine Prog.Only.bind (Prog.Only.send h) ?_
  intro response
  split
  · exact Prog.Only.throw _
  · split
    · exact Prog.Only.pure _
    · exact Prog.Only.throw _

theorem json_readOnly {α : Type} (decode : String → Except String α) {command : Command}
    (h : command.isRead = true) : ReadOnly (json decode command) := by
  apply Prog.Only.bind (checked_readOnly h)
  intro output
  split
  · exact Prog.Only.pure _
  · exact Prog.Only.throw _

theorem refetchPullRequest_readOnly (number : PrNumber) :
    ReadOnly (refetchPullRequest w repository number) := by
  apply Prog.Only.bind (json_readOnly w.pullRequest rfl)
  intro row
  exact Prog.Only.mapError (Prog.Only.ofResult _)

theorem mergeCommitOid_readOnly (number : PrNumber) :
    ReadOnly (mergeCommitOid w repository number) :=
  Prog.Only.bind (json_readOnly w.mergeCommit rfl) fun _ => Prog.Only.pure _

theorem compareCommits_readOnly (base head : CommitOid) :
    ReadOnly (compareCommits w repository base head) :=
  Prog.Only.bind (json_readOnly w.comparison rfl) fun _ => Prog.Only.pure _

theorem inventoryPages_readOnly (pages : List ℕ) (rows : List StackSnapshot) :
    ReadOnly (inventoryPages w repository pages rows) := by
  induction pages generalizing rows with
  | nil => exact Prog.Only.pure _
  | cons page pages ih =>
    refine Prog.Only.bind (Prog.Only.send rfl) ?_
    intro response
    split
    · exact Prog.Only.throw _
    · split
      · split
        · exact Prog.Only.throw _
        · split
          · exact Prog.Only.pure _
          · exact ih _
      · split
        · exact Prog.Only.throw _
        · exact Prog.Only.throw _

theorem nativeStackInventory_readOnly : ReadOnly (nativeStackInventory w repository) :=
  inventoryPages_readOnly w repository _ _

theorem readNativeStackSnapshot_readOnly (number : ℕ) :
    ReadOnly (readNativeStackSnapshot w repository number) := by
  refine Prog.Only.bind (Prog.Only.send rfl) ?_
  intro response
  split
  · exact Prog.Only.throw _
  · split
    · split
      · exact Prog.Only.pure _
      · exact Prog.Only.throw _
    · split
      · apply Prog.Only.bind (Prog.Only.mapError (nativeStackInventory_readOnly w repository))
        intro inventory
        split
        · exact Prog.Only.throw _
        · exact Prog.Only.pure _
      · exact Prog.Only.throw _

theorem proveCollapsedMergedOrder_readOnly (topology : StackTopology)
    (merged : List StackEntryGeneration) :
    ReadOnly (proveCollapsedMergedOrder w repository topology merged) := by
  apply Prog.Only.forEach
  intro pair _
  split
  · exact Prog.Only.pure _
  · apply Prog.Only.bind
    · split
      · apply Prog.Only.bind (Prog.Only.mapError (compareCommits_readOnly w repository _ _))
        exact fun _ => Prog.Only.pure _
      · exact Prog.Only.pure _
    · intro repeatedCollapse
      split
      · exact Prog.Only.pure _
      · exact Prog.Only.throw _

theorem proveAncestor_readOnly (topology : StackTopology) (label : String) (ancestor : CommitOid) :
    ReadOnly (proveAncestor w repository topology label ancestor) := by
  apply Prog.Only.bind (Prog.Only.mapError (compareCommits_readOnly w repository _ _))
  intro relation
  split
  · exact Prog.Only.pure _
  · exact Prog.Only.throw _

theorem provePredecessor_readOnly (topology : StackTopology)
    (predecessor : StackEntryGeneration) :
    ReadOnly (provePredecessor w repository topology predecessor) := by
  apply Prog.Only.bind (Prog.Only.mapError (mergeCommitOid_readOnly w repository _))
  intro commit
  split
  · exact Prog.Only.throw _
  · apply Prog.Only.bind (Prog.Only.mapError (compareCommits_readOnly w repository _ _))
    intro relation
    split
    · exact Prog.Only.pure _
    · exact Prog.Only.throw _

theorem proveCollapsedFrontier_readOnly (topology : StackTopology) :
    ReadOnly (proveCollapsedFrontier w repository topology) := by
  unfold proveCollapsedFrontier
  split
  · exact Prog.Only.pure _
  · split
    · apply Prog.Only.bind (Prog.Only.ofResult _)
      intro _
      apply Prog.Only.bind (Prog.Only.ofResult _)
      intro _
      apply Prog.Only.bind (proveCollapsedMergedOrder_readOnly w repository _ _)
      intro _
      apply Prog.Only.bind (Prog.Only.ofResult _)
      intro _
      apply Prog.Only.bind (proveAncestor_readOnly w repository _ _ _)
      intro _
      apply Prog.Only.bind (proveAncestor_readOnly w repository _ _ _)
      intro _
      apply Prog.Only.bind (Prog.Only.forEach _ fun entry _ =>
        provePredecessor_readOnly w repository topology entry)
      intro _
      exact Prog.Only.pure _
    · exact Prog.Only.pure _

theorem observeStackRow_readOnly (stack : StackSnapshot) (row : StackPullRequest × ℕ) :
    ReadOnly (observeStackRow w repository stack row) := by
  apply Prog.Only.bind (Prog.Only.mapError (refetchPullRequest_readOnly w repository _))
  intro pr
  apply Prog.Only.bind (Prog.Only.ofResult _)
  intro _
  exact Prog.Only.ofResult _

theorem observeStackRows_readOnly (stack : StackSnapshot) :
    ReadOnly (observeStackRows w repository stack) := by
  refine Prog.Only.bind (Prog.Only.mapError (json_readOnly w.gitRef rfl)) ?_
  intro oid
  apply Prog.Only.bind (Prog.Only.forEach _ fun row _ =>
    observeStackRow_readOnly w repository stack row)
  intro entries
  exact Prog.Only.pure _

theorem observeStackGeneration_readOnly (stack : StackSnapshot) (staleTail : Option PrNumber) :
    ReadOnly (observeStackGeneration w repository stack staleTail) := by
  apply Prog.Only.bind (observeStackRows_readOnly w repository stack)
  intro generation
  apply Prog.Only.bind (proveCollapsedFrontier_readOnly w repository _)
  intro collapsed
  apply Prog.Only.bind (Prog.Only.ofResult _)
  intro _
  exact Prog.Only.pure _

theorem nativeStackGenerationAllowingStaleTailBase_readOnly (number : ℕ)
    (staleTail : Option PrNumber) :
    ReadOnly (nativeStackGenerationAllowingStaleTailBase w repository number staleTail) := by
  apply Prog.Only.bind (readNativeStackSnapshot_readOnly w repository number)
  intro snapshot
  split
  · exact Prog.Only.pure _
  · apply Prog.Only.bind (observeStackGeneration_readOnly w repository _ _)
    exact fun _ => Prog.Only.pure _

theorem nativeStackGeneration_readOnly (number : ℕ) :
    ReadOnly (nativeStackGeneration w repository number) :=
  nativeStackGenerationAllowingStaleTailBase_readOnly w repository number none

end ReadOnly

end Github
end Cara
