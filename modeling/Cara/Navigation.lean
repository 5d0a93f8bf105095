import Cara.Lib.Interleave
import Cara.SquashEquivalence

/-! Checkout of the exact head of a pull request. A local branch that differs from it is kept under a
backup reference and moved in the same transaction. -/
namespace Cara
namespace Navigation

open SquashEquivalence (GitCommand CommandOutput GitError boundedText linesOf)
open Prog (send refuseIf)

section Commands

inductive NavCommand where
  | status
  | gitDir
  | checkRefFormat (branch : String)
  | lsRemote (remote reference : String)
  | revParse (reference : String)
  | fetch (remote reference : String)
  | catFile (oid : CommitOid)
  | symbolicRef
  | worktreeList
  | createRef (branch : String) (oid : CommitOid)
  | moveRef (backup : Option String) (branch : String) (new old : CommitOid)
  | switch (branch : String)
  | head
deriving DecidableEq

def localRef (branch : String) : String := "refs/heads/" ++ branch

def commitObject (revision : String) : String := revision ++ "^\x7bcommit\x7d"

def updateRefs (lines : List String) : GitCommand :=
  ⟨["update-ref","--stdin","--create-reflog"],
    some (String.join ((["start"] ++ lines ++ ["prepare","commit"]).map (· ++ "\n")))⟩

def NavCommand.spec : NavCommand → GitCommand
  | .status => ⟨["status","--porcelain=v1","-z","--untracked-files=all"],none⟩
  | .gitDir => ⟨["rev-parse","--path-format=absolute","--git-dir"],none⟩
  | .checkRefFormat branch => ⟨["check-ref-format","--branch",branch],none⟩
  | .lsRemote remote reference => ⟨["ls-remote","--refs","--exit-code",remote,reference],none⟩
  | .revParse reference => ⟨["rev-parse","--verify","--quiet",commitObject reference],none⟩
  | .fetch remote reference =>
      ⟨["fetch","--quiet","--no-tags","--no-write-fetch-head","--refmap=",remote,reference],none⟩
  | .catFile oid => ⟨["cat-file","-e",commitObject oid],none⟩
  | .symbolicRef => ⟨["symbolic-ref","--quiet","HEAD"],none⟩
  | .worktreeList => ⟨["worktree","list","--porcelain"],none⟩
  | .createRef branch oid => updateRefs ["create " ++ localRef branch ++ " " ++ oid]
  | .moveRef backup branch new old =>
      updateRefs (backup.toList.map (fun name => "create " ++ name ++ " " ++ old) ++
        ["update " ++ localRef branch ++ " " ++ new ++ " " ++ old])
  | .switch branch => ⟨["switch","--quiet",branch],none⟩
  | .head => ⟨["rev-parse","--verify",commitObject "HEAD"],none⟩

inductive RunError where
  | timeout (message command : String) (timeoutMs : ℕ) (stdout stderr : String)
  | failed (message debug : String)
deriving DecidableEq

structure LocalConfigAllowance where
  path : String
  relative : String
  identity : ℕ × ℕ
deriving DecidableEq

/-- What a checkout asks of Git and of the file system. -/
inductive NavRequest where
  | git (command : NavCommand)
  | allowance
  | stillAllowed (allowance : LocalConfigAllowance)
  | marker (gitDir marker : String)
deriving DecidableEq

/-- An answer; a request reads its own part. -/
structure NavAnswer where
  output : Except RunError CommandOutput := .ok ⟨some 0,"",""⟩
  allowance : Option LocalConfigAllowance := none
  holds : Bool := true
deriving DecidableEq

abbrev Nav := Prog.Fallible NavRequest NavAnswer GitError

def commandRunError : RunError → GitError
  | .timeout message command timeoutMs stdout stderr => {
      category := .timeout
      code := "navigation_command_timeout"
      message := message
      details := some [("stage","navigation"),("command",command),("timeout_ms",toString timeoutMs),
        ("stdout",stdout),("stderr",stderr),("resumable","true"),
        ("next","retry navigation after restoring Git/GitHub transport health")] }
  | .failed message debug => {
      category := .executionFailure
      code := "navigation_command_failed"
      message := message
      details := some [("error",debug)] }

def run (command : NavCommand) : Nav CommandOutput := do
  let answer ← send (.git command)
  Prog.ofResult (answer.output.mapError commandRunError)

def outputDetails (output : CommandOutput) : List (String × String) :=
  [("exit_code",(output.code.map toString).getD "null"),("stdout",boundedText output.stdout),
    ("stderr",boundedText output.stderr)]

def commandFailure (code message : String) (output : CommandOutput) : GitError where
  category := .executionFailure
  code := code
  message := message
  details := some (outputDetails output)

def requireSuccess (code message : String) (output : CommandOutput) : Nav Unit :=
  refuseIf (!output.isSuccess) (commandFailure code message output)

def staleHead (pullRequest : PullRequestSnapshot) (observed : String) : GitError where
  category := .validation
  code := "stale_pr_head"
  message := "PR #" ++ toString pullRequest.number ++ " moved since discovery"
  details := some [("pr",toString pullRequest.number),("expected_oid",pullRequest.head.oid),
    ("observed_oid",observed),("resumable","true"),
    ("next","rediscover the caravan and retry navigation")]

end Commands

section Worktree

def markers : List String :=
  ["MERGE_HEAD","CHERRY_PICK_HEAD","REVERT_HEAD","BISECT_LOG","rebase-merge","rebase-apply"]

def refuseMarkers (gitDir : String) : List String → Nav Unit
  | [] => return ()
  | marker::rest => do
      let answer ← send (.marker gitDir marker)
      refuseIf answer.holds {
        category := .validation
        code := "git_operation_in_progress"
        message := "refusing to switch branches while Git operation marker \x60" ++ marker ++ "\x60 exists"
        details := some [("git_dir",gitDir),("marker",marker)] }
      refuseMarkers gitDir rest

def resolveGitDir (repository reported : String) : String :=
  if Text.startsWith reported "/" then reported else repository ++ "/" ++ reported

def stillAllowed : Option LocalConfigAllowance → Nav Bool
  | none => return true
  | some allowance => do return (← send (.stillAllowed allowance)).holds

/-- Only the exact configuration file may be there besides what is committed. -/
def dirtyEntries (allowance : Option LocalConfigAllowance) (status : String) : List (List Char) :=
  (Text.nulFields status.toList).filter fun entry =>
    decide (allowance.map (fun a => "?? " ++ a.relative) ≠ some (String.ofList entry))

def ensureSafeWorktree (repository : String) : Nav Unit := do
  let allowance := (← send .allowance).allowance
  let status ← run .status
  requireSuccess "git_status_failed" "could not inspect worktree status" status
  let valid ← stillAllowed allowance
  refuseIf (!(dirtyEntries allowance status.stdout).isEmpty || !valid) {
    category := .validation
    code := "dirty_worktree"
    message := "refusing to switch branches because the worktree has tracked or untracked changes"
    details := some [("status",boundedText (status.stdout.map fun c => if c = Text.nul then '\n' else c))] }
  let gitDir ← run .gitDir
  requireSuccess "git_directory_failed" "could not resolve Git metadata directory" gitDir
  refuseMarkers (resolveGitDir repository (Text.trimmed gitDir.stdout)) markers

end Worktree

section Checkout

structure LocalBranchReconciliation where
  branch : String
  previousOid : CommitOid
  providerOid : CommitOid
  backupRef : String
deriving DecidableEq

def advertisedOid (reference : String) (lines : List (List Char)) : Option String :=
  (lines.filterMap (Text.splitOnce ['\t'])).findSome? fun field =>
    if String.ofList field.2 = reference then some (String.ofList field.1) else none

def advertisedBranchOid (remote reference : String) : Nav String := do
  let advertised ← run (.lsRemote remote reference)
  requireSuccess "remote_ref_not_found" "the PR head branch is not advertised by the remote" advertised
  Prog.ofResult ((advertisedOid reference (linesOf advertised)).elim (.error {
    category := .executionFailure
    code := "ls_remote_output_invalid"
    message := "git ls-remote omitted the requested PR branch"
    details := some [("reference",reference)] }) .ok)

variable (repository remote : String) (pullRequest : PullRequestSnapshot)

def fetchExactBranchObject (reference : String) : Nav Unit := do
  let fetch ← run (.fetch remote reference)
  requireSuccess "checkout_fetch_failed" "could not fetch the exact provider PR branch" fetch
  let verify ← run (.catFile pullRequest.head.oid)
  requireSuccess "checkout_fetch_failed" "the exact provider PR head was absent after fetch" verify
  let advertised ← advertisedBranchOid remote reference
  refuseIf (decide (advertised ≠ pullRequest.head.oid)) (staleHead pullRequest advertised)

/-- A refusal before anything was moved. -/
def unmutated (code message next : String) (localOid : CommitOid) : GitError where
  category := .validation
  code := code
  message := message
  details := some [("branch",pullRequest.head.name),("local_oid",localOid),
    ("provider_oid",pullRequest.head.oid),("mutated","false"),("next",next)]

def refuseCurrent (reference : String) (localOid : CommitOid) (current : CommandOutput) :
    Except GitError Unit :=
  if current.code = some 0 ∧ Text.trimmed current.stdout = reference then
    .error (unmutated pullRequest "current_local_branch_diverged"
      ("checked-out branch \x60" ++ pullRequest.head.name ++ "\x60 differs from the exact provider head")
      "preserve or publish current local work, then retry from another clean branch" localOid)
  else if current.code = some 0 ∨ current.code = some 1 then .ok ()
  else .error (commandFailure "current_branch_inspection_failed"
    "could not inspect the current symbolic branch" current)

/-- Whether the backup still has to be made. -/
def needsBackup (backupRef : String) (localOid : CommitOid) (existing : CommandOutput) :
    Except GitError Bool :=
  if existing.code = some 0 then
    if Text.trimmed existing.stdout = localOid then .ok false
    else .error {
      category := .validation
      code := "navigation_backup_ref_collision"
      message := "the deterministic navigation backup ref resolves to an unexpected object"
      details := some [("backup_ref",backupRef),("expected_oid",localOid),
        ("actual_oid",Text.trimmed existing.stdout),("mutated","false")] }
  else if existing.code = some 1 then .ok true
  else .error (commandFailure "navigation_backup_inspection_failed"
    "could not inspect the deterministic navigation backup ref" existing)

/-- The digest stands for the hexadecimal SHA-256 of the branch name. -/
def backupRefOf (digest : String → String) (branch : String) (localOid : CommitOid) : String :=
  "refs/cara-backup/navigation/" ++ String.ofList ((digest branch).toList.take 16) ++ "/" ++ localOid

variable (digest : String → String)

def reconcileLocalDestination (localOid : CommitOid) : Nav LocalBranchReconciliation := do
  let branch := pullRequest.head.name
  let expected := pullRequest.head.oid
  let reference := localRef branch
  let current ← run .symbolicRef
  Prog.ofResult (refuseCurrent pullRequest reference localOid current)
  let worktrees ← run .worktreeList
  requireSuccess "worktree_inspection_failed" "could not verify destination worktree ownership" worktrees
  refuseIf (decide (("branch " ++ reference).toList ∈ linesOf worktrees))
    (unmutated pullRequest "local_branch_checked_out_elsewhere"
      ("local destination branch \x60" ++ branch ++ "\x60 is checked out in another worktree")
      "leave that worktree on another branch, then retry navigation" localOid)
  fetchExactBranchObject remote pullRequest reference
  ensureSafeWorktree repository
  let backupRef := backupRefOf digest branch localOid
  let existing ← run (.revParse backupRef)
  let create ← Prog.ofResult (needsBackup backupRef localOid existing)
  let update ← run (.moveRef (if create then some backupRef else none) branch expected localOid)
  refuseIf (!update.isSuccess) {
    category := .validation
    code := "local_branch_reconcile_race"
    message := "the local destination branch changed during its atomic backup/update transaction"
    details := some ([("branch",branch),("previous_oid",localOid),("provider_oid",expected),
      ("backup_ref",backupRef)] ++ outputDetails update ++ [("mutated","false"),
      ("next","inspect the local branch owner and retry from fresh provider facts")]) }
  return ⟨branch,localOid,expected,backupRef⟩

/-- The local branch is there on the exact head, it is moved there, or it is made. -/
def settleLocalBranch (observed : CommandOutput) : Nav (Option LocalBranchReconciliation) :=
  if observed.code = some 0 then
    if Text.trimmed observed.stdout = pullRequest.head.oid then return none
    else return some (← reconcileLocalDestination repository remote pullRequest digest
      (Text.trimmed observed.stdout))
  else if observed.code = some 1 then do
    fetchExactBranchObject remote pullRequest (localRef pullRequest.head.name)
    ensureSafeWorktree repository
    let create ← run (.createRef pullRequest.head.name pullRequest.head.oid)
    requireSuccess "checkout_branch_create_failed" "could not create the exact local PR branch" create
    return none
  else throw (commandFailure "local_branch_inspection_failed" "could not inspect the local PR branch" observed)

def switchFailure (switched : CommandOutput) (reconciliation : Option LocalBranchReconciliation) :
    GitError where
  category := .executionFailure
  code := "branch_switch_failed"
  message := "Git refused to switch to the exact PR branch"
  details := some (outputDetails switched ++ reconciliation.toList.flatMap fun r =>
    [("local_branch_reconciliation.branch",r.branch),
      ("local_branch_reconciliation.previous_oid",r.previousOid),
      ("local_branch_reconciliation.provider_oid",r.providerOid),
      ("local_branch_reconciliation.backup_ref",r.backupRef)])

/-- From the settled branch on: proved again, switched to and proved at last. -/
def enterBranch (reconciliation : Option LocalBranchReconciliation) :
    Nav (Option LocalBranchReconciliation) := do
  let expected := pullRequest.head.oid
  let verify ← run (.revParse (localRef pullRequest.head.name))
  requireSuccess "local_branch_inspection_failed" "could not verify the local PR branch" verify
  refuseIf (decide (Text.trimmed verify.stdout ≠ expected))
    (staleHead pullRequest (Text.trimmed verify.stdout))
  ensureSafeWorktree repository
  let switched ← run (.switch pullRequest.head.name)
  refuseIf (!switched.isSuccess) (switchFailure switched reconciliation)
  let head ← run .head
  requireSuccess "checkout_verification_failed" "could not verify checked-out HEAD" head
  refuseIf (decide (Text.trimmed head.stdout ≠ expected)) (staleHead pullRequest (Text.trimmed head.stdout))
  return reconciliation

def checkoutExact : Nav (Option LocalBranchReconciliation) := do
  let expected := pullRequest.head.oid
  let reference := localRef pullRequest.head.name
  refuseIf (pullRequest.crossRepository ||
    decide (pullRequest.head.repository ≠ pullRequest.base.repository)) {
      category := .validation
      code := "fork_checkout_unsupported"
      message := "Caravan v1 navigation requires an in-repository PR head branch" }
  refuseIf (Text.isBlank remote || Text.startsWith remote "-") {
    category := .validation
    code := "invalid_remote"
    message := "the navigation remote must be non-empty and must not begin with '-'" }
  let branchCheck ← run (.checkRefFormat pullRequest.head.name)
  requireSuccess "invalid_branch_name" "the PR head is not a valid local branch name" branchCheck
  let advertised ← advertisedBranchOid remote reference
  refuseIf (decide (advertised ≠ expected)) (staleHead pullRequest advertised)
  let observed ← run (.revParse reference)
  let reconciliation ← settleLocalBranch repository remote pullRequest digest observed
  enterBranch repository pullRequest reconciliation

end Checkout

section Repository

inductive Head where
  | symbolic (reference : String)
  | detached (oid : CommitOid)

structure BranchMove (W : Type) where
  worktree : W
  branch : String
  old : Option CommitOid
  new : CommitOid

/-- The references that worktrees share, the HEAD of each, and the branches that checkouts moved. -/
structure Repo (W : Type) where
  refs : String → Option CommitOid
  heads : W → Head
  moves : List (BranchMove W)

variable {W : Type} [DecidableEq W]

namespace Repo

def headOid (s : Repo W) (w : W) : Option CommitOid :=
  match s.heads w with
  | .symbolic reference => s.refs reference
  | .detached oid => some oid

def own (s : Repo W) (w : W) : List (BranchMove W) := s.moves.filter fun m => decide (m.worktree = w)

def move (s : Repo W) (w : W) (branch : String) (old : Option CommitOid) (new : CommitOid) : Repo W :=
  { s with
    refs := Function.update s.refs (localRef branch) (some new)
    moves := s.moves ++ [⟨w,branch,old,new⟩] }

def enter (s : Repo W) (w : W) (branch : String) : Repo W :=
  { s with heads := Function.update s.heads w (.symbolic (localRef branch)) }

/-- A backup that is asked for is made at the same time. -/
def backedUp (s : Repo W) (backup : Option String) (old : CommitOid) : Repo W :=
  { s with refs := backup.elim s.refs fun name => Function.update s.refs name (some old) }

end Repo

/-- What an answer to a command tells when it changed nothing. -/
def Reports (s : Repo W) (w : W) : NavCommand → CommandOutput → Prop
  | .revParse reference,o => o.code = some 0 → s.refs reference = some (Text.trimmed o.stdout)
  | .head,o => o.code = some 0 → s.headOid w = some (Text.trimmed o.stdout)
  | .createRef ..,o => o.code ≠ some 0
  | .moveRef ..,o => o.code ≠ some 0
  | .switch _,o => o.code ≠ some 0
  | _,_ => True

def Told (s : Repo W) (w : W) (q : NavRequest) (a : NavAnswer) : Prop :=
  ∀ command o,q = .git command → a.output = .ok o → Reports s w command o

def NavAnswer.Made (a : NavAnswer) : Prop := ∀ o,a.output = .ok o → o.code = some 0

/-- One request of a worktree. A transaction that Git refuses moved nothing, and one whose end was not
seen may have moved all of it. A switch to a branch that is not there makes it from a remote's. -/
inductive Effect (w : W) (s : Repo W) : NavRequest → NavAnswer → Repo W → Prop
  | kept {q : NavRequest} {a : NavAnswer} : Told s w q a → Effect w s q a s
  | created {branch : String} {oid : CommitOid} {a : NavAnswer} : s.refs (localRef branch) = none →
      a.Made → Effect w s (.git (.createRef branch oid)) a (s.move w branch none oid)
  | moved {backup : Option String} {branch : String} {new old : CommitOid} {a : NavAnswer} :
      (∀ name ∈ backup,s.refs name = none) → s.refs (localRef branch) = some old → a.Made →
      Effect w s (.git (.moveRef backup branch new old)) a
        ((s.backedUp backup old).move w branch (some old) new)
  | switched {branch : String} {a : NavAnswer} : Effect w s (.git (.switch branch)) a (s.enter w branch)
  | guessed {branch : String} {oid : CommitOid} {a : NavAnswer} {s' : Repo W} :
      "--no-guess" ∉ (NavCommand.switch branch).spec.arguments → s.refs (localRef branch) = none →
      s' = (s.move w branch none oid).enter w branch ∨
        Told s w (.git (.switch branch)) a ∧ s' = s.move w branch none oid →
      Effect w s (.git (.switch branch)) a s'

def IsBackup (name : String) : Prop := "refs/cara-backup/".toList <+: name.toList

def Kept (s s' : Repo W) : Prop :=
  ∀ name oid,IsBackup name → s.refs name = some oid → s'.refs name = some oid

variable (alone : Prop) (digest : String → String)

/-- Whatever a branch held when a checkout moved it is still held by its backup. -/
def Saved (s : Repo W) : Prop :=
  ∀ m ∈ s.moves,∀ old ∈ m.old,s.refs (backupRefOf digest m.branch old) = some old

/-- Others may do anything but change a backup; checkouts of other worktrees are among them. A worktree
that is left alone has its HEAD to itself. -/
def contract (w : W) : Prog.Contract (Repo W) where
  rely s s' := Kept s s' ∧ (Saved digest s → Saved digest s') ∧ s'.own w = s.own w ∧
    (alone → s'.heads w = s.heads w)
  guar s s' := Kept s s' ∧ (Saved digest s → Saved digest s') ∧ ∀ w' ≠ w,s'.own w' = s.own w'
  pending _ := True
  rely_trans _ _ _ h h' := ⟨fun name oid hname hoid => h'.1 name oid hname (h.1 name oid hname hoid),
    fun hs => h'.2.1 (h.2.1 hs),h'.2.2.1.trans h.2.2.1,fun ha => (h'.2.2.2 ha).trans (h.2.2.2 ha)⟩

abbrev Rely (w : W) (s s' : Repo W) : Prop := (contract alone digest w).rely s s'

/-- A program of a worktree beside the others, with what it ends in. -/
abbrev Ends {α : Type} (w : W) (p : Nav α) (post : Repo W → Except GitError α → Prop) (s : Repo W) : Prop :=
  (contract alone digest w).Guards (Effect w) p post s

end Repository

end Navigation
end Cara
