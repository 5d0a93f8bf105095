import Cara.Lib.Stateful
import Cara.Repair.Session

/-! What a repair asks of its workspace, its manifest and the provider, and the verification of the
resolution that is staged in the workspace. -/
namespace Cara
namespace Repair

open Prog

section Requests

structure IndexEntry where
  mode : String
  oid : String
deriving DecidableEq

/-- Stage-zero entries in path order. -/
abbrev Index := List (String × IndexEntry)

inductive RepairRequest where
  | readManifest
  | writeManifest (repair : RepairSession)
  | workspaceIsDirectory
  | configFingerprint
  | acquireWriterOperation (operation : String)
  | checkpoint (phase : String)
  | release
  | clock
  | revParse (revision : String)
  | unmergedEntries
  | unstagedChanges
  | untrackedFiles
  | checkStaged
  | changedPaths (renames : Bool)
  | stagedEntries
  | pathEntry (path : String)
  | stagedDiff (paths : List String)
  | remoteHead (branch : String)
  | commit (message : String)
  | parents (commit : CommitOid)
  | validate (command : String)
  | trackedChanges
  | defaultBranch
  | refetch (pr : PrNumber)
  | push (commit : CommitOid) (branch : String) (lease : Option CommitOid)
  | sync
  | cleanup
deriving DecidableEq

inductive RepairAnswer where
  | failed (error : RepairError)
  | done
  | manifest (repair : RepairSession)
  | text (value : String)
  | time (unixMs : ℕ)
  | flag (value : Bool)
  | revision (oid : Option CommitOid)
  | commits (oids : List CommitOid)
  | paths (paths : List String)
  | entries (entries : Index)
  | entry (entry : Option IndexEntry)
  | pull (pull : PullRequestSnapshot)

abbrev RepairIo (α : Type) := Fallible RepairRequest RepairAnswer RepairError α

/-- A request that fails fails with its own error; an answer of another kind never comes. -/
def ask {α : Type} (request : RepairRequest) (value : RepairAnswer → Option α) : RepairIo α :=
  query request fun answer => match answer with
    | .failed e => some (.error e)
    | answer => (value answer).map .ok

def unitOf : RepairAnswer → Option Unit
  | .done => some ()
  | _ => none

def textOf : RepairAnswer → Option String
  | .text value => some value
  | _ => none

def timeOf : RepairAnswer → Option ℕ
  | .time n => some n
  | _ => none

def flagOf : RepairAnswer → Option Bool
  | .flag value => some value
  | _ => none

def revisionOf : RepairAnswer → Option (Option CommitOid)
  | .revision oid => some oid
  | _ => none

def pathsOf : RepairAnswer → Option (List String)
  | .paths paths => some paths
  | _ => none

def entriesOf : RepairAnswer → Option Index
  | .entries entries => some entries
  | _ => none

def entryOf : RepairAnswer → Option (Option IndexEntry)
  | .entry entry => some entry
  | _ => none

end Requests

section Primitives

def perform (request : RepairRequest) : RepairIo Unit := ask request unitOf

def clock : RepairIo ℕ := ask .clock timeOf

def tryRevParse (revision : String) : RepairIo (Option CommitOid) := ask (.revParse revision) revisionOf

def revisionInvalid : RepairError :=
  ⟨.executionFailure,"repair_revision_invalid","could not resolve an exact repair revision",none⟩

def revParse (revision : String) : RepairIo CommitOid := do
  match ← tryRevParse revision with
  | some oid => return oid
  | none => throw revisionInvalid

end Primitives

section Resolution

def maxAgentEditPaths : ℕ := 64

def maxAgentEditPathBytes : ℕ := 4 * 1024

def maxAgentEditDiffBytes : ℕ := 1024 * 1024

structure Fingerprints where
  paths : List String → String
  diff : String → String
  staged : List (String × Option String) → String

structure RepairContext where
  fingerprints : Fingerprints

def grantIncomplete (path : String) : RepairError := ⟨.validation,"repair_grant_incomplete",
  "semantic grant for \x60" ++ path ++ "\x60 was not fully applied",some (.path path)⟩

def grantExpired (path : String) : RepairError := ⟨.validation,"repair_grant_expired",
  "semantic grant for \x60" ++ path ++ "\x60 expired",some (.path path)⟩

def allowedRepairPaths (repair : RepairSession) (now : ℕ) : Except RepairError (List String) := do
  let granted ← repair.semanticGrants.mapM fun grant => do
    Guard.refuse (!grant.applied) (grantIncomplete grant.path)
    Guard.refuse (decide (grant.expiresUnixMs < now)) (grantExpired grant.path)
    return grant.path
  return repair.conflictingPaths ++ granted

def stagedIndex : RepairIo (List (String × String)) := do
  let changed ← ask (.changedPaths true) pathsOf
  let entries ← ask .stagedEntries entriesOf
  return (entries.filter fun row => decide (row.1 ∈ changed)).map fun row => (row.1,row.2.oid)

/-- Components of a path; a leading dot is one and inner dots are none. -/
def pathComponents (path : String) : List String :=
  match (Text.split '/' path.toList).map String.ofList with
  | [] => []
  | first::rest => (if first.isEmpty then [] else [first]) ++
      rest.filter fun part => !part.isEmpty && decide (part ≠ ".")

def isSafePath (path : String) : Bool :=
  !path.isEmpty && decide (path.utf8ByteSize ≤ 512) &&
  !(path.toList.any fun c => decide (c = '\n' ∨ c = '\r' ∨ c.toNat = 0)) &&
  !Text.startsWith path "/" &&
  (pathComponents path).all (fun part => decide (part ≠ "." ∧ part ≠ "..")) &&
  decide (path ≠ ".git") && !Text.startsWith path ".git/"

/-- What follows the last dot, unless that dot begins the name. -/
def extensionOf (name : String) : Option String :=
  let tail := name.toList.reverse.takeWhile fun c => decide (c ≠ '.')
  if tail.length + 1 < name.toList.length then some (String.ofList tail.reverse) else none

def resemblesSecret (path : String) : Bool :=
  let name := (pathComponents path).getLastD ""
  let basename := String.ofList (name.toList.map Char.toLower)
  decide (basename = ".env") || Text.startsWith basename ".env." ||
  decide (basename ∈ ["id_rsa","id_ed25519","credentials","credentials.json",".npmrc",".pypirc"]) ||
  (extensionOf name).any fun extension =>
    ["pem","key","p12"].any fun blocked => Text.eqIgnoreAsciiCase extension blocked

def validateAgentEditPath (path : String) : RepairIo Unit := do
  refuseIf (!isSafePath path) (invalid "repair_agent_edit_path_forbidden"
    ("agent edit path \x60" ++ path ++ "\x60 is outside safe repository content"))
  refuseIf (resemblesSecret path) (invalid "repair_agent_edit_secret_forbidden"
    ("agent edit path \x60" ++ path ++ "\x60 resembles an operational secret"))
  let entry ← ask (.pathEntry path) entryOf
  refuseIf (entry.any fun entry => decide (entry.mode ≠ "100644" ∧ entry.mode ≠ "100755"))
    (invalid "repair_agent_edit_mode_forbidden" ("agent edit path \x60" ++ path ++
      "\x60 must be a regular staged file or deletion, not mode " ++ (entry.elim "" (·.mode))))

def missingPermission (code message : String) : RepairError := ⟨.missingPermission,code,message,none⟩

/-- The authorization covers this actor and still names this very session. -/
def verifyAgentEditAuthorization (repair : RepairSession) (actor : Option String) (now : ℕ) :
    Except RepairError RepairAgentEditAuthorization :=
  match repair.agentEditAuthorization with
  | none => .error (missingPermission "repair_agent_edit_authorization_required" ("staged paths outside " ++
      "conflict/grant scope require an audited agent-edit authorization"))
  | some authorization => do
      Guard.refuse (decide (authorization.expiresUnixMs < now)) (missingPermission
        "repair_agent_edit_authorization_expired" "agent-edit authorization expired before verification")
      Guard.refuse (decide (actor ≠ some authorization.actor)) (missingPermission
        "repair_agent_edit_authority_mismatch"
        "repair continue actor must exactly match the authorized agent")
      Guard.refuse (decide ((authorization.session,authorization.repository,authorization.pr,
          authorization.headOid,authorization.targetOid,authorization.configFingerprint) ≠
          (repair.session,repair.repository,repair.pr,repair.head.oid,repair.target.oid,
            repair.configFingerprint))) (invalid "repair_agent_edit_authorization_drift"
        "repair identity drifted from the exact agent-edit authorization")
      return authorization

/-- Changed paths that neither the merge, a grant nor its mechanical result explains. -/
def broadPaths (repair : RepairSession) (allowed : List String) (current : List (String × String))
    (changed : List String) : List String :=
  changed.filter fun path => decide (path ∉ allowed) &&
    match repair.baselineIndex.lookup path with
    | none => true
    | some baseline => decide (current.lookup path ≠ some baseline)

def authorizeBroadEdits (context : RepairContext) (repair : RepairSession) (actor : Option String)
    (current : List (String × String)) (paths : List String) : RepairIo RepairAgentEditReceipt := do
  let authorization ← ofResult (verifyAgentEditAuthorization repair actor (← clock))
  refuseIf (decide (maxAgentEditPaths < paths.length)) (invalid "repair_agent_edit_path_limit_exceeded"
    ("agent edit scope has " ++ toString paths.length ++ " paths; maximum is " ++
      toString maxAgentEditPaths))
  let bytes := (paths.map String.utf8ByteSize).sum
  refuseIf (decide (maxAgentEditPathBytes < bytes)) (invalid "repair_agent_edit_path_bytes_exceeded"
    ("agent edit path scope is " ++ toString bytes ++ " bytes; maximum is " ++
      toString maxAgentEditPathBytes))
  let _ ← forEach paths validateAgentEditPath
  let diff ← ask (.stagedDiff paths) textOf
  refuseIf (decide (maxAgentEditDiffBytes < diff.utf8ByteSize)) (invalid
    "repair_agent_edit_diff_too_large" ("authorized staged diff is " ++ toString diff.utf8ByteSize ++
      " bytes; maximum is " ++ toString maxAgentEditDiffBytes))
  let verified ← clock
  return {
    actor := authorization.actor
    reason := authorization.reason
    paths := paths
    pathCount := paths.length
    pathFingerprint := context.fingerprints.paths paths
    diffFingerprint := context.fingerprints.diff diff
    diffBytes := diff.utf8ByteSize
    stagedIndexFingerprint := context.fingerprints.staged (paths.map fun path => (path,current.lookup path))
    verifiedUnixMs := verified
    freshCiRequired := true }

def scopeError (path : String) : RepairError := ⟨.validation,"repair_scope_changed",
  "path \x60" ++ path ++ "\x60 changed outside the typed conflict scope",some (.path path)⟩

def outsideScope (repair : RepairSession) (allowed broad : List String) (current : List (String × String)) :
    Option String :=
  let covered (path : String) : Bool := decide (path ∈ allowed) || decide (path ∈ broad)
  ((repair.baselineIndex.find? fun row =>
      !covered row.1 && decide (current.lookup row.1 ≠ some row.2)).map (·.1)).or
    ((current.find? fun row => (repair.baselineIndex.lookup row.1).isNone && !covered row.1).map (·.1))

/-- The workspace is in the recorded merge with everything resolved and staged. -/
def requireStaged (repair : RepairSession) : RepairIo Unit := do
  let mergeHead ← revParse "MERGE_HEAD"
  refuseIf (decide (mergeHead ≠ repair.target.oid)) (ofSession repair "repair_merge_target_mismatch"
    "repair workspace no longer contains the exact expected merge target")
  let unmerged ← ask .unmergedEntries pathsOf
  refuseIf (!unmerged.isEmpty) (ofSession repair "repair_conflicts_unresolved"
    "repair workspace still has unresolved index entries")
  let unstaged ← ask .unstagedChanges flagOf
  refuseIf unstaged (ofSession repair "repair_unstaged_changes"
    "repair workspace has unstaged tracked changes")
  let untracked ← ask .untrackedFiles pathsOf
  refuseIf (!untracked.isEmpty) (ofSession repair "repair_untracked_files"
    "repair workspace contains untracked files outside the exact merge")
  perform .checkStaged

def broadReceipt (context : RepairContext) (repair : RepairSession) (actor : Option String)
    (current : List (String × String)) (paths : List String) : RepairIo (Option RepairAgentEditReceipt) :=
  if paths.isEmpty then pure none
  else do
    let receipt ← authorizeBroadEdits context repair actor current paths
    return some receipt

def driftError (current : List (String × String)) (grant : RepairPathGrant) : RepairError :=
  ⟨.validation,"repair_grant_result_drift",
    "semantic grant result for \x60" ++ grant.path ++ "\x60 changed before continue",
    some (.grant grant (current.lookup grant.path))⟩

def refuseFirst (found : Option RepairError) : Except RepairError Unit :=
  match found with
  | some error => .error error
  | none => .ok ()

def verifyResolution (context : RepairContext) (repair : RepairSession) (actor : Option String) :
    RepairIo (Option RepairAgentEditReceipt) := do
  requireStaged repair
  let current ← stagedIndex
  let allowed ← ofResult (allowedRepairPaths repair (← clock))
  ofResult (refuseFirst ((repair.semanticGrants.find? fun grant =>
    decide (current.lookup grant.path ≠ some grant.expectedResultOid)).map (driftError current)))
  let changed ← ask (.changedPaths false) pathsOf
  let broad := broadPaths repair allowed current changed
  let receipt ← broadReceipt context repair actor current broad
  ofResult (refuseFirst ((outsideScope repair allowed broad current).map scopeError))
  return receipt

end Resolution

end Repair
end Cara
