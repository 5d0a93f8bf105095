import Cara.Model
import Cara.Lib.Text

/-! Repository policy as the loader accepts it: the fields, their defaults and the
validation that every loaded configuration has passed. -/
namespace Cara
namespace Config

def configVersion : ℕ := 1

def caraVersion : String := "0.0.146"

def minGithubStackReaderVersion : String := "0.0.65"

def githubStackMinEntries : ℕ := 2

def githubStackMaxEntries : ℕ := 100

def maxCommandTimeoutSecs : ℕ := 3600

def maxHookTimeoutSecs : ℕ := 86400

inductive StackType where
  | caravan
  | github
deriving DecidableEq

inductive GithubAuthMode where
  | ambient
  | appInstallation
deriving DecidableEq

structure GithubAuthConfig where
  mode : GithubAuthMode := .ambient
  appSlug : Option String := none
  installationId : Option ℕ := none
deriving DecidableEq

inductive WriterMode where
  | localOnly
  | readOnly
  | remoteFenced
deriving DecidableEq

def defaultWriterLeaseTtlSecs : ℕ := 60

def defaultWriterHeartbeatSecs : ℕ := 15

structure WriterConfig where
  mode : WriterMode := .localOnly
  leaseTtlSecs : ℕ := defaultWriterLeaseTtlSecs
  heartbeatSecs : ℕ := defaultWriterHeartbeatSecs
deriving DecidableEq

structure JournalConfig where
  maxBytes : ℕ := 8 * 1024 * 1024
  maxArchives : ℕ := 3
deriving DecidableEq

structure LogFlushConfig where
  branch : String := "caravan-log"
  after : List String := ["sync","join","new","evict"]
  interval : ℕ := 3600
  retries : ℕ := 3
deriving DecidableEq

structure StackRolloutConfig where
  mutationsOptIn : Bool := false
  reviewedBy : String := ""
deriving DecidableEq

structure CiAdmissionGateConfig where
  context : String
  memberLabel : String
deriving DecidableEq

inductive TerminalRedAction where
  | block
  | park
deriving DecidableEq

structure SyncConfig where
  joinUnlabelledPrs : Bool := false
  maxCaravans : ℕ := 1
  terminalRed : TerminalRedAction := .block
  checkoutOnDecision : Bool := false
  maxDurationSecs : ℕ := 120
  reserveSecsPerCommand : ℕ := 15
  headMergeActor : Option HeadMergeActor := none
  autoMergeHead : Option Bool := none
deriving DecidableEq

namespace SyncConfig

/-- The explicit actor, else the historical boolean, else the default actor. -/
def resolvedHeadMergeActor (c : SyncConfig) : HeadMergeActor :=
  c.headMergeActor.getD (match c.autoMergeHead with
    | some true => .github
    | some false => .caravan
    | none => default)

end SyncConfig

inductive EventKind where
  | caravanCreated
  | prJoined
  | readyPrUnqueued
  | conflictDetected
  | syncCompleted
  | syncFailed
  | joinFailed
  | admissionSkipped
  | evictionFailed
  | headAdvanced
  | evicted
  | split
  | caravansConcatenated
  | caravanParked
  | caravanUnparked
  | ciFailed
  | forceMergeAttempted
  | forceMergeCompleted
  | rootAutoMergeArmed
  | rootPromoted
  | rootMerged
  | requiredRunsMissing
  | requiredRunsRetriggered
deriving DecidableEq

def EventKind.debug : EventKind → String
  | .caravanCreated => "CaravanCreated"
  | .prJoined => "PrJoined"
  | .readyPrUnqueued => "ReadyPrUnqueued"
  | .conflictDetected => "ConflictDetected"
  | .syncCompleted => "SyncCompleted"
  | .syncFailed => "SyncFailed"
  | .joinFailed => "JoinFailed"
  | .admissionSkipped => "AdmissionSkipped"
  | .evictionFailed => "EvictionFailed"
  | .headAdvanced => "HeadAdvanced"
  | .evicted => "Evicted"
  | .split => "Split"
  | .caravansConcatenated => "CaravansConcatenated"
  | .caravanParked => "CaravanParked"
  | .caravanUnparked => "CaravanUnparked"
  | .ciFailed => "CiFailed"
  | .forceMergeAttempted => "ForceMergeAttempted"
  | .forceMergeCompleted => "ForceMergeCompleted"
  | .rootAutoMergeArmed => "RootAutoMergeArmed"
  | .rootPromoted => "RootPromoted"
  | .rootMerged => "RootMerged"
  | .requiredRunsMissing => "RequiredRunsMissing"
  | .requiredRunsRetriggered => "RequiredRunsRetriggered"

structure HookConfig where
  command : String := ""
  timeoutSecs : ℕ := 30
deriving DecidableEq

structure CaravanConfig where
  version : ℕ := configVersion
  minCaraVersion : String := caraVersion
  stackType : StackType := .caravan
  maxCaravanLength : Option ℕ := none
  stackRollout : StackRolloutConfig := {}
  githubAuth : GithubAuthConfig := {}
  writer : WriterConfig := {}
  rebaseOnJoin : Bool := false
  agentPriorityLabels : List String :=
    ["caravan-priority:high","caravan-priority:normal","caravan-priority:low"]
  commandTimeoutSecs : ℕ := 30
  repository : Option String := none
  repairMaterializationTimeoutSecs : ℕ := 180
  ciAdmissionGate : Option CiAdmissionGateConfig := none
  sync : SyncConfig := {}
  journal : JournalConfig := {}
  logFlush : Option LogFlushConfig := none
  hooks : List (EventKind × HookConfig) := []
deriving DecidableEq

inductive ConfigError where
  | unsupportedVersion (found supported : ℕ)
  | upgradeRequired (required running : String)
  | validation (message : String)
deriving DecidableEq

def ensure (condition : Bool) (message : String) : Except ConfigError Unit :=
  if condition then .ok () else .error (.validation message)

def parseReleaseVersion (value : String) : Except ConfigError (ℕ × ℕ × ℕ) :=
  match (Text.split '.' value.toList).mapM Text.parseU64 with
  | some [major,minor,patch] => .ok (major,minor,patch)
  | _ => .error (.validation
      ("Cara version `" ++ value ++ "` must be an X.Y.Z release version"))

/-- Whether the first release is strictly older than the second. -/
def releaseLt (left right : String) : Except ConfigError Bool := do
  let (a,b,c) ← parseReleaseVersion left
  let (x,y,z) ← parseReleaseVersion right
  return decide (a < x ∨ a = x ∧ (b < y ∨ b = y ∧ c < z))

def GithubAuthConfig.validate (g : GithubAuthConfig) : Except ConfigError Unit :=
  match g.mode with
  | .ambient => ensure (g.appSlug.isNone && g.installationId.isNone)
      "github_auth ambient mode must not declare App identity fields"
  | .appInstallation => do
      let slug := g.appSlug.getD ""
      ensure (decide (slug ≠ "" ∧ slug.utf8ByteSize ≤ 100) &&
        slug.toList.all fun c => c.isAlphanum || c == '-')
        "github_auth.app_slug must be a 1-100 character ASCII App slug"
      ensure (g.installationId.any fun id => decide (id ≠ 0))
        "github_auth.installation_id must be a positive integer"

def WriterConfig.validate (w : WriterConfig) : Except ConfigError Unit := do
  ensure (decide (10 ≤ w.leaseTtlSecs ∧ w.leaseTtlSecs ≤ 3600 ∧ w.heartbeatSecs ≠ 0 ∧
      w.heartbeatSecs < w.leaseTtlSecs))
    ("writer lease_ttl_secs must be 10-3600 and heartbeat_secs must be smaller and positive")
  ensure (decide (w.mode = .remoteFenced ∨ w.leaseTtlSecs = defaultWriterLeaseTtlSecs ∧
      w.heartbeatSecs = defaultWriterHeartbeatSecs))
    "writer lease timing may only be customized in remote_fenced mode"

def CiAdmissionGateConfig.validate (g : CiAdmissionGateConfig) : Except ConfigError Unit := do
  ensure (decide (g.context ≠ "" ∧ g.context.utf8ByteSize ≤ 256) && Text.isTrimmed g.context &&
      !g.context.toList.any Text.isControl)
    "ci.admission_gate.context must be a trimmed 1-256 character required-check name"
  ensure (decide (g.memberLabel = "caravan"))
    "ci.admission_gate.member_label must be exactly `caravan`"

def LogFlushConfig.validate (f : LogFlushConfig) : Except ConfigError Unit := do
  ensure (!Text.isBlank f.branch && !Text.startsWith f.branch "-" && !Text.contains f.branch ".." &&
      !f.branch.toList.any Text.isWhitespace)
    "log.flush.branch must be a non-empty safe Git branch name"
  ensure (decide (f.interval ≠ 0)) "log.flush.interval must be at least 1"
  ensure (decide (f.retries ≤ 10)) "log.flush.retries must be between 0 and 10"
  ensure (f.after.all fun operation => decide (operation ∈ ["sync","join","new","evict"]))
    "log.flush.after entries must be sync, join, new, or evict"

/-- Priority labels are exact, nonempty and pairwise different. -/
def validatePriorityLabels : List String → List String → Except ConfigError Unit
  | [],_ => .ok ()
  | label::labels,seen => do
      ensure (Text.startsWith label "caravan-priority:" && decide (label ≠ "caravan-priority:") &&
          Text.isTrimmed label)
        ("agent_priority_labels entry `" ++ label ++
          "` must be an exact non-empty `caravan-priority:*` label")
      ensure (decide (label ∉ seen))
        ("agent_priority_labels contains duplicate `" ++ label ++ "`")
      validatePriorityLabels labels (label::seen)

namespace CaravanConfig

def validateRepositorySlug (c : CaravanConfig) : Bool :=
  c.repository.any fun slug =>
    match Text.splitOnce ['/'] slug.toList with
    | some (owner,repository) => decide (owner ≠ [] ∧ repository ≠ [] ∧ '/' ∉ repository)
    | none => false

def validateRemoteFenced (c : CaravanConfig) : Except ConfigError Unit := do
  ensure c.validateRepositorySlug "writer.mode remote_fenced requires exact repository: owner/name"
  ensure (!c.sync.checkoutOnDecision)
    "writer.mode remote_fenced requires sync.checkout_on_decision: false"

def validateGithubBackend (c : CaravanConfig) : Except ConfigError Unit := do
  ensure (!(← releaseLt c.minCaraVersion minGithubStackReaderVersion))
    ("stack_type: github requires min_cara_version >= " ++ minGithubStackReaderVersion ++
      "; an older reader would treat a native Stack as an ordinary caravan")
  ensure (!c.rebaseOnJoin)
    ("stack_type: github requires rebase_on_join: false; GitHub Stack mode must not introduce a " ++
      "second physical branch writer")
  ensure (decide (c.sync.resolvedHeadMergeActor = .caravan))
    ("stack_type: github requires sync.head_merge_actor: caravan; GitHub native Stack entries do " ++
      "not support provider auto-merge")

def validateBatchBound (c : CaravanConfig) : Except ConfigError Unit :=
  ensure (c.maxCaravanLength.all fun limit =>
      decide (githubStackMinEntries ≤ limit ∧ limit ≤ githubStackMaxEntries))
    ("max_caravan_length must be between " ++ toString githubStackMinEntries ++ " and " ++
      toString githubStackMaxEntries ++ "; GitHub Stacks accept no other batch size")

def validateStackRollout (c : CaravanConfig) : Except ConfigError Unit :=
  if c.stackRollout.mutationsOptIn then do
    ensure (decide (c.stackType = .github))
      ("stack_rollout.mutations_opt_in requires stack_type: github; the default caravan backend " ++
        "has no native rollout gate")
    ensure (!Text.isBlank c.stackRollout.reviewedBy)
      "stack_rollout.mutations_opt_in requires a non-empty reviewed_by identity"
  else .ok ()

def validateHooks : List (EventKind × HookConfig) → Except ConfigError Unit
  | [] => .ok ()
  | (event,hook)::hooks => do
      ensure (!Text.isBlank hook.command) ("hooks." ++ event.debug ++ ".command must not be empty")
      ensure (decide (1 ≤ hook.timeoutSecs ∧ hook.timeoutSecs ≤ maxHookTimeoutSecs))
        ("hooks." ++ event.debug ++ ".timeout_secs must be between 1 and " ++
          toString maxHookTimeoutSecs)
      validateHooks hooks

def validate (c : CaravanConfig) : Except ConfigError Unit := do
  if c.version ≠ configVersion then .error (.unsupportedVersion c.version configVersion) else .ok ()
  if ← releaseLt caraVersion c.minCaraVersion then
    .error (.upgradeRequired c.minCaraVersion caraVersion)
  else .ok ()
  validatePriorityLabels c.agentPriorityLabels []
  ensure (decide (1 ≤ c.commandTimeoutSecs ∧ c.commandTimeoutSecs ≤ maxCommandTimeoutSecs))
    ("command_timeout_secs must be between 1 and " ++ toString maxCommandTimeoutSecs)
  ensure (decide (c.sync.maxCaravans ≠ 0)) "sync.max_caravans must be at least 1"
  ensure (decide (1 ≤ c.repairMaterializationTimeoutSecs ∧
      c.repairMaterializationTimeoutSecs ≤ maxCommandTimeoutSecs))
    ("repair.materialization_timeout_secs must be between 1 and " ++ toString maxCommandTimeoutSecs)
  c.githubAuth.validate
  c.writer.validate
  c.ciAdmissionGate.elim (.ok ()) CiAdmissionGateConfig.validate
  if c.writer.mode = .remoteFenced then c.validateRemoteFenced else .ok ()
  if c.stackType = .github then c.validateGithubBackend else .ok ()
  c.validateBatchBound
  c.validateStackRollout
  ensure (!c.sync.joinUnlabelledPrs || c.rebaseOnJoin || decide (c.stackType = .github))
    "sync.actions.join_unlabelled_prs requires rebase_on_join: true"
  ensure (decide (1024 ≤ c.journal.maxBytes ∧ c.journal.maxBytes ≤ 1024 * 1024 * 1024))
    "journal.max_bytes must be between 1024 and 1073741824"
  ensure (decide (c.journal.maxArchives ≤ 100)) "journal.max_archives must be between 0 and 100"
  c.logFlush.elim (.ok ()) LogFlushConfig.validate
  validateHooks c.hooks

end CaravanConfig

end Config
end Cara
