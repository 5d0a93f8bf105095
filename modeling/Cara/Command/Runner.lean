import Cara.Command.Receipt

/-! The production subprocess runner and the runner that fences its writes.
One pass of the runner is computed from the answers that it meets; an authentication-shaped
failure under an installation credential makes a second pass. -/
namespace Cara
namespace Command

structure GithubAppCredential where
  token : String
  appSlug : String
  installationId : ℕ
  expiresUnixSecs : ℕ
deriving DecidableEq

inductive GithubAuthSelection where
  | ambient
  | token (value : String)
  | appInstallation (credential : GithubAppCredential)
  | refused (refusal : GithubAppRefusal)
deriving DecidableEq

inductive GithubGitTransport where
  | https | http | ssh
deriving DecidableEq

structure GithubRepository where
  host : String
  owner : String
  name : String
  gitTransport : GithubGitTransport
deriving DecidableEq

structure GithubAppGitAuth where
  credential : GithubAppCredential
  repository : GithubRepository
deriving DecidableEq

structure ProcessRunner where
  timeout : ℕ
  operationDeadline : Option ℕ := none
  githubRequestBudget : Option ℕ := none
  inferGithubAuth : Bool := true
  githubAppAuthRetry : Bool := true
  stdoutCaptureLimit : ℕ := 32 * 1024 * 1024
  stderrCaptureLimit : ℕ := 64 * 1024

def minimumCommandBudget : ℕ := 750

structure CapturedStream where
  evidence : StreamCaptureEvidence
  diagnosticText : String
  text : Except String String

inductive StdinEnd where
  | ok
  | brokenPipe
  | failed (error : String)
  | panicked

inductive ChildEnd where
  | waitFailed (error : String)
  | reapFailed (error : String)
  | ended (timedOut : Bool) (code : Option ℤ) (stdin : StdinEnd) (stdout stderr : Except String CapturedStream)

/-- The environment of one pass: the budget and the clock, what the probes resolved, and how the
receipt, the spawn and the child ended. -/
structure PassAnswers where
  used : ℕ
  now : ℕ
  appMode : Except String Bool
  repository : Option GithubRepository
  selection : Option GithubAuthSelection
  transportRefusal : Option String
  attemptSaved : Saved
  spawned : Except String ℕ
  child : ChildEnd
  outcomeSaved : Saved

section Preparation

variable (runner : ProcessRunner) (request : CommandSpec) (a : PassAnswers)

def reserve : Except CommandRunError Unit :=
  match runner.githubRequestBudget with
  | some limit =>
      if request.isGhRequest && !decide (a.used < limit) then
        .error (.githubRequestBudgetExceeded request limit a.used)
      else .ok ()
  | none => .ok ()

def deadlineMessage (timeout : ℕ) : String :=
  "operation deadline exhausted before this phase: " ++ toString timeout ++ "ms remained, below the " ++
    toString minimumCommandBudget ++ "ms minimum any command can use; raise sync.max_duration_secs or " ++
    "lower sync.max_candidates_per_tick so a tick completes within its budget"

def effectiveTimeout : Except CommandRunError ℕ :=
  let remaining := runner.operationDeadline.map fun deadline => deadline - a.now
  let timeout := remaining.elim runner.timeout fun r => min runner.timeout r
  let exhausted := remaining.any fun r => decide (r < minimumCommandBudget)
  if decide (timeout = 0) || exhausted then
    .error (.timeout request none timeout "" (deadlineMessage timeout))
  else .ok timeout

/-- The credential of a provider request, unless the request carries its own. -/
def inferredGithubAuth : Option GithubAuthSelection :=
  if !runner.inferGithubAuth || !request.isGhRequest || request.hasEnv "GH_TOKEN" ||
      request.hasEnv "GITHUB_TOKEN" then none
  else match a.appMode with
    | .error message => some (.refused (.configuration .configuration message))
    | .ok true => (a.repository.bind fun _ => a.selection) <|>
        some (.refused (.configuration .repositoryResolution
          "App mode could not resolve the exact repository from the request or checkout"))
    | .ok false => a.repository.bind fun _ => a.selection

def inferredGithubAppGitAuth : Except GithubAppRefusal (Option GithubAppGitAuth) :=
  if !runner.inferGithubAuth || !request.isRemoteGitRequest then .ok none
  else match a.appMode with
    | .error message => .error (.configuration .configuration message)
    | .ok false => .ok none
    | .ok true =>
        match a.repository,a.transportRefusal with
        | none,none => .error (.configuration .repositoryResolution
            "no exact GitHub repository remote is available")
        | _,some message => .error (.configuration .gitTransport message)
        | some repository,none =>
            match a.selection with
            | some (.appInstallation credential) => .ok (some ⟨credential,repository⟩)
            | some (.refused refusal) => .error refusal
            | _ => .error (.configuration .gitTransport
                "App mode did not resolve an installation credential")

structure Prepared where
  timeout : ℕ
  githubAuth : Option GithubAuthSelection
  githubAppGitAuth : Option GithubAppGitAuth

def refusedAuth : Option GithubAuthSelection → Except CommandRunError Unit
  | some (.refused refusal) => .error (.githubAppAuthRefused request refusal)
  | _ => .ok ()

def prepare : Except CommandRunError Prepared := do
  reserve runner request a
  let timeout ← effectiveTimeout runner request a
  let githubAppGitAuth ← (inferredGithubAppGitAuth runner request a).mapError fun refusal =>
    .githubAppGitTransportRefused request refusal
  refusedAuth request (inferredGithubAuth runner request a)
  return ⟨timeout,inferredGithubAuth runner request a,githubAppGitAuth⟩

end Preparation

section Child

variable (request : CommandSpec)

def stdinError : StdinEnd → Option CommandRunError
  | .failed error => some (.spawn request ("could not write stdin: " ++ error))
  | .panicked => some (.spawn request "stdin writer thread panicked")
  | _ => none

def decode (stream : String) (captured : CapturedStream) : Except CommandRunError String :=
  captured.text.mapError fun error => .invalidUtf8 request stream error

/-- The output of a child that was started with this identifier, or why there is none. -/
def childOutput (timeout pid : ℕ) : ChildEnd → Except CommandRunError CommandOutput
  | .waitFailed error => .error (.spawn request error)
  | .reapFailed error => .error (.spawn request ("could not reap timed-out child: " ++ error))
  | .ended timedOut code stdin stdout stderr => do
      (if request.stdin.isSome then stdinError request stdin else none).elim (.ok ()) .error
      let stdout ← stdout.mapError fun error => .spawn request error
      let stderr ← stderr.mapError fun error => .spawn request error
      if timedOut then
        throw (.timeout request (some pid) timeout stdout.diagnosticText stderr.diagnosticText)
      if stdout.evidence.truncated || stderr.evidence.truncated then
        throw (.outputLimit request code stdout.evidence stderr.evidence)
      let stdout ← decode request "stdout" stdout
      let stderr ← decode request "stderr" stderr
      return ⟨code,stdout,stderr⟩

end Child

section Retry

def asciiLower (s : String) : String := String.ofList (s.toList.map Char.toLower)

def shouldRefreshGithubAppAuth (selection : Option GithubAuthSelection) (output : CommandOutput)
    (retryAllowed : Bool) : Bool :=
  retryAllowed &&
    (match selection with | some (.appInstallation _) => true | _ => false) &&
    decide (output.code = some 1) &&
    (Text.contains output.stderr "HTTP 401" ||
      Text.contains (asciiLower output.stderr) "bad credentials")

def shouldRefreshGithubAppGitAuth (auth : Option GithubAppGitAuth) (output : CommandOutput)
    (retryAllowed : Bool) : Bool :=
  if !retryAllowed || auth.isNone || output.isSuccess then false
  else
    let stderr := asciiLower output.stderr
    Text.contains stderr "authentication failed" || Text.contains stderr "bad credentials" ||
      Text.contains stderr "http 401" || Text.contains stderr "could not read username"

def shouldRefresh (prepared : Prepared) (output : CommandOutput) (retryAllowed : Bool) : Bool :=
  shouldRefreshGithubAppAuth prepared.githubAuth output retryAllowed ||
    shouldRefreshGithubAppGitAuth prepared.githubAppGitAuth output retryAllowed

end Retry

section Run

variable (w : ArgsWire)

structure Passed where
  output : CommandOutput
  refresh : Bool

/-- The child of a prepared pass, from its spawn to the outcome of the recorded attempt. -/
def spawnChild (runner : ProcessRunner) (request : CommandSpec) (a : PassAnswers) (prepared : Prepared)
    (attempt : Option ℕ) : Effect Passed :=
  match a.spawned with
  | .error message => do
      finishAttempt request attempt .notStarted none a.outcomeSaved
      throw (.spawn request message)
  | .ok pid => do
      emit (.start request)
      let output ← ofResult (childOutput request prepared.timeout pid a.child)
      finishAttempt request attempt .returned output.code a.outcomeSaved
      return ⟨output,shouldRefresh prepared output runner.githubAppAuthRetry⟩

def pass (runner : ProcessRunner) (request : CommandSpec) (a : PassAnswers) : Effect Passed := do
  let prepared ← ofResult (prepare runner request a)
  let attempt ← beforeSpawn w request a.attemptSaved
  spawnChild runner request a prepared attempt

/-- The whole call: its second pass meets answers of its own, and no retry is left to it. -/
def run (runner : ProcessRunner) (request : CommandSpec) (first second : PassAnswers) :
    Effect CommandOutput := do
  let passed ← pass w runner request first
  if passed.refresh then
    emit .invalidateGithubAppAuthCache
    let retried ← pass w { runner with githubAppAuthRetry := false } request second
    return retried.output
  return passed.output

/-- A fence answers each write with its refusal, if it has one. -/
abbrev Fence := CommandIntent → Option String

def beforeWrite (fence : Fence) (request : CommandSpec) : Effect Unit := do
  emit (.beforeWrite request.intent (fence request.intent).isNone)
  match fence request.intent with
  | some message => throw (.mutationFenceRefused request request.intent message)
  | none => return ()

/-- The runner behind the fence: an undeclared write is refused, a declared one needs the fence. -/
def fencedRun (fence : Fence) (runner : ProcessRunner) (request : CommandSpec)
    (first second : PassAnswers) : Effect CommandOutput := do
  match request.inferredWriteIntent with
  | some inferred =>
      if request.intent ≠ inferred then
        throw (.mutationFenceRefused request inferred
          "write command is missing its explicit mutation-intent marker")
  | none => pure ()
  if request.intent.isWrite then beforeWrite fence request
  run w runner request first second

end Run

end Command
end Cara
