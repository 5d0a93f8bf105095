import Cara.Lib.Text
import Mathlib.Data.Nat.Notation

/-! Subprocess requests, what they may write, and how one of them ends. -/
namespace Cara
namespace Command

inductive CommandIntent where
  | read
  | providerWrite
  | gitWrite
deriving DecidableEq

def CommandIntent.isWrite (intent : CommandIntent) : Bool := decide (intent ≠ .read)

structure CommandIo where
  env : List (String × String) := []
  stdin : Option String := none
  intent : CommandIntent := .read
deriving DecidableEq

structure CommandSpec where
  program : String
  args : List String := []
  io : Option CommandIo := none
deriving DecidableEq

def fileName (path : String) : Option String :=
  match ((Text.split '/' path.toList).filter fun c => !c.isEmpty && decide (c ≠ ['.'])).getLast? with
  | none => none
  | some last => if last = ['.','.'] then none else some (String.ofList last)

namespace CommandSpec

variable (command : CommandSpec)

def intent : CommandIntent := command.io.elim .read (·.intent)

def stdin : Option String := command.io.bind (·.stdin)

def hasEnv (name : String) : Bool := command.io.any fun io => io.env.any fun v => decide (v.1 = name)

def isGhRequest : Bool := decide (fileName command.program = some "gh")

def isRemoteGitRequest : Bool :=
  decide (fileName command.program = some "git") &&
    command.args.any fun argument => decide (argument ∈ ["fetch","push","ls-remote","clone"])

def writeVerb : Bool :=
  match command.args with
  | "pr"::verb::_ => decide (verb ∈ ["create","edit","merge","comment","close","reopen"])
  | "label"::verb::_ => decide (verb ∈ ["create","edit","delete"])
  | "run"::verb::_ => decide (verb ∈ ["rerun","cancel","delete"])
  | "repo"::verb::_ => decide (verb = "edit")
  | _ => false

def explicitWrite : Bool :=
  (command.args.zip command.args.tail).any fun pair =>
    decide (pair.1 = "--method" ∧ pair.2 ∈ ["POST","PATCH","PUT","DELETE"])

def graphqlMutation : Bool :=
  command.args.any fun argument =>
    Text.startsWith argument "query=" &&
      "mutation".toList.isPrefixOf ((argument.toList.drop "query=".length).dropWhile Text.isWhitespace)

def inferredWriteIntent : Option CommandIntent :=
  match fileName command.program with
  | some "git" =>
      if command.args.contains "push" && !command.args.contains "--dry-run" then some .gitWrite
      else none
  | some "gh" =>
      if command.writeVerb then some .providerWrite
      else if command.args.head? ≠ some "api" then none
      else if command.explicitWrite || command.graphqlMutation then some .providerWrite
      else none
  | _ => none

def isWrite : Bool := (command.inferredWriteIntent.getD command.intent).isWrite

end CommandSpec

structure CommandOutput where
  code : Option ℤ
  stdout : String
  stderr : String
deriving DecidableEq

def CommandOutput.isSuccess (output : CommandOutput) : Bool := decide (output.code = some 0)

structure StreamCaptureEvidence where
  limitBytes : ℕ
  totalBytes : ℕ
  truncated : Bool
  prefixText : String
  suffix : String
deriving DecidableEq

inductive GithubAppRefusalStage where
  | configuration | repositoryResolution | credentialBroker | credentialValidation
  | principalBinding | repositoryProbe | gitTransport
deriving DecidableEq

inductive GithubAppRefusalCategory where
  | configuration | spawnOrIo | timeout | deadlineExhausted | outputLimit | invalidUtf8
  | requestBudget | nonzeroExit | invalidJson | invalidCredential | identityMismatch
  | repositoryNotFound | repositoryForbidden | tokenRejected | providerUnavailable
  | providerUnclassified
deriving DecidableEq

def GithubAppRefusalCategory.retryable (category : GithubAppRefusalCategory) : Bool :=
  decide (category ∈ [.timeout,.deadlineExhausted,.requestBudget,.providerUnavailable])

structure GithubAppRefusal where
  stage : GithubAppRefusalStage
  category : GithubAppRefusalCategory
  message : String
  retryable : Bool
  attempts : ℕ
  timeoutMs : Option ℕ
deriving DecidableEq

def GithubAppRefusal.configuration (stage : GithubAppRefusalStage) (message : String) :
    GithubAppRefusal :=
  ⟨stage,.configuration,message,GithubAppRefusalCategory.configuration.retryable,1,none⟩

inductive CommandRunError where
  | githubRequestBudgetExceeded (command : CommandSpec) (limit used : ℕ)
  | githubAppAuthRefused (command : CommandSpec) (refusal : GithubAppRefusal)
  | githubAppGitTransportRefused (command : CommandSpec) (refusal : GithubAppRefusal)
  | mutationFenceRefused (command : CommandSpec) (intent : CommandIntent) (message : String)
  | spawn (command : CommandSpec) (message : String)
  | invalidUtf8 (command : CommandSpec) (stream message : String)
  | outputLimit (command : CommandSpec) (code : Option ℤ) (stdout stderr : StreamCaptureEvidence)
  | timeout (command : CommandSpec) (processGroupId : Option ℕ) (timeoutMs : ℕ) (stdout stderr : String)
deriving DecidableEq

end Command
end Cara
