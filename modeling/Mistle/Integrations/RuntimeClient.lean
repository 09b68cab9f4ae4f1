import Mistle.Lib.Fallible
import Mistle.Lib.InsertionMap

/-!
# Runtime Clients

What a plan says of a client that runs in a sandbox: its environment and its files, the
processes that it starts, and the endpoints by which it is reached. Several parts of a plan may
say something of the same client, so two specifications are compared.

## Main definitions

* `CompilerFailure`, `Compiler`: A plan that may not be compiled.
* `RuntimeClient`: A client.
* `runtimeClientProcessSpecEquals`, `runtimeClientEndpointSpecEquals`: Two specifications that
  say the same.
-/

namespace Mistle

/-! ### Errors -/

inductive CompilerErrorCode where
  | agentRuntimeNotFound
  | agentRuntimeMcpTargetClientMissing
  | connectionMismatch
  | connectionNotActive
  | invalidAgentRuntimeConfig
  | invalidBindingConfig
  | invalidTargetConfig
  | invalidTargetSecrets
  | kindMismatch
  | mcpConflict
  | runtimeClientSetupConflict
  | targetDisabled
  deriving DecidableEq

/-- Why a plan is not compiled: an error of the compiler, or an exception of what it calls. -/
inductive CompilerFailure where
  | integrationCompilerError (code : CompilerErrorCode) (message : String)
  | thrown
  deriving DecidableEq

abbrev Compiler := Except CompilerFailure

def compilerError {α : Type} (code : CompilerErrorCode) (message : String) : Compiler α :=
  .error (.integrationCompilerError code message)

def mcpConflict {α : Type} (message : String) : Compiler α :=
  compilerError .mcpConflict message

/-- `object[key] = value` for a fresh object. Writing the key `__proto__` sets the prototype and
    adds no key. -/
def setProperty {α : Type} (object : InsertionMap String α) (key : String) (value : α) :
    InsertionMap String α :=
  if key = "__proto__" then object else object.set key value

/-! ### Clients -/

inductive RuntimeFileWriteMode where
  | overwrite
  | ifAbsent
  | merge
  deriving DecidableEq

structure RuntimeClientSetupFile where
  fileId : String
  path : String
  mode : Nat
  content : String
  writeMode : Option RuntimeFileWriteMode
  deriving DecidableEq

structure RuntimeClientSetup where
  env : InsertionMap String String
  files : List RuntimeClientSetupFile
  launchArgs : Option (List String)

structure RuntimeExecCommand where
  args : List String
  env : Option (InsertionMap String String)
  cwd : Option String
  timeoutMs : Option Nat

inductive RuntimeClientProcessReadiness where
  | none
  | tcp (host : String) (port timeoutMs : Nat)
  | ws (url : String) (timeoutMs : Nat)
  | http (url : String) (expectedStatus timeoutMs : Nat)
  deriving DecidableEq

inductive StopSignal where
  | sigterm
  | sigkill
  deriving DecidableEq

structure RuntimeClientProcessStopPolicy where
  signal : StopSignal
  timeoutMs : Nat
  gracePeriodMs : Option Nat
  deriving DecidableEq

structure RuntimeClientProcessSpec where
  processKey : String
  command : RuntimeExecCommand
  readiness : RuntimeClientProcessReadiness
  stop : RuntimeClientProcessStopPolicy

inductive EndpointConnectionMode where
  | dedicated
  | shared
  deriving DecidableEq

/-- An endpoint, with the url of its transport. -/
structure RuntimeClientEndpointSpec where
  endpointKey : String
  transport : String
  processKey : Option String
  connectionMode : EndpointConnectionMode

structure RuntimeClient where
  clientId : String
  setup : RuntimeClientSetup
  processes : List RuntimeClientProcessSpec
  endpoints : List RuntimeClientEndpointSpec

/-! ### Comparing specifications -/

/-- Two records with the same keys and values, in any order. -/
def stringRecordEquals : (left right : Option (InsertionMap String String)) → Bool
  | some left, some right =>
    left.size = right.size && left.entries.all fun entry => right.get? entry.1 = some entry.2
  | none, none => true
  | _, _ => false

def runtimeExecCommandEquals (left right : RuntimeExecCommand) : Bool :=
  left.args = right.args && stringRecordEquals left.env right.env && left.cwd = right.cwd &&
    left.timeoutMs = right.timeoutMs

def runtimeClientProcessSpecEquals (left right : RuntimeClientProcessSpec) : Bool :=
  runtimeExecCommandEquals left.command right.command && left.readiness = right.readiness &&
    left.stop = right.stop

def runtimeClientEndpointSpecEquals (left right : RuntimeClientEndpointSpec) : Bool :=
  left.connectionMode = right.connectionMode && left.processKey = right.processKey &&
    left.transport = right.transport

end Mistle
