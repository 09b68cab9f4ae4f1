import Mistle.Egress.RouteMatchers
import Mistle.Lib.Run
import Mistle.Lib.Upsert

/-!
# Refreshing Egress Routes

The sandbox serves its egress routes from a child process, which reads them from a
shared table when it is spawned. To refresh routes the table is brought up to date
and a command is sent to the thread that supervises the child. The thread shuts the child
down, spawns another and answers when that one is healthy. Where the answer is an
error the table is put back.

The thread does not only wait for commands: it polls its child and replaces one that
exited or that fails its health check. Its steps and those of the refresh interleave at
what they share, which are the table, the command queue, the answer and the request to
shut down.

## Main definitions

* `egressProxyRouteFromControl`: A route of the table, from one of the request.
* `EgressProxy`: The shared state and where the two threads are.
* `EgressProxy.supervise`, `EgressProxy.upsert?`: The steps of the thread and of a refresh.
* `proxyStep`: One step of either, or of the rest of the program.
-/

namespace Mistle

namespace Sandbox

/-! ### Routes -/

structure DesignerRuntimeMcpRouteMetadata where
  integrationConnectionId : Text
  providerToolIds : List Text
  deriving DecidableEq

/-- A route of the request, as it comes in. -/
structure ControlEgressRouteMatcher where
  egressRuleId : Text
  hosts : List Text
  pathPrefixes : List Text
  methods : Option (List Text)
  designerRuntimeMcp : Option DesignerRuntimeMcpRouteMetadata
  deriving DecidableEq

/-- A route of the table. -/
structure SharedEgressRoute extends EgressProxyRoute where
  designerRuntimeMcp : Option DesignerRuntimeMcpRouteMetadata
  deriving DecidableEq

def normalizeNonEmpty (value : Text) (fieldName : String) : Except Text Text :=
  let value := rustTrim value
  if value.isEmpty then .error ("egress route ".toList ++ fieldName.toList ++
    " cannot be empty".toList)
  else .ok value

def normalizePathPrefixForControl (egressRuleId pathPrefix : Text) : Except Text Text := do
  let pathPrefix ← normalizeNonEmpty pathPrefix "pathPrefix"
  if pathPrefix.head? = some '/' then
    return pathPrefix
  throw ("egress route '".toList ++ egressRuleId ++ "' path prefix '".toList ++ pathPrefix ++
    "' must start with '/'".toList)

def normalizeMethodsForControl (egressRuleId : Text) (methods : List Text) :
    Except Text (List Text) :=
  if methods.isEmpty then
    .error ("egress route '".toList ++ egressRuleId ++ "' methods cannot be empty".toList)
  else methods.mapM fun method => do
    let method ← normalizeNonEmpty method "method"
    return toAsciiUppercase method

def normalizeDesignerRuntimeMcp (egressRuleId : Text) (metadata : DesignerRuntimeMcpRouteMetadata) :
    Except Text DesignerRuntimeMcpRouteMetadata := do
  if metadata.providerToolIds.isEmpty then
    throw ("egress route '".toList ++ egressRuleId ++ ("' Designer runtime MCP metadata must " ++
      "include at least one provider tool id").toList)
  let integrationConnectionId ← normalizeNonEmpty metadata.integrationConnectionId
    "designerRuntimeMcp.integrationConnectionId"
  let providerToolIds ← metadata.providerToolIds.mapM fun toolId =>
    normalizeNonEmpty toolId "designerRuntimeMcp.providerToolIds"
  return ⟨integrationConnectionId, providerToolIds⟩

def egressProxyRouteFromControl (route : ControlEgressRouteMatcher) :
    Except Text SharedEgressRoute := do
  let egressRuleId ← normalizeNonEmpty route.egressRuleId "egressRuleId"
  if route.hosts.isEmpty then
    throw ("egress route '".toList ++ egressRuleId ++ "' must include at least one host".toList)
  if route.pathPrefixes.isEmpty then
    throw ("egress route '".toList ++ egressRuleId ++
      "' must include at least one path prefix".toList)
  let hosts ← route.hosts.mapM fun host => do
    let host ← normalizeNonEmpty host "host"
    return toAsciiLowercase host
  let pathPrefixes ← route.pathPrefixes.mapM (normalizePathPrefixForControl egressRuleId)
  let methods ← route.methods.mapM (normalizeMethodsForControl egressRuleId)
  let designerRuntimeMcp ← route.designerRuntimeMcp.mapM (normalizeDesignerRuntimeMcp egressRuleId)
  return {
    egressRuleId := egressRuleId
    hosts := hosts
    pathPrefixes := pathPrefixes
    methods := methods
    designerRuntimeMcp := designerRuntimeMcp }

/-- The rule that a route of the table belongs to. -/
def ruleId (route : SharedEgressRoute) : Text := route.egressRuleId

/-! ### The shared state -/

inductive EgressProxySupervisorCommand where
  | refreshRoutes
  | forceCurrentServerShutdown
  deriving DecidableEq

/-- A child process, with the routes that were written for it when it was spawned. -/
structure ActiveEgressProxyChildProcess where
  routes : List SharedEgressRoute
  deriving DecidableEq

/-- Why the thread spawns another child. -/
inductive RestartReason where
  | routeRefresh
  | restartAfterFailure
  deriving DecidableEq

/-- Where the thread that supervises the child is. -/
inductive Supervisor where
  | atLoopHead (child : ActiveEgressProxyChildProcess)
  | stopping (child : ActiveEgressProxyChildProcess)
  | receiving (child : ActiveEgressProxyChildProcess)
  | replacing (child : ActiveEgressProxyChildProcess)
  | polling (child : ActiveEgressProxyChildProcess)
  | checking (child : ActiveEgressProxyChildProcess)
  | restarting (reason : RestartReason)
  | backingOff (reason : RestartReason)
  | spawning (reason : RestartReason)
  | starting (reason : RestartReason) (child : ActiveEgressProxyChildProcess)
  | ended (result : Except Text Unit)
  deriving DecidableEq

/-- A refresh: the routes it was called with and the table it found. -/
structure Refresh where
  requested : List ControlEgressRouteMatcher
  previousRoutes : List SharedEgressRoute
  deriving DecidableEq

/-- Where the last refresh is. -/
inductive RefreshStage where
  | never
  | tableWritten (refresh : Refresh)
  | waiting (refresh : Refresh)
  | failing (refresh : Refresh) (error : Text)
  | returned (refresh : Refresh) (result : Except Text Unit)
  deriving DecidableEq

/-- What the threads share. `response` is the channel of the last refresh: refreshes do
    not overlap, for whoever refreshes holds the state of the sandbox to itself. -/
structure EgressProxy where
  routes : List SharedEgressRoute
  commands : List EgressProxySupervisorCommand
  response : Option (Except Text Unit)
  shutdownRequested : Bool
  supervisor : Supervisor
  refresh : RefreshStage
  deriving DecidableEq

/-- The child that the thread has, if it has one. -/
def Supervisor.child? : Supervisor → Option ActiveEgressProxyChildProcess
  | .atLoopHead child | .stopping child | .receiving child | .replacing child | .polling child
  | .checking child | .starting _ child => some child
  | .restarting _ | .backingOff _ | .spawning _ | .ended _ => none

def Supervisor.isRunning : Supervisor → Bool
  | .ended _ => false
  | _ => true

/-- The thread has taken on a command to refresh. -/
def Supervisor.refreshing : Supervisor → Bool
  | .replacing _ | .restarting .routeRefresh | .backingOff .routeRefresh
  | .spawning .routeRefresh | .starting .routeRefresh _ => true
  | _ => false

/-- The thread is neither at its end nor on the way there. -/
def Supervisor.serving : Supervisor → Bool
  | .ended _ | .stopping _ => false
  | _ => true

theorem Supervisor.isRunning_of_serving {supervisor : Supervisor}
    (h : supervisor.serving = true) : supervisor.isRunning = true := by
  cases supervisor with
  | ended _ => exact h
  | _ => rfl

namespace EgressProxy

/-! ### The thread -/

/-- What a step of the thread meets. A child that is shut down because it failed its health
    check may fail to shut down, too: the thread does not look at that. -/
inductive SupervisorEvent where
  | loadShutdownRequested
  | tryReceive
  | shutdownChild (result : Except Text Unit)
  | tryRecvExit (result : Except Text Bool)
  | checkHealth (result : Except Text Unit)
  | spawnChild (result : Except Text Unit)
  | waitForHealth (result : Except Text Unit)
  deriving DecidableEq

/-- Restarting gave up, which it does when it is to shut down. -/
def restartFailed (proxy : EgressProxy) (reason : RestartReason) : EgressProxy :=
  let error := "egress proxy supervisor shutdown requested".toList
  match reason with
  | .routeRefresh =>
    { proxy with response := some (.error error), supervisor := .ended (.error error) }
  | .restartAfterFailure =>
    if proxy.shutdownRequested then { proxy with supervisor := .ended (.ok ()) }
    else { proxy with supervisor := .ended (.error error) }

/-- One step of the thread. -/
def supervise (proxy : EgressProxy) (event : SupervisorEvent) : Option EgressProxy :=
  match proxy.supervisor, event with
  | .atLoopHead child, .loadShutdownRequested =>
    if proxy.shutdownRequested then some { proxy with supervisor := .stopping child }
    else some { proxy with supervisor := .receiving child }
  | .stopping _, .shutdownChild result => some { proxy with supervisor := .ended result }
  | .receiving child, .tryReceive =>
    match proxy.commands with
    | .refreshRoutes :: commands =>
      some { proxy with commands := commands, supervisor := .replacing child }
    -- The signal makes the child exit, which the thread is about to poll for.
    | .forceCurrentServerShutdown :: commands =>
      some { proxy with commands := commands, supervisor := .polling child }
    | [] => some { proxy with supervisor := .polling child }
  | .replacing _, .shutdownChild (.ok ()) =>
    some { proxy with supervisor := .restarting .routeRefresh }
  | .replacing _, .shutdownChild (.error error) =>
    some { proxy with response := some (.error error), supervisor := .ended (.error error) }
  | .polling child, .tryRecvExit (.ok false) => some { proxy with supervisor := .checking child }
  | .polling _, .tryRecvExit (.ok true) =>
    some { proxy with supervisor := .restarting .restartAfterFailure }
  | .polling _, .tryRecvExit (.error error) =>
    some { proxy with supervisor := .ended (.error error) }
  | .checking child, .checkHealth (.ok ()) => some { proxy with supervisor := .atLoopHead child }
  | .checking _, .checkHealth (.error _) =>
    some { proxy with supervisor := .restarting .restartAfterFailure }
  | .restarting reason, .loadShutdownRequested =>
    if proxy.shutdownRequested then some (restartFailed proxy reason)
    else some { proxy with supervisor := .backingOff reason }
  | .backingOff reason, .loadShutdownRequested =>
    if proxy.shutdownRequested then some (restartFailed proxy reason)
    else some { proxy with supervisor := .spawning reason }
  | .spawning reason, .spawnChild (.ok ()) =>
    some { proxy with supervisor := .starting reason ⟨proxy.routes⟩ }
  | .spawning reason, .spawnChild (.error _) =>
    some { proxy with supervisor := .restarting reason }
  | .starting .routeRefresh child, .waitForHealth (.ok ()) =>
    some { proxy with response := some (.ok ()), supervisor := .atLoopHead child }
  | .starting .restartAfterFailure child, .waitForHealth (.ok ()) =>
    some { proxy with supervisor := .atLoopHead child }
  | .starting reason _, .waitForHealth (.error _) =>
    some { proxy with supervisor := .restarting reason }
  | _, _ => none

/-! ### A refresh -/

/-- What the caller of a refresh does next. -/
inductive RefreshEvent where
  | upsertControlRoutes (routes : List ControlEgressRouteMatcher)
  | sendRefreshRoutes
  | receiveResponse
  | restoreRoutes
  deriving DecidableEq

/-- The routes are converted and the table is brought up to date, under the table's lock. -/
def upsertControlRoutes (proxy : EgressProxy) (requested : List ControlEgressRouteMatcher) :
    EgressProxy :=
  let refresh : Refresh := ⟨requested, proxy.routes⟩
  match requested.mapM egressProxyRouteFromControl with
  | .error error => { proxy with refresh := .returned refresh (.error error) }
  | .ok routes =>
    { proxy with
      routes := upsertAll ruleId proxy.routes routes
      response := none
      refresh := .tableWritten refresh }

/-- One step of a refresh. A channel whose thread has ended cannot be sent to, and where
    it ended without an answer there is none to receive. -/
def upsert? (proxy : EgressProxy) (event : RefreshEvent) : Option EgressProxy :=
  match proxy.refresh, event with
  | .never, .upsertControlRoutes requested => some (proxy.upsertControlRoutes requested)
  | .returned _ _, .upsertControlRoutes requested => some (proxy.upsertControlRoutes requested)
  | .tableWritten refresh, .sendRefreshRoutes =>
    if proxy.supervisor.isRunning then
      some { proxy with
        commands := proxy.commands ++ [.refreshRoutes]
        refresh := .waiting refresh }
    else some { proxy with
      refresh := .failing refresh
        "egress proxy supervisor command channel is unavailable".toList }
  | .waiting refresh, .receiveResponse =>
    match proxy.response with
    | some (.ok ()) => some { proxy with refresh := .returned refresh (.ok ()) }
    | some (.error error) => some { proxy with refresh := .failing refresh error }
    | none =>
      if proxy.supervisor.isRunning then none
      else some { proxy with
        refresh := .failing refresh
          "egress proxy route refresh response channel is unavailable".toList }
  | .failing refresh error, .restoreRoutes =>
    some { proxy with
      routes := refresh.previousRoutes
      refresh := .returned refresh (.error error) }
  | _, _ => none

/-! ### Steps -/

inductive ProxyEvent where
  | supervisor (event : SupervisorEvent)
  | refresh (event : RefreshEvent)
  | forceCurrentServerShutdown
  | requestShutdown
  deriving DecidableEq

def step? (proxy : EgressProxy) : ProxyEvent → Option EgressProxy
  | .supervisor event => proxy.supervise event
  | .refresh event => proxy.upsert? event
  | .forceCurrentServerShutdown =>
    if proxy.supervisor.isRunning then
      some { proxy with commands := proxy.commands ++ [.forceCurrentServerShutdown] }
    else some proxy
  | .requestShutdown => some { proxy with shutdownRequested := true }

/-- Nothing is recorded of a step but its event. -/
def proxyStep (proxy : EgressProxy) (event : ProxyEvent) (out : List Unit)
    (next : EgressProxy) : Prop :=
  proxy.step? event = some next ∧ out = []

/-- A proxy whose first child is healthy. -/
def started (routes : List SharedEgressRoute) : EgressProxy where
  routes := routes
  commands := []
  response := none
  shutdownRequested := false
  supervisor := .atLoopHead ⟨routes⟩
  refresh := .never

end EgressProxy

end Sandbox

end Mistle
