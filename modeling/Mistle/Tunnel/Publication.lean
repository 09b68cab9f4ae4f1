import Mistle.Lib.Run
import Mistle.Tunnel.State

/-!
# What a Tunnel Session Publishes

Two managers keep what the gateway is told of a sandbox: whether something keeps it alive, and
whether its runtime is ready. Each remembers whether a tunnel is connected and what was
published last, and hands out a message only when a connected tunnel has not been told yet.
There is one of each for the whole daemon.

The loop of a session marks both managers when its connection is up, publishes the readiness
once whatever it is, and from then on asks both in turn. At its end it marks them again. Each
of these is one lock, so that another session's loop may run between any two of them.

## Main definitions

* `KeepaliveManager`, `RuntimeReadinessManager`: What is kept, and what is published of it.
* `SessionLoop`, `SessionLoop.turn`: The loop of a session, one lock at a time.
-/

namespace Mistle

/-! ### Keepalive -/

def keepaliveTtlMs : Nat := 30000
def keepaliveHeartbeatIntervalMs : Nat := 10000

structure KeepaliveManager where
  hasUserActivity : Bool
  hasPlatformSemanticActivity : Bool
  hasPlatformProcessActivity : Bool
  tunnelConnected : Bool
  lastPublishedActive : Option Bool
  nextHeartbeatAtMs : Option Nat
  deriving DecidableEq

namespace KeepaliveManager

def onTunnelConnected (nowMs : Nat) (manager : KeepaliveManager) : KeepaliveManager :=
  { manager with
    tunnelConnected := true
    lastPublishedActive := none
    nextHeartbeatAtMs := some nowMs }

def onTunnelDisconnected (manager : KeepaliveManager) : KeepaliveManager :=
  { manager with tunnelConnected := false, nextHeartbeatAtMs := none }

def setUserActive (active : Bool) (manager : KeepaliveManager) : KeepaliveManager :=
  { manager with hasUserActivity := active }

def setPlatformActive (active : Bool) (manager : KeepaliveManager) : KeepaliveManager :=
  { manager with hasPlatformSemanticActivity := active }

def setPlatformProcessActive (active : Bool) (manager : KeepaliveManager) : KeepaliveManager :=
  { manager with hasPlatformProcessActivity := active }

def active (manager : KeepaliveManager) : Bool :=
  manager.hasUserActivity || manager.hasPlatformSemanticActivity ||
    manager.hasPlatformProcessActivity

def snapshot (manager : KeepaliveManager) : OutboundMessage :=
  .keepaliveState keepaliveTtlMs manager.active

/-- The message to publish now, if any, and what is kept then. -/
def takePublishableState (nowMs : Nat) (manager : KeepaliveManager) :
    Option OutboundMessage × KeepaliveManager :=
  if !manager.tunnelConnected then (none, manager)
  else if manager.lastPublishedActive ≠ some manager.active ∨
      manager.nextHeartbeatAtMs.any (fun deadline => decide (deadline ≤ nowMs)) then
    (some manager.snapshot,
      { manager with
        lastPublishedActive := some manager.active
        nextHeartbeatAtMs := some (saturatingAdd nowMs keepaliveHeartbeatIntervalMs) })
  else (none, manager)

/-- What is kept once the current message is published. -/
def published (nowMs : Nat) (manager : KeepaliveManager) : KeepaliveManager :=
  { manager with
    lastPublishedActive := some manager.active
    nextHeartbeatAtMs := some (saturatingAdd nowMs keepaliveHeartbeatIntervalMs) }

/-- A connected tunnel is told what it has not been told last. -/
theorem takePublishableState_cases (nowMs : Nat) (manager : KeepaliveManager) :
    manager.takePublishableState nowMs = (none, manager) ∧
      (manager.tunnelConnected = true → manager.lastPublishedActive = some manager.active) ∨
    manager.takePublishableState nowMs = (some manager.snapshot, manager.published nowMs) := by
  unfold takePublishableState
  split
  · rename_i hdisconnected
    refine .inl ⟨rfl, fun hconnected => ?_⟩
    rw [hconnected] at hdisconnected
    cases hdisconnected
  · split
    · exact .inr rfl
    · rename_i hquiet
      refine .inl ⟨rfl, fun _ => ?_⟩
      by_contra hne
      exact hquiet (.inl hne)

end KeepaliveManager

/-! ### Readiness -/

structure RuntimeReadinessManager where
  ready : Bool
  tunnelConnected : Bool
  lastPublishedReady : Option Bool
  deriving DecidableEq

namespace RuntimeReadinessManager

def onTunnelConnected (manager : RuntimeReadinessManager) : RuntimeReadinessManager :=
  { manager with tunnelConnected := true, lastPublishedReady := none }

def onTunnelDisconnected (manager : RuntimeReadinessManager) : RuntimeReadinessManager :=
  { manager with tunnelConnected := false }

def setReady (ready : Bool) (manager : RuntimeReadinessManager) : RuntimeReadinessManager :=
  { manager with ready }

def published (manager : RuntimeReadinessManager) : Option OutboundMessage × RuntimeReadinessManager :=
  (some (.runtimeReady manager.ready), { manager with lastPublishedReady := some manager.ready })

/-- The first message of a connection, whatever was published before it. -/
def takeInitialPublishableState (manager : RuntimeReadinessManager) :
    Option OutboundMessage × RuntimeReadinessManager :=
  if !manager.tunnelConnected then (none, manager) else manager.published

def takePublishableState (manager : RuntimeReadinessManager) :
    Option OutboundMessage × RuntimeReadinessManager :=
  if !manager.tunnelConnected ∨ manager.lastPublishedReady = some manager.ready then (none, manager)
  else manager.published

theorem takeInitialPublishableState_cases (manager : RuntimeReadinessManager) :
    manager.tunnelConnected = false ∧ manager.takeInitialPublishableState = (none, manager) ∨
    manager.tunnelConnected = true ∧ manager.takeInitialPublishableState = manager.published := by
  unfold takeInitialPublishableState
  by_cases hconnected : manager.tunnelConnected = true
  · refine .inr ⟨hconnected, if_neg ?_⟩
    rw [hconnected]
    decide
  · rw [Bool.not_eq_true] at hconnected
    refine .inl ⟨hconnected, if_pos ?_⟩
    rw [hconnected]
    rfl

/-- A connected tunnel is told what it has not been told last. -/
theorem takePublishableState_cases (manager : RuntimeReadinessManager) :
    manager.takePublishableState = (none, manager) ∧
      (manager.tunnelConnected = true → manager.lastPublishedReady = some manager.ready) ∨
    manager.takePublishableState = manager.published := by
  unfold takePublishableState
  split
  · rename_i hquiet
    refine .inl ⟨rfl, fun hconnected => hquiet.resolve_left ?_⟩
    rw [hconnected]
    decide
  · exact .inr rfl

end RuntimeReadinessManager

/-! ### The loop of a session -/

/-- What the loop of a session does next. -/
inductive SessionLoop where
  | openingTelemetry
  | markingKeepaliveConnected
  | markingReadinessConnected
  | publishingInitialReadiness
  | publishingKeepalive
  | publishingReadiness
  | waiting
  | markingKeepaliveDisconnected
  | markingReadinessDisconnected
  | ended
  deriving DecidableEq

/-- What one turn of a loop meets: the time, whether its writer takes what is written, and
    whether the item it waits for is the end of its connection. -/
structure LoopTurn where
  nowMs : Nat
  delivered : Bool
  closed : Bool
  deriving DecidableEq

/-- The two managers. -/
structure Managers where
  keepalive : KeepaliveManager
  readiness : RuntimeReadinessManager
  deriving DecidableEq

/-- Where a loop goes from a message it has taken: on, or to its end where the message is not
    taken by the writer. -/
def SessionLoop.publish (turn : LoopTurn) (message : Option OutboundMessage) (next : SessionLoop) :
    SessionLoop × List OutboundMessage :=
  match message with
  | none => (next, [])
  | some message =>
    if turn.delivered then (next, [message]) else (.markingKeepaliveDisconnected, [])

/-- One turn of a loop: where it goes, what the managers keep and what it has written. -/
def SessionLoop.turn (turn : LoopTurn) (managers : Managers) :
    SessionLoop → Option (SessionLoop × Managers × List OutboundMessage)
  | .openingTelemetry =>
    some (if turn.delivered then .markingKeepaliveConnected else .markingKeepaliveDisconnected,
      managers, [])
  | .markingKeepaliveConnected =>
    some (.markingReadinessConnected,
      { managers with keepalive := managers.keepalive.onTunnelConnected turn.nowMs }, [])
  | .markingReadinessConnected =>
    some (.publishingInitialReadiness,
      { managers with readiness := managers.readiness.onTunnelConnected }, [])
  | .publishingInitialReadiness =>
    match managers.readiness.takeInitialPublishableState with
    | (none, _) => some (.markingKeepaliveDisconnected, managers, [])
    | (some message, readiness) =>
      let (next, written) := publish turn (some message) .publishingKeepalive
      some (next, { managers with readiness }, written)
  | .publishingKeepalive =>
    let (message, keepalive) := managers.keepalive.takePublishableState turn.nowMs
    let (next, written) := publish turn message .publishingReadiness
    some (next, { managers with keepalive }, written)
  | .publishingReadiness =>
    let (message, readiness) := managers.readiness.takePublishableState
    let (next, written) := publish turn message .waiting
    some (next, { managers with readiness }, written)
  | .waiting =>
    some (if turn.closed then .markingKeepaliveDisconnected else .publishingKeepalive, managers, [])
  | .markingKeepaliveDisconnected =>
    some (.markingReadinessDisconnected,
      { managers with keepalive := managers.keepalive.onTunnelDisconnected }, [])
  | .markingReadinessDisconnected =>
    some (.ended, { managers with readiness := managers.readiness.onTunnelDisconnected }, [])
  | .ended => none

end Mistle
