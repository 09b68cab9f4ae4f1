import Mistle.Lib.Run
import Mistle.Tunnel.RouterFootprint

/-!
# Connections of the Tunnel Session

A connection starts from an empty session state: the telemetry stream and, if
there is an operation, the operation stream are asked for. From then on the loop
takes one item at a time, in any order, until a step fails or asks to stop; the
state is dropped and the supervisor may connect again.

Everything the loop does not decide is part of the input: which item comes next,
what the world answers, and when the writer's receiver goes away.

## Main definitions

* `startSession`: The start of a connection.
* `SessionItem`, `SessionInput`: What the loop takes.
* `Connection`, `connectionStep`: The loop, as a step function.
* `ConnectionRun`, `ConnectionSteps`: Its runs, and a property of their steps.
* `streamTables`: Which of the eight tables hold a stream.

## Theorems

* `handleSessionItem_footprint`: What an item may touch.
* `exists_connectionRun`, `exists_connectionRun_passing`: A run found by executing its inputs.
* `stream_ids_exclusive`: No stream is ever in two tables.
-/

namespace Mistle

open Handler

/-- The state a connection starts from. -/
def TunnelSessionMutableState.fresh (writer : TunnelWriter) (agentEndpointUrl : Option String)
    (runtimeEnv : List (String × String)) : TunnelSessionMutableState where
  tunnelWriter := writer
  agentEndpointUrl := agentEndpointUrl
  runtimeEnv := runtimeEnv
  telemetryRelay := .default
  pendingSigningRequests := ∅
  pendingEgressTokenRequests := ∅
  pendingAgentOpens := ∅
  pendingExecOpens := ∅
  agentStreams := ∅
  portAccessHttpStreams := ∅
  portAccessTcpStreams := ∅
  processStreams := { sendWindows := ∅, lastSnapshotAtMs := none }
  fileSearchStreams := ∅
  operationStreamRequested := false
  operationStreamCloseRequested := false
  operationStreamCloseResponseSender := none
  operationStreamSendWindow := none
  pendingOperationRecords := []
  fileUploads := ∅

/-- The identity and kind of the operation a sandbox was started for. -/
structure SandboxOperation where
  operationId : String
  operationKind : String

def startSession (operation : Option SandboxOperation) : Session Unit := do
  let st ← get
  let (frames, relay) := st.telemetryRelay.attachTunnelConnection
  modify fun st => { st with telemetryRelay := relay }
  sendTelemetryFrames frames
  match operation with
  | none => return ()
  | some operation => openOperationStream operation.operationId operation.operationKind

/-- Answer every waiting signing and token request with an error. -/
def failPendingRequests (ending : String) : Session Unit := do
  let st ← get
  modify fun st => { st with pendingSigningRequests := ∅ }
  each (fun sender => emit (.answerSigning sender (.error (.signing
    s!"bootstrap tunnel session {ending} before a signing result arrived"))))
    st.pendingSigningRequests.values
  modify fun st => { st with pendingEgressTokenRequests := ∅ }
  each (fun sender => emit (.answerEgressToken sender (.error (.egressToken
    s!"bootstrap tunnel session {ending} before an egress token arrived"))))
    st.pendingEgressTokenRequests.values

/-- The end of a session whose runtime was asked to shut down. -/
def observeShutdown : Session TunnelSessionControlFlow := do
  let st ← get
  each (fun streamId => emit (.task (.abortAgentDial streamId))) st.pendingAgentOpens.keys
  modify fun st => { st with pendingExecOpens := ∅ }
  each (fun streamId => emit (.task (.cancelExec streamId))) st.pendingExecOpens.keys
  let (frames, relay) := st.telemetryRelay.detachTunnelConnection
  modify fun st => { st with telemetryRelay := relay }
  let _ ← attempt (sendTelemetryFrames frames)
  failPendingRequests "shut down"
  let _ ← sendToWriter .close
  return .shutdownRequested

/-- What the loop takes next. -/
inductive SessionItem where
  | event (event : TunnelSessionEvent)
  | request (request : TunnelSessionRequest)
  | lifecycleLines (lines : List String)
  | keepaliveState (ttlMs : Nat) (active : Bool)
  | runtimeReady (ready : Bool)
  | ptyReport (requestId ptySessionId : String) (outcome : PtyTransportOutcome)
  | shutdownObserved

section

variable (context : TunnelSessionLoopContext)

def handleSessionItem (world : World) (item : SessionItem) : Session TunnelSessionControlFlow :=
  match item with
  | .event event => handleTunnelSessionEvent context world event
  | .request request => handleTunnelSessionRequest context world request
  | .lifecycleLines lines => continueWith (forwardSupervisorLifecycleEvents lines)
  | .keepaliveState ttlMs active => continueWith (writeTunnelText (.keepaliveState ttlMs active))
  | .runtimeReady ready => continueWith (writeTunnelText (.runtimeReady ready))
  | .ptyReport requestId ptySessionId outcome => do
    -- The thread writes by itself: if it cannot, the loop does not learn of it.
    let _ ← attempt (writeTunnelText (outcome.message requestId ptySessionId))
    return .continue
  | .shutdownObserved => observeShutdown

inductive SessionInput where
  | connect (writer : TunnelWriter) (agentEndpointUrl : Option String)
      (runtimeEnv : List (String × String)) (operation : Option SandboxOperation)
  | item (world : World) (item : SessionItem)

/-- The session state while connected. -/
abbrev Connection := Option TunnelSessionMutableState

/-- The state is kept after a step that succeeded and goes on. -/
def kept (o : Outcome TunnelSessionError TunnelSessionMutableState TunnelEffect
    TunnelSessionControlFlow) : Connection :=
  match o.result with
  | .ok .continue => some o.state
  | _ => none

def connectionStep (connection : Connection) (input : SessionInput) :
    Option (Connection × List TunnelEffect) :=
  match connection, input with
  | none, .connect writer agentEndpointUrl runtimeEnv operation =>
    let o := continueWith (startSession operation) (.fresh writer agentEndpointUrl runtimeEnv)
    some (kept o, o.emitted)
  | some st, .item world item =>
    let o := handleSessionItem context world item st
    some (kept o, o.emitted)
  | _, _ => none

/-- Runs of connections of one `sandboxd`. -/
abbrev ConnectionRun (trace : List (Entry SessionInput TunnelEffect)) (connection : Connection) :
    Prop :=
  Run (fun c i out c' => connectionStep context c i = some (c', out)) none trace connection

/-- Every step of a trace of connections has a property. -/
abbrev ConnectionSteps (trace : List (Entry SessionInput TunnelEffect))
    (P : Connection → SessionInput → List TunnelEffect → Prop) : Prop :=
  EveryStep (fun c i out c' => connectionStep context c i = some (c', out)) none trace P

theorem connectionStep_functional :
    Functional fun c i out c' => connectionStep context c i = some (c', out) :=
  functional_of_step (connectionStep context)

/-! ### Footprints of items -/

/-- What an item may touch. -/
def itemScope (item : SessionItem) (st : TunnelSessionMutableState) : Scope :=
  match item with
  | .event event => eventScope context.serde event st
  | .request request => requestScope request
  | .lifecycleLines _ => .ofStreams fun _ => False
  | .keepaliveState _ _ => .ofStreams fun _ => False
  | .runtimeReady _ => .ofStreams fun _ => False
  | .ptyReport _ _ _ => .ofStreams fun _ => False
  | .shutdownObserved =>
    { streams := fun t => (st.entries t).pendingExecOpen.isSome ∨ t = sandboxTelemetryLogStreamId
      operation := False
      telemetry := True }

theorem failPendingRequests_footprint {scope : Scope} (ending : String) :
    Follows (footprint scope) (failPendingRequests ending) :=
  Follows.read fun _ => Follows.bind modify_footprint (fun _ =>
    Follows.bind (Follows.forEach fun _ _ => answerSigning_footprint _ _) fun _ =>
      Follows.bind modify_footprint fun _ =>
        Follows.forEach fun _ _ => answerEgressToken_footprint _ _) _

theorem setTelemetryRelay_footprint {scope : Scope} (htelemetry : scope.telemetry)
    (relay : TelemetryRelay) :
    Follows (footprint scope)
      (modify fun st => { st with telemetryRelay := relay } : Session Unit) :=
  Follows.modify fun _ => ⟨fun _ _ => rfl, id, fun _ ho => absurd ho List.not_mem_nil,
    fun _ => rfl, fun h => absurd htelemetry h, id, fun _ _ ho => absurd ho List.not_mem_nil⟩

theorem observeShutdown_footprint (st : TunnelSessionMutableState) :
    FollowsFrom (footprint (itemScope context .shutdownObserved st)) observeShutdown st := by
  refine FollowsFrom.read ?_
  refine FollowsFrom.bind (Follows.forEach (fun _ _ => task_footprint _) st) fun _ _ => ?_
  have hstate : (each (fun streamId => (emit (.task (.abortAgentDial streamId)) : Session Unit))
      st.pendingAgentOpens.keys st).state = st := by
    generalize st.pendingAgentOpens.keys = ids
    induction ids with
    | nil => rfl
    | cons id ids ih => exact ih
  rw [hstate]
  refine FollowsFrom.bind
    (StreamTable.pendingExecOpens.shrink_from (fun _ => ∅) (fun t ht => ?_) fun t ht => ?_)
    fun _ _ => ?_
  · have hnone : (st.entries t).pendingExecOpen = none :=
      Option.not_isSome_iff_eq_none.mp fun hsome => ht (.inl hsome)
    rw [Std.ExtTreeMap.getElem?_empty]
    exact hnone.symm
  · rw [Std.ExtTreeMap.getElem?_empty] at ht
    exact absurd ht (by simp only [Option.isSome_none, Bool.false_eq_true, not_false_eq_true])
  · refine Follows.bind (Follows.forEach fun _ _ => task_footprint _) (fun _ => ?_) _
    refine Follows.bind (setTelemetryRelay_footprint trivial _) fun _ => ?_
    refine Follows.bind (Follows.attempt (Follows.forEach fun frame hframe => ?_)) fun _ => ?_
    · split at hframe
      · exact absurd hframe List.not_mem_nil
      · rw [List.mem_singleton.mp hframe]
        exact writeTunnelText_on rfl (.inr rfl)
    · refine Follows.bind (failPendingRequests_footprint _) fun _ => ?_
      refine Follows.bind (sendToWriter_footprint (fun t ht => ?_) fun _ => rfl)
        fun _ => Follows.pure _
      exact absurd ht (by simp only [TunnelEffect.streamId?, reduceCtorEq, not_false_eq_true])

theorem handleSessionItem_footprint (world : World) (item : SessionItem)
    (st : TunnelSessionMutableState) :
    FollowsFrom (footprint (itemScope context item st)) (handleSessionItem context world item)
      st := by
  cases item with
  | event event => exact handleTunnelSessionEvent_footprint _ _ event st
  | request request => exact handleTunnelSessionRequest_footprint _ _ request st
  | lifecycleLines lines =>
      exact continueWith_footprint (forwardSupervisorLifecycleEvents_footprint lines st)
  | keepaliveState ttlMs active => exact continueWith_footprint (writeTunnelText_off rfl st)
  | runtimeReady ready => exact continueWith_footprint (writeTunnelText_off rfl st)
  | ptyReport requestId ptySessionId outcome =>
      refine Follows.bind (Follows.attempt ?_) (fun _ => Follows.pure _) st
      cases outcome with
      | attachUnsupported => exact writeTunnelText_off rfl
      | createFailed error => exact writeTunnelText_off rfl
      | attachFailed error => exact writeTunnelText_off rfl
      | opened => exact writeTunnelText_off rfl
  | shutdownObserved => exact observeShutdown_footprint context st

/-- The scope of the start of a connection. -/
def startScope : Scope where
  streams t := t = sandboxTelemetryLogStreamId ∨ t = sandboxOperationStreamId
  operation := True
  telemetry := True

theorem startSession_footprint (operation : Option SandboxOperation) :
    Follows (footprint startScope) (startSession operation) := by
  refine Follows.read fun st => ?_
  refine Follows.bind (setTelemetryRelay_footprint trivial _) (fun _ => ?_) st
  refine Follows.bind (Follows.forEach fun frame hframe => ?_) fun _ => ?_
  · rw [List.mem_singleton.mp hframe]
    exact writeTunnelText_on rfl (.inl rfl)
  · cases operation with
    | none => exact Follows.pure _
    | some operation =>
        refine Follows.bind (Follows.attempt (writeTunnelText_on rfl (.inr rfl)))
          fun result => ?_
        cases result with
        | ok => exact modifyOperation_footprint trivial
        | error error => exact Follows.pure _

/-- A step of a live connection, by the handler it ran. -/
theorem connectionStep_item {st : TunnelSessionMutableState} {input : SessionInput}
    {connection : Connection} {out : List TunnelEffect}
    (h : connectionStep context (some st) input = some (connection, out)) :
    ∃ world item, input = .item world item ∧
      connection = kept (handleSessionItem context world item st) ∧
      out = (handleSessionItem context world item st).emitted := by
  cases input with
  | connect writer url env operation => cases h
  | item world item =>
      simp only [connectionStep, Option.some.injEq, Prod.mk.injEq] at h
      exact ⟨world, item, rfl, h.1.symm, h.2.symm⟩

theorem connectionStep_connect {input : SessionInput} {connection : Connection}
    {out : List TunnelEffect} (h : connectionStep context none input = some (connection, out)) :
    ∃ writer url env operation, input = .connect writer url env operation ∧
      connection = kept (continueWith (startSession operation) (.fresh writer url env)) ∧
      out = (continueWith (startSession operation) (.fresh writer url env)).emitted := by
  cases input with
  | connect writer url env operation =>
      simp only [connectionStep, Option.some.injEq, Prod.mk.injEq] at h
      exact ⟨writer, url, env, operation, rfl, h.1.symm, h.2.symm⟩
  | item world item => cases h

theorem kept_some {o : Outcome TunnelSessionError TunnelSessionMutableState TunnelEffect
    TunnelSessionControlFlow} {st : TunnelSessionMutableState} (h : kept o = some st) :
    o.result = .ok .continue ∧ o.state = st := by
  unfold kept at h
  split at h
  · rename_i hresult
    exact ⟨hresult, Option.some.inj h⟩
  · exact absurd h (by simp only [reduceCtorEq, not_false_eq_true])

/-- A run to a live connection, found by executing its inputs. -/
theorem exists_connectionRun (inputs : List SessionInput)
    (check : List (Entry SessionInput TunnelEffect) → TunnelSessionMutableState → Bool)
    (h : executesTo (connectionStep context) none inputs
      (fun trace connection => connection.any (check trace)) = true) :
    ∃ trace st, ConnectionRun context trace (some st) ∧ trace.map Entry.input = inputs ∧
      check trace st = true := by
  rcases exists_run_of_executesTo h with ⟨trace, connection, run, hinputs, hcheck⟩
  cases connection with
  | none => exact absurd hcheck Bool.false_ne_true
  | some st => exact ⟨trace, st, run, hinputs, hcheck⟩

/-- The same, where every step passes a check of the state it is taken in. -/
theorem exists_connectionRun_passing (inputs : List SessionInput)
    (check : List (Entry SessionInput TunnelEffect) → TunnelSessionMutableState → Bool)
    (pass : Connection → SessionInput → Bool)
    (h : executesTo (connectionStep context) none inputs
      (fun trace connection => connection.any (check trace)) = true)
    (hpass : stepsPass (connectionStep context) pass none inputs = true) :
    ∃ trace st, ConnectionRun context trace (some st) ∧ trace.map Entry.input = inputs ∧
      check trace st = true ∧
      ConnectionSteps context trace fun connection input _ => pass connection input = true := by
  rcases exists_run_of_stepsPass h hpass with ⟨trace, connection, run, hinputs, hcheck, hsteps⟩
  cases connection with
  | none => exact absurd hcheck Bool.false_ne_true
  | some st => exact ⟨trace, st, run, hinputs, hcheck, hsteps⟩

/-- The input of a step of a trace is one of its inputs. -/
theorem mem_inputs {trace before after : List (Entry SessionInput TunnelEffect)}
    {input : SessionInput} {out : List TunnelEffect}
    (h : trace = before ++ ⟨input, out⟩ :: after) : input ∈ trace.map Entry.input := by
  rw [h, List.map_append, List.map_cons]
  exact List.mem_append_right _ (List.mem_cons_self ..)

end

/-! ### Exclusivity -/

/-- Which of the eight tables hold a stream. -/
def TunnelSessionMutableState.streamTables (st : TunnelSessionMutableState) (s : StreamId) :
    List Bool :=
  [st.agentStreams.contains s, st.pendingAgentOpens.contains s, st.pendingExecOpens.contains s,
    st.processStreams.sendWindows.contains s, st.fileSearchStreams.contains s,
    st.fileUploads.contains s, st.portAccessHttpStreams.contains s,
    st.portAccessTcpStreams.contains s]

theorem streamTables_count (st : TunnelSessionMutableState) (s : StreamId) :
    (st.streamTables s).count true = (st.entries s).count := by
  have hcons : ∀ (b : Bool) (rest : List Bool),
      (b :: rest).count true = b.toNat + rest.count true := by
    intro b rest
    cases b with
    | true => rw [List.count_cons_self, Bool.toNat_true, Nat.add_comm]
    | false => rw [List.count_cons_of_ne (by decide), Bool.toNat_false, Nat.zero_add]
  simp only [TunnelSessionMutableState.streamTables, hcons, List.count_nil,
    Std.ExtTreeMap.contains_eq_isSome_getElem?, StreamEntries.count,
    TunnelSessionMutableState.entries]
  omega

theorem fresh_exclusive (writer : TunnelWriter) (url : Option String)
    (env : List (String × String)) :
    (TunnelSessionMutableState.fresh writer url env).Exclusive := by
  intro s
  simp only [StreamEntries.count, TunnelSessionMutableState.entries,
    TunnelSessionMutableState.fresh, Std.ExtTreeMap.getElem?_empty, Option.isSome_none,
    Bool.toNat_false, Nat.add_zero, Nat.zero_le]

/-- In every run, every stream is a key of at most one table at any time. -/
theorem stream_ids_exclusive (context : TunnelSessionLoopContext)
    (trace : List (Entry SessionInput TunnelEffect)) (st : TunnelSessionMutableState)
    (run : ConnectionRun context trace (some st)) (s : StreamId) :
    (st.streamTables s).count true ≤ 1 := by
  have hexclusive : ∀ st', some st = some st' → st'.Exclusive := by
    refine Run.invariant run (P := fun c => ∀ st, c = some st → st.Exclusive)
      (fun st h => absurd h (by simp only [reduceCtorEq, not_false_eq_true])) ?_
    intro a input out b ha hstep st' hb
    rw [hb] at hstep
    cases a with
    | none =>
        rcases connectionStep_connect context hstep with ⟨writer, url, env, operation, _, hkept, _⟩
        rw [← (kept_some hkept.symm).2]
        exact (continueWith_footprint (startSession_footprint operation _)).exclusive
          (fresh_exclusive writer url env)
    | some before =>
        rcases connectionStep_item context hstep with ⟨world, item, _, hkept, _⟩
        rw [← (kept_some hkept.symm).2]
        exact (handleSessionItem_footprint context world item before).exclusive (ha before rfl)
  rw [streamTables_count]
  exact hexclusive st rfl s

/-- The text of an open of a process stream, and its tree. -/
def openProcessesDocument : String × Json String :=
  ("\x7b\"type\":\"stream.open\",\"streamId\":7,\"channel\":\x7b\"kind\":\"processes\"\x7d\x7d",
    .obj [("type", .str "stream.open"), ("streamId", .int 7),
      ("channel", .obj [("kind", .str "processes")])])

/-- A stream that was opened is in exactly one table. -/
theorem stream_ids_exclusive_processes :
    ∃ trace st, ConnectionRun (.ofDocuments [openProcessesDocument]) trace (some st) ∧
      (st.streamTables 7).count true = 1 ∧ (st.streamTables 7).count true ≤ 1 := by
  rcases exists_connectionRun (.ofDocuments [openProcessesDocument])
    [.connect .open none [] none,
      .item .idle (.event (.bootstrapMessage (.text openProcessesDocument.1)))]
    (fun _ st => (st.streamTables 7).count true = 1) (by decide +kernel) with
    ⟨trace, st, run, _, hone⟩
  exact ⟨trace, st, run, of_decide_eq_true hone, stream_ids_exclusive _ trace st run 7⟩

end Mistle
