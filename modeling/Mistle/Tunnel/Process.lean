import Mistle.Tunnel.Footprint

/-!
# Process Streams

Every process stream receives the same snapshots of the process table, on its
own credit. A snapshot goes to all of them at once, whoever asked for it: a
stream whose window does not admit it is reset, and if no snapshot can be taken
all of them are.

## Main definitions

* `openProcessStream`, `closeProcessStream`, `addProcessStreamWindow`: One stream.
* `sendProcessesSnapshotToStreams`, `resetProcessStreams`: All streams.
* `pollProcessStreams`: The timer.
* `handleProcessStreamFrame`: A data frame of the gateway.

## Theorems

* `ProcessesInScope.of_footprint`: A scope that holds every process stream keeps
  holding them.
* `sendProcessesSnapshotToStreams_footprint`, `resetProcessStreams_footprint`: A
  broadcast touches process streams only.
-/

namespace Mistle

open Handler

def defaultProcessesSnapshotIntervalMs : Nat := 500

def closeProcessStream (streamId : StreamId) : Session Bool := do
  let st ← get
  match st.processStreams.sendWindows[streamId]? with
  | none => return false
  | some _ =>
    modify fun st => { st with
      processStreams := { st.processStreams with
        sendWindows := st.processStreams.sendWindows.erase streamId } }
    return true

/-- Credit of the gateway; `false` if the stream is no process stream. -/
def addProcessStreamWindow (streamId : StreamId) (bytes : Nat) : Session Bool := do
  let st ← get
  match st.processStreams.sendWindows[streamId]? with
  | none => return false
  | some sendWindow =>
    match sendWindow.add bytes with
    | .error error => throw (.parseControl error.message)
    | .ok window =>
      modify fun st => { st with
        processStreams := { st.processStreams with
          sendWindows := st.processStreams.sendWindows.modify streamId fun _ => window } }
      return true

def resetProcessStreams (message : String) : Session Unit := do
  let st ← get
  modify fun st => { st with processStreams := { st.processStreams with sendWindows := ∅ } }
  each (fun streamId =>
    writeTunnelText (.streamReset streamId streamResetCodeProcessesSnapshotFailed message))
    st.processStreams.sendWindows.keys

/-- Send a snapshot to one stream; `true` if its window does not admit it. -/
def sendSnapshotToStream (payload : List UInt8) (streamId : StreamId) : Session Bool := do
  let st ← get
  match st.processStreams.sendWindows[streamId]? with
  | none => return false
  | some sendWindow =>
    match sendWindow.tryConsume payload.length with
    | none => return true
    | some window =>
      modify fun st => { st with
        processStreams := { st.processStreams with
          sendWindows := st.processStreams.sendWindows.modify streamId fun _ => window } }
      match checkedFrame streamId payloadKindWebsocketText payload with
      | .error error => throw (.parseDataFrame error.message)
      | .ok frame =>
        writeTunnelBinary frame
        return false

/-- Send a snapshot to each stream in turn; the streams it did not fit. -/
def sendSnapshotToEach (payload : List UInt8) : List StreamId → Session (List StreamId)
  | [] => return []
  | streamId :: rest => do
    let exhausted ← sendSnapshotToStream payload streamId
    let exhaustedRest ← sendSnapshotToEach payload rest
    return if exhausted then streamId :: exhaustedRest else exhaustedRest

def resetExhaustedStream (streamId : StreamId) : Session Unit := do
  writeTunnelText (.streamReset streamId streamResetCodeStreamWindowExhausted
    "processes stream send window is exhausted")
  let _ ← closeProcessStream streamId

section

variable (context : TunnelSessionLoopContext) (world : World)

def sendProcessesSnapshotToStreams : Session Unit := do
  let st ← get
  if st.processStreams.sendWindows.isEmpty then return ()
  else match world.processesSnapshot with
    | .error error => throw (.processes error)
    | .ok snapshot =>
      let exhaustedStreamIds ← sendSnapshotToEach (utf8 (context.serde.toText snapshot.serialize))
        st.processStreams.sendWindows.keys
      each resetExhaustedStream exhaustedStreamIds

def setLastSnapshotAtMs (lastSnapshotAtMs : Option Nat) : Session Unit :=
  modify fun st => { st with processStreams := { st.processStreams with lastSnapshotAtMs } }

def sendProcessesSnapshot : Session Unit := do
  sendProcessesSnapshotToStreams context world
  setLastSnapshotAtMs (some world.nowMs)

def openProcessStream (streamId : StreamId) : Session Unit := do
  match world.processesAvailable with
  | .error error =>
      writeTunnelText
        (.streamOpenError streamId connectErrorCodeProcessesStreamUnavailable error)
  | .ok () =>
    modify fun st => { st with
      processStreams := { st.processStreams with
        sendWindows := st.processStreams.sendWindows.insert streamId default } }
    writeTunnelText (.streamOpenOk streamId)
    match ← attempt (sendProcessesSnapshot context world) with
    | .ok () => return ()
    | .error error => resetProcessStreams error.display

def pollProcessStreams : Session Unit := do
  let st ← get
  if st.processStreams.sendWindows.isEmpty then setLastSnapshotAtMs none
  else if st.processStreams.lastSnapshotAtMs.all fun last =>
      defaultProcessesSnapshotIntervalMs ≤ world.nowMs - last then
    sendProcessesSnapshotToStreams context world
    setLastSnapshotAtMs (some world.nowMs)
  else return ()

/-- Reset a process stream over a frame it does not take. -/
def rejectProcessStreamFrame (streamId : StreamId) (reason : String) : Session Unit := do
  writeTunnelText (.streamReset streamId streamResetCodeInvalidStreamData reason)
  let _ ← closeProcessStream streamId

def handleProcessStreamFrame (frame : StreamDataFrame) : Session Unit := do
  if frame.payloadKind ≠ payloadKindWebsocketText then
    rejectProcessStreamFrame frame.streamId "processes stream only accepts websocket text payloads"
  else match ofUtf8 frame.payload with
    | none => throw (.parseDataFrame (context.utf8Error frame.payload))
    | some payload =>
      match parseProcessesStreamMessage context.serde payload with
      | .ok (.refresh _) =>
        writeTunnelText (.streamWindow frame.streamId frame.payload.length)
        match ← attempt (sendProcessesSnapshotToStreams context world) with
        | .ok () => setLastSnapshotAtMs (some world.nowMs)
        | .error error => resetProcessStreams error.display
      | .ok (.snapshot _) =>
          rejectProcessStreamFrame frame.streamId
            "processes stream does not accept processes.snapshot payloads from the gateway"
      | .error error => rejectProcessStreamFrame frame.streamId error.message

end

/-! ### Footprints -/

variable {scope : Scope}

theorem closeProcessStream_footprint {streamId : StreamId} (h : scope.streams streamId) :
    Follows (footprint scope) (closeProcessStream streamId) := by
  refine Follows.read fun st => ?_
  split
  · exact Follows.pure _ st
  · exact Follows.bind (StreamTable.processStreams.erase_footprint h) (fun _ => Follows.pure _) st

theorem addProcessStreamWindow_footprint {streamId : StreamId} (h : scope.streams streamId)
    (bytes : Nat) : Follows (footprint scope) (addProcessStreamWindow streamId bytes) := by
  refine Follows.read fun st => ?_
  split
  · exact Follows.pure _ st
  · split
    · exact Follows.throw _ st
    · exact Follows.bind (StreamTable.processStreams.modify_footprint h _)
        (fun _ => Follows.pure _) st

theorem rejectProcessStreamFrame_footprint {streamId : StreamId} (h : scope.streams streamId)
    (reason : String) :
    Follows (footprint scope) (rejectProcessStreamFrame streamId reason) :=
  Follows.bind (writeTunnelText_on rfl h)
    fun _ => Follows.bind (closeProcessStream_footprint h) fun _ => Follows.pure _

theorem setLastSnapshotAtMs_footprint (lastSnapshotAtMs : Option Nat) :
    Follows (footprint scope) (setLastSnapshotAtMs lastSnapshotAtMs) :=
  modify_footprint

/-- Every process stream is in scope. -/
def ProcessesInScope (scope : Scope) (st : TunnelSessionMutableState) : Prop :=
  ∀ t, (st.entries t).processStream.isSome → scope.streams t

/-- A new process stream is one in scope. -/
theorem ProcessesInScope.of_footprint {a b : TunnelSessionMutableState}
    {out : List TunnelEffect} (h : ProcessesInScope scope a) (hf : Footprint scope a out b) :
    ProcessesInScope scope b := by
  intro t ht
  by_contra hout
  rw [hf.elsewhere t hout] at ht
  exact hout (h t ht)

theorem ProcessesInScope.keys {st : TunnelSessionMutableState} (h : ProcessesInScope scope st) :
    ∀ t ∈ st.processStreams.sendWindows.keys, scope.streams t := by
  intro t ht
  refine h t ?_
  rw [Std.ExtTreeMap.mem_keys, Std.ExtTreeMap.mem_iff_contains,
    Std.ExtTreeMap.contains_eq_isSome_getElem?] at ht
  exact ht

theorem sendSnapshotToStream_footprint {streamId : StreamId} (h : scope.streams streamId)
    (payload : List UInt8) :
    Follows (footprint scope) (sendSnapshotToStream payload streamId) := by
  refine Follows.read fun st => ?_
  split
  · exact Follows.pure _ st
  · split
    · exact Follows.pure _ st
    · refine Follows.bind (StreamTable.processStreams.modify_footprint h _) (fun _ => ?_) st
      cases hframe : checkedFrame streamId payloadKindWebsocketText payload with
      | error error => exact Follows.throw _
      | ok frame =>
          refine Follows.bind (writeTunnelBinary_footprint ?_) fun _ => Follows.pure _
          rw [(checkedFrame_ok hframe).2]
          exact h

theorem sendSnapshotToEach_footprint (payload : List UInt8) (ids : List StreamId)
    (h : ∀ t ∈ ids, scope.streams t) :
    Follows (footprint scope) (sendSnapshotToEach payload ids) := by
  induction ids with
  | nil => exact Follows.pure _
  | cons streamId rest ih =>
      refine Follows.bind (sendSnapshotToStream_footprint (h _ (List.mem_cons_self ..)) payload)
        fun _ => ?_
      exact Follows.bind (ih fun t ht => h t (List.mem_cons_of_mem _ ht)) fun _ => Follows.pure _

/-- Only streams that were sent the snapshot are reported as exhausted. -/
theorem sendSnapshotToEach_result (payload : List UInt8) (ids : List StreamId) :
    ∀ {st : TunnelSessionMutableState} {exhausted : List StreamId},
      (sendSnapshotToEach payload ids st).result = .ok exhausted → ∀ t ∈ exhausted, t ∈ ids := by
  induction ids with
  | nil =>
      intro st exhausted h t ht
      cases h
      exact ht
  | cons streamId rest ih =>
      intro st exhausted h t ht
      rcases bind_result_ok h with ⟨first, _, h⟩
      rcases bind_result_ok h with ⟨others, hothers, h⟩
      cases h
      cases first with
      | false => exact List.mem_cons_of_mem _ (ih hothers t ht)
      | true =>
          rcases List.mem_cons.mp ht with rfl | ht
          · exact List.mem_cons_self ..
          · exact List.mem_cons_of_mem _ (ih hothers t ht)

section

variable (context : TunnelSessionLoopContext) (world : World)

theorem sendProcessesSnapshotToStreams_footprint {st : TunnelSessionMutableState}
    (h : ProcessesInScope scope st) :
    FollowsFrom (footprint scope) (sendProcessesSnapshotToStreams context world) st := by
  refine FollowsFrom.read ?_
  split
  · exact Follows.pure _ st
  · split
    · exact Follows.throw _ st
    · refine FollowsFrom.bind (sendSnapshotToEach_footprint _ _ h.keys st) fun exhausted hresult => ?_
      refine Follows.forEach (fun t ht => ?_) _
      have hscope : scope.streams t := h.keys t (sendSnapshotToEach_result _ _ hresult t ht)
      exact Follows.bind (writeTunnelText_on rfl hscope)
        fun _ => Follows.bind (closeProcessStream_footprint hscope) fun _ => Follows.pure _

theorem resetProcessStreams_footprint {st : TunnelSessionMutableState}
    (h : ProcessesInScope scope st) (message : String) :
    FollowsFrom (footprint scope) (resetProcessStreams message) st := by
  refine FollowsFrom.read ?_
  refine FollowsFrom.bind
    (StreamTable.processStreams.shrink_from (fun _ => ∅) (fun t ht => ?_) fun t ht => ?_)
    fun _ _ => ?_
  · have hnone : (st.entries t).processStream = none :=
      Option.not_isSome_iff_eq_none.mp fun hsome => ht (h t hsome)
    rw [Std.ExtTreeMap.getElem?_empty]
    exact hnone.symm
  · rw [Std.ExtTreeMap.getElem?_empty] at ht
    exact absurd ht (by simp only [Option.isSome_none, Bool.false_eq_true, not_false_eq_true])
  · exact Follows.forEach (fun t ht => writeTunnelText_on rfl (h.keys t ht)) _

/-- A snapshot to all streams, with all of them reset if it fails. -/
theorem snapshotOrReset_footprint {st : TunnelSessionMutableState}
    (h : ProcessesInScope scope st) {snapshot after : Session Unit}
    (hsnapshot : ∀ st, ProcessesInScope scope st → FollowsFrom (footprint scope) snapshot st)
    (hafter : Follows (footprint scope) after) :
    FollowsFrom (footprint scope) (do
      match ← attempt snapshot with
      | .ok () => after
      | .error error => resetProcessStreams error.display : Session Unit) st := by
  have hfirst : FollowsFrom (footprint scope) (attempt snapshot) st := hsnapshot st h
  refine FollowsFrom.bind hfirst fun result _ => ?_
  cases result with
  | ok => exact hafter _
  | error error => exact resetProcessStreams_footprint (h.of_footprint hfirst) _

theorem pollProcessStreams_footprint {st : TunnelSessionMutableState}
    (h : ProcessesInScope scope st) :
    FollowsFrom (footprint scope) (pollProcessStreams context world) st := by
  refine FollowsFrom.read ?_
  split
  · exact setLastSnapshotAtMs_footprint _ st
  · split
    · exact FollowsFrom.bind (sendProcessesSnapshotToStreams_footprint context world h)
        fun _ _ => setLastSnapshotAtMs_footprint _ _
    · exact Follows.pure _ st

theorem openProcessStream_footprint {st : TunnelSessionMutableState} {streamId : StreamId}
    (h : ProcessesInScope scope st) (hs : scope.streams streamId)
    (hfree : (st.entries streamId).count = 0) :
    FollowsFrom (footprint scope) (openProcessStream context world streamId) st := by
  unfold openProcessStream
  split
  · exact writeTunnelText_on rfl hs st
  · have hinsert := StreamTable.processStreams.insert_from hs hfree default
    refine FollowsFrom.bind hinsert fun _ _ => ?_
    have hinserted := h.of_footprint hinsert
    refine FollowsFrom.bind (writeTunnelText_on rfl hs _) fun _ _ => ?_
    refine snapshotOrReset_footprint (hinserted.of_footprint (writeTunnelText_on rfl hs _))
      (fun st hst => ?_) (Follows.pure ())
    exact FollowsFrom.bind (sendProcessesSnapshotToStreams_footprint context world hst)
      fun _ _ => setLastSnapshotAtMs_footprint _ _

/-- A frame of the gateway that asks for a new snapshot. -/
def StreamDataFrame.AsksForRefresh (serde : SerdeJson) (frame : StreamDataFrame) : Prop :=
  frame.payloadKind = payloadKindWebsocketText ∧ ∃ payload message,
    ofUtf8 frame.payload = some payload ∧
      parseProcessesStreamMessage serde payload = .ok (.refresh message)

theorem handleProcessStreamFrame_footprint {st : TunnelSessionMutableState}
    {frame : StreamDataFrame}
    (hrefresh : frame.AsksForRefresh context.serde → ProcessesInScope scope st)
    (hs : scope.streams frame.streamId) :
    FollowsFrom (footprint scope) (handleProcessStreamFrame context world frame) st := by
  unfold handleProcessStreamFrame
  split
  · exact rejectProcessStreamFrame_footprint hs _ st
  rename_i hkind
  split
  · exact Follows.throw _ st
  rename_i payload hpayload
  split
  · rename_i message hmessage
    have h : ProcessesInScope scope st :=
      hrefresh ⟨not_not.mp hkind, payload, message, hpayload, hmessage⟩
    have hwrite : FollowsFrom (footprint scope)
        (writeTunnelText (.streamWindow frame.streamId frame.payload.length)) st :=
      writeTunnelText_on rfl hs st
    refine FollowsFrom.bind hwrite fun _ _ => ?_
    exact snapshotOrReset_footprint (h.of_footprint hwrite)
      (fun _ hst => sendProcessesSnapshotToStreams_footprint context world hst)
      (setLastSnapshotAtMs_footprint _)
  · exact rejectProcessStreamFrame_footprint hs _ st
  · exact rejectProcessStreamFrame_footprint hs _ st

end

end Mistle
