import Mistle.Tunnel.Writer

/-!
# Footprints of Handlers

The state keeps eight tables of streams, and a handler that serves one stream
should leave the entries of every other stream alone, write only frames that
bear its own stream, and touch neither the operation stream nor the mode of the
telemetry relay. `Footprint scope` is that statement, for the streams and parts
a scope allows; it holds of doing nothing and is closed under sequencing, so it
is a trail, and the footprint of a handler is assembled from the footprints of
what it calls.

Exclusivity is part of the footprint: if no stream is in two tables before, none
is after. A change of one entry keeps that when it adds no key, or when the
stream was in no table at all.

## Main definitions

* `StreamEntries`: What the tables hold for one stream.
* `StreamTable`: One of the tables, with the laws that tie it to the entries.
* `Scope`, `Footprint`, `footprint`: What a handler may touch, and the trail.

## Theorems

* `Footprint.comp`, `Footprint.widen`: Sequencing, and enlarging the scope.
* `writeTunnelText_footprint`, `publishTunnelTelemetryLog_footprint`: The writers.
* `StreamTable.erase_footprint`, `StreamTable.modify_footprint`,
  `StreamTable.insert_footprint`: Changes of one entry.
-/

namespace Mistle

open Handler

/-! ### Entries -/

/-- What the eight tables hold for one stream. -/
structure StreamEntries where
  agentStream : Option AgentStreamState
  pendingAgentOpen : Option TaskHandle
  pendingExecOpen : Option TaskHandle
  processStream : Option StreamSendWindow
  fileSearchStream : Option FileSearchStreamState
  fileUpload : Option FileUploadState
  portAccessHttpStream : Option TaskHandle
  portAccessTcpStream : Option PortAccessTcpStreamState
  deriving DecidableEq

/-- How many tables hold the stream. -/
def StreamEntries.count (e : StreamEntries) : Nat :=
  e.agentStream.isSome.toNat + e.pendingAgentOpen.isSome.toNat + e.pendingExecOpen.isSome.toNat
    + e.processStream.isSome.toNat + e.fileSearchStream.isSome.toNat + e.fileUpload.isSome.toNat
    + e.portAccessHttpStream.isSome.toNat + e.portAccessTcpStream.isSome.toNat

/-- The operation stream's part of the state. -/
structure OperationStream where
  requested : Bool
  closeRequested : Bool
  closeResponseSender : Option ResponseSender
  sendWindow : Option StreamSendWindow
  pendingRecords : List String
  deriving DecidableEq

namespace TunnelSessionMutableState

def entries (st : TunnelSessionMutableState) (s : StreamId) : StreamEntries where
  agentStream := st.agentStreams[s]?
  pendingAgentOpen := st.pendingAgentOpens[s]?
  pendingExecOpen := st.pendingExecOpens[s]?
  processStream := st.processStreams.sendWindows[s]?
  fileSearchStream := st.fileSearchStreams[s]?
  fileUpload := st.fileUploads[s]?
  portAccessHttpStream := st.portAccessHttpStreams[s]?
  portAccessTcpStream := st.portAccessTcpStreams[s]?

def operation (st : TunnelSessionMutableState) : OperationStream where
  requested := st.operationStreamRequested
  closeRequested := st.operationStreamCloseRequested
  closeResponseSender := st.operationStreamCloseResponseSender
  sendWindow := st.operationStreamSendWindow
  pendingRecords := st.pendingOperationRecords

/-- No stream is in two tables. -/
def Exclusive (st : TunnelSessionMutableState) : Prop :=
  ∀ s, (st.entries s).count ≤ 1

/-- The parts of the state a footprint follows besides the tables. -/
def rest (st : TunnelSessionMutableState) : TunnelWriter × TelemetryRelay × OperationStream :=
  (st.tunnelWriter, st.telemetryRelay, st.operation)

end TunnelSessionMutableState

/-! ### Tables -/

/-- One of the eight tables: how to read and replace it, where its entry of a
    stream stands among the stream's entries, and the laws between the two. -/
structure StreamTable (α : Type) where
  get : TunnelSessionMutableState → Table α
  set : Table α → TunnelSessionMutableState → TunnelSessionMutableState
  pick : StreamEntries → Option α
  put : Option α → StreamEntries → StreamEntries
  get_entry : ∀ st s, (get st)[s]? = pick (st.entries s)
  set_entry : ∀ table st s, (set table st).entries s = put table[s]? (st.entries s)
  set_rest : ∀ table st, (set table st).rest = st.rest
  put_pick : ∀ e, put (pick e) e = e
  count_put : ∀ entry e, (put entry e).count + (pick e).isSome.toNat
    = e.count + entry.isSome.toNat

namespace StreamTable

def agentStreams : StreamTable AgentStreamState where
  get st := st.agentStreams
  set table st := { st with agentStreams := table }
  pick e := e.agentStream
  put entry e := { e with agentStream := entry }
  get_entry _ _ := rfl
  set_entry _ _ _ := rfl
  set_rest _ _ := rfl
  put_pick _ := rfl
  count_put _ _ := by simp only [StreamEntries.count]; omega

def pendingAgentOpens : StreamTable TaskHandle where
  get st := st.pendingAgentOpens
  set table st := { st with pendingAgentOpens := table }
  pick e := e.pendingAgentOpen
  put entry e := { e with pendingAgentOpen := entry }
  get_entry _ _ := rfl
  set_entry _ _ _ := rfl
  set_rest _ _ := rfl
  put_pick _ := rfl
  count_put _ _ := by simp only [StreamEntries.count]; omega

def pendingExecOpens : StreamTable TaskHandle where
  get st := st.pendingExecOpens
  set table st := { st with pendingExecOpens := table }
  pick e := e.pendingExecOpen
  put entry e := { e with pendingExecOpen := entry }
  get_entry _ _ := rfl
  set_entry _ _ _ := rfl
  set_rest _ _ := rfl
  put_pick _ := rfl
  count_put _ _ := by simp only [StreamEntries.count]; omega

def processStreams : StreamTable StreamSendWindow where
  get st := st.processStreams.sendWindows
  set table st := { st with processStreams := { st.processStreams with sendWindows := table } }
  pick e := e.processStream
  put entry e := { e with processStream := entry }
  get_entry _ _ := rfl
  set_entry _ _ _ := rfl
  set_rest _ _ := rfl
  put_pick _ := rfl
  count_put _ _ := by simp only [StreamEntries.count]; omega

def fileSearchStreams : StreamTable FileSearchStreamState where
  get st := st.fileSearchStreams
  set table st := { st with fileSearchStreams := table }
  pick e := e.fileSearchStream
  put entry e := { e with fileSearchStream := entry }
  get_entry _ _ := rfl
  set_entry _ _ _ := rfl
  set_rest _ _ := rfl
  put_pick _ := rfl
  count_put _ _ := by simp only [StreamEntries.count]; omega

def fileUploads : StreamTable FileUploadState where
  get st := st.fileUploads
  set table st := { st with fileUploads := table }
  pick e := e.fileUpload
  put entry e := { e with fileUpload := entry }
  get_entry _ _ := rfl
  set_entry _ _ _ := rfl
  set_rest _ _ := rfl
  put_pick _ := rfl
  count_put _ _ := by simp only [StreamEntries.count]; omega

def portAccessHttpStreams : StreamTable TaskHandle where
  get st := st.portAccessHttpStreams
  set table st := { st with portAccessHttpStreams := table }
  pick e := e.portAccessHttpStream
  put entry e := { e with portAccessHttpStream := entry }
  get_entry _ _ := rfl
  set_entry _ _ _ := rfl
  set_rest _ _ := rfl
  put_pick _ := rfl
  count_put _ _ := by simp only [StreamEntries.count]; omega

def portAccessTcpStreams : StreamTable PortAccessTcpStreamState where
  get st := st.portAccessTcpStreams
  set table st := { st with portAccessTcpStreams := table }
  pick e := e.portAccessTcpStream
  put entry e := { e with portAccessTcpStream := entry }
  get_entry _ _ := rfl
  set_entry _ _ _ := rfl
  set_rest _ _ := rfl
  put_pick _ := rfl
  count_put _ _ := by simp only [StreamEntries.count]; omega

end StreamTable

/-! ### Footprints -/

/-- What a handler may touch: streams, the operation stream, the mode of the
    telemetry relay. -/
structure Scope where
  streams : StreamId → Prop
  operation : Prop
  telemetry : Prop

/-- The scope of a handler that serves one stream. -/
def Scope.only (s : StreamId) : Scope where
  streams t := t = s
  operation := False
  telemetry := False

/-- A line of the telemetry relay on its way to the gateway. -/
def TunnelEffect.IsTelemetryLine (effect : TunnelEffect) : Prop :=
  ∃ line, effect = .write (.binary (telemetryFrame line))

/-- A handler went from `a` to `b` emitting `out` and stayed within its scope. -/
structure Footprint (scope : Scope) (a : TunnelSessionMutableState) (out : List TunnelEffect)
    (b : TunnelSessionMutableState) : Prop where
  /-- Streams out of scope keep their entries. -/
  elsewhere : ∀ t, ¬ scope.streams t → b.entries t = a.entries t
  /-- Exclusivity is kept. -/
  exclusive : a.Exclusive → b.Exclusive
  /-- Frames bear streams in scope, but for log lines, and those need an open relay. -/
  speaks : ∀ o ∈ out, (∀ t, o.streamId? = some t → scope.streams t) ∨
    o.IsTelemetryLine ∧ (scope.telemetry ∨ a.telemetryRelay.state = .open)
  /-- The operation stream is left alone. -/
  operation : ¬ scope.operation → b.operation = a.operation
  /-- The relay stays in its mode. -/
  relay : ¬ scope.telemetry → b.telemetryRelay.state = a.telemetryRelay.state
  /-- A writer whose receiver stays is not used up. -/
  writer : a.tunnelWriter = .open → b.tunnelWriter = .open
  /-- No caller of a close of the operation stream is answered. -/
  answers : ¬ scope.operation → ∀ o ∈ out, o.closeAnswer? = none

namespace Footprint

variable {scope : Scope} {a b c : TunnelSessionMutableState} {out out' : List TunnelEffect}

theorem refl (scope : Scope) (a : TunnelSessionMutableState) : Footprint scope a [] a where
  elsewhere _ _ := rfl
  exclusive h := h
  speaks _ h := absurd h List.not_mem_nil
  operation _ := rfl
  relay _ := rfl
  writer h := h
  answers _ _ h := absurd h List.not_mem_nil

theorem comp (first : Footprint scope a out b) (second : Footprint scope b out' c) :
    Footprint scope a (out ++ out') c where
  elsewhere t h := (second.elsewhere t h).trans (first.elsewhere t h)
  exclusive h := second.exclusive (first.exclusive h)
  speaks o h := by
    rcases List.mem_append.mp h with hfirst | hsecond
    · exact first.speaks o hfirst
    · rcases second.speaks o hsecond with hbears | ⟨hline, hmode⟩
      · exact .inl hbears
      · refine .inr ⟨hline, ?_⟩
        by_cases htelemetry : scope.telemetry
        · exact .inl htelemetry
        · rcases hmode with hmode | hmode
          · exact .inl hmode
          · exact .inr ((first.relay htelemetry).symm.trans hmode)
  operation h := (second.operation h).trans (first.operation h)
  relay h := (second.relay h).trans (first.relay h)
  writer h := second.writer (first.writer h)
  answers h o ho := (List.mem_append.mp ho).elim (first.answers h o) (second.answers h o)

/-- A footprint in a larger scope. -/
theorem widen {scope' : Scope} (h : Footprint scope a out b)
    (hstreams : ∀ t, scope.streams t → scope'.streams t)
    (hoperation : scope.operation → scope'.operation)
    (htelemetry : scope.telemetry → scope'.telemetry) : Footprint scope' a out b where
  elsewhere t ht := h.elsewhere t fun hin => ht (hstreams t hin)
  exclusive := h.exclusive
  speaks o ho := by
    rcases h.speaks o ho with hbears | ⟨hline, hmode⟩
    · exact .inl fun t ht => hstreams t (hbears t ht)
    · exact .inr ⟨hline, hmode.imp htelemetry id⟩
  operation hop := h.operation fun hin => hop (hoperation hin)
  relay htel := h.relay fun hin => htel (htelemetry hin)
  writer := h.writer
  answers hop := h.answers fun hin => hop (hoperation hin)

/-- A silent change that keeps every entry and the rest. -/
theorem of_same (hentries : ∀ t, b.entries t = a.entries t) (hrest : b.rest = a.rest) :
    Footprint scope a [] b := by
  simp only [TunnelSessionMutableState.rest, Prod.mk.injEq] at hrest
  rcases hrest with ⟨hwriter, hrelay, hoperation⟩
  refine ⟨fun t _ => hentries t, fun h s => ?_, fun o h => absurd h List.not_mem_nil,
    fun _ => hoperation, fun _ => by rw [hrelay], fun h => hwriter.trans h,
    fun _ o h => absurd h List.not_mem_nil⟩
  rw [hentries s]
  exact h s

/-- A silent change of the entries in scope that adds no key. -/
theorem of_shrinking (hrest : b.rest = a.rest)
    (helsewhere : ∀ t, ¬ scope.streams t → b.entries t = a.entries t)
    (hcount : ∀ t, (b.entries t).count ≤ (a.entries t).count) : Footprint scope a [] b := by
  simp only [TunnelSessionMutableState.rest, Prod.mk.injEq] at hrest
  rcases hrest with ⟨hwriter, hrelay, hoperation⟩
  exact ⟨helsewhere, fun h s => (hcount s).trans (h s), fun o h => absurd h List.not_mem_nil,
    fun _ => hoperation, fun _ => by rw [hrelay], fun h => hwriter.trans h,
    fun _ o h => absurd h List.not_mem_nil⟩

end Footprint

/-- Footprints as a trail. -/
def footprint (scope : Scope) : Trail TunnelSessionMutableState TunnelEffect where
  rel := Footprint scope
  refl := Footprint.refl scope
  comp := Footprint.comp

/-! ### Effects and plain fields -/

variable {scope : Scope}

/-- An effect that bears no stream, or one in scope. -/
theorem emit_footprint {effect : TunnelEffect}
    (h : ∀ t, effect.streamId? = some t → scope.streams t)
    (hanswer : ¬ scope.operation → effect.closeAnswer? = none := by exact fun _ => rfl) :
    Follows (footprint scope) (emit effect : Session Unit) := by
  refine Follows.emit fun st => ?_
  refine ⟨fun _ _ => rfl, id, fun o ho => .inl ?_, fun _ => rfl, fun _ => rfl, id,
    fun hoperation o ho => ?_⟩
  · rw [List.mem_singleton.mp ho]
    exact h
  · rw [List.mem_singleton.mp ho]
    exact hanswer hoperation

theorem task_footprint (command : TaskCommand) :
    Follows (footprint scope) (emit (.task command) : Session Unit) :=
  emit_footprint fun t h => absurd h (by simp only [TunnelEffect.streamId?, reduceCtorEq,
    not_false_eq_true])

theorem modify_footprint {f : TunnelSessionMutableState → TunnelSessionMutableState}
    (hentries : ∀ st t, (f st).entries t = st.entries t := by intros; rfl)
    (hrest : ∀ st, (f st).rest = st.rest := by intros; rfl) :
    Follows (footprint scope) (modify f : Session Unit) :=
  Follows.modify fun st => Footprint.of_same (hentries st) (hrest st)

/-! ### Writers -/

/-- A message may be sent if it bears a stream in scope, or is a log line of a
    relay that may send lines. -/
def MaySend (scope : Scope) (st : TunnelSessionMutableState) (effect : TunnelEffect) : Prop :=
  (∀ t, effect.streamId? = some t → scope.streams t) ∨
    effect.IsTelemetryLine ∧ (scope.telemetry ∨ st.telemetryRelay.state = .open)

theorem sendToWriter_from {message : TunnelWriterMessage} {st : TunnelSessionMutableState}
    (h : MaySend scope st (.write message))
    (hanswer : ¬ scope.operation → (TunnelEffect.write message).closeAnswer? = none) :
    FollowsFrom (footprint scope) (sendToWriter message) st := by
  show Footprint scope st (sendToWriter message st).emitted (sendToWriter message st).state
  unfold sendToWriter
  rw [bind_ok (get_apply st)]
  simp only [List.nil_append]
  cases hsend : st.tunnelWriter.send with
  | none => exact Footprint.refl scope st
  | some writer =>
      refine ⟨fun _ _ => rfl, id, fun o ho => ?_, fun _ => rfl, fun _ => rfl, fun hopen => ?_,
        fun hoperation o ho => ?_⟩
      · rw [List.mem_singleton.mp ho]
        exact h
      · rw [hopen] at hsend
        exact (Option.some.inj hsend).symm
      · rw [List.mem_singleton.mp ho]
        exact hanswer hoperation

theorem sendToWriter_footprint {message : TunnelWriterMessage}
    (h : ∀ t, (TunnelEffect.write message).streamId? = some t → scope.streams t)
    (hanswer : ¬ scope.operation → (TunnelEffect.write message).closeAnswer? = none) :
    Follows (footprint scope) (sendToWriter message) :=
  fun _ => sendToWriter_from (.inl h) hanswer

/-- A send that fails with an error of its own has the footprint of the send. -/
theorem sendOrThrow_from (message : TunnelWriterMessage) {st : TunnelSessionMutableState}
    (h : MaySend scope st (.write message))
    (hanswer : (TunnelEffect.write message).closeAnswer? = none) (error : TunnelSessionError) :
    FollowsFrom (footprint scope)
      (do if ← sendToWriter message then return () else throw error : Session Unit) st := by
  refine FollowsFrom.bind (sendToWriter_from h fun _ => hanswer) fun sent _ => ?_
  cases sent with
  | true => exact Follows.pure () _
  | false => exact Follows.throw _ _

theorem writeTunnelText_footprint {message : OutboundMessage}
    (h : ∀ t, message.streamId? = some t → scope.streams t) :
    Follows (footprint scope) (writeTunnelText message) :=
  fun _ => sendOrThrow_from (.text message) (.inl h) rfl _

/-- A text about one stream in scope. -/
theorem writeTunnelText_on {message : OutboundMessage} {s : StreamId}
    (hid : message.streamId? = some s) (h : scope.streams s) :
    Follows (footprint scope) (writeTunnelText message) := by
  refine writeTunnelText_footprint fun t ht => ?_
  rw [hid, Option.some.injEq] at ht
  exact ht ▸ h

theorem writeTunnelBinary_footprint {frame : StreamDataFrame} (h : scope.streams frame.streamId) :
    Follows (footprint scope) (writeTunnelBinary frame) :=
  fun _ => sendOrThrow_from (.binary frame) (.inl fun _ ht => Option.some.inj ht ▸ h) rfl _

theorem writeTunnelPong_footprint (payload : List UInt8) :
    Follows (footprint scope) (writeTunnelPong payload) :=
  fun _ => sendOrThrow_from (.pong payload) (.inl fun _ ht => absurd ht (by
    simp only [TunnelEffect.streamId?, reduceCtorEq, not_false_eq_true])) rfl _

/-! ### Log lines -/

/-- A step of the relay that may only send buffered lines: it keeps the relay's
    mode, and sends nothing unless the relay is open. -/
structure Publishes (relay : TelemetryRelay)
    (result : Except TelemetryRelayError (List TelemetryRelayFrame) × TelemetryRelay) : Prop where
  state : result.2.state = relay.state
  lines : ∀ frames, result.1 = .ok frames → ∀ frame ∈ frames,
    (∃ line, frame = .binary (telemetryFrame line)) ∧ relay.state = .open

theorem enqueueLogLine_publishes (relay : TelemetryRelay) (line : List UInt8) :
    Publishes relay (relay.enqueueLogLine line) := by
  unfold TelemetryRelay.enqueueLogLine
  split
  · exact ⟨rfl, fun frames h => absurd h (by simp only [reduceCtorEq, not_false_eq_true])⟩
  · refine ⟨TelemetryRelay.flush_state _, fun frames h frame hmem => ?_⟩
    rw [Except.ok.injEq] at h
    rw [← h] at hmem
    have hline := TelemetryRelay.mem_flush hmem
    exact hline

theorem enqueueLogRecord_publishes (serde : SerdeJson) (timestamp : Except String String)
    (relay : TelemetryRelay) (level : SandboxTelemetryLogLevel) (event : String)
    (extraFields : Fields) :
    Publishes relay (relay.enqueueLogRecord serde timestamp level event extraFields) := by
  unfold TelemetryRelay.enqueueLogRecord
  split
  · exact ⟨rfl, fun frames h => absurd h (by simp only [reduceCtorEq, not_false_eq_true])⟩
  · exact enqueueLogLine_publishes relay _

theorem sendTelemetryFrames_from (frames : List TelemetryRelayFrame) :
    ∀ st : TunnelSessionMutableState, scope.telemetry ∨ st.telemetryRelay.state = .open →
      (∀ frame ∈ frames, ∃ line, frame = .binary (telemetryFrame line)) →
      FollowsFrom (footprint scope) (sendTelemetryFrames frames) st := by
  induction frames with
  | nil =>
      intro st _ _
      exact Follows.pure () st
  | cons frame frames ih =>
      intro st hmode hlines
      rcases hlines frame (List.mem_cons_self ..) with ⟨line, rfl⟩
      have hhead : FollowsFrom (footprint scope)
          (sendTelemetryFrame (.binary (telemetryFrame line))) st :=
        sendOrThrow_from (.binary (telemetryFrame line)) (.inr ⟨⟨line, rfl⟩, hmode⟩) rfl _
      refine FollowsFrom.bind hhead fun _ _ => ih _ ?_ fun f hf =>
        hlines f (List.mem_cons_of_mem _ hf)
      by_cases htelemetry : scope.telemetry
      · exact .inl htelemetry
      · exact hmode.imp id fun hopen => (hhead.relay htelemetry).trans hopen

theorem publishFrames_from {st : TunnelSessionMutableState}
    {result : Except TelemetryRelayError (List TelemetryRelayFrame) × TelemetryRelay}
    (h : Publishes st.telemetryRelay result) :
    FollowsFrom (footprint scope) (publishFrames result) st := by
  have hmodify : FollowsFrom (footprint scope)
      (modify fun st => { st with telemetryRelay := result.2 } : Session Unit) st :=
    ⟨fun _ _ => rfl, id, fun o ho => absurd ho List.not_mem_nil, fun _ => rfl, fun _ => h.state,
      id, fun _ o ho => absurd ho List.not_mem_nil⟩
  refine FollowsFrom.bind hmodify fun _ _ => ?_
  cases hresult : result.1 with
  | error => exact Follows.pure () _
  | ok frames =>
      cases frames with
      | nil => exact Follows.pure () _
      | cons frame frames =>
          have hopen : result.2.state = .open :=
            h.state.trans (h.lines _ hresult frame (List.mem_cons_self ..)).2
          have hsend : FollowsFrom (footprint scope)
              (attempt (sendTelemetryFrames (frame :: frames)))
              { st with telemetryRelay := result.2 } :=
            sendTelemetryFrames_from _ _ (.inr hopen) fun f hf => (h.lines _ hresult f hf).1
          exact FollowsFrom.bind hsend fun _ _ => Follows.pure () _

theorem publishTunnelTelemetryLog_footprint (context : TunnelSessionLoopContext) (world : World)
    (level : SandboxTelemetryLogLevel) (event : String) (extraFields : Fields) :
    Follows (footprint scope) (publishTunnelTelemetryLog context world level event extraFields) := by
  exact Follows.read fun st => publishFrames_from (enqueueLogRecord_publishes _ _ _ _ _ _)

theorem forwardSupervisorLifecycleEvents_footprint (lines : List String) :
    Follows (footprint scope) (forwardSupervisorLifecycleEvents lines) := by
  refine Follows.forEach fun line _ => ?_
  exact Follows.read fun st => publishFrames_from (enqueueLogLine_publishes _ _)

/-! ### Changes of entries -/

namespace StreamTable

variable {α : Type}

/-- Replace the entry of a stream: every other stream keeps its entries. -/
theorem entries_of_eq (table : StreamTable α) (new : Table α) {st : TunnelSessionMutableState}
    {t : StreamId} (h : new[t]? = (table.get st)[t]?) :
    (table.set new st).entries t = st.entries t := by
  rw [table.set_entry, h, table.get_entry, table.put_pick]

theorem count_le (table : StreamTable α) (new : Table α) {st : TunnelSessionMutableState}
    {t : StreamId} (h : new[t]?.isSome → (table.get st)[t]?.isSome) :
    ((table.set new st).entries t).count ≤ (st.entries t).count := by
  have hcount := table.count_put new[t]? (st.entries t)
  rw [← table.set_entry, ← table.get_entry] at hcount
  cases hnew : new[t]?.isSome with
  | false =>
      rw [hnew, Bool.toNat_false] at hcount
      omega
  | true =>
      rw [hnew, h hnew] at hcount
      omega

/-- Replace a table by one that differs only in scope and has no new key. -/
theorem shrink_from (table : StreamTable α) {st : TunnelSessionMutableState}
    (f : Table α → Table α)
    (helsewhere : ∀ t : StreamId, ¬ scope.streams t → (f (table.get st))[t]? = (table.get st)[t]?)
    (hkeys : ∀ t : StreamId, (f (table.get st))[t]?.isSome → (table.get st)[t]?.isSome) :
    FollowsFrom (footprint scope)
      (modify fun st => table.set (f (table.get st)) st : Session Unit) st :=
  Footprint.of_shrinking (table.set_rest _ st)
    (fun t ht => table.entries_of_eq (f (table.get st)) (helsewhere t ht))
    fun t => table.count_le (f (table.get st)) (hkeys t)

theorem erase_footprint (table : StreamTable α) {s : StreamId} (h : scope.streams s) :
    Follows (footprint scope)
      (modify fun st => table.set ((table.get st).erase s) st : Session Unit) := by
  refine fun st => table.shrink_from (·.erase s) (fun t ht => ?_) fun t ht => ?_
  · rw [Std.ExtTreeMap.getElem?_erase, if_neg]
    exact fun hst => ht (Std.LawfulEqCmp.eq_of_compare hst ▸ h)
  · rw [Std.ExtTreeMap.getElem?_erase] at ht
    split at ht
    · exact absurd ht (by simp only [Option.isSome_none, Bool.false_eq_true, not_false_eq_true])
    · exact ht

theorem modify_footprint (table : StreamTable α) {s : StreamId} (h : scope.streams s)
    (f : α → α) :
    Follows (footprint scope)
      (modify fun st => table.set ((table.get st).modify s f) st : Session Unit) := by
  refine fun st => table.shrink_from (·.modify s f) (fun t ht => ?_) fun t ht => ?_
  · rw [Std.ExtTreeMap.getElem?_modify, if_neg]
    exact fun hst => ht (Std.LawfulEqCmp.eq_of_compare hst ▸ h)
  · rw [Std.ExtTreeMap.getElem?_modify] at ht
    split at ht
    · rename_i hst
      rw [← Std.LawfulEqCmp.eq_of_compare hst]
      simpa only [Option.isSome_map] using ht
    · exact ht

/-- Add a stream that is in no table. -/
theorem insert_from (table : StreamTable α) {s : StreamId} (h : scope.streams s)
    {st : TunnelSessionMutableState} (hfree : (st.entries s).count = 0) (entry : α) :
    FollowsFrom (footprint scope)
      (modify fun st => table.set ((table.get st).insert s entry) st : Session Unit) st := by
  have helsewhere : ∀ t, t ≠ s →
      (table.set ((table.get st).insert s entry) st).entries t = st.entries t := by
    intro t ht
    refine table.entries_of_eq _ ?_
    rw [Std.ExtTreeMap.getElem?_insert, if_neg]
    exact fun hst => ht (Std.LawfulEqCmp.eq_of_compare hst).symm
  have hrest := table.set_rest ((table.get st).insert s entry) st
  simp only [TunnelSessionMutableState.rest, Prod.mk.injEq] at hrest
  rcases hrest with ⟨hwriter, hrelay, hoperation⟩
  refine ⟨fun t ht => helsewhere t fun hts => ht (hts ▸ h), fun hexclusive t => ?_,
    fun o ho => absurd ho List.not_mem_nil, fun _ => hoperation, fun _ => congrArg _ hrelay,
    hwriter.trans, fun _ o ho => absurd ho List.not_mem_nil⟩
  by_cases hts : t = s
  · have hcount := table.count_put (some entry) (st.entries s)
    rw [hts, modify_apply, table.set_entry, Std.ExtTreeMap.getElem?_insert_self]
    rw [Option.isSome_some, Bool.toNat_true, hfree] at hcount
    omega
  · rw [modify_apply, helsewhere t hts]
    exact hexclusive t

end StreamTable

end Mistle
