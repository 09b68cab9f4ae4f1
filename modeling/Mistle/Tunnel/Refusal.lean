import Mistle.Tunnel.Removal

/-!
# Telemetry after a Refusal

The gateway takes back the telemetry stream with `telemetry.open.error` or
`telemetry.reset`. The relay reports either as an error and keeps its mode, so a
relay that was open stays open: the router logs the error as a dropped message,
and the log line leaves on the very stream that was taken back.

A relay that was not yet open stays shut. As long as every refusal finds the
relay shut, and the stream's id is not used for an ordinary stream, nothing is
sent on the telemetry stream from a refusal to the next `telemetry.open.ok`, on
this connection or a later one.

## Main definitions

* `telemetryMessage?`: The relay's message in an input.
* `refused`: Whether the gateway's last word on the stream is a refusal.
* `TunnelEffect.isTelemetryData`: A data frame of the telemetry stream.
* `TelemetryUndisturbed`: What a step has to find for the relay to stay shut.

## Theorems

* `Shut`, `shut_step`: The relay is shut while the stream is refused.
* `no_telemetry_after_refusal`: Every run.
* `reset_of_open_relay_is_answered_with_data`: A run that sends after a reset.
-/

namespace Mistle

open Handler

def BootstrapTelemetryControlMessage.streamId : BootstrapTelemetryControlMessage → StreamId
  | openOk message => message.streamId
  | openError message => message.streamId
  | window message => message.streamId
  | reset message => message.streamId

/-- The message about the telemetry stream that an input brings. -/
def SessionInput.telemetryMessage? (serde : SerdeJson) :
    SessionInput → Option BootstrapTelemetryControlMessage
  | .item _ (.event (.bootstrapMessage (.text payload))) =>
    match parseBootstrapTelemetryControlMessage serde payload with
    | .ok (some message) =>
      if message.streamId = sandboxTelemetryLogStreamId then some message else none
    | _ => none
  | _ => none

/-- Whether the stream is refused after an input, given whether it was before. -/
def refusedAfter (serde : SerdeJson) (refused : Bool) (input : SessionInput) : Bool :=
  match input.telemetryMessage? serde with
  | some (.openOk _) => false
  | some (.openError _) => true
  | some (.reset _) => true
  | some (.window _) => refused
  | none => refused

/-- Whether the gateway's last word on the stream is a refusal. -/
def refused (serde : SerdeJson) (trace : List (Entry SessionInput TunnelEffect)) : Bool :=
  trace.foldl (fun refused entry => refusedAfter serde refused entry.input) false

/-- A data frame of the telemetry stream. -/
def TunnelEffect.isTelemetryData : TunnelEffect → Bool
  | write (.binary frame) => frame.streamId == sandboxTelemetryLogStreamId
  | _ => false

/-- A refusal finds the relay shut, and no input uses the telemetry stream's id
    for an ordinary stream. -/
structure TelemetryUndisturbed (serde : SerdeJson) (connection : Connection)
    (input : SessionInput) : Prop where
  shut : ∀ st, connection = some st → st.telemetryRelay.state = .open →
    ∀ message, input.telemetryMessage? serde = some message →
      (∀ m, message ≠ .openError m) ∧ ∀ m, message ≠ .reset m
  reserved : ¬ input.names serde sandboxTelemetryLogStreamId
  noTask : input.taskStream? ≠ some sandboxTelemetryLogStreamId

/-- A text that the relay reads has one of its types. -/
theorem telemetryMessageType {serde : SerdeJson} {payload : String}
    {message : BootstrapTelemetryControlMessage}
    (h : parseBootstrapTelemetryControlMessage serde payload = .ok (some message)) :
    ∃ value messageType, serde.fromStr payload = .ok value ∧
      messageTypeOf value = some messageType ∧
      messageType ∈ ["telemetry.open.ok", "telemetry.open.error", "telemetry.window",
        "telemetry.reset"] := by
  unfold parseBootstrapTelemetryControlMessage at h
  cases hvalue : serde.fromStr payload with
  | error error => simp only [fromStr, hvalue, bind, Except.bind, reduceCtorEq] at h
  | ok value =>
      cases htype : messageTypeOf value with
      | none =>
          simp only [fromStr, hvalue, bind, Except.bind, requireMessageType, htype,
            reduceCtorEq] at h
      | some messageType =>
          simp only [fromStr, hvalue, bind, Except.bind, requireMessageType, htype] at h
          refine ⟨value, messageType, rfl, htype, ?_⟩
          split at h
          · exact .head _
          · exact .tail _ (.head _)
          · exact .tail _ (.tail _ (.head _))
          · exact .tail _ (.tail _ (.tail _ (.head _)))
          · simp only [pure, Except.pure, Except.ok.injEq, reduceCtorEq] at h

/-- A text that the relay reads names no ordinary stream. -/
theorem not_textNames_of_telemetry {serde : SerdeJson} {payload : String}
    {message : BootstrapTelemetryControlMessage}
    (h : parseBootstrapTelemetryControlMessage serde payload = .ok (some message))
    (s : StreamId) : ¬ textNames serde payload s := by
  rcases telemetryMessageType h with ⟨value, messageType, hvalue, htype, hmem⟩
  have hports : parsePortsTransportMessage serde payload = .ok none := by
    simp only [List.mem_cons, List.not_mem_nil, or_false] at hmem
    unfold parsePortsTransportMessage
    simp only [fromStr, hvalue, bind, Except.bind, htype]
    rcases hmem with rfl | rfl | rfl | rfl <;> rfl
  have hstream : ∃ error, parseStreamControlMessage serde payload = .error error := by
    simp only [List.mem_cons, List.not_mem_nil, or_false] at hmem
    unfold parseStreamControlMessage
    simp only [fromStr, hvalue, bind, Except.bind, requireMessageType, htype]
    rcases hmem with rfl | rfl | rfl | rfl <;> exact ⟨_, rfl⟩
  rintro (⟨m, hm, _⟩ | ⟨m, hm, _⟩)
  · rw [hports] at hm
    exact absurd hm (by simp only [Except.ok.injEq, reduceCtorEq, not_false_eq_true])
  · rcases hstream with ⟨error, herror⟩
    rw [herror] at hm
    exact absurd hm (by simp only [reduceCtorEq, not_false_eq_true])

theorem refused_snoc (serde : SerdeJson) (trace : List (Entry SessionInput TunnelEffect))
    (entry : Entry SessionInput TunnelEffect) :
    refused serde (trace ++ [entry]) = refusedAfter serde (refused serde trace) entry.input := by
  unfold refused
  rw [List.foldl_append, List.foldl_cons, List.foldl_nil]

/-! ### Steps that send no data -/

/-- Nothing that is emitted is telemetry data. -/
def noTelemetryData : Trail TunnelSessionMutableState TunnelEffect where
  rel _ out _ := ∀ o ∈ out, o.isTelemetryData = false
  refl _ _ ho := absurd ho List.not_mem_nil
  comp hu hv o ho := (List.mem_append.mp ho).elim (hu o) (hv o)

theorem emit_noTelemetryData {effect : TunnelEffect} (h : effect.isTelemetryData = false) :
    Follows noTelemetryData (emit effect : Session Unit) := by
  refine Follows.emit fun _ o ho => ?_
  rw [List.mem_singleton.mp ho]
  exact h

theorem modify_noTelemetryData (f : TunnelSessionMutableState → TunnelSessionMutableState) :
    Follows noTelemetryData (modify f : Session Unit) :=
  Follows.modify fun _ _ ho => absurd ho List.not_mem_nil

theorem sendToWriter_noTelemetryData {message : TunnelWriterMessage}
    (h : (TunnelEffect.write message).isTelemetryData = false) :
    Follows noTelemetryData (sendToWriter message) := by
  refine Follows.read fun st => ?_
  split
  · exact Follows.pure _ st
  · exact Follows.bind (modify_noTelemetryData _)
      (fun _ => Follows.bind (emit_noTelemetryData h) fun _ => Follows.pure _) st

theorem writeTunnelText_noTelemetryData (message : OutboundMessage) :
    Follows noTelemetryData (writeTunnelText message) := by
  refine Follows.bind (sendToWriter_noTelemetryData rfl) fun sent => ?_
  cases sent with
  | true => exact Follows.pure _
  | false => exact Follows.throw _

theorem startSession_noTelemetryData (operation : Option SandboxOperation) :
    Follows noTelemetryData (startSession operation) := by
  refine Follows.read fun st => ?_
  refine Follows.bind (modify_noTelemetryData _) (fun _ => ?_) st
  refine Follows.bind (Follows.forEach fun frame hframe => ?_) fun _ => ?_
  · rw [List.mem_singleton.mp hframe]
    exact writeTunnelText_noTelemetryData _
  · cases operation with
    | none => exact Follows.pure _
    | some operation =>
        refine Follows.bind (Follows.attempt (writeTunnelText_noTelemetryData _)) fun result => ?_
        cases result with
        | ok => exact modify_noTelemetryData _
        | error error => exact Follows.pure _

theorem observeShutdown_noTelemetryData : Follows noTelemetryData observeShutdown := by
  refine Follows.read fun st => ?_
  refine Follows.bind (Follows.forEach fun _ _ => emit_noTelemetryData rfl) (fun _ => ?_) st
  refine Follows.bind (modify_noTelemetryData _) fun _ => ?_
  refine Follows.bind (Follows.forEach fun _ _ => emit_noTelemetryData rfl) fun _ => ?_
  refine Follows.bind (modify_noTelemetryData _) fun _ => ?_
  have hframes : ∀ frame ∈ st.telemetryRelay.detachTunnelConnection.1,
      Follows noTelemetryData (sendTelemetryFrame frame) := by
    intro frame hframe
    unfold TelemetryRelay.detachTunnelConnection at hframe
    simp only at hframe
    split at hframe
    · exact absurd hframe List.not_mem_nil
    · rw [List.mem_singleton.mp hframe]
      exact writeTunnelText_noTelemetryData _
  have hpending : Follows noTelemetryData (failPendingRequests "shut down") :=
    Follows.read fun _ => Follows.bind (modify_noTelemetryData _) (fun _ =>
      Follows.bind (Follows.forEach fun _ _ => emit_noTelemetryData rfl) fun _ =>
        Follows.bind (modify_noTelemetryData _) fun _ =>
          Follows.forEach fun _ _ => emit_noTelemetryData rfl) _
  refine Follows.bind (Follows.attempt (Follows.forEach hframes)) fun _ => ?_
  refine Follows.bind hpending fun _ => ?_
  exact Follows.bind (sendToWriter_noTelemetryData rfl) fun _ => Follows.pure _

/-! ### Steps that keep the relay shut -/

/-- The tables stay as they are, and so does a relay that is not open. -/
def keepsShut : Trail TunnelSessionMutableState TunnelEffect where
  rel a _ b := (∀ t, b.entries t = a.entries t) ∧
    (a.telemetryRelay.state ≠ .open → b.telemetryRelay.state ≠ .open)
  refl _ := ⟨fun _ => rfl, id⟩
  comp hab hbc := ⟨fun t => (hbc.1 t).trans (hab.1 t), hbc.2 ∘ hab.2⟩

theorem writeTunnelText_keepsShut (message : OutboundMessage) :
    Follows keepsShut (writeTunnelText message) := by
  intro st
  cases hsend : st.tunnelWriter.send with
  | none =>
      unfold FollowsFrom
      rw [writeTunnelText_of_gone hsend]
      exact keepsShut.refl st
  | some writer =>
      unfold FollowsFrom
      rw [writeTunnelText_of_send hsend]
      exact ⟨fun _ => rfl, id⟩

theorem startSession_keepsShut (operation : Option SandboxOperation) :
    Follows keepsShut (startSession operation) := by
  refine Follows.read fun st => ?_
  have hattach : Follows keepsShut (modify fun st' => { st' with
      telemetryRelay := st.telemetryRelay.attachTunnelConnection.2 } : Session Unit) :=
    Follows.modify fun _ => ⟨fun _ => rfl, fun _ =>
      (by decide : TelemetryRelayState.opening ≠ TelemetryRelayState.open)⟩
  refine Follows.bind hattach (fun _ => ?_) st
  refine Follows.bind (Follows.forEach fun frame hframe => ?_) fun _ => ?_
  · rw [List.mem_singleton.mp hframe]
    exact writeTunnelText_keepsShut _
  · cases operation with
    | none => exact Follows.pure _
    | some operation =>
        refine Follows.bind (Follows.attempt (writeTunnelText_keepsShut _)) fun result => ?_
        cases result with
        | ok => exact Follows.modify fun _ => ⟨fun _ => rfl, id⟩
        | error error => exact Follows.pure _

/-! ### The invariant -/

/-- While the stream is refused the relay is shut, and no table holds its id. -/
structure Shut (serde : SerdeJson) (trace : List (Entry SessionInput TunnelEffect))
    (connection : Connection) : Prop where
  relay : ∀ st, connection = some st → refused serde trace = true →
    st.telemetryRelay.state ≠ .open
  free : ∀ st, connection = some st → (st.entries sandboxTelemetryLogStreamId).count = 0

section

variable (context : TunnelSessionLoopContext)

/-- Only `telemetry.open.ok` and the end of a session change the mode of the relay. -/
theorem itemScope_telemetry (world : World) {item : SessionItem} {st : TunnelSessionMutableState}
    (h : (itemScope context item st).telemetry) :
    item = .shutdownObserved ∨ ∃ message,
      (SessionInput.item world item).telemetryMessage? context.serde = some (.openOk message) := by
  cases item with
  | event event =>
      cases event with
      | bootstrapMessage message =>
          cases message with
          | text payload =>
              rcases h with ⟨message, hparse, hid⟩
              refine .inr ⟨message, ?_⟩
              simp only [SessionInput.telemetryMessage?, hparse,
                BootstrapTelemetryControlMessage.streamId, hid, if_true]
          | binary payload => exact absurd h not_false
          | ping payload => exact absurd h not_false
          | pong payload => exact absurd h not_false
          | close => exact absurd h not_false
          | frame => exact absurd h not_false
      | bootstrapClosed restart reason => exact absurd h not_false
      | wake => exact absurd h not_false
      | agentDialed streamId result => exact absurd h not_false
      | agentMessage streamId message => exact absurd h not_false
      | agentWriteCompleted streamId bytes => exact absurd h not_false
      | portAccessTransport event => exact absurd h not_false
      | agentClosed streamId reason => exact absurd h not_false
      | execCompleted streamId result => exact absurd h not_false
      | fileSearch event => exact absurd h not_false
  | request request =>
      cases request with
      | egressToken requestId actingUserId sender => exact absurd h not_false
      | operationRecord line => exact absurd h not_false
      | operationClose sender => exact absurd h not_false
      | shutdown => exact absurd h not_false
      | setAgentEndpoint url sender => exact absurd h not_false
      | setRuntimeEnvironment env sender => exact absurd h not_false
      | signing request sender => exact absurd h not_false
  | lifecycleLines lines => exact absurd h not_false
  | keepaliveState ttlMs active => exact absurd h not_false
  | runtimeReady ready => exact absurd h not_false
  | ptyReport requestId ptySessionId outcome => exact absurd h not_false
  | shutdownObserved => exact .inl rfl

/-- Telemetry data bears the telemetry stream. -/
theorem streamId?_of_isTelemetryData {o : TunnelEffect} (h : o.isTelemetryData = true) :
    o.streamId? = some sandboxTelemetryLogStreamId := by
  unfold TunnelEffect.isTelemetryData at h
  split at h
  · exact congrArg some (beq_iff_eq.mp h)
  · exact absurd h Bool.false_ne_true

/-- A session that was connected just now is shut and sent no data. -/
theorem shut_connect {serde : SerdeJson} {trace : List (Entry SessionInput TunnelEffect)}
    {writer : TunnelWriter} {url : Option String} {env : List (String × String)}
    {operation : Option SandboxOperation} :
    Shut serde trace (kept (continueWith (startSession operation) (.fresh writer url env))) := by
  rcases startSession_keepsShut operation (.fresh writer url env) with ⟨hentries, hshut⟩
  rw [← continueWith_state] at hentries hshut
  constructor
  · intro st hkept _
    rw [← (kept_some hkept).2]
    exact hshut (by decide : TelemetryRelayState.disconnected ≠ TelemetryRelayState.open)
  · intro st hkept
    rw [← (kept_some hkept).2, hentries]
    simp only [StreamEntries.count, TunnelSessionMutableState.entries,
      TunnelSessionMutableState.fresh, Std.ExtTreeMap.getElem?_empty, Option.isSome_none,
      Bool.toNat_false, Nat.add_zero]

/-- An open relay is not refused by an undisturbed step. -/
theorem not_open_of_refused {serde : SerdeJson}
    {trace : List (Entry SessionInput TunnelEffect)} (entry : Entry SessionInput TunnelEffect)
    {st : TunnelSessionMutableState} (hshut : Shut serde trace (some st))
    (hundisturbed : TelemetryUndisturbed serde (some st) entry.input)
    (hrefused : refused serde (trace ++ [entry]) = true) : st.telemetryRelay.state ≠ .open := by
  intro hopen
  have hbefore : refused serde trace = true → False := fun h => hshut.relay st rfl h hopen
  rw [refused_snoc] at hrefused
  unfold refusedAfter at hrefused
  split at hrefused
  · exact Bool.false_ne_true hrefused
  · rename_i message hmessage
    exact (hundisturbed.shut st rfl hopen _ hmessage).1 message rfl
  · rename_i message hmessage
    exact (hundisturbed.shut st rfl hopen _ hmessage).2 message rfl
  · exact hbefore hrefused
  · exact hbefore hrefused

theorem observeShutdown_stops (st : TunnelSessionMutableState) :
    (observeShutdown st).result ≠ .ok .continue := by
  intro h
  unfold observeShutdown at h
  rcases bind_result_ok h with ⟨_, _, h⟩
  rcases bind_result_ok h with ⟨_, _, h⟩
  rcases bind_result_ok h with ⟨_, _, h⟩
  rcases bind_result_ok h with ⟨_, _, h⟩
  rcases bind_result_ok h with ⟨_, _, h⟩
  rcases bind_result_ok h with ⟨_, _, h⟩
  rcases bind_result_ok h with ⟨_, _, h⟩
  rcases bind_result_ok h with ⟨_, _, h⟩
  exact absurd h (by simp only [pure_apply, Except.ok.injEq, reduceCtorEq, not_false_eq_true])

/-- One step of a live session keeps it shut, and sends no data while the stream
    is refused. -/
theorem shut_item {trace : List (Entry SessionInput TunnelEffect)} {world : World}
    {item : SessionItem} {st : TunnelSessionMutableState} (out : List TunnelEffect)
    (hshut : Shut context.serde trace (some st))
    (hundisturbed : TelemetryUndisturbed context.serde (some st) (.item world item))
    (hout : out = (handleSessionItem context world item st).emitted) :
    Shut context.serde (trace ++ [⟨.item world item, out⟩])
        (kept (handleSessionItem context world item st)) ∧
      (refused context.serde (trace ++ [⟨.item world item, out⟩]) = true →
        ∀ o ∈ out, o.isTelemetryData = false) := by
  have hfootprint := handleSessionItem_footprint context world item st
  have hrefused := not_open_of_refused ⟨.item world item, out⟩ hshut hundisturbed
  by_cases hshutdown : item = .shutdownObserved
  · -- The session ends, and the relay's last word is a text.
    rw [hshutdown] at hout ⊢
    have hstop : ∀ st', kept (handleSessionItem context world .shutdownObserved st) ≠ some st' :=
      fun st' h => observeShutdown_stops st (kept_some h).1
    refine ⟨⟨fun st' h => absurd h (hstop st'), fun st' h => absurd h (hstop st')⟩, fun _ => ?_⟩
    rw [hout]
    exact observeShutdown_noTelemetryData st
  · have hscope : ¬ (itemScope context item st).streams sandboxTelemetryLogStreamId := by
      intro h
      rcases itemScope_streams context world (hshut.free st rfl) h with
        htask | hend | hoperation | hnames
      · exact hundisturbed.noTask htask
      · exact hshutdown hend.1
      · exact absurd hoperation (by decide)
      · exact hundisturbed.reserved hnames
    have hfree : ∀ st', kept (handleSessionItem context world item st) = some st' →
        (st'.entries sandboxTelemetryLogStreamId).count = 0 := by
      intro st' hkept
      rw [← (kept_some hkept).2, hfootprint.elsewhere _ hscope]
      exact hshut.free st rfl
    by_cases hopens : (itemScope context item st).telemetry
    · -- The gateway opens the stream.
      rcases itemScope_telemetry context world hopens with hend | ⟨message, hmessage⟩
      · exact absurd hend hshutdown
      have hopened : refused context.serde (trace ++ [⟨.item world item, out⟩]) = false := by
        rw [refused_snoc]
        simp only [refusedAfter, hmessage]
      refine ⟨⟨fun _ _ h => ?_, hfree⟩, fun h => ?_⟩
      · exact absurd (hopened.symm.trans h) Bool.false_ne_true
      · exact absurd (hopened.symm.trans h) Bool.false_ne_true
    · refine ⟨⟨fun st' hkept h => ?_, hfree⟩, fun h o ho => ?_⟩
      · rw [← (kept_some hkept).2, hfootprint.relay hopens]
        exact hrefused h
      · -- Data could only be a log line, and those need an open relay.
        rw [hout] at ho
        cases hdata : o.isTelemetryData with
        | false => rfl
        | true =>
            rcases hfootprint.speaks o ho with hbears | ⟨_, hmode⟩
            · exact absurd (hbears _ (streamId?_of_isTelemetryData hdata)) hscope
            · rcases hmode with hmode | hmode
              · exact absurd hmode hopens
              · exact absurd hmode (hrefused h)

theorem shut_step {trace : List (Entry SessionInput TunnelEffect)} {connection next : Connection}
    {input : SessionInput} {out : List TunnelEffect} (hshut : Shut context.serde trace connection)
    (hstep : connectionStep context connection input = some (next, out))
    (hundisturbed : TelemetryUndisturbed context.serde connection input) :
    Shut context.serde (trace ++ [⟨input, out⟩]) next ∧
      (refused context.serde (trace ++ [⟨input, out⟩]) = true →
        ∀ o ∈ out, o.isTelemetryData = false) := by
  cases connection with
  | none =>
      rcases connectionStep_connect context hstep with ⟨writer, url, env, operation, _, hnext, hout⟩
      rw [hnext]
      refine ⟨shut_connect, fun _ => ?_⟩
      rw [hout, continueWith_emitted]
      exact startSession_noTelemetryData operation _
  | some st =>
      rcases connectionStep_item context hstep with ⟨world, item, hinput, hnext, hout⟩
      rw [hinput] at hundisturbed ⊢
      rw [hnext]
      exact shut_item context out hshut hundisturbed hout

end

/-- In every run in which each refusal finds the relay shut and the telemetry
    stream's id stays reserved, no data frame is written on the telemetry stream
    while the gateway's last word on it is a refusal. -/
theorem no_telemetry_after_refusal (context : TunnelSessionLoopContext)
    (trace : List (Entry SessionInput TunnelEffect)) (connection : Connection)
    (run : ConnectionRun context trace connection)
    (hundisturbed : ConnectionSteps context trace fun connection input _ =>
      TelemetryUndisturbed context.serde connection input)
    (before after : List (Entry SessionInput TunnelEffect)) (entry : Entry SessionInput TunnelEffect)
    (htrace : trace = before ++ entry :: after)
    (hrefused : refused context.serde (before ++ [entry]) = true) :
    ∀ o ∈ entry.emitted, o.isTelemetryData = false := by
  rcases (run.restrict hundisturbed).split before (entry :: after) htrace with
    ⟨middle, hbefore, hrest⟩
  rcases hrest.uncons with ⟨next, ⟨hstep, hundisturbed⟩, _⟩
  -- The invariant along the trace before the step, then the step itself.
  have hshut : Shut context.serde before middle := by
    refine hbefore.history ⟨fun st h => ?_, fun st h => ?_⟩ ?_
    · exact absurd h (by simp only [reduceCtorEq, not_false_eq_true])
    · exact absurd h (by simp only [reduceCtorEq, not_false_eq_true])
    · intro trace connection input out next _ hshut hlast
      exact (shut_step context hshut hlast.1 hlast.2).1
  exact (shut_step context hshut hstep hundisturbed).2 hrefused

/-- Texts about the telemetry stream and the record of a dropped reset, with
    their trees. The library writes the keys of a record in order. -/
def telemetryDocuments : List (String × Json String) :=
  [("\x7b\"type\":\"telemetry.open.ok\",\"streamId\":4294967294,\"initialWindowBytes\":65536\x7d",
      .obj [("type", .str "telemetry.open.ok"), ("streamId", .int 4294967294),
        ("initialWindowBytes", .int 65536)]),
    ("\x7b\"type\":\"telemetry.open.error\",\"streamId\":4294967294,\"code\":\"unsupported\","
        ++ "\"message\":\"no telemetry\"\x7d",
      .obj [("type", .str "telemetry.open.error"), ("streamId", .int 4294967294),
        ("code", .str "unsupported"), ("message", .str "no telemetry")]),
    ("\x7b\"type\":\"telemetry.reset\",\"streamId\":4294967294,\"code\":\"overloaded\","
        ++ "\"message\":\"try later\"\x7d",
      .obj [("type", .str "telemetry.reset"), ("streamId", .int 4294967294),
        ("code", .str "overloaded"), ("message", .str "try later")]),
    ("\x7b\"event\":\"bootstrap_control_message_dropped\",\"level\":\"warn\",\"message\":"
        ++ "\"sandboxd dropped bootstrap control message: telemetry control rejected: "
        ++ "gateway reset telemetry stream: try later (overloaded)\",\"reason\":"
        ++ "\"telemetry control rejected: gateway reset telemetry stream: try later (overloaded)\","
        ++ "\"timestamp\":\"2026-01-01T00:00:00Z\"\x7d",
      .obj [("timestamp", .str "2026-01-01T00:00:00Z"), ("level", .str "warn"),
        ("event", .str "bootstrap_control_message_dropped"),
        ("message", .str ("sandboxd dropped bootstrap control message: telemetry control "
          ++ "rejected: gateway reset telemetry stream: try later (overloaded)")),
        ("reason", .str ("telemetry control rejected: gateway reset telemetry stream: "
          ++ "try later (overloaded)"))])]

/-- A text of the gateway, by its place among the documents. -/
def telemetryText (n : Nat) : SessionInput :=
  .item .idle (.event (.bootstrapMessage (.text (telemetryDocuments[n]?.map Prod.fst).get!)))

/-- A stream that was open is reset, and the report of the reset leaves on it. -/
theorem reset_of_open_relay_is_answered_with_data :
    ∃ trace st, ConnectionRun (.ofDocuments telemetryDocuments) trace (some st) ∧
      trace.map Entry.input = [.connect .open none [] none, telemetryText 0, telemetryText 2] ∧
      ∃ before entry, trace = before ++ [entry] ∧
        refused (.ofDocuments telemetryDocuments) (before ++ [entry]) = true ∧
        ∃ o ∈ entry.emitted, o.isTelemetryData = true := by
  rcases exists_connectionRun (.ofDocuments telemetryDocuments)
    [.connect .open none [] none, telemetryText 0, telemetryText 2]
    (fun trace _ => refused (.ofDocuments telemetryDocuments) trace &&
      trace.getLast?.any fun entry => entry.emitted.any TunnelEffect.isTelemetryData)
    (by decide +kernel) with ⟨trace, st, run, hinputs, hcheck⟩
  rw [Bool.and_eq_true] at hcheck
  refine ⟨trace, st, run, hinputs, ?_⟩
  cases hlast : trace.getLast? with
  | none =>
      rw [hlast] at hcheck
      exact absurd hcheck.2 Bool.false_ne_true
  | some entry =>
      rw [hlast, Option.any_some] at hcheck
      rcases List.getLast?_eq_some_iff.mp hlast with ⟨before, htrace⟩
      rw [htrace] at hcheck
      exact ⟨before, entry, htrace, hcheck.1, List.any_eq_true.mp hcheck.2⟩

/-- A stream that is refused before it opens stays silent when a line is logged. -/
theorem no_telemetry_after_refusal_of_open :
    ∃ before entry st,
      ConnectionRun (.ofDocuments telemetryDocuments) (before ++ [entry]) (some st) ∧
      refused (SerdeJson.ofDocuments telemetryDocuments) (before ++ [entry]) = true ∧
      ∀ o ∈ entry.emitted, o.isTelemetryData = false := by
  rcases exists_connectionRun_passing (.ofDocuments telemetryDocuments)
    [.connect .open none [] none, telemetryText 1,
      .item .idle (.lifecycleLines ["\x7b\x7d\n"])]
    (fun trace _ => refused (.ofDocuments telemetryDocuments) trace && trace.getLast?.isSome)
    (fun connection _ => !connection.any fun (st : TunnelSessionMutableState) =>
      st.telemetryRelay.state = .open)
    (by decide +kernel) (by decide +kernel) with ⟨trace, st, run, hinputs, hcheck, hshut⟩
  rw [Bool.and_eq_true] at hcheck
  rcases Option.isSome_iff_exists.mp hcheck.2 with ⟨entry, hlast⟩
  rcases List.getLast?_eq_some_iff.mp hlast with ⟨before, htrace⟩
  rw [htrace] at run hcheck
  have hundisturbed : ConnectionSteps (.ofDocuments telemetryDocuments) (before ++ [entry])
      fun connection input _ =>
        TelemetryUndisturbed (.ofDocuments telemetryDocuments) connection input := by
    rw [← htrace]
    intro before i out after connection hsplit hrun
    have hclosed := hshut before i out after connection hsplit hrun
    have hmem := mem_inputs hsplit
    rw [hinputs] at hmem
    refine ⟨fun st hst hopen => ?_, ?_, ?_⟩
    · rw [hst] at hclosed
      simp only [Option.any_some, hopen, decide_true, Bool.not_true, Bool.false_eq_true] at hclosed
    · simp only [List.mem_cons, List.not_mem_nil, or_false] at hmem
      rcases hmem with h | h | h
      · rw [h]
        exact not_false
      · rw [h]
        have hparse : parseBootstrapTelemetryControlMessage (.ofDocuments telemetryDocuments)
            (telemetryDocuments[1]?.map Prod.fst).get! = .ok (some (.openError {
              messageType := "telemetry.open.error"
              streamId := sandboxTelemetryLogStreamId
              code := "unsupported"
              message := "no telemetry" })) := by decide +kernel
        exact not_textNames_of_telemetry hparse _
      · rw [h]
        exact not_false
    · intro htask
      simp only [List.mem_cons, List.not_mem_nil, or_false] at hmem
      rcases hmem with h | h | h <;> (rw [h] at htask; cases htask)
  exact ⟨before, entry, st, run, hcheck.1,
    no_telemetry_after_refusal _ _ _ run hundisturbed before [] entry rfl hcheck.1⟩

end Mistle
