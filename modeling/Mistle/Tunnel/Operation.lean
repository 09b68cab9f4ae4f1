import Mistle.Tunnel.Footprint

/-!
# The Operation Stream

Records of the sandbox operation wait in a queue and leave as data frames of a
reserved stream, one a record, while the stream's window admits the next one. A
close waits for the queue to drain; its caller is answered once the writer has
flushed, or at once where nothing was opened.

A record is taken off the queue before it is written. If the writer is gone the
record is lost and the window with it, so nothing more is sent.

## Main definitions

* `enqueueOperationRecord`, `flushPendingOperationRecords`: The queue.
* `closeOperationStream`, `closeOperationStreamIfDrained`: The close.
* `handleOperationControlMessage`: The gateway's side.
* `recordEgressTokenEvent`: Records about egress tokens.

## Theorems

* `encode_operationFrame`: Every record encodes.
* `recordOperation_footprint`, `closeOperationStream_footprint`,
  `handleOperationControlMessage_footprint`: What the relay touches.
-/

namespace Mistle

open Handler

def pendingOperationRecordCapacity : Nat := 1024

/-- The frame of one record. -/
def operationFrame (line : String) : StreamDataFrame :=
  { streamId := sandboxOperationStreamId, payloadKind := payloadKindRawBytes, payload := utf8 line }

/-- Encoding a record cannot fail: both fields it checks are constants. -/
theorem encode_operationFrame (line : String) :
    checkedFrame sandboxOperationStreamId payloadKindRawBytes (utf8 line)
      = .ok (operationFrame line) := rfl

def writeOperationRecord (line : String) : Session Unit :=
  writeTunnelBinary (operationFrame line)

/-- Ask the gateway for the stream when the connection starts. -/
def openOperationStream (operationId operationKind : String) : Session Unit := do
  match ← attempt (writeTunnelText (.operationOpen operationId operationKind)) with
  | .ok () => modify fun st => { st with operationStreamRequested := true }
  | .error _ => return ()

/-- Answer the caller of a close, if there is one. -/
def answerClose (sender : Option ResponseSender) (result : Except String Unit) : Session Unit :=
  match sender with
  | some sender => emit (.answerClose sender result)
  | none => return ()

/-- Have the writer answer the caller of a close, if there is one. -/
def flushForClose (sender : Option ResponseSender) : Session Unit :=
  match sender with
  | some sender => do
    let _ ← attempt (writeTunnelFlush sender)
    return ()
  | none => return ()

def closeOperationStreamIfDrained : Session Unit := do
  let st ← get
  if !st.operationStreamCloseRequested || !st.pendingOperationRecords.isEmpty then return ()
  else
    let responseSender := st.operationStreamCloseResponseSender
    modify fun st => { st with operationStreamCloseResponseSender := none }
    if st.operationStreamRequested then
      match ← attempt (writeTunnelText .operationClose) with
      | .error error => answerClose responseSender (.error error.display)
      | .ok () => flushForClose responseSender
    else answerClose responseSender (.ok ())
    modify fun st => { st with
      operationStreamRequested := false
      operationStreamCloseRequested := false
      operationStreamSendWindow := none }

def enqueueOperationRecord (line : String) : Session Unit := do
  let st ← get
  if st.pendingOperationRecords.length ≥ pendingOperationRecordCapacity then return ()
  else modify fun st => { st with pendingOperationRecords := st.pendingOperationRecords ++ [line] }

/-- The state with one record taken off the queue and paid for. -/
def TunnelSessionMutableState.popped (st : TunnelSessionMutableState) (window : StreamSendWindow)
    (rest : List String) : TunnelSessionMutableState :=
  { st with operationStreamSendWindow := some window, pendingOperationRecords := rest }

/-- Send records off the front of the queue while the next one fits the window;
    `true` if the queue ran dry. -/
def flushRecords : List String → Session Bool
  | [] => return true
  | line :: rest => do
    let st ← get
    match st.operationStreamSendWindow with
    | none => return false
    | some sendWindow =>
      match sendWindow.tryConsume (utf8 line).length with
      | none => return false
      | some window =>
        modify fun st => st.popped window rest
        match ← attempt (writeOperationRecord line) with
        | .ok () => flushRecords rest
        | .error _ =>
          modify fun st => { st with operationStreamSendWindow := none }
          return false

def flushPendingOperationRecords : Session Unit := do
  let st ← get
  match st.operationStreamSendWindow with
  | none => return ()
  | some _ =>
    if ← flushRecords st.pendingOperationRecords then closeOperationStreamIfDrained
    else return ()

/-- Queue a record and send what the window admits. -/
def recordOperation (line : String) : Session Unit := do
  enqueueOperationRecord line
  flushPendingOperationRecords

def closeOperationStream (responseSender : ResponseSender) : Session Unit := do
  modify fun st => { st with
    operationStreamCloseRequested := true
    operationStreamCloseResponseSender := some responseSender }
  flushPendingOperationRecords
  closeOperationStreamIfDrained

/-! ### The gateway's side -/

/-- Whether a message names the operation stream. -/
def namesOperationStream (value : Json String) : Bool :=
  (value.get? "streamId").bind u32? == some sandboxOperationStreamId

def handleOperationOpenOk (value : Json String) : Session Unit := do
  if namesOperationStream value then
    match (value.get? "initialWindowBytes").bind usize? with
    | none => modify fun st => { st with operationStreamSendWindow := none }
    | some initialWindowBytes =>
      modify fun st => { st with operationStreamSendWindow := some ⟨initialWindowBytes⟩ }
      flushPendingOperationRecords
      closeOperationStreamIfDrained
  else return ()

/-- Add a grant to the window; a grant that does not fit is ignored. -/
def addOperationCredit (value : Json String) : Session Unit := do
  let st ← get
  match st.operationStreamSendWindow, (value.get? "bytes").bind usize? with
  | some sendWindow, some bytes =>
    match sendWindow.add bytes with
    | .ok window => modify fun st => { st with operationStreamSendWindow := some window }
    | .error _ => return ()
  | _, _ => return ()

def handleOperationWindow (value : Json String) : Session Unit := do
  if namesOperationStream value then
    addOperationCredit value
    flushPendingOperationRecords
    closeOperationStreamIfDrained
  else return ()

/-- A refusal or a reset; the stream it names is not looked at. -/
def handleOperationReset (messageType : String) : Session Unit := do
  let st ← get
  modify fun st => { st with
    operationStreamRequested := false
    operationStreamCloseRequested := false
    operationStreamCloseResponseSender := none }
  answerClose st.operationStreamCloseResponseSender (.error (messageType ++ " received"))
  modify fun st => { st with
    operationStreamSendWindow := none
    pendingOperationRecords := [] }

/-- A parsed message of the gateway; `false` if it is no operation message. -/
def handleOperationValue (value : Json String) : Session Bool := do
  match messageTypeOf value with
  | none => return false
  | some "operation.open.ok" =>
    handleOperationOpenOk value
    return true
  | some "operation.window" =>
    handleOperationWindow value
    return true
  | some "operation.open.error" =>
    handleOperationReset "operation.open.error"
    return true
  | some "operation.reset" =>
    handleOperationReset "operation.reset"
    return true
  | some messageType => return messageType.startsWith "operation."

/-- A text of the gateway; `false` if it is no operation message. -/
def handleOperationControlMessage (serde : SerdeJson) (payload : String) : Session Bool :=
  match serde.fromStr payload with
  | .error _ => return false
  | .ok value => handleOperationValue value

/-! ### Records about egress tokens -/

/-- Status and text of an egress token event. -/
def egressTokenEventStatus : String → Option (String × String)
  | "egress_token_request_started" => some ("started", "Gateway egress token request started")
  | "egress_token_request_completed" =>
    some ("completed", "Gateway egress token request completed")
  | "egress_token_request_failed" => some ("failed", "Gateway egress token request failed")
  | _ => none

/-- The record of an egress token event. -/
def egressTokenOperationRecord (observedAt event sandboxInstanceId requestId : String)
    (extraFields : Fields) : Option (Json String) :=
  let attributes := extraFields.foldl (fun attributes (name, value) =>
      Json.setField name value attributes)
    [("event", .str event), ("component", .str "TunnelSession"),
      ("sandboxInstanceId", .str sandboxInstanceId), ("requestId", .str requestId)]
  (egressTokenEventStatus event).map fun (status, message) =>
    .obj [("kind", .str "lifecycle"), ("observedAt", .str observedAt), ("phase", .str "egress"),
      ("status", .str status), ("source", .str "sandboxd"), ("message", .str message),
      ("attributes", .obj attributes)]

def recordEgressTokenEvent (context : TunnelSessionLoopContext) (world : World)
    (event requestId : String) (extraFields : Fields) : Session Unit := do
  let st ← get
  if !st.operationStreamRequested && st.operationStreamSendWindow.isNone then return ()
  else match world.systemTime with
    | .error _ => return ()
    | .ok observedAt =>
      match egressTokenOperationRecord observedAt event context.sandboxInstanceId requestId
          extraFields with
      | none => return ()
      | some record => recordOperation (context.serde.toText record ++ "\n")

/-! ### Footprints -/

/-- The scope of the relay. -/
def Scope.operationStream : Scope where
  streams t := t = sandboxOperationStreamId
  operation := True
  telemetry := False

section

variable {scope : Scope}

/-- A change of the operation stream's own fields. -/
theorem modifyOperation_footprint (hoperation : scope.operation)
    {f : TunnelSessionMutableState → TunnelSessionMutableState}
    (hentries : ∀ st t, (f st).entries t = st.entries t := by intros; rfl)
    (hwriter : ∀ st, (f st).tunnelWriter = st.tunnelWriter := by intros; rfl)
    (hrelay : ∀ st, (f st).telemetryRelay = st.telemetryRelay := by intros; rfl) :
    Follows (footprint scope) (modify f : Session Unit) := by
  refine Follows.modify fun st => ⟨fun t _ => hentries st t, fun h s => ?_,
    fun o ho => absurd ho List.not_mem_nil, fun h => absurd hoperation h,
    fun _ => by rw [hrelay st], fun h => (hwriter st).trans h,
    fun h => absurd hoperation h⟩
  rw [hentries st s]
  exact h s

theorem answerClose_footprint (hoperation : scope.operation) (sender : Option ResponseSender)
    (result : Except String Unit) :
    Follows (footprint scope) (answerClose sender result) := by
  cases sender with
  | none => exact Follows.pure _
  | some sender =>
      refine emit_footprint (fun t ht => ?_) fun h => absurd hoperation h
      exact absurd ht (by simp only [TunnelEffect.streamId?, reduceCtorEq, not_false_eq_true])

theorem writeTunnelFlush_footprint (hoperation : scope.operation) (sender : ResponseSender) :
    Follows (footprint scope) (writeTunnelFlush sender) := by
  refine Follows.bind (sendToWriter_footprint (fun t ht => ?_) fun h => absurd hoperation h)
    fun sent => ?_
  · exact absurd ht (by simp only [TunnelEffect.streamId?, reduceCtorEq, not_false_eq_true])
  cases sent with
  | true => exact Follows.pure _
  | false =>
      exact Follows.bind (answerClose_footprint hoperation (some sender) _) fun _ => Follows.throw _

theorem flushForClose_footprint (hoperation : scope.operation)
    (sender : Option ResponseSender) :
    Follows (footprint scope) (flushForClose sender) := by
  cases sender with
  | none => exact Follows.pure _
  | some sender =>
      exact Follows.bind (Follows.attempt (writeTunnelFlush_footprint hoperation sender))
        fun _ => Follows.pure _

variable (hstream : scope.streams sandboxOperationStreamId) (hoperation : scope.operation)

include hstream hoperation

theorem closeOperationStreamIfDrained_footprint :
    Follows (footprint scope) closeOperationStreamIfDrained := by
  refine Follows.read fun st => ?_
  split
  · exact Follows.pure _ st
  · refine Follows.bind (modifyOperation_footprint hoperation) (fun _ => ?_) st
    split
    · refine Follows.bind (Follows.attempt (writeTunnelText_on rfl hstream)) fun result => ?_
      cases result with
      | error error =>
          exact Follows.bind (answerClose_footprint hoperation _ _) fun _ =>
            modifyOperation_footprint hoperation
      | ok =>
          exact Follows.bind (flushForClose_footprint hoperation _) fun _ =>
            modifyOperation_footprint hoperation
    · exact Follows.bind (answerClose_footprint hoperation _ _) fun _ =>
        modifyOperation_footprint hoperation

theorem flushRecords_footprint (lines : List String) :
    Follows (footprint scope) (flushRecords lines) := by
  induction lines with
  | nil => exact Follows.pure _
  | cons line rest ih =>
      refine Follows.read fun st => ?_
      split
      · exact Follows.pure _ st
      split
      · exact Follows.pure _ st
      · refine Follows.bind (modifyOperation_footprint hoperation) (fun _ => ?_) st
        refine Follows.bind (Follows.attempt (writeTunnelBinary_footprint hstream))
          fun result => ?_
        cases result with
        | ok => exact ih
        | error error =>
            exact Follows.bind (modifyOperation_footprint hoperation) fun _ => Follows.pure _

theorem flushPendingOperationRecords_footprint :
    Follows (footprint scope) flushPendingOperationRecords := by
  refine Follows.read fun st => ?_
  split
  · exact Follows.pure _ st
  · refine Follows.bind (flushRecords_footprint hstream hoperation _) (fun dry => ?_) st
    cases dry with
    | true => exact closeOperationStreamIfDrained_footprint hstream hoperation
    | false => exact Follows.pure _

theorem recordOperation_footprint (line : String) :
    Follows (footprint scope) (recordOperation line) := by
  refine Follows.bind (Follows.read fun st => ?_)
    fun _ => flushPendingOperationRecords_footprint hstream hoperation
  split
  · exact Follows.pure _ st
  · exact (modifyOperation_footprint hoperation) st

theorem closeOperationStream_footprint (sender : ResponseSender) :
    Follows (footprint scope) (closeOperationStream sender) :=
  Follows.bind (modifyOperation_footprint hoperation)
    fun _ => Follows.bind (flushPendingOperationRecords_footprint hstream hoperation)
      fun _ => closeOperationStreamIfDrained_footprint hstream hoperation

theorem handleOperationOpenOk_footprint (value : Json String) :
    Follows (footprint scope) (handleOperationOpenOk value) := by
  unfold handleOperationOpenOk
  split
  · split
    · exact modifyOperation_footprint hoperation
    · exact Follows.bind (modifyOperation_footprint hoperation) fun _ =>
          Follows.bind (flushPendingOperationRecords_footprint hstream hoperation)
            fun _ => closeOperationStreamIfDrained_footprint hstream hoperation
  · exact Follows.pure _

theorem handleOperationWindow_footprint (value : Json String) :
    Follows (footprint scope) (handleOperationWindow value) := by
  have hcredit : Follows (footprint scope) (addOperationCredit value) := by
    refine Follows.read fun st => ?_
    split
    · split
      · exact (modifyOperation_footprint hoperation) st
      · exact Follows.pure _ st
    · exact Follows.pure _ st
  unfold handleOperationWindow
  split
  · exact Follows.bind hcredit fun _ =>
      Follows.bind (flushPendingOperationRecords_footprint hstream hoperation)
        fun _ => closeOperationStreamIfDrained_footprint hstream hoperation
  · exact Follows.pure _

omit hstream in
theorem handleOperationReset_footprint (messageType : String) :
    Follows (footprint scope) (handleOperationReset messageType) :=
  Follows.read fun _ => Follows.bind (modifyOperation_footprint hoperation)
    (fun _ => Follows.bind (answerClose_footprint hoperation _ _)
      fun _ => modifyOperation_footprint hoperation) _

theorem handleOperationControlMessage_footprint (serde : SerdeJson) (payload : String) :
    Follows (footprint scope) (handleOperationControlMessage serde payload) := by
  unfold handleOperationControlMessage
  split
  · exact Follows.pure _
  unfold handleOperationValue
  split
  · exact Follows.pure _
  · exact Follows.bind (handleOperationOpenOk_footprint hstream hoperation _)
      fun _ => Follows.pure _
  · exact Follows.bind (handleOperationWindow_footprint hstream hoperation _)
      fun _ => Follows.pure _
  · exact Follows.bind (handleOperationReset_footprint hoperation _) fun _ => Follows.pure _
  · exact Follows.bind (handleOperationReset_footprint hoperation _) fun _ => Follows.pure _
  · exact Follows.pure _

theorem recordEgressTokenEvent_footprint (context : TunnelSessionLoopContext) (world : World)
    (event requestId : String) (extraFields : Fields) :
    Follows (footprint scope)
      (recordEgressTokenEvent context world event requestId extraFields) := by
  refine Follows.read fun st => ?_
  split
  · exact Follows.pure _ st
  split
  · exact Follows.pure _ st
  split
  · exact Follows.pure _ st
  · exact recordOperation_footprint hstream hoperation _ st

end

end Mistle
