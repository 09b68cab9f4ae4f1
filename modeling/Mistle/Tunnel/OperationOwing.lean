import Mistle.Tunnel.Connection
import Mistle.Tunnel.OperationDrain

/-!
# What Is Owed to the Caller of a Close

A close of the operation stream is answered once its records are sent. While it
waits, something must be left to happen: records that wait for credit, on a
stream the gateway was asked for. `Settled` is that condition. Every handler
keeps it and answers whom it should, `Owes`, except a request to close, which may
come when it cannot be kept.

Most handlers leave the operation stream alone, which their footprints say; the
rest drain its queue.

## Main definitions

* `Settled`: A close that waits has records before it, on a requested stream.
* `Owes`, `owes`: Waiting callers are answered once, and the trail.
* `SessionInput.closes?`: The caller of a close an input makes wait.

## Theorems

* `owes_of_footprint`: Handlers that leave the operation stream alone.
* `Drain.answered`, `Drain.settled`: A drain answers whom it takes.
* `recordOperation_owes`, `handleOperationValue_owes`: The relay's handlers.
* `handleSessionItem_owes`: Every item but a request to close.
-/

namespace Mistle

open Handler

/-! ### What is owed -/

/-- A close that waits has records before it that the window does not admit, on
    a stream that was requested. -/
structure Settled (st : TunnelSessionMutableState) : Prop where
  requested : st.operationStreamCloseResponseSender ≠ none → st.operationStreamRequested = true
  closing : st.operationStreamCloseResponseSender ≠ none →
    st.operationStreamCloseRequested = true
  pending : st.operationStreamCloseResponseSender ≠ none → st.pendingOperationRecords ≠ []
  blocked : st.operationStreamCloseResponseSender ≠ none → Blocked st

/-- The callers of closes that effects answer. -/
def closeAnswers (out : List TunnelEffect) : List ResponseSender :=
  out.filterMap TunnelEffect.closeAnswer?

theorem closeAnswers_append (out out' : List TunnelEffect) :
    closeAnswers (out ++ out') = closeAnswers out ++ closeAnswers out' :=
  List.filterMap_append

/-- A caller that waited was answered once or waits still. -/
def Answered (before after : Option ResponseSender) (out : List TunnelEffect) : Prop :=
  closeAnswers out ++ after.toList = before.toList

/-- From a settled state, a handler reaches one and answers whom it should. -/
structure Owes (a : TunnelSessionMutableState) (out : List TunnelEffect)
    (b : TunnelSessionMutableState) : Prop where
  settled : Settled a → Settled b
  answers : Settled a → Answered a.operationStreamCloseResponseSender
    b.operationStreamCloseResponseSender out

/-- What is owed, as a trail. -/
def owes : Trail TunnelSessionMutableState TunnelEffect where
  rel := Owes
  refl _ := ⟨id, fun _ => rfl⟩
  comp first second := by
    refine ⟨fun h => second.settled (first.settled h), fun h => ?_⟩
    have hfirst := first.answers h
    have hsecond := second.answers (first.settled h)
    unfold Answered at hfirst hsecond ⊢
    rw [closeAnswers_append, List.append_assoc, hsecond, hfirst]

theorem settled_of_no_sender {st : TunnelSessionMutableState}
    (h : st.operationStreamCloseResponseSender = none) : Settled st :=
  ⟨fun hne => absurd h hne, fun hne => absurd h hne, fun hne => absurd h hne,
    fun hne => absurd h hne⟩

/-- Whether a state is settled depends on the operation stream alone. -/
theorem Settled.congr {a b : TunnelSessionMutableState} (h : Settled a)
    (hoperation : b.operation = a.operation) : Settled b := by
  have hsender := congrArg OperationStream.closeResponseSender hoperation
  have hpending := congrArg OperationStream.pendingRecords hoperation
  have hwindow := congrArg OperationStream.sendWindow hoperation
  simp only [TunnelSessionMutableState.operation] at hsender hpending hwindow
  constructor
  · intro hne
    rw [hsender] at hne
    exact (congrArg OperationStream.requested hoperation).trans (h.requested hne)
  · intro hne
    rw [hsender] at hne
    exact (congrArg OperationStream.closeRequested hoperation).trans (h.closing hne)
  · intro hne
    rw [hsender] at hne
    rw [hpending]
    exact h.pending hne
  · intro hne window line rest hsome hhead
    rw [hsender] at hne
    rw [hwindow] at hsome
    rw [hpending] at hhead
    exact h.blocked hne window line rest hsome hhead

/-- The scope of a handler that leaves the operation stream's fields alone. -/
def Scope.besidesOperation : Scope where
  streams _ := True
  operation := False
  telemetry := True

theorem Footprint.owes {a b : TunnelSessionMutableState} {out : List TunnelEffect}
    (h : Footprint .besidesOperation a out b) : Owes a out b := by
  have hoperation : b.operation = a.operation := h.operation id
  refine ⟨fun hsettled => hsettled.congr hoperation, fun _ => ?_⟩
  have hsender := congrArg OperationStream.closeResponseSender hoperation
  have hnone : closeAnswers out = [] := List.filterMap_eq_nil_iff.mpr (h.answers id)
  simp only [TunnelSessionMutableState.operation] at hsender
  unfold Answered
  rw [hnone, hsender, List.nil_append]

/-- Handlers that leave the operation stream alone. -/
theorem owes_of_footprint {α : Type} {x : Session α}
    (h : Follows (footprint .besidesOperation) x) : Follows owes x :=
  fun st => Footprint.owes (h st)

/-! ### The queue and a waiting close -/

/-- Whatever a drain does, it answers the caller it takes. -/
theorem Drain.answered {st st' : TunnelSessionMutableState} {out : List TunnelEffect}
    (h : Drain st out st') : Answered st.operationStreamCloseResponseSender
      st'.operationStreamCloseResponseSender out := by
  have hrecords : ∀ sent : List String, closeAnswers (sent.map operationEffect) = [] := by
    intro sent
    refine List.filterMap_eq_nil_iff.mpr fun o ho => ?_
    rcases List.mem_map.mp ho with ⟨line, _, hline⟩
    rw [← hline]
    rfl
  unfold Answered
  cases h with
  | «open» sent flushed hout =>
      rw [hout, hrecords, flushed.sender, List.nil_append]
  | closed sent drained flushed dry answers answered writer gone hout hstate =>
      have hanswers : closeAnswers answers = st.operationStreamCloseResponseSender.toList :=
        answered.answers
      rw [hout, hstate, closeAnswers_append, hrecords, hanswers]
      exact List.append_nil _

/-- After a drain that left no close behind that could be done, the state is
    settled, if the stream was requested or has no record. -/
theorem Drain.settled {st st' : TunnelSessionMutableState} {out : List TunnelEffect}
    (h : Drain st out st')
    (hrest : st'.operationStreamCloseRequested = false ∨ st'.pendingOperationRecords ≠ [])
    (hclosing : st.operationStreamCloseResponseSender ≠ none →
      st.operationStreamCloseRequested = true)
    (hrequested : st.operationStreamCloseResponseSender ≠ none →
      st.operationStreamRequested = true ∨ st'.pendingOperationRecords = []) : Settled st' := by
  cases h with
  | closed sent drained flushed dry answers answered writer gone hout hstate =>
      refine settled_of_no_sender ?_
      rw [hstate]
      rfl
  | «open» sent flushed hout =>
      have hclose : st'.operationStreamCloseResponseSender ≠ none →
          st'.operationStreamCloseRequested = true := by
        intro hne
        rw [flushed.sender] at hne
        rw [flushed.closeRequested]
        exact hclosing hne
      have hwaits : st'.operationStreamCloseResponseSender ≠ none →
          st'.pendingOperationRecords ≠ [] := by
        intro hne
        rcases hrest with hfalse | hpending
        · rw [hclose hne] at hfalse
          exact absurd hfalse (by simp only [Bool.true_eq_false, not_false_eq_true])
        · exact hpending
      refine ⟨fun hne => ?_, hclose, hwaits, fun _ => flushed.blocked⟩
      have hsender := hne
      rw [flushed.sender] at hsender
      rcases hrequested hsender with htrue | hdry
      · rw [flushed.requested]
        exact htrue
      · exact absurd hdry (hwaits hne)

theorem flushPendingOperationRecords_of_blocked {st : TunnelSessionMutableState}
    (hblocked : Blocked st) (hpending : st.pendingOperationRecords ≠ []) :
    flushPendingOperationRecords st = ⟨.ok (), st, []⟩ := by
  rcases List.exists_cons_of_ne_nil hpending with ⟨line, rest, hhead⟩
  unfold flushPendingOperationRecords
  rw [bind_ok (get_apply st)]
  cases hwindow : st.operationStreamSendWindow with
  | none => rfl
  | some window =>
      have hunpaid := hblocked window line rest hwindow hhead
      simp only
      rw [hhead, bind_ok (flushRecords_of_unpaid hwindow hunpaid)]
      rfl

theorem enqueued_operation (st : TunnelSessionMutableState) (line : String) :
    (st.enqueued line).operationStreamCloseResponseSender = st.operationStreamCloseResponseSender ∧
      (st.enqueued line).operationStreamRequested = st.operationStreamRequested ∧
      (st.enqueued line).operationStreamCloseRequested = st.operationStreamCloseRequested ∧
      (st.enqueued line).operationStreamSendWindow = st.operationStreamSendWindow ∧
      st.pendingOperationRecords <+: (st.enqueued line).pendingOperationRecords := by
  unfold TunnelSessionMutableState.enqueued
  split
  · exact ⟨rfl, rfl, rfl, rfl, List.prefix_rfl⟩
  · exact ⟨rfl, rfl, rfl, rfl, List.prefix_append _ _⟩

/-- A record behind a waiting close only joins the queue. -/
theorem enqueued_settled {st : TunnelSessionMutableState} (h : Settled st) (line : String) :
    Settled (st.enqueued line) := by
  rcases enqueued_operation st line with ⟨hsender, hrequested, hclosing, hwindow, tail, htail⟩
  constructor
  · intro hne
    rw [hsender] at hne
    exact hrequested.trans (h.requested hne)
  · intro hne
    rw [hsender] at hne
    exact hclosing.trans (h.closing hne)
  · intro hne
    rw [hsender] at hne
    rw [← htail]
    exact List.append_ne_nil_of_left_ne_nil (h.pending hne) tail
  · intro hne window head rest hsome hhead
    rw [hsender] at hne
    rw [hwindow] at hsome
    -- The record at the head is the one that waited there before.
    rcases List.exists_cons_of_ne_nil (h.pending hne) with ⟨first, others, hfirst⟩
    rw [← htail, hfirst, List.cons_append, List.cons.injEq] at hhead
    rw [← hhead.1]
    exact h.blocked hne window first others hsome hfirst

theorem recordOperation_owes (line : String) : Follows owes (recordOperation line) := by
  intro st
  rcases recordOperation_spec line st with ⟨st', out, houtcome, hdrain⟩
  have hsender := (enqueued_operation st line).1
  have hanswered := hdrain.answered
  rw [hsender] at hanswered
  unfold FollowsFrom
  rw [houtcome]
  refine ⟨fun hsettled => ?_, fun _ => hanswered⟩
  by_cases hnone : st.operationStreamCloseResponseSender = none
  · -- Nobody waits, and nobody waits afterwards.
    unfold Answered at hanswered
    rw [hnone, Option.toList_none, List.append_eq_nil_iff] at hanswered
    exact settled_of_no_sender (Option.toList_eq_nil_iff.mp hanswered.2)
  · have hwaits : (st.enqueued line).operationStreamCloseResponseSender ≠ none := by
      rw [hsender]
      exact hnone
    have henqueued := enqueued_settled hsettled line
    have hflush := flushPendingOperationRecords_of_blocked (henqueued.blocked hwaits)
      (henqueued.pending hwaits)
    have hrecord : recordOperation line st = ⟨.ok (), st.enqueued line, []⟩ := by
      unfold recordOperation
      have henqueue : enqueueOperationRecord line st = ⟨.ok (), st.enqueued line, []⟩ := by
        unfold enqueueOperationRecord TunnelSessionMutableState.enqueued
        rw [bind_ok (get_apply st)]
        split
        · rfl
        · rfl
      rw [bind_ok henqueue, hflush]
      rfl
    rw [hrecord, Outcome.mk.injEq] at houtcome
    rw [← houtcome.2.1]
    exact henqueued

theorem openOperationStream_owes (operationId operationKind : String) :
    Follows owes (openOperationStream operationId operationKind) := by
  refine Follows.bind (Follows.attempt (owes_of_footprint ?_)) fun result => ?_
  · exact writeTunnelText_on rfl trivial
  · cases result with
    | error error => exact Follows.pure _
    | ok =>
        refine Follows.modify fun st => ⟨fun h => ?_, fun _ => rfl⟩
        exact ⟨fun _ => rfl, h.closing, h.pending, h.blocked⟩

/-! ### Messages of the gateway -/

/-- A new window followed by a drain. -/
theorem settle_owes {st st' : TunnelSessionMutableState} {window : Option StreamSendWindow}
    {out : List TunnelEffect} (h : Drain (st.windowed window) out st')
    (hrest : st'.operationStreamCloseRequested = false ∨ st'.pendingOperationRecords ≠ []) :
    Owes st out st' :=
  ⟨fun hsettled => h.settled hrest hsettled.closing fun hne => .inl (hsettled.requested hne),
    fun _ => h.answered⟩

theorem handleOperationValue_owes (value : Json String) :
    Follows owes (handleOperationValue value) := by
  intro st
  rcases handleOperationValue_cases value with
    ⟨_, hvalue⟩ | ⟨_, hvalue⟩ | ⟨messageType, _, _, hvalue⟩ | ⟨_, _, _, _, handled, hvalue⟩
  · rw [hvalue]
    refine FollowsFrom.bind ?_ fun _ _ => Follows.pure _ _
    by_cases hnames : namesOperationStream value = true
    · unfold FollowsFrom
      rcases handleOperationOpenOk_spec value st hnames with
        ⟨_, houtcome⟩ | ⟨bytes, st', out, _, houtcome, hdrain, hrest⟩
      · rw [houtcome]
        refine ⟨fun h => ?_, fun _ => rfl⟩
        exact ⟨h.requested, h.closing, h.pending, fun _ => blocked_of_no_window rfl⟩
      · rw [houtcome]
        exact settle_owes hdrain hrest
    · unfold handleOperationOpenOk
      rw [if_neg hnames]
      exact Follows.pure _ st
  · rw [hvalue]
    refine FollowsFrom.bind ?_ fun _ _ => Follows.pure _ _
    by_cases hnames : namesOperationStream value = true
    · rcases handleOperationWindow_spec value st hnames with
        ⟨window, st', out, houtcome, hdrain, hrest, _⟩
      unfold FollowsFrom
      rw [houtcome]
      exact settle_owes hdrain hrest
    · unfold handleOperationWindow
      rw [if_neg hnames]
      exact Follows.pure _ st
  · -- A refusal answers the caller that waits, and nobody waits after it.
    rw [hvalue]
    refine FollowsFrom.bind ?_ fun _ _ => Follows.pure _ _
    rcases handleOperationReset_spec messageType st with ⟨out, houtcome, hanswers⟩
    unfold FollowsFrom
    rw [houtcome]
    refine ⟨fun _ => settled_of_no_sender rfl, fun _ => ?_⟩
    have hall : closeAnswers out = st.operationStreamCloseResponseSender.toList := hanswers.answers
    unfold Answered
    rw [hall]
    exact List.append_nil _
  · rw [hvalue]
    exact Follows.pure _ st

section

variable (context : TunnelSessionLoopContext) (world : World)

theorem handleOperationControlMessage_owes (payload : String) :
    Follows owes (handleOperationControlMessage context.serde payload) := by
  unfold handleOperationControlMessage
  cases context.serde.fromStr payload with
  | error error => exact Follows.pure _
  | ok value => exact handleOperationValue_owes value

theorem recordEgressTokenEvent_owes (event requestId : String) (extraFields : Fields) :
    Follows owes (recordEgressTokenEvent context world event requestId extraFields) := by
  refine Follows.read fun st => ?_
  split
  · exact Follows.pure _ st
  split
  · exact Follows.pure _ st
  split
  · exact Follows.pure _ st
  · exact recordOperation_owes _ st

theorem handleEgressTokenSessionRequest_owes (requestId : String) (actingUserId : Option String)
    (sender : ResponseSender) :
    Follows owes (handleEgressTokenSessionRequest context world requestId actingUserId sender) := by
  have hanswer : ∀ result, Follows owes (emit (.answerEgressToken sender result) : Session Unit) :=
    fun result => owes_of_footprint (answerEgressToken_footprint sender result)
  have hpending : Follows owes (modify fun st => { st with
      pendingEgressTokenRequests := st.pendingEgressTokenRequests.insert requestId sender } :
        Session Unit) := owes_of_footprint modify_footprint
  refine Follows.read fun st => ?_
  split
  · exact hanswer _ st
  split
  · exact hanswer _ st
  · refine Follows.bind (recordEgressTokenEvent_owes _ _ _ _ _) (fun _ => ?_) st
    refine Follows.bind hpending fun _ => ?_
    refine Follows.bind (Follows.attempt (owes_of_footprint (writeTunnelText_off rfl)))
      fun result => ?_
    cases result with
    | ok => exact Follows.pure _
    | error error =>
        refine Follows.bind (owes_of_footprint (answerPendingEgressToken_footprint _ _)) fun _ => ?_
        exact Follows.bind (recordEgressTokenEvent_owes _ _ _ _ _) fun _ => Follows.throw _

theorem handleEgressTokenControlMessage_owes (message : EgressTokenControlMessage) :
    Follows owes (handleEgressTokenControlMessage context world message) := by
  have hanswer : ∀ (requestId event : String) result fields, Follows owes (do
      if ← answerPendingEgressToken requestId result then
        recordEgressTokenEvent context world event requestId fields
      else return () : Session Unit) := by
    intro requestId event result fields
    refine Follows.bind (owes_of_footprint (answerPendingEgressToken_footprint _ _))
      fun answered => ?_
    cases answered with
    | true => exact recordEgressTokenEvent_owes _ _ _ _ _
    | false => exact Follows.pure _
  cases message with
  | request message => exact Follows.pure _
  | response message => exact hanswer _ _ _ _
  | error message => exact hanswer _ _ _ _

/-- One parser's turn at a text owes what its handler owes. -/
theorem offerText_owes {α : Type} {parsed : Except TunnelProtocolError (Option α)}
    {handle : α → Session Unit} (h : ∀ message, Follows owes (handle message)) :
    Follows owes (offerText context world parsed handle) := by
  unfold offerText
  split
  · exact Follows.bind (h _) fun _ => Follows.pure _
  · exact Follows.pure _
  · exact Follows.bind (owes_of_footprint (publishTunnelTelemetryLog_footprint _ _ _ _ _))
      fun _ => Follows.pure _

theorem handleBootstrapText_owes (payload : String) :
    Follows owes (handleBootstrapText context world payload) := by
  have hdropped : ∀ reason, Follows owes (reportDroppedBootstrapTextMessage context world reason) :=
    fun _ => owes_of_footprint (publishTunnelTelemetryLog_footprint _ _ _ _ _)
  refine Follows.bind (firstOf_follows _ ?_) fun _ => Follows.pure _
  unfold textHandlers
  simp only [List.forall_mem_cons, List.not_mem_nil, IsEmpty.forall_iff, implies_true, and_true]
  refine ⟨owes_of_footprint (handleTelemetryText_footprint _ _ fun _ => trivial),
    offerText_owes _ _ fun message => ?_, offerText_owes _ _ fun message => ?_,
    offerText_owes _ _ fun message =>
      owes_of_footprint (handleSigningControlMessage_footprint message),
    offerText_owes _ _ (handleEgressTokenControlMessage_owes context world),
    handleOperationControlMessage_owes context payload,
    offerText_owes _ _ fun message =>
      owes_of_footprint (handlePtySessionControlMessage_footprint message), ?_⟩
  · cases message with
    | targetAuthorize message =>
        exact owes_of_footprint (handlePortsControlMessage_footprint _ _)
  · refine Follows.bind (Follows.attempt
      (owes_of_footprint (handlePortsTransportMessage_footprint _ _ trivial))) fun result => ?_
    cases result with
    | ok => exact Follows.pure _
    | error error => exact hdropped _
  · unfold handleStreamControlText
    split
    · refine Follows.bind (fun st => ?_) fun _ => Follows.pure _
      exact Footprint.owes
        (handleTunnelControlMessage_footprint _ _ trivial fun _ _ _ _ => trivial)
    · exact Follows.bind (hdropped _) fun _ => Follows.pure _

/-! ### Items -/

/-- The caller of a close that an input makes wait. -/
def SessionInput.closes? : SessionInput → Option ResponseSender
  | .item _ (.request (.operationClose sender)) => some sender
  | _ => none

theorem continueWith_owes {handler : Session Unit} (h : Follows owes handler) :
    Follows owes (continueWith handler) :=
  Follows.bind h fun _ => Follows.pure _

/-- A footprint of any item that leaves the operation stream's fields alone. -/
theorem owes_of_scope {α : Type} {scope : Scope} {x : Session α}
    {st : TunnelSessionMutableState} (h : FollowsFrom (footprint scope) x st)
    (hoperation : ¬ scope.operation) : FollowsFrom owes x st :=
  Footprint.owes (Footprint.widen h (fun _ _ => trivial) (fun hin => absurd hin hoperation)
    fun _ => trivial)

/-- Every item owes what it should, but for a request to close. -/
theorem handleSessionItem_owes (item : SessionItem)
    (hclose : (SessionInput.item world item).closes? = none) :
    Follows owes (handleSessionItem context world item) := by
  intro st
  have hfootprint := handleSessionItem_footprint context world item st
  cases item with
  | event event =>
      cases event with
      | bootstrapMessage message =>
          cases message with
          | text payload =>
              exact continueWith_owes (handleBootstrapText_owes context world payload) st
          | binary payload => exact owes_of_scope hfootprint id
          | ping payload => exact owes_of_scope hfootprint id
          | pong payload => exact owes_of_scope hfootprint id
          | close => exact owes_of_scope hfootprint id
          | frame => exact owes_of_scope hfootprint id
      | bootstrapClosed restart reason => exact owes_of_scope hfootprint id
      | agentDialed streamId result => exact owes_of_scope hfootprint id
      | agentMessage streamId message => exact owes_of_scope hfootprint id
      | agentWriteCompleted streamId bytes => exact owes_of_scope hfootprint id
      | portAccessTransport event => exact owes_of_scope hfootprint id
      | agentClosed streamId reason => exact owes_of_scope hfootprint id
      | execCompleted streamId result => exact owes_of_scope hfootprint id
      | fileSearch event => exact owes_of_scope hfootprint id
      | wake => exact owes_of_scope hfootprint id
  | request request =>
      cases request with
      | egressToken requestId actingUserId sender =>
          exact continueWith_owes (handleEgressTokenSessionRequest_owes context world _ _ _) st
      | operationRecord line => exact continueWith_owes (recordOperation_owes line) st
      | operationClose sender =>
          exact absurd hclose (by simp only [SessionInput.closes?, reduceCtorEq, not_false_eq_true])
      | shutdown => exact owes_of_scope hfootprint id
      | setAgentEndpoint url sender => exact owes_of_scope hfootprint id
      | setRuntimeEnvironment env sender => exact owes_of_scope hfootprint id
      | signing request sender => exact owes_of_scope hfootprint id
  | lifecycleLines lines => exact owes_of_scope hfootprint id
  | keepaliveState ttlMs active => exact owes_of_scope hfootprint id
  | runtimeReady ready => exact owes_of_scope hfootprint id
  | ptyReport requestId ptySessionId outcome => exact owes_of_scope hfootprint id
  | shutdownObserved => exact owes_of_scope hfootprint id

/-- The start of a connection leaves nobody waiting. -/
theorem startSession_owes (operation : Option SandboxOperation) :
    Follows owes (startSession operation) := by
  refine Follows.read fun st => ?_
  refine Follows.bind (owes_of_footprint (setTelemetryRelay_footprint trivial _)) (fun _ => ?_) st
  refine Follows.bind (Follows.forEach fun frame hframe => owes_of_footprint ?_)
    fun _ => ?_
  · rw [List.mem_singleton.mp hframe]
    exact writeTunnelText_on rfl trivial
  · cases operation with
    | none => exact Follows.pure _
    | some operation => exact openOperationStream_owes _ _

end

end Mistle
