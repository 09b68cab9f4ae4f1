import Mistle.Tunnel.Connection
import Mistle.Tunnel.OperationDrain

/-!
# Delivery of Operation Records

A run of the operation relay, with its history written down next to the state:
which records were accepted since the last reset, which payloads left on the
operation stream, what the gateway granted since it last opened the stream and
what was paid out of that.

The history is kept by looking at inputs and effects only, and the relay knows
nothing of it. What ties the two together is conservation: accepted records are
those that were written followed by those that wait, and credit that is left
plus credit that was paid never exceeds what was granted.

## Main definitions

* `OperationHistory`: What happened since the last reset and the last open.
* `OperationInput`, `OperationStep`: What the relay is asked, and one step of it.
* `relayStep`: The relay's own steps, as a step function.
* `Ledger`: The relay's state agrees with its history.

## Theorems

* `drain_ledger`: Sending and closing keep the ledger.
* `ledger_step`: So does every step.
* `operation_records_delivered`: Every run.
-/

namespace Mistle

open Handler

/-! ### Histories -/

structure OperationHistory where
  /-- Records taken into the queue since the last reset. -/
  accepted : List String
  /-- Payloads of the stream's data frames since the last reset. -/
  written : List (List UInt8)
  /-- Credit granted, and paid, since the stream was last opened. -/
  granted : Nat
  paid : Nat
  /-- The stream was closed and not opened again. -/
  closed : Bool
  /-- A data frame was written while it was closed. -/
  wroteAfterClose : Bool

namespace OperationHistory

def empty : OperationHistory where
  accepted := []
  written := []
  granted := 0
  paid := 0
  closed := false
  wroteAfterClose := false

/-- The history after an effect. -/
def effect (h : OperationHistory) : TunnelEffect → OperationHistory
  | .write (.binary frame) =>
    if frame.streamId = sandboxOperationStreamId then { h with
      written := h.written ++ [frame.payload]
      paid := h.paid + frame.payload.length
      wroteAfterClose := h.wroteAfterClose || h.closed }
    else h
  | .write (.text .operationClose) => { h with closed := true }
  | _ => h

def effects (h : OperationHistory) (out : List TunnelEffect) : OperationHistory :=
  out.foldl effect h

/-- The history after a message of the gateway. -/
def message (h : OperationHistory) (value : Json String) : OperationHistory :=
  match messageTypeOf value with
  | some "operation.open.ok" =>
    if namesOperationStream value then { h with
      closed := false
      granted := ((value.get? "initialWindowBytes").bind usize?).getD 0
      paid := 0 }
    else h
  | some "operation.window" =>
    if namesOperationStream value then
      { h with granted := h.granted + ((value.get? "bytes").bind usize?).getD 0 }
    else h
  | some "operation.open.error" => { h with accepted := [], written := [] }
  | some "operation.reset" => { h with accepted := [], written := [] }
  | _ => h

end OperationHistory

/-! ### Runs of the relay -/

/-- What the relay is asked. -/
inductive OperationInput where
  | openRequested (operationId operationKind : String)
  | record (line : String)
  | close (sender : ResponseSender)
  | control (payload : String)
  /-- Anything the session does besides. -/
  | elsewhere

section

variable (serde : SerdeJson)

/-- The handler of an input. -/
def OperationInput.handle : OperationInput → Session Unit
  | openRequested operationId operationKind => openOperationStream operationId operationKind
  | record line => recordOperation line
  | close sender => closeOperationStream sender
  | control payload => do
    let _ ← handleOperationControlMessage serde payload
  | elsewhere => return ()

/-- The history after an input is taken, before its effects. A record is
    accepted while the queue is below its capacity. -/
def OperationHistory.input (h : OperationHistory) (st : TunnelSessionMutableState) :
    OperationInput → OperationHistory
  | .record line =>
    if st.pendingOperationRecords.length < pendingOperationRecordCapacity then
      { h with accepted := h.accepted ++ [line] }
    else h
  | .control payload =>
    match serde.fromStr payload with
    | .error _ => h
    | .ok value => h.message value
  | _ => h

/-- One step of the relay and of its history. Between two of the relay's own
    steps the session may do anything that leaves the operation stream alone. A
    writer whose receiver is gone does not come back. -/
inductive OperationStep : TunnelSessionMutableState × OperationHistory → OperationInput →
    List TunnelEffect → TunnelSessionMutableState × OperationHistory → Prop
  | relay (st : TunnelSessionMutableState) (h : OperationHistory) (input : OperationInput) :
      OperationStep (st, h) input (input.handle serde st).emitted
        ((input.handle serde st).state,
          (h.input serde st input).effects (input.handle serde st).emitted)
  | elsewhere (st st' : TunnelSessionMutableState) (h : OperationHistory)
      (hoperation : st'.operation = st.operation)
      (hgone : st.tunnelWriter.send = none → st'.tunnelWriter.send = none) :
      OperationStep (st, h) .elsewhere [] (st', h)

/-- The relay's own steps, as a step function. -/
def relayStep (c : TunnelSessionMutableState × OperationHistory) (input : OperationInput) :
    Option ((TunnelSessionMutableState × OperationHistory) × List TunnelEffect) :=
  some (((input.handle serde c.1).state,
    (c.2.input serde c.1 input).effects (input.handle serde c.1).emitted),
      (input.handle serde c.1).emitted)

theorem operationStep_of_relayStep {c c' : TunnelSessionMutableState × OperationHistory}
    {input : OperationInput} {out : List TunnelEffect}
    (h : relayStep serde c input = some (c', out)) : OperationStep serde c input out c' := by
  unfold relayStep at h
  rw [Option.some.injEq, Prod.mk.injEq] at h
  rw [← h.1, ← h.2]
  exact .relay c.1 c.2 input

end

/-! ### The ledger -/

/-- The relay's state agrees with its history. -/
structure Ledger (st : TunnelSessionMutableState) (h : OperationHistory) : Prop where
  /-- While the writer lives, what was accepted was written or waits. -/
  records : st.tunnelWriter.send ≠ none →
    h.accepted.map utf8 = h.written ++ st.pendingOperationRecords.map utf8
  written : h.written <+: h.accepted.map utf8
  credit : h.paid + st.operationCredit ≤ h.granted
  closed : h.closed = true → st.operationStreamSendWindow = none
  late : h.wroteAfterClose = false

theorem ledger_fresh (writer : TunnelWriter) (url : Option String) (env : List (String × String)) :
    Ledger (.fresh writer url env) .empty where
  records _ := rfl
  written := List.prefix_rfl
  credit := Nat.le_refl _
  closed h := absurd h Bool.false_ne_true
  late := rfl

/-- The ledger looks at the writer, the queue and the window alone. -/
theorem Ledger.congr {st st' : TunnelSessionMutableState} {h : OperationHistory}
    (hledger : Ledger st h) (hgone : st.tunnelWriter.send = none → st'.tunnelWriter.send = none)
    (hpending : st'.pendingOperationRecords = st.pendingOperationRecords)
    (hwindow : st'.operationStreamSendWindow = st.operationStreamSendWindow) : Ledger st' h where
  records hlive := by
    rw [hpending]
    exact hledger.records fun hnone => hlive (hgone hnone)
  written := hledger.written
  credit := by
    have hcredit : st'.operationCredit = st.operationCredit := by
      unfold TunnelSessionMutableState.operationCredit
      rw [hwindow]
    rw [hcredit]
    exact hledger.credit
  closed hclosed := hwindow.trans (hledger.closed hclosed)
  late := hledger.late

/-- Records that are sent from an open stream. -/
theorem effects_sent (sent : List String) : ∀ h : OperationHistory,
    h.closed = false ∨ sent = [] →
    h.effects (sent.map operationEffect) = { h with
      written := h.written ++ sent.map utf8
      paid := h.paid + (sent.map recordBytes).sum } := by
  induction sent with
  | nil =>
      intro h _
      simp only [List.map_nil, OperationHistory.effects, List.foldl_nil, List.append_nil,
        List.sum_nil, Nat.add_zero]
  | cons line rest ih =>
      intro h hopen
      have hclosed : h.closed = false :=
        hopen.resolve_right (List.cons_ne_nil line rest)
      have hfirst : h.effect (operationEffect line) = { h with
          written := h.written ++ [utf8 line]
          paid := h.paid + recordBytes line } := by
        simp only [OperationHistory.effect, operationEffect, operationFrame, if_true, hclosed,
          Bool.or_false, recordBytes]
      have hrest := ih (h.effect (operationEffect line)) (.inl (by rw [hfirst]; exact hclosed))
      rw [List.map_cons]
      show ((h.effect (operationEffect line)).effects (rest.map operationEffect)) = _
      rw [hrest, hfirst]
      simp only [List.map_cons, List.sum_cons, List.append_assoc, List.singleton_append,
        Nat.add_assoc]

/-- Effects that carry no record can only close the stream. -/
theorem effects_silent (out : List TunnelEffect) : ∀ h : OperationHistory,
    (∀ o ∈ out, o.isOperationData = false) →
    ∃ closed, h.effects out = { h with closed := closed } := by
  induction out with
  | nil => exact fun h _ => ⟨h.closed, rfl⟩
  | cons o rest ih =>
      intro h hsilent
      have hfirst : ∃ closed, h.effect o = { h with closed := closed } := by
        have ho := hsilent o (List.mem_cons_self ..)
        unfold OperationHistory.effect
        split
        · rename_i frame
          have hid : ¬ frame.streamId = sandboxOperationStreamId := beq_eq_false_iff_ne.mp ho
          rw [if_neg hid]
          exact ⟨h.closed, rfl⟩
        · exact ⟨true, rfl⟩
        · exact ⟨h.closed, rfl⟩
      rcases hfirst with ⟨closed, hfirst⟩
      rcases ih { h with closed := closed } fun o' ho' => hsilent o' (List.mem_cons_of_mem _ ho') with
        ⟨closed', hrest⟩
      refine ⟨closed', ?_⟩
      show (h.effect o).effects rest = _
      rw [hfirst, hrest]

theorem effects_append (h : OperationHistory) (out out' : List TunnelEffect) :
    h.effects (out ++ out') = (h.effects out).effects out' :=
  List.foldl_append

/-- A flush keeps the ledger. -/
theorem flushed_ledger {st st' : TunnelSessionMutableState} {h : OperationHistory}
    {sent : List String} (hledger : Ledger st h)
    (hflushed : Flushed st.pendingOperationRecords st sent st') :
    Ledger st' (h.effects (sent.map operationEffect)) := by
  have hopen : h.closed = false ∨ sent = [] := by
    cases hclosed : h.closed with
    | false => exact .inl rfl
    | true => exact .inr (hflushed.shut (hledger.closed hclosed)).1
  have hlive : st'.tunnelWriter.send ≠ none → st.tunnelWriter.send ≠ none := by
    intro h' hnone
    rw [(hflushed.gone hnone).2] at h'
    exact h' hnone
  rw [effects_sent sent h hopen]
  constructor
  · intro hsend
    have hbefore := hledger.records (hlive hsend)
    rcases hflushed.records with hsplit | ⟨lost, _, hgone, _⟩
    · rw [hsplit, List.map_append, ← List.append_assoc] at hbefore
      exact hbefore
    · exact absurd hgone hsend
  · -- Without a writer nothing was sent, and with one the ledger was exact.
    by_cases hsend : st.tunnelWriter.send = none
    · rw [(hflushed.gone hsend).1, List.map_nil, List.append_nil]
      exact hledger.written
    · rw [hledger.records hsend]
      rcases hflushed.records with hsplit | ⟨lost, hsplit, _, _⟩
      · refine ⟨st'.pendingOperationRecords.map utf8, ?_⟩
        rw [hsplit, List.map_append, List.append_assoc]
      · refine ⟨(lost :: st'.pendingOperationRecords).map utf8, ?_⟩
        rw [hsplit, List.map_append, List.append_assoc]
  · have hcredit := hledger.credit
    have hpaid := hflushed.credit
    simp only
    omega
  · exact fun hclosed => (hflushed.shut (hledger.closed hclosed)).2
  · exact hledger.late

/-- Sending and closing keep the ledger. -/
theorem drain_ledger {st st' : TunnelSessionMutableState} {h : OperationHistory}
    {out : List TunnelEffect} (hledger : Ledger st h) (hdrain : Drain st out st') :
    Ledger st' (h.effects out) := by
  cases hdrain with
  | «open» sent hflushed hout =>
      rw [hout]
      exact flushed_ledger hledger hflushed
  | closed sent drained hflushed dry answers answered writer gone hout hstate =>
      have hdrained := flushed_ledger hledger hflushed
      rcases effects_silent answers (h.effects (sent.map operationEffect)) answered.silent with
        ⟨closed, hanswers⟩
      rw [hout, effects_append, hanswers, hstate]
      constructor
      · intro hsend
        refine hdrained.records fun hnone => hsend ?_
        show writer.send = none
        rw [gone hnone]
        exact hnone
      · exact hdrained.written
      · have hcredit := hdrained.credit
        have hnone : (closedState drained writer).operationCredit = 0 := rfl
        rw [hnone]
        simp only
        omega
      · exact fun _ => rfl
      · exact hdrained.late

/-! ### Steps -/

theorem openOperationStream_ledger {st : TunnelSessionMutableState} {h : OperationHistory}
    (hledger : Ledger st h) (operationId operationKind : String) :
    Ledger (openOperationStream operationId operationKind st).state
      (h.effects (openOperationStream operationId operationKind st).emitted) := by
  unfold openOperationStream
  cases hsend : st.tunnelWriter.send with
  | none =>
      rw [bind_ok (attempt_apply _ _), writeTunnelText_of_gone hsend]
      exact hledger
  | some writer =>
      rw [bind_ok (attempt_apply _ _), writeTunnelText_of_send hsend]
      refine hledger.congr (fun hnone => ?_) rfl rfl
      rw [hsend] at hnone
      exact absurd hnone (by simp only [reduceCtorEq, not_false_eq_true])

/-- A record that is accepted waits at the end of the queue. -/
theorem enqueued_ledger (serde : SerdeJson) {st : TunnelSessionMutableState}
    {h : OperationHistory} (hledger : Ledger st h) (line : String) :
    Ledger (st.enqueued line) (h.input serde st (.record line)) := by
  unfold TunnelSessionMutableState.enqueued OperationHistory.input
  simp only
  by_cases hfull : st.pendingOperationRecords.length ≥ pendingOperationRecordCapacity
  · rw [if_pos hfull, if_neg (by omega)]
    exact hledger
  · rw [if_neg hfull, if_pos (by omega)]
    refine ⟨fun hlive => ?_, ?_, hledger.credit, hledger.closed, hledger.late⟩
    · have hrecords := hledger.records hlive
      simp only [List.map_append, hrecords, List.append_assoc]
    · rw [List.map_append]
      exact hledger.written.trans (List.prefix_append _ _)

/-- A message of the gateway is handled with its entry in the history. -/
theorem control_ledger {st : TunnelSessionMutableState} {h : OperationHistory}
    (hledger : Ledger st h) (value : Json String) :
    Ledger (handleOperationValue value st).state
      ((h.message value).effects (handleOperationValue value st).emitted) := by
  rcases handleOperationValue_cases value with
    ⟨htype, hvalue⟩ | ⟨htype, hvalue⟩ | ⟨messageType, htype, hreset, hvalue⟩ |
      ⟨hok, hwindow, herror, hreset, handled, hvalue⟩
  · -- The stream is opened: the history starts a new account of credit.
    rw [hvalue]
    unfold OperationHistory.message
    rw [htype]
    simp only
    by_cases hnames : namesOperationStream value = true
    · rw [if_pos hnames]
      have hopened : ∀ window, (st.windowed window).operationCredit
          ≤ ((value.get? "initialWindowBytes").bind usize?).getD 0 →
          Ledger (st.windowed window) { h with
            closed := false
            granted := ((value.get? "initialWindowBytes").bind usize?).getD 0
            paid := 0 } := by
        intro window hcredit
        refine ⟨hledger.records, hledger.written, ?_, fun h => absurd h Bool.false_ne_true,
          hledger.late⟩
        simp only
        omega
      rcases handleOperationOpenOk_spec value st hnames with
        ⟨hbytes, houtcome⟩ | ⟨bytes, st', out, hbytes, houtcome, hdrain, _⟩
      · rw [bind_ok houtcome]
        exact hopened none (Nat.zero_le _)
      · rw [bind_ok houtcome]
        simp only [pure_apply, List.append_nil]
        refine drain_ledger (hopened (some ⟨bytes⟩) ?_) hdrain
        rw [hbytes]
        exact Nat.le_refl _
    · have hignored : handleOperationOpenOk value st = ⟨.ok (), st, []⟩ := by
        unfold handleOperationOpenOk
        rw [if_neg hnames]
        rfl
      rw [if_neg hnames, bind_ok hignored]
      exact hledger
  · -- A grant adds to what was granted at least what it adds to the window.
    rw [hvalue]
    unfold OperationHistory.message
    rw [htype]
    simp only
    by_cases hnames : namesOperationStream value = true
    · rw [if_pos hnames]
      rcases handleOperationWindow_spec value st hnames with
        ⟨window, st', out, houtcome, hdrain, _, hnone, hcredit⟩
      rw [bind_ok houtcome]
      simp only [pure_apply, List.append_nil]
      have hgranted : Ledger (st.windowed window)
          { h with granted := h.granted + ((value.get? "bytes").bind usize?).getD 0 } := by
        refine ⟨hledger.records, hledger.written, ?_, fun hclosed => ?_, hledger.late⟩
        · have hbefore := hledger.credit
          simp only
          omega
        · exact hnone (hledger.closed hclosed)
      exact drain_ledger hgranted hdrain
    · have hignored : handleOperationWindow value st = ⟨.ok (), st, []⟩ := by
        unfold handleOperationWindow
        rw [if_neg hnames]
        rfl
      rw [if_neg hnames, bind_ok hignored]
      exact hledger
  · -- A refusal or a reset empties the queue and the history with it.
    rcases handleOperationReset_spec messageType st with ⟨out, houtcome, hanswers⟩
    have hmessage : h.message value = { h with accepted := [], written := [] } := by
      unfold OperationHistory.message
      rw [htype]
      rcases hreset with rfl | rfl <;> rfl
    rcases effects_silent out { h with accepted := [], written := [] } hanswers.silent with
      ⟨closed, heffects⟩
    rw [hvalue, hmessage, bind_ok houtcome]
    simp only [pure_apply, List.append_nil]
    rw [heffects]
    have hcredit := hledger.credit
    have hnone : st.operationReset.operationCredit = 0 := rfl
    refine ⟨fun _ => rfl, List.prefix_rfl, ?_, fun _ => rfl, hledger.late⟩
    rw [hnone]
    simp only
    omega
  · have hmessage : h.message value = h := by
      unfold OperationHistory.message
      split
      · rename_i htype
        exact absurd htype hok
      · rename_i htype
        exact absurd htype hwindow
      · rename_i htype
        exact absurd htype herror
      · rename_i htype
        exact absurd htype hreset
      · rfl
    rw [hvalue, hmessage]
    exact hledger

theorem ledger_step {serde : SerdeJson} {before after : TunnelSessionMutableState × OperationHistory}
    {input : OperationInput} {out : List TunnelEffect}
    (hstep : OperationStep serde before input out after) (hledger : Ledger before.1 before.2) :
    Ledger after.1 after.2 := by
  cases hstep with
  | elsewhere st st' h hoperation hgone =>
      exact hledger.congr hgone (congrArg OperationStream.pendingRecords hoperation)
        (congrArg OperationStream.sendWindow hoperation)
  | relay st h input =>
      cases input with
      | openRequested operationId operationKind =>
          exact openOperationStream_ledger hledger operationId operationKind
      | record line =>
          rcases recordOperation_spec line st with ⟨st', out, houtcome, hdrain⟩
          have hdrained := drain_ledger (enqueued_ledger serde hledger line) hdrain
          show Ledger (recordOperation line st).state
            ((h.input serde st (.record line)).effects (recordOperation line st).emitted)
          rw [houtcome]
          exact hdrained
      | close sender =>
          rcases closeOperationStream_spec sender st with ⟨st', out, houtcome, hdrain, _⟩
          have hclosing : Ledger (st.closing sender) h := hledger.congr id rfl rfl
          show Ledger (closeOperationStream sender st).state
            (h.effects (closeOperationStream sender st).emitted)
          rw [houtcome]
          exact drain_ledger hclosing hdrain
      | control payload =>
          have hhandle : ∀ value, serde.fromStr payload = .ok value →
              ((OperationInput.control payload).handle serde st).state
                  = (handleOperationValue value st).state ∧
                ((OperationInput.control payload).handle serde st).emitted
                  = (handleOperationValue value st).emitted := by
            intro value hvalue
            simp only [OperationInput.handle, handleOperationControlMessage, hvalue]
            rcases houtcome : handleOperationValue value st with ⟨result, st', out⟩
            cases result with
            | error error =>
                rw [bind_error houtcome]
                exact ⟨rfl, rfl⟩
            | ok handled =>
                rw [bind_ok houtcome]
                exact ⟨rfl, List.append_nil out⟩
          unfold OperationHistory.input
          cases hvalue : serde.fromStr payload with
          | error error =>
              simp only [OperationInput.handle, handleOperationControlMessage, hvalue]
              exact hledger
          | ok value =>
              rw [(hhandle value hvalue).1, (hhandle value hvalue).2]
              simp only [hvalue]
              exact control_ledger hledger value
      | elsewhere => exact hledger

/-- In every run of the relay on a connection, what was written since the last
    reset is a prefix of what was accepted, in order and once each; no more was
    paid than was granted; and nothing was written while the stream was closed. -/
theorem operation_records_delivered (serde : SerdeJson) (writer : TunnelWriter)
    (url : Option String) (env : List (String × String))
    (trace : List (Entry OperationInput TunnelEffect)) (st : TunnelSessionMutableState)
    (h : OperationHistory)
    (run : Run (OperationStep serde) (.fresh writer url env, .empty) trace (st, h)) :
    h.written <+: h.accepted.map utf8 ∧ h.paid ≤ h.granted ∧ h.wroteAfterClose = false := by
  have hledger : Ledger st h :=
    run.invariant (P := fun c => Ledger c.1 c.2) (ledger_fresh writer url env)
      fun _ _ _ _ hc hstep => ledger_step hstep hc
  exact ⟨hledger.written, Nat.le_trans (Nat.le_add_right _ _) hledger.credit, hledger.late⟩

/-- The gateway opens the operation stream with three bytes of credit, and grants
    five more. -/
def operationDocuments : List (String × Json String) :=
  [("\x7b\"type\":\"operation.open.ok\",\"streamId\":4294967293,\"initialWindowBytes\":3\x7d",
      .obj [("type", .str "operation.open.ok"), ("streamId", .int 4294967293),
        ("initialWindowBytes", .int 3)]),
    ("\x7b\"type\":\"operation.window\",\"streamId\":4294967293,\"bytes\":5\x7d",
      .obj [("type", .str "operation.window"), ("streamId", .int 4294967293), ("bytes", .int 5)])]

/-- The second record waits for the grant, and the close for the second record. -/
theorem operation_records_delivered_after_grant :
    ∃ trace st h, Run (OperationStep (.ofDocuments operationDocuments))
        (.fresh .open none [], .empty) trace (st, h) ∧
      h.accepted = ["a\n", "bcd\n"] ∧ h.written = [utf8 "a\n", utf8 "bcd\n"] ∧
      h.paid = 6 ∧ h.granted = 8 ∧ h.closed = true ∧
      h.written <+: h.accepted.map utf8 ∧ h.paid ≤ h.granted ∧ h.wroteAfterClose = false := by
  -- The grant lets the second record go, and the close with it.
  have hexecutes : executesTo (relayStep (.ofDocuments operationDocuments))
      (.fresh .open none [], .empty)
      [.openRequested "op" "start", .record "a\n", .record "bcd\n",
        .control (operationDocuments[0]?.map Prod.fst).get!, .close 1,
        .control (operationDocuments[1]?.map Prod.fst).get!]
      (fun _ c => c.2.accepted = ["a\n", "bcd\n"] ∧
        c.2.written = [utf8 "a\n", utf8 "bcd\n"] ∧ c.2.paid = 6 ∧ c.2.granted = 8 ∧
        c.2.closed = true) = true := by decide +kernel
  rcases exists_run_of_executesTo hexecutes with ⟨trace, ⟨st, h⟩, run, _, hcheck⟩
  rcases of_decide_eq_true hcheck with ⟨haccepted, hwritten, hpaid, hgranted, hclosed⟩
  have hrun : Run (OperationStep (.ofDocuments operationDocuments))
      (.fresh .open none [], .empty) trace (st, h) :=
    run.mono fun _ _ _ _ hstep => operationStep_of_relayStep _ hstep
  exact ⟨trace, st, h, hrun, haccepted, hwritten, hpaid, hgranted, hclosed,
    operation_records_delivered _ _ _ _ trace st h hrun⟩

end Mistle
