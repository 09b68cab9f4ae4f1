import Mistle.Tunnel.Operation

/-!
# Draining the Operation Stream

What one flush of the queue and one attempt to close do, said once. Everything
later about the operation stream follows from these outcomes, so nothing below
unfolds the loop again.

A flush sends records off the front of the queue. It stops when the queue is
dry, when the window does not admit the next record, or when the writer is gone;
in the last case the record at hand is lost, and the window is dropped so that
nothing is sent after a gap.

## Main definitions

* `operationEffect`: The effect of sending a record.
* `isOperationData`: The effects that carry records.
* `Blocked`: The window does not admit the next record.
* `Flushed`: What a flush leaves behind.
* `closedState`: The state after the stream was closed.
* `Drain`: What the queue and a pending close come to.

## Theorems

* `flushRecords_spec`: The outcome of a flush.
* `closeOperationStreamIfDrained_of_waiting`: A close waits.
* `closeOperationStreamIfDrained_of_drained`: A close is done, and answered.
* `flushPendingOperationRecords_spec`, `settle_spec`: Both together.
* `recordOperation_spec`, `closeOperationStream_spec`, `handleOperationReset_spec`,
  `handleOperationOpenOk_spec`, `handleOperationWindow_spec`: The handlers.
* `handleOperationValue_cases`: Which handler takes a message of the gateway.
-/

namespace Mistle

open Handler

/-- The effect of sending a record. -/
def operationEffect (line : String) : TunnelEffect := .write (.binary (operationFrame line))

/-- Bytes a record takes from the window. -/
def recordBytes (line : String) : Nat := (utf8 line).length

/-- A data frame of the operation stream. -/
def TunnelEffect.isOperationData : TunnelEffect → Bool
  | write (.binary frame) => frame.streamId == sandboxOperationStreamId
  | _ => false

/-- Credit that is left, none if there is no window. -/
def TunnelSessionMutableState.operationCredit (st : TunnelSessionMutableState) : Nat :=
  match st.operationStreamSendWindow with
  | none => 0
  | some window => window.availableBytes

/-- The window does not admit the next record. -/
def Blocked (st : TunnelSessionMutableState) : Prop :=
  ∀ window line rest, st.operationStreamSendWindow = some window →
    st.pendingOperationRecords = line :: rest → window.tryConsume (recordBytes line) = none

/-- What a flush of a queue leaves behind. -/
structure Flushed (lines : List String) (st : TunnelSessionMutableState) (sent : List String)
    (st' : TunnelSessionMutableState) : Prop where
  requested : st'.operationStreamRequested = st.operationStreamRequested
  closeRequested : st'.operationStreamCloseRequested = st.operationStreamCloseRequested
  sender : st'.operationStreamCloseResponseSender = st.operationStreamCloseResponseSender
  /-- The queue is what was sent and what is left, but for one lost record. -/
  records : lines = sent ++ st'.pendingOperationRecords ∨
    ∃ lost, lines = sent ++ lost :: st'.pendingOperationRecords ∧
      st'.tunnelWriter.send = none ∧ st'.operationStreamSendWindow = none
  /-- What was sent is paid for. -/
  credit : (sent.map recordBytes).sum + st'.operationCredit ≤ st.operationCredit
  /-- Without a window nothing is sent. -/
  shut : st.operationStreamSendWindow = none →
    sent = [] ∧ st'.operationStreamSendWindow = none
  /-- A writer that is gone takes nothing and stays gone. -/
  gone : st.tunnelWriter.send = none → sent = [] ∧ st'.tunnelWriter = st.tunnelWriter
  blocked : Blocked st'

/-! ### Flushing -/

section

variable {st : TunnelSessionMutableState} {line : String} {rest : List String}

theorem flushRecords_of_no_window (h : st.operationStreamSendWindow = none) :
    flushRecords (line :: rest) st = ⟨.ok false, st, []⟩ := by
  unfold flushRecords
  rw [bind_ok (get_apply st), h]
  rfl

variable {window : StreamSendWindow} (hwindow : st.operationStreamSendWindow = some window)

include hwindow

theorem flushRecords_of_unpaid (h : window.tryConsume (recordBytes line) = none) :
    flushRecords (line :: rest) st = ⟨.ok false, st, []⟩ := by
  unfold recordBytes at h
  unfold flushRecords
  rw [bind_ok (get_apply st), hwindow]
  simp only [h]
  rfl

variable {left : StreamSendWindow} (hpaid : window.tryConsume (recordBytes line) = some left)

include hpaid

/-- The record is sent, and the flush goes on with the rest. -/
theorem flushRecords_of_sent {writer : TunnelWriter} (hsend : st.tunnelWriter.send = some writer) :
    flushRecords (line :: rest) st =
      ⟨(flushRecords rest { st.popped left rest with tunnelWriter := writer }).result,
        (flushRecords rest { st.popped left rest with tunnelWriter := writer }).state,
        operationEffect line ::
          (flushRecords rest { st.popped left rest with tunnelWriter := writer }).emitted⟩ := by
  have hpopped : (st.popped left rest).tunnelWriter.send = some writer := hsend
  have hwrite : attempt (writeOperationRecord line) (st.popped left rest) = ⟨.ok (.ok ()),
      { st.popped left rest with tunnelWriter := writer }, [operationEffect line]⟩ := by
    unfold writeOperationRecord
    rw [attempt_apply, writeTunnelBinary_of_send hpopped]
    rfl
  unfold recordBytes at hpaid
  rw [flushRecords]
  rw [bind_ok (get_apply st), hwindow]
  simp only [hpaid]
  rw [bind_ok (modify_apply _ st), bind_ok hwrite]
  rfl

/-- The record is lost, and the window is dropped. -/
theorem flushRecords_of_lost (hsend : st.tunnelWriter.send = none) :
    flushRecords (line :: rest) st =
      ⟨.ok false, { st.popped left rest with operationStreamSendWindow := none }, []⟩ := by
  have hpopped : (st.popped left rest).tunnelWriter.send = none := hsend
  have hwrite : attempt (writeOperationRecord line) (st.popped left rest)
      = ⟨.ok (.error (.writeTunnelBinary writerClosed)), st.popped left rest, []⟩ := by
    unfold writeOperationRecord
    rw [attempt_apply, writeTunnelBinary_of_gone hpopped]
  unfold recordBytes at hpaid
  rw [flushRecords]
  rw [bind_ok (get_apply st), hwindow]
  simp only [hpaid]
  rw [bind_ok (modify_apply _ st), bind_ok hwrite]
  rfl

end

theorem operationCredit_of_some {st : TunnelSessionMutableState} {window : StreamSendWindow}
    (h : st.operationStreamSendWindow = some window) :
    st.operationCredit = window.availableBytes := by
  unfold TunnelSessionMutableState.operationCredit
  rw [h]

theorem operationCredit_of_none {st : TunnelSessionMutableState}
    (h : st.operationStreamSendWindow = none) : st.operationCredit = 0 := by
  unfold TunnelSessionMutableState.operationCredit
  rw [h]

theorem blocked_of_no_window {st : TunnelSessionMutableState}
    (h : st.operationStreamSendWindow = none) : Blocked st := by
  intro window _ _ hsome
  rw [h] at hsome
  exact absurd hsome (by simp only [reduceCtorEq, not_false_eq_true])

theorem blocked_of_dry {st : TunnelSessionMutableState} (h : st.pendingOperationRecords = []) :
    Blocked st := by
  intro _ line rest _ hhead
  rw [h] at hhead
  exact absurd hhead (by simp only [reduceCtorEq, not_false_eq_true])

/-- A flush that stops at once. -/
theorem Flushed.stop {st : TunnelSessionMutableState} {lines : List String}
    (hlines : st.pendingOperationRecords = lines) (hblocked : Blocked st) :
    Flushed lines st [] st where
  requested := rfl
  closeRequested := rfl
  sender := rfl
  records := .inl hlines.symm
  credit := by rw [List.map_nil, List.sum_nil, Nat.zero_add]
  shut h := ⟨rfl, h⟩
  gone _ := ⟨rfl, rfl⟩
  blocked := hblocked

/-- The outcome of a flush, which reports whether the queue ran dry. -/
theorem flushRecords_spec (lines : List String) : ∀ st : TunnelSessionMutableState,
    st.pendingOperationRecords = lines →
    ∃ sent dry st', flushRecords lines st = ⟨.ok dry, st', sent.map operationEffect⟩ ∧
      Flushed lines st sent st' ∧ (dry = true → st'.pendingOperationRecords = []) := by
  induction lines with
  | nil => exact fun st hlines =>
      ⟨[], true, st, rfl, Flushed.stop hlines (blocked_of_dry hlines), fun _ => hlines⟩
  | cons line rest ih =>
      intro st hlines
      cases hwindow : st.operationStreamSendWindow with
      | none => exact ⟨[], false, st, flushRecords_of_no_window hwindow,
          Flushed.stop hlines (blocked_of_no_window hwindow), fun h => absurd h Bool.false_ne_true⟩
      | some window =>
          cases hpaid : window.tryConsume (recordBytes line) with
          | none =>
              refine ⟨[], false, st, flushRecords_of_unpaid hwindow hpaid, Flushed.stop hlines ?_,
                fun h => absurd h Bool.false_ne_true⟩
              intro w head tail hw hhead
              rw [hwindow, Option.some.injEq] at hw
              rw [hlines, List.cons.injEq] at hhead
              rw [← hw, ← hhead.1]
              exact hpaid
          | some left =>
              have hcredit := operationCredit_of_some hwindow
              have hleft := StreamSendWindow.tryConsume_some hpaid
              cases hsend : st.tunnelWriter.send with
              | none =>
                  refine ⟨[], false, _, flushRecords_of_lost hwindow hpaid hsend, ⟨rfl, rfl, rfl,
                    .inr ⟨line, rfl, hsend, rfl⟩, ?_, fun _ => ⟨rfl, rfl⟩, fun _ => ⟨rfl, rfl⟩,
                    blocked_of_no_window rfl⟩, fun h => absurd h Bool.false_ne_true⟩
                  rw [List.map_nil, List.sum_nil, Nat.zero_add, operationCredit_of_none rfl]
                  exact Nat.zero_le _
              | some writer =>
                  rcases ih { st.popped left rest with tunnelWriter := writer } rfl with
                    ⟨sent, dry, st', hflush, hflushed, hdry⟩
                  refine ⟨line :: sent, dry, st', ?_, ⟨hflushed.requested,
                    hflushed.closeRequested, hflushed.sender, ?_, ?_, ?_, ?_, hflushed.blocked⟩, hdry⟩
                  · rw [flushRecords_of_sent hwindow hpaid hsend, hflush, List.map_cons]
                  · rcases hflushed.records with hrest | ⟨lost, hrest, hgone, hnone⟩
                    · exact .inl (congrArg (line :: ·) hrest)
                    · exact .inr ⟨lost, congrArg (line :: ·) hrest, hgone, hnone⟩
                  · have hrest := hflushed.credit
                    have hpopped : TunnelSessionMutableState.operationCredit
                        { st.popped left rest with tunnelWriter := writer }
                        = left.availableBytes := rfl
                    rw [hpopped] at hrest
                    rw [hcredit, List.map_cons, List.sum_cons]
                    omega
                  · intro hnone
                    rw [hnone] at hwindow
                    exact absurd hwindow (by simp only [reduceCtorEq, not_false_eq_true])
                  · intro hnone
                    rw [hnone] at hsend
                    exact absurd hsend (by simp only [reduceCtorEq, not_false_eq_true])

/-! ### Closing -/

/-- Effects that answer the caller of a close once, if there is one, and carry
    no record. -/
structure Answers (sender : Option ResponseSender) (out : List TunnelEffect) : Prop where
  answers : out.filterMap TunnelEffect.closeAnswer? = sender.toList
  silent : ∀ o ∈ out, o.isOperationData = false

theorem Answers.nil : Answers none [] := ⟨rfl, fun _ ho => absurd ho List.not_mem_nil⟩

theorem Answers.single {sender : Option ResponseSender} {o : TunnelEffect}
    (hanswer : o.closeAnswer? = sender) (hsilent : o.isOperationData = false) :
    Answers sender [o] := by
  refine ⟨?_, fun o' ho => ?_⟩
  · cases sender with
    | none => rw [List.filterMap_cons_none hanswer]; rfl
    | some sender => rw [List.filterMap_cons_some hanswer]; rfl
  · rw [List.mem_singleton.mp ho]
    exact hsilent

theorem Answers.append {sender : Option ResponseSender} {out out' : List TunnelEffect}
    (h : Answers none out) (h' : Answers sender out') : Answers sender (out ++ out') := by
  refine ⟨?_, fun o ho => (List.mem_append.mp ho).elim (h.silent o) (h'.silent o)⟩
  rw [List.filterMap_append, h.answers, h'.answers]
  rfl

/-- The state changed only in its writer, which stays gone if it was. -/
structure WriterOnly (st st' : TunnelSessionMutableState) : Prop where
  same : st' = { st with tunnelWriter := st'.tunnelWriter }
  gone : st.tunnelWriter.send = none → st'.tunnelWriter = st.tunnelWriter

theorem WriterOnly.refl (st : TunnelSessionMutableState) : WriterOnly st st := ⟨rfl, fun _ => rfl⟩

theorem WriterOnly.trans {a b c : TunnelSessionMutableState} (hab : WriterOnly a b)
    (hbc : WriterOnly b c) : WriterOnly a c := by
  refine ⟨?_, fun h => ?_⟩
  · rw [hbc.same, hab.same]
  · have hb := hab.gone h
    rw [← hb] at h
    exact (hbc.gone h).trans hb

/-- A text answers no close and carries no record. -/
theorem writeTunnelText_writerOnly (message : OutboundMessage) (st : TunnelSessionMutableState) :
    WriterOnly st (writeTunnelText message st).state ∧
      Answers none (writeTunnelText message st).emitted := by
  cases hsend : st.tunnelWriter.send with
  | none =>
      rw [writeTunnelText_of_gone hsend]
      exact ⟨.refl st, .nil⟩
  | some writer =>
      rw [writeTunnelText_of_send hsend]
      refine ⟨⟨rfl, fun h => ?_⟩, .single rfl rfl⟩
      rw [hsend] at h
      exact absurd h (by simp only [reduceCtorEq, not_false_eq_true])

theorem answerClose_returns (sender : Option ResponseSender) (result : Except String Unit)
    (st : TunnelSessionMutableState) :
    Returns (answerClose sender result) st fun _ st' out => WriterOnly st st' ∧ Answers sender out := by
  cases sender with
  | none => exact Returns.pure ⟨.refl st, .nil⟩
  | some sender => exact Returns.emit ⟨.refl st, .single rfl rfl⟩

theorem flushForClose_returns (sender : Option ResponseSender) (st : TunnelSessionMutableState) :
    Returns (flushForClose sender) st fun _ st' out => WriterOnly st st' ∧ Answers sender out := by
  cases sender with
  | none => exact Returns.pure ⟨.refl st, .nil⟩
  | some sender =>
      have hflush : ∃ result st' out, writeTunnelFlush sender st = ⟨result, st', out⟩ ∧
          WriterOnly st st' ∧ Answers (some sender) out := by
        unfold writeTunnelFlush
        cases hsend : st.tunnelWriter.send with
        | none =>
            rw [bind_ok (sendToWriter_of_gone hsend _)]
            exact ⟨_, _, _, rfl, .refl st, .single rfl rfl⟩
        | some writer =>
            rw [bind_ok (sendToWriter_of_send hsend _)]
            refine ⟨_, _, _, rfl, ⟨rfl, fun h => ?_⟩, .single rfl rfl⟩
            rw [hsend] at h
            exact absurd h (by simp only [reduceCtorEq, not_false_eq_true])
      rcases hflush with ⟨result, st', out, hflush, hwriter, hanswers⟩
      refine Returns.bind (Q := fun _ st' out => WriterOnly st st' ∧ Answers (some sender) out) ?_ ?_
      · refine Returns.attempt ?_
        rw [hflush]
        exact ⟨hwriter, hanswers⟩
      · intro _ st' out h
        refine Returns.pure ?_
        rw [List.append_nil]
        exact h

/-- The state after the stream was closed. -/
def closedState (st : TunnelSessionMutableState) (writer : TunnelWriter) :
    TunnelSessionMutableState :=
  { st with
    tunnelWriter := writer
    operationStreamRequested := false
    operationStreamCloseRequested := false
    operationStreamCloseResponseSender := none
    operationStreamSendWindow := none }

/-- A close that was not asked for, or has records before it, does nothing. -/
theorem closeOperationStreamIfDrained_of_waiting {st : TunnelSessionMutableState}
    (h : st.operationStreamCloseRequested = false ∨ st.pendingOperationRecords ≠ []) :
    closeOperationStreamIfDrained st = ⟨.ok (), st, []⟩ := by
  unfold closeOperationStreamIfDrained
  rw [bind_ok (get_apply st), if_pos]
  · rfl
  · rcases h with h | h
    · rw [h]
      rfl
    · rw [List.isEmpty_eq_false_iff.mpr h, Bool.not_false, Bool.or_true]

/-- A close whose records are all sent answers its caller once. -/
theorem closeOperationStreamIfDrained_of_drained {st : TunnelSessionMutableState}
    (hclose : st.operationStreamCloseRequested = true) (hdrained : st.pendingOperationRecords = []) :
    ∃ writer out, closeOperationStreamIfDrained st = ⟨.ok (), closedState st writer, out⟩ ∧
      Answers st.operationStreamCloseResponseSender out ∧
      (st.tunnelWriter.send = none → writer = st.tunnelWriter) := by
  have hreturns : Returns closeOperationStreamIfDrained st fun _ st' out =>
      st' = closedState st st'.tunnelWriter ∧ Answers st.operationStreamCloseResponseSender out ∧
        (st.tunnelWriter.send = none → st'.tunnelWriter = st.tunnelWriter) := by
    refine Returns.read ?_
    rw [if_neg (by rw [hclose, hdrained]; exact Bool.false_ne_true)]
    refine Returns.bind (Returns.modify (Q := fun _ s out =>
      s = { st with operationStreamCloseResponseSender := none } ∧ out = []) ⟨rfl, rfl⟩) ?_
    rintro _ s out ⟨hs, hout⟩
    rw [hs, hout]
    -- Whatever happened to the writer, the caller is answered and the rest is reset.
    have hfinish : ∀ s' out, WriterOnly { st with operationStreamCloseResponseSender := none } s' →
        Answers st.operationStreamCloseResponseSender out →
        Returns (modify fun st => { st with
            operationStreamRequested := false
            operationStreamCloseRequested := false
            operationStreamSendWindow := none } : Session Unit) s' fun _ s'' out' =>
          s'' = closedState st s''.tunnelWriter ∧
            Answers st.operationStreamCloseResponseSender (out ++ out') ∧
              (st.tunnelWriter.send = none → s''.tunnelWriter = st.tunnelWriter) := by
      intro s' out hwriter hanswers
      refine Returns.modify ⟨?_, ?_, hwriter.gone⟩
      · rw [hwriter.same]
        rfl
      · rw [List.append_nil]
        exact hanswers
    have hanswer : ∀ s' out result,
        WriterOnly { st with operationStreamCloseResponseSender := none } s' → Answers none out →
        Returns (answerClose st.operationStreamCloseResponseSender result) s' fun _ s'' out' =>
          WriterOnly { st with operationStreamCloseResponseSender := none } s'' ∧
            Answers st.operationStreamCloseResponseSender (out ++ out') := by
      intro s' out result hwriter hanswers
      exact (answerClose_returns _ result s').mono fun _ _ _ h =>
        ⟨hwriter.trans h.1, hanswers.append h.2⟩
    split
    · refine Returns.bind (Returns.attempt (Q := fun _ s' out =>
        WriterOnly { st with operationStreamCloseResponseSender := none } s' ∧ Answers none out)
          (writeTunnelText_writerOnly _ _)) fun result s' out h => ?_
      rcases h with ⟨hwriter, hnone⟩
      cases result with
      | error error =>
          refine (hanswer s' out _ hwriter hnone).bind fun _ s'' out' h => ?_
          exact (hfinish s'' _ h.1 h.2).mono fun _ _ _ h => by
            rw [List.nil_append, ← List.append_assoc]
            exact h
      | ok =>
          refine (flushForClose_returns _ s').bind fun _ s'' out' h => ?_
          exact (hfinish s'' _ (hwriter.trans h.1) (hnone.append h.2)).mono fun _ _ _ h => by
            rw [List.nil_append, ← List.append_assoc]
            exact h
    · refine (hanswer _ [] _ (.refl _) .nil).bind fun _ s'' out' h => ?_
      exact hfinish s'' _ h.1 h.2
  rcases hreturns with ⟨_, st', out, houtcome, hstate, hanswers, hgone⟩
  refine ⟨st'.tunnelWriter, out, ?_, hanswers, hgone⟩
  rw [houtcome, ← hstate]

/-! ### Both -/

/-- What the queue and a pending close come to: records are sent, and if none is
    left and a close was asked for, the stream is closed. -/
inductive Drain (st : TunnelSessionMutableState) (out : List TunnelEffect)
    (st' : TunnelSessionMutableState) : Prop where
  | open (sent : List String) (flushed : Flushed st.pendingOperationRecords st sent st')
      (hout : out = sent.map operationEffect)
  | closed (sent : List String) (drained : TunnelSessionMutableState)
      (flushed : Flushed st.pendingOperationRecords st sent drained)
      (dry : drained.pendingOperationRecords = []) (answers : List TunnelEffect)
      (answered : Answers st.operationStreamCloseResponseSender answers) (writer : TunnelWriter)
      (gone : drained.tunnelWriter.send = none → writer = drained.tunnelWriter)
      (hout : out = sent.map operationEffect ++ answers) (hstate : st' = closedState drained writer)

/-- A close after a flush either waits or closes. -/
theorem closeOperationStreamIfDrained_spec (st : TunnelSessionMutableState) :
    (closeOperationStreamIfDrained st = ⟨.ok (), st, []⟩ ∧
      (st.operationStreamCloseRequested = false ∨ st.pendingOperationRecords ≠ [])) ∨
    ∃ writer out, closeOperationStreamIfDrained st = ⟨.ok (), closedState st writer, out⟩ ∧
      st.operationStreamCloseRequested = true ∧ st.pendingOperationRecords = [] ∧
      Answers st.operationStreamCloseResponseSender out ∧
      (st.tunnelWriter.send = none → writer = st.tunnelWriter) := by
  by_cases hwait : st.operationStreamCloseRequested = false ∨ st.pendingOperationRecords ≠ []
  · exact .inl ⟨closeOperationStreamIfDrained_of_waiting hwait, hwait⟩
  · rw [not_or, Bool.not_eq_false, not_not] at hwait
    rcases closeOperationStreamIfDrained_of_drained hwait.1 hwait.2 with ⟨writer, out, h, hanswers⟩
    exact .inr ⟨writer, out, h, hwait.1, hwait.2, hanswers⟩

theorem flushPendingOperationRecords_spec (st : TunnelSessionMutableState) :
    ∃ st' out, flushPendingOperationRecords st = ⟨.ok (), st', out⟩ ∧ Drain st out st' := by
  cases hwindow : st.operationStreamSendWindow with
  | none =>
      refine ⟨st, [], ?_, .open [] (.stop rfl (blocked_of_no_window hwindow)) rfl⟩
      unfold flushPendingOperationRecords
      rw [bind_ok (get_apply st), hwindow]
      rfl
  | some window =>
      rcases flushRecords_spec st.pendingOperationRecords st rfl with
        ⟨sent, dry, drained, hflush, hflushed, hdry⟩
      have hpending : flushPendingOperationRecords st
          = (flushRecords st.pendingOperationRecords >>= fun dry =>
            if dry = true then closeOperationStreamIfDrained else return ()) st := by
        unfold flushPendingOperationRecords
        rw [bind_ok (get_apply st), hwindow]
        rfl
      rw [hpending, bind_ok hflush]
      cases dry with
      | false => exact ⟨drained, _, by simp only [Bool.false_eq_true, if_false, pure_apply,
          List.append_nil], .open sent hflushed rfl⟩
      | true =>
          rcases closeOperationStreamIfDrained_spec drained with
            ⟨hwaits, _⟩ | ⟨writer, out, hcloses, _, hempty, hanswers, hgone⟩
          · rw [if_pos rfl, hwaits, List.append_nil]
            exact ⟨drained, _, rfl, .open sent hflushed rfl⟩
          · rw [if_pos rfl, hcloses]
            rw [hflushed.sender] at hanswers
            exact ⟨_, _, rfl, .closed sent drained hflushed hempty out hanswers writer hgone rfl rfl⟩

/-- A flush and a close together leave no close behind that could be done. -/
theorem settle_spec (st : TunnelSessionMutableState) :
    ∃ st' out, (flushPendingOperationRecords >>= fun _ => closeOperationStreamIfDrained) st
        = ⟨.ok (), st', out⟩ ∧ Drain st out st' ∧
      (st'.operationStreamCloseRequested = false ∨ st'.pendingOperationRecords ≠ []) := by
  rcases flushPendingOperationRecords_spec st with ⟨drained, out, hflush, hdrain⟩
  rw [bind_ok hflush]
  rcases closeOperationStreamIfDrained_spec drained with
    ⟨hwaits, hwait⟩ | ⟨writer, out', hcloses, hrequested, hempty, hanswers, hgone⟩
  · rw [hwaits, List.append_nil]
    exact ⟨drained, out, rfl, hdrain, hwait⟩
  · rw [hcloses]
    refine ⟨_, _, rfl, ?_, .inl rfl⟩
    cases hdrain with
    | «open» sent hflushed hout =>
        rw [hflushed.sender] at hanswers
        rw [hout]
        exact .closed sent drained hflushed hempty out' hanswers writer hgone rfl rfl
    | closed sent drained' hflushed dry answers answered writer' gone hout hstate =>
        -- The stream was closed by the flush already, so there is nothing to close.
        rw [hstate] at hrequested
        exact absurd hrequested Bool.false_ne_true

/-! ### Handlers -/

/-- The state with one more record, unless the queue is full. -/
def TunnelSessionMutableState.enqueued (st : TunnelSessionMutableState) (line : String) :
    TunnelSessionMutableState :=
  if st.pendingOperationRecords.length ≥ pendingOperationRecordCapacity then st
  else { st with pendingOperationRecords := st.pendingOperationRecords ++ [line] }

theorem recordOperation_spec (line : String) (st : TunnelSessionMutableState) :
    ∃ st' out, recordOperation line st = ⟨.ok (), st', out⟩ ∧ Drain (st.enqueued line) out st' := by
  have henqueue : enqueueOperationRecord line st = ⟨.ok (), st.enqueued line, []⟩ := by
    unfold enqueueOperationRecord TunnelSessionMutableState.enqueued
    rw [bind_ok (get_apply st)]
    split
    · rfl
    · rfl
  unfold recordOperation
  rw [bind_ok henqueue]
  rcases flushPendingOperationRecords_spec (st.enqueued line) with ⟨st', out, hflush, hdrain⟩
  rw [hflush]
  exact ⟨st', out, rfl, hdrain⟩

/-- The state with a close asked for. -/
def TunnelSessionMutableState.closing (st : TunnelSessionMutableState) (sender : ResponseSender) :
    TunnelSessionMutableState :=
  { st with
    operationStreamCloseRequested := true
    operationStreamCloseResponseSender := some sender }

theorem closeOperationStream_spec (sender : ResponseSender) (st : TunnelSessionMutableState) :
    ∃ st' out, closeOperationStream sender st = ⟨.ok (), st', out⟩ ∧
      Drain (st.closing sender) out st' ∧
      (st'.operationStreamCloseRequested = false ∨ st'.pendingOperationRecords ≠ []) := by
  rcases settle_spec (st.closing sender) with ⟨st', out, hsettle, hrest⟩
  refine ⟨st', out, ?_, hrest⟩
  unfold closeOperationStream
  rw [bind_ok (modify_apply _ st)]
  exact hsettle

/-- The state after a refusal or a reset. -/
def TunnelSessionMutableState.operationReset (st : TunnelSessionMutableState) :
    TunnelSessionMutableState :=
  { st with
    operationStreamRequested := false
    operationStreamCloseRequested := false
    operationStreamCloseResponseSender := none
    operationStreamSendWindow := none
    pendingOperationRecords := [] }

theorem handleOperationReset_spec (messageType : String) (st : TunnelSessionMutableState) :
    ∃ out, handleOperationReset messageType st = ⟨.ok (), st.operationReset, out⟩ ∧
      Answers st.operationStreamCloseResponseSender out := by
  unfold handleOperationReset
  rw [bind_ok (get_apply st), bind_ok (modify_apply _ st)]
  cases hsender : st.operationStreamCloseResponseSender with
  | none => exact ⟨[], rfl, .nil⟩
  | some sender => exact ⟨[_], rfl, .single rfl rfl⟩

/-- The state with another window. -/
def TunnelSessionMutableState.windowed (st : TunnelSessionMutableState)
    (window : Option StreamSendWindow) : TunnelSessionMutableState :=
  { st with operationStreamSendWindow := window }

theorem handleOperationOpenOk_spec (value : Json String) (st : TunnelSessionMutableState)
    (hnames : namesOperationStream value = true) :
    ((value.get? "initialWindowBytes").bind usize? = none ∧
      handleOperationOpenOk value st = ⟨.ok (), st.windowed none, []⟩) ∨
    ∃ bytes st' out, (value.get? "initialWindowBytes").bind usize? = some bytes ∧
      handleOperationOpenOk value st = ⟨.ok (), st', out⟩ ∧
      Drain (st.windowed (some ⟨bytes⟩)) out st' ∧
      (st'.operationStreamCloseRequested = false ∨ st'.pendingOperationRecords ≠ []) := by
  unfold handleOperationOpenOk
  rw [if_pos hnames]
  cases hbytes : (value.get? "initialWindowBytes").bind usize? with
  | none => exact .inl ⟨rfl, rfl⟩
  | some bytes =>
      rcases settle_spec (st.windowed (some ⟨bytes⟩)) with ⟨st', out, hsettle, hrest⟩
      refine .inr ⟨bytes, st', out, rfl, ?_, hrest⟩
      simp only
      rw [bind_ok (modify_apply _ st)]
      exact hsettle

theorem addOperationCredit_spec (value : Json String) (st : TunnelSessionMutableState) :
    ∃ window, addOperationCredit value st = ⟨.ok (), st.windowed window, []⟩ ∧
      (st.operationStreamSendWindow = none → window = none) ∧
      (st.windowed window).operationCredit
        ≤ st.operationCredit + ((value.get? "bytes").bind usize?).getD 0 := by
  have hreturns : Returns (addOperationCredit value) st fun _ st' out =>
      out = [] ∧ ∃ window, st' = st.windowed window ∧
        (st.operationStreamSendWindow = none → window = none) ∧
        (st.windowed window).operationCredit
          ≤ st.operationCredit + ((value.get? "bytes").bind usize?).getD 0 := by
    refine Returns.read ?_
    split
    · rename_i window bytes hwindow hbytes
      split
      · rename_i added hadd
        refine Returns.modify ⟨rfl, some added, rfl, fun h => ?_, ?_⟩
        · rw [hwindow] at h
          exact absurd h (by simp only [reduceCtorEq, not_false_eq_true])
        · rw [hbytes, operationCredit_of_some hwindow]
          exact Nat.le_of_eq (StreamSendWindow.add_ok hadd).2
      · exact Returns.pure ⟨rfl, st.operationStreamSendWindow, rfl, id, Nat.le_add_right _ _⟩
    · exact Returns.pure ⟨rfl, st.operationStreamSendWindow, rfl, id, Nat.le_add_right _ _⟩
  rcases hreturns with ⟨_, st', out, houtcome, hout, window, hstate, hspec⟩
  rw [hout, hstate] at houtcome
  exact ⟨window, houtcome, hspec⟩

theorem handleOperationWindow_spec (value : Json String) (st : TunnelSessionMutableState)
    (hnames : namesOperationStream value = true) :
    ∃ window st' out, handleOperationWindow value st = ⟨.ok (), st', out⟩ ∧
      Drain (st.windowed window) out st' ∧
      (st'.operationStreamCloseRequested = false ∨ st'.pendingOperationRecords ≠ []) ∧
      (st.operationStreamSendWindow = none → window = none) ∧
      (st.windowed window).operationCredit
        ≤ st.operationCredit + ((value.get? "bytes").bind usize?).getD 0 := by
  rcases addOperationCredit_spec value st with ⟨window, hadd, hnone, hcredit⟩
  rcases settle_spec (st.windowed window) with ⟨st', out, hsettle, hdrain, hwait⟩
  refine ⟨window, st', out, ?_, hdrain, hwait, hnone, hcredit⟩
  unfold handleOperationWindow
  rw [if_pos hnames, bind_ok hadd]
  exact hsettle

/-- A message of the gateway, by its type. -/
theorem handleOperationValue_cases (value : Json String) :
    (messageTypeOf value = some "operation.open.ok" ∧
      handleOperationValue value = handleOperationOpenOk value >>= fun _ => return true) ∨
    (messageTypeOf value = some "operation.window" ∧
      handleOperationValue value = handleOperationWindow value >>= fun _ => return true) ∨
    (∃ messageType, messageTypeOf value = some messageType ∧
      (messageType = "operation.open.error" ∨ messageType = "operation.reset") ∧
      handleOperationValue value = handleOperationReset messageType >>= fun _ => return true) ∨
    (messageTypeOf value ≠ some "operation.open.ok" ∧
      messageTypeOf value ≠ some "operation.window" ∧
      messageTypeOf value ≠ some "operation.open.error" ∧
      messageTypeOf value ≠ some "operation.reset" ∧
      ∃ handled, handleOperationValue value = return handled) := by
  unfold handleOperationValue
  split
  · rename_i htype
    rw [htype]
    refine .inr (.inr (.inr ⟨?_, ?_, ?_, ?_, false, rfl⟩)) <;>
      simp only [ne_eq, reduceCtorEq, not_false_eq_true]
  · rename_i htype
    exact .inl ⟨htype, rfl⟩
  · rename_i htype
    exact .inr (.inl ⟨htype, rfl⟩)
  · rename_i htype
    exact .inr (.inr (.inl ⟨_, htype, .inl rfl, rfl⟩))
  · rename_i htype
    exact .inr (.inr (.inl ⟨_, htype, .inr rfl, rfl⟩))
  · rename_i messageType hok hwindow herror hreset htype
    refine .inr (.inr (.inr ⟨?_, ?_, ?_, ?_, _, rfl⟩)) <;>
      (rw [htype]; simp only [ne_eq, Option.some.injEq]; assumption)

end Mistle
