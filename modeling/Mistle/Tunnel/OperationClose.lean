import Mistle.Tunnel.OperationOwing

/-!
# Closing the Operation Stream

A request to close may come at the wrong time. One that comes while another
waits overwrites its sender, and one that comes when the stream was never asked
for, or was refused, waits behind its records for credit that nobody is going to
grant. `CloseIsTimely` rules both out, and a run answers every close exactly if
each of its requests is timely.

## Main definitions

* `Drainable`, `CloseIsTimely`: A request to close that will be answered.
* `CloseAccount`, `closeAccount`: Who asked to close and who was answered.
* `ClosesAnswered`: Every caller was answered once or waits for records.

## Theorems

* `flushRecords_empties_iff`: When a flush empties the queue.
* `closeOperationStream_outcome`, `closeOperationStream_settled`: A request to close.
* `settled_of_timely`, `not_answered_of_untimely`: Runs with and without timely requests.
* `closes_answered_iff_timely`: Every run.
-/

namespace Mistle

open Handler

/-! ### A request to close -/

/-- The records that wait all leave at once: they fit the window, and the writer
    takes them, but for the last, which may be lost. -/
def Drainable (st : TunnelSessionMutableState) : Prop :=
  ∃ window, st.operationStreamSendWindow = some window ∧
    (st.pendingOperationRecords.map recordBytes).sum ≤ window.availableBytes ∧
    ∀ n, st.tunnelWriter.sendsLeft = some n → st.pendingOperationRecords.length ≤ n + 1

/-- A request to close that will be answered: nobody waits, and the stream was
    requested or has no record that stays. -/
def CloseIsTimely (st : TunnelSessionMutableState) : Prop :=
  st.operationStreamCloseResponseSender = none ∧
    (st.operationStreamRequested = true ∨ st.pendingOperationRecords = [] ∨ Drainable st)

theorem send_none {writer : TunnelWriter} (h : writer.send = none) : writer.sendsLeft = some 0 := by
  unfold TunnelWriter.send at h
  split at h
  · exact absurd h (by simp only [reduceCtorEq, not_false_eq_true])
  · assumption
  · exact absurd h (by simp only [reduceCtorEq, not_false_eq_true])

theorem send_some {writer writer' : TunnelWriter} (h : writer.send = some writer') (length : Nat) :
    (∀ n, writer'.sendsLeft = some n → length ≤ n + 1) ↔
      ∀ n, writer.sendsLeft = some n → length + 1 ≤ n + 1 := by
  unfold TunnelWriter.send at h
  split at h
  · rename_i hleft
    rw [← Option.some.inj h, hleft]
    simp only [reduceCtorEq, IsEmpty.forall_iff, implies_true]
  · exact absurd h (by simp only [reduceCtorEq, not_false_eq_true])
  · rename_i n hleft
    rw [← Option.some.inj h, hleft]
    simp only [Option.some.injEq, forall_eq']
    omega

/-- When a flush empties the queue. -/
theorem flushRecords_empties_iff (lines : List String) : ∀ st : TunnelSessionMutableState,
    st.pendingOperationRecords = lines →
    ((flushRecords lines st).state.pendingOperationRecords = [] ↔ lines = [] ∨ Drainable st) := by
  induction lines with
  | nil => exact fun st hlines => ⟨fun _ => .inl rfl, fun _ => hlines⟩
  | cons line rest ih =>
      intro st hlines
      have hstays : ¬ Drainable st → (flushRecords (line :: rest) st).state = st →
          ((flushRecords (line :: rest) st).state.pendingOperationRecords = [] ↔
            line :: rest = [] ∨ Drainable st) := by
        intro hnot hstate
        rw [hstate, hlines]
        exact ⟨fun h => .inl h, fun h => h.resolve_right hnot⟩
      cases hwindow : st.operationStreamSendWindow with
      | none =>
          refine hstays ?_ (by rw [flushRecords_of_no_window hwindow])
          rintro ⟨window, hsome, _⟩
          rw [hwindow] at hsome
          exact absurd hsome (by simp only [reduceCtorEq, not_false_eq_true])
      | some window =>
          have hdrainable : Drainable st ↔
              (recordBytes line + (rest.map recordBytes).sum ≤ window.availableBytes ∧
                ∀ n, st.tunnelWriter.sendsLeft = some n → rest.length + 1 ≤ n + 1) := by
            unfold Drainable
            rw [hlines, hwindow, List.map_cons, List.sum_cons, List.length_cons]
            simp only [Option.some.injEq, exists_eq_left']
          cases hpaid : window.tryConsume (recordBytes line) with
          | none =>
              have hshort := StreamSendWindow.tryConsume_none hpaid
              refine hstays ?_ (by rw [flushRecords_of_unpaid hwindow hpaid])
              rw [hdrainable]
              omega
          | some left =>
              have hleft := StreamSendWindow.tryConsume_some hpaid
              cases hsend : st.tunnelWriter.send with
              | none =>
                  -- The record is lost, so only what stood behind it stays.
                  have hnone := send_none hsend
                  rw [flushRecords_of_lost hwindow hpaid hsend, hdrainable, hnone]
                  simp only [TunnelSessionMutableState.popped, reduceCtorEq, false_or,
                    Option.some.injEq, forall_eq']
                  constructor
                  · intro hrest
                    rw [hrest]
                    simp only [List.map_nil, List.sum_nil, List.length_nil]
                    omega
                  · intro h
                    exact List.length_eq_zero_iff.mp (by omega)
              | some writer =>
                  have hrest := ih { st.popped left rest with tunnelWriter := writer } rfl
                  have hnext : Drainable { st.popped left rest with tunnelWriter := writer } ↔
                      ((rest.map recordBytes).sum ≤ left.availableBytes ∧
                        ∀ n, writer.sendsLeft = some n → rest.length ≤ n + 1) := by
                    unfold Drainable TunnelSessionMutableState.popped
                    simp only [Option.some.injEq, exists_eq_left']
                  rw [flushRecords_of_sent hwindow hpaid hsend, hrest, hdrainable, hnext,
                    ← send_some hsend rest.length]
                  simp only [reduceCtorEq, false_or]
                  constructor
                  · rintro (hempty | ⟨hbytes, hlength⟩)
                    · rw [hempty]
                      simp only [List.map_nil, List.sum_nil, List.length_nil]
                      refine ⟨by omega, fun n _ => by omega⟩
                    · exact ⟨by omega, hlength⟩
                  · rintro ⟨hbytes, hlength⟩
                    exact .inr ⟨by omega, hlength⟩

theorem flushPendingOperationRecords_empties_iff (st : TunnelSessionMutableState) :
    (flushPendingOperationRecords st).state.pendingOperationRecords = [] ↔
      st.pendingOperationRecords = [] ∨ Drainable st := by
  unfold flushPendingOperationRecords
  rw [bind_ok (get_apply st)]
  cases hwindow : st.operationStreamSendWindow with
  | none =>
      have hnot : ¬ Drainable st := by
        rintro ⟨window, hsome, _⟩
        rw [hwindow] at hsome
        exact absurd hsome (by simp only [reduceCtorEq, not_false_eq_true])
      exact ⟨fun h => .inl h, fun h => h.resolve_right hnot⟩
  | some window =>
      rcases flushRecords_spec st.pendingOperationRecords st rfl with
        ⟨sent, dry, drained, hflush, _⟩
      have hempties := flushRecords_empties_iff st.pendingOperationRecords st rfl
      rw [hflush] at hempties
      simp only
      rw [bind_ok hflush, ← hempties]
      cases dry with
      | false => rfl
      | true =>
          rw [if_pos rfl]
          rcases closeOperationStreamIfDrained_spec drained with
            ⟨hwaits, _⟩ | ⟨writer, out, hcloses, _⟩
          · rw [hwaits]
          · rw [hcloses]
            rfl

/-- What a request to close leaves behind: its caller was answered or waits, and
    records are left exactly if they cannot all leave at once. -/
theorem closeOperationStream_outcome (sender : ResponseSender) (st : TunnelSessionMutableState) :
    ∃ st' out, closeOperationStream sender st = ⟨.ok (), st', out⟩ ∧
      Drain (st.closing sender) out st' ∧
      (st'.operationStreamCloseRequested = false ∨ st'.pendingOperationRecords ≠ []) ∧
      (st'.pendingOperationRecords = [] ↔ st.pendingOperationRecords = [] ∨ Drainable st) := by
  rcases closeOperationStream_spec sender st with ⟨st', out, houtcome, hdrain, hrest⟩
  refine ⟨st', out, houtcome, hdrain, hrest, ?_⟩
  have hempties := flushPendingOperationRecords_empties_iff (st.closing sender)
  rcases flushPendingOperationRecords_spec (st.closing sender) with ⟨flushed, out', hflush, _⟩
  rw [hflush] at hempties
  have hpending : st'.pendingOperationRecords = flushed.pendingOperationRecords := by
    unfold closeOperationStream at houtcome
    rw [bind_ok (modify_apply _ st)] at houtcome
    have hsame : (closeOperationStreamIfDrained flushed).state.pendingOperationRecords
        = flushed.pendingOperationRecords := by
      rcases closeOperationStreamIfDrained_spec flushed with ⟨hwaits, _⟩ | ⟨writer, out, hcloses, _⟩
      · rw [hwaits]
      · rw [hcloses]
        rfl
    rw [← hsame]
    have hsettle : (flushPendingOperationRecords >>= fun _ => closeOperationStreamIfDrained)
        (st.closing sender) = ⟨(closeOperationStreamIfDrained flushed).result,
          (closeOperationStreamIfDrained flushed).state,
          out' ++ (closeOperationStreamIfDrained flushed).emitted⟩ := bind_ok hflush
    have hstate := congrArg Outcome.state houtcome
    simp only at hstate
    rw [← hstate]
    exact congrArg (fun o => o.state.pendingOperationRecords) hsettle
  rw [hpending]
  exact hempties

/-- A timely request leaves a settled state. -/
theorem closeOperationStream_settled (sender : ResponseSender) {st : TunnelSessionMutableState}
    (htimely : CloseIsTimely st) : Settled (closeOperationStream sender st).state := by
  rcases closeOperationStream_outcome sender st with ⟨st', out, houtcome, hdrain, hrest, hempty⟩
  rw [houtcome]
  refine hdrain.settled hrest (fun _ => rfl) fun _ => ?_
  exact htimely.2.imp id hempty.mpr

/-! ### Runs -/

/-- Who asked to close the operation stream of a connection, and who was answered. -/
structure CloseAccount where
  asked : List ResponseSender
  answered : List ResponseSender

/-- The account after one more step; a connection starts a new one. -/
def CloseAccount.entry (account : CloseAccount) (e : Entry SessionInput TunnelEffect) :
    CloseAccount :=
  match e.input with
  | .connect .. => { asked := [], answered := closeAnswers e.emitted }
  | input => {
    asked := account.asked ++ input.closes?.toList
    answered := account.answered ++ closeAnswers e.emitted }

/-- The account of the connection a trace ends in. -/
def closeAccount (trace : List (Entry SessionInput TunnelEffect)) : CloseAccount :=
  trace.foldl CloseAccount.entry { asked := [], answered := [] }

/-- A caller waits only for records of a requested stream, and every other caller
    was answered once. -/
def ClosesAnswered (trace : List (Entry SessionInput TunnelEffect))
    (st : TunnelSessionMutableState) : Prop :=
  (st.operationStreamCloseResponseSender.isSome →
    st.operationStreamRequested = true ∧ st.pendingOperationRecords ≠ []) ∧
  (closeAccount trace).answered ++ st.operationStreamCloseResponseSender.toList
    = (closeAccount trace).asked

theorem closeAccount_snoc (trace : List (Entry SessionInput TunnelEffect))
    (e : Entry SessionInput TunnelEffect) :
    closeAccount (trace ++ [e]) = (closeAccount trace).entry e := by
  unfold closeAccount
  rw [List.foldl_append]
  rfl

theorem closeAccount_item (trace : List (Entry SessionInput TunnelEffect)) (world : World)
    (item : SessionItem) (out : List TunnelEffect) :
    closeAccount (trace ++ [⟨.item world item, out⟩])
      = { asked := (closeAccount trace).asked ++ (SessionInput.item world item).closes?.toList
          answered := (closeAccount trace).answered ++ closeAnswers out } :=
  closeAccount_snoc trace _

section

variable (context : TunnelSessionLoopContext)

/-- The state after a request to close. -/
theorem connectionStep_operationClose (world : World) (sender : ResponseSender)
    (st : TunnelSessionMutableState) :
    connectionStep context (some st) (.item world (.request (.operationClose sender)))
      = some (some (closeOperationStream sender st).state,
          (closeOperationStream sender st).emitted) := by
  rcases closeOperationStream_spec sender st with ⟨st', out, houtcome, _⟩
  have hstep : handleSessionItem context world (.request (.operationClose sender)) st
      = ⟨.ok .continue, st', out⟩ := by
    show continueWith (closeOperationStream sender) st = _
    unfold continueWith
    rw [bind_ok houtcome]
    simp only [pure_apply, List.append_nil]
  simp only [connectionStep, hstep, houtcome, kept]

/-- Timely requests keep the state settled and the account in order. -/
theorem settled_of_timely {trace : List (Entry SessionInput TunnelEffect)} {c : Connection}
    (run : ConnectionRun context trace c)
    (htimely : ConnectionSteps context trace fun connection input _ =>
      ∀ st, connection = some st → input.closes?.isSome → CloseIsTimely st) :
    ∀ st, c = some st → Settled st ∧ (closeAccount trace).answered
      ++ st.operationStreamCloseResponseSender.toList = (closeAccount trace).asked := by
  refine (run.restrict htimely).history (P := fun trace c => ∀ st, c = some st → Settled st ∧
    (closeAccount trace).answered ++ st.operationStreamCloseResponseSender.toList
      = (closeAccount trace).asked) (fun st h => ?_) ?_
  · exact absurd h (by simp only [reduceCtorEq, not_false_eq_true])
  intro trace before input out after _ hbefore hlast st hst
  rw [hst] at hlast
  cases before with
  | none =>
      rcases connectionStep_connect context hlast.1 with
        ⟨writer, url, env, operation, hinput, hkept, hout⟩
      have howes := continueWith_owes (startSession_owes operation) (.fresh writer url env)
      have hfresh : Settled (.fresh writer url env) := settled_of_no_sender rfl
      have hanswered := howes.answers hfresh
      rw [closeAccount_snoc, hinput]
      rw [← hout, (kept_some hkept.symm).2] at hanswered
      exact ⟨(kept_some hkept.symm).2 ▸ howes.settled hfresh, hanswered⟩
  | some a =>
      rcases connectionStep_item context hlast.1 with ⟨world, item, hinput, hkept, hout⟩
      have hsettled := hbefore a rfl
      rw [hinput, closeAccount_item]
      cases hclose : (SessionInput.item world item).closes? with
      | none =>
          have howes := handleSessionItem_owes context world item hclose a
          have hanswered := howes.answers hsettled.1
          rw [← hout, (kept_some hkept.symm).2] at hanswered
          unfold Answered at hanswered
          refine ⟨(kept_some hkept.symm).2 ▸ howes.settled hsettled.1, ?_⟩
          rw [List.append_assoc, hanswered, hsettled.2, Option.toList_none, List.append_nil]
      | some sender =>
          have hsome : input.closes?.isSome = true := by rw [hinput, hclose]; rfl
          have hnow := hlast.2 a rfl hsome
          have hitem : item = .request (.operationClose sender) := by
            unfold SessionInput.closes? at hclose
            split at hclose
            · rename_i heq
              rw [SessionInput.item.injEq] at heq
              rw [heq.2, Option.some.inj hclose]
            · exact absurd hclose (by simp only [reduceCtorEq, not_false_eq_true])
          have hstep := hlast.1
          rw [hinput, hitem, connectionStep_operationClose, Option.some.injEq, Prod.mk.injEq,
            Option.some.injEq] at hstep
          rcases closeOperationStream_spec sender a with ⟨st', out', houtcome, hdrain, _⟩
          have hanswered := hdrain.answered
          have hsettled' := closeOperationStream_settled sender hnow
          rw [houtcome] at hstep hsettled'
          rw [← hstep.1, ← hstep.2]
          refine ⟨hsettled', ?_⟩
          -- Nobody waited before, so the account was even.
          have heven := hsettled.2
          rw [hnow.1, Option.toList_none, List.append_nil] at heven
          unfold Answered at hanswered
          simp only
          rw [List.append_assoc, hanswered, heven]
          rfl

/-- An untimely request leaves a caller that nothing answers. -/
theorem not_answered_of_untimely {trace : List (Entry SessionInput TunnelEffect)} {world : World}
    {sender : ResponseSender} {st : TunnelSessionMutableState}
    (hbefore : ClosesAnswered trace st)
    (hafter : ClosesAnswered
      (trace ++ [⟨.item world (.request (.operationClose sender)),
        (closeOperationStream sender st).emitted⟩]) (closeOperationStream sender st).state) :
    CloseIsTimely st := by
  rcases closeOperationStream_outcome sender st with ⟨st', out, houtcome, hdrain, _, hempty⟩
  rw [houtcome] at hafter
  have hanswered := hdrain.answered
  unfold Answered at hanswered
  have haccount := hafter.2
  rw [closeAccount_item] at haccount
  simp only at haccount
  rw [List.append_assoc, hanswered] at haccount
  -- Both lists end in the new caller, so the one that waited before is missing.
  have heven := List.append_inj_left' haccount rfl
  have hnobody : st.operationStreamCloseResponseSender = none := by
    have hwaits := hbefore.2
    rw [heven] at hwaits
    exact Option.toList_eq_nil_iff.mp (List.append_right_eq_self.mp hwaits)
  refine ⟨hnobody, ?_⟩
  by_cases hrequested : st.operationStreamRequested = true
  · exact .inl hrequested
  · refine .inr (hempty.mp ?_)
    cases hdrain with
    | closed sent drained flushed dry answers answered writer gone hout hstate =>
        rw [hstate]
        exact dry
    | «open» sent flushed hout =>
        have hsender : st'.operationStreamCloseResponseSender = some sender := flushed.sender
        have hwaits := hafter.1 (by rw [hsender]; rfl)
        exact absurd (flushed.requested.symm.trans hwaits.1) hrequested

/-- A run answers every close of the operation stream exactly if each is asked
    for while nobody waits, on a stream that was requested or has no record that
    stays. -/
theorem closes_answered_iff_timely (trace : List (Entry SessionInput TunnelEffect))
    (connection : Connection) (run : ConnectionRun context trace connection) :
    (∀ before after st, trace = before ++ after → ConnectionRun context before (some st) →
      ClosesAnswered before st) ↔
    ConnectionSteps context trace fun connection input _ =>
      ∀ st, connection = some st → input.closes?.isSome → CloseIsTimely st := by
  constructor
  · intro hanswered before input out after c htrace hrun st hst hcloses
    rw [hst] at hrun
    rw [htrace] at run
    have hbefore := hanswered before _ st htrace hrun
    rcases Run.step_at (connectionStep_functional context) run hrun with ⟨next, hstep⟩
    rcases Option.isSome_iff_exists.mp hcloses with ⟨sender, hsender⟩
    unfold SessionInput.closes? at hsender
    split at hsender
    · rename_i world sender'
      have hclose := connectionStep_operationClose context world sender' st
      rw [hclose, Option.some.injEq, Prod.mk.injEq] at hstep
      have hsplit : trace = (before ++ [⟨.item world (.request (.operationClose sender')), out⟩])
          ++ after := by
        rw [htrace, List.append_assoc]
        rfl
      have hnext : ConnectionRun context
          (before ++ [⟨.item world (.request (.operationClose sender')), out⟩])
          (some (closeOperationStream sender' st).state) := by
        rw [← hstep.2]
        exact hrun.snoc hclose
      have hafter := hanswered _ after _ hsplit hnext
      rw [← hstep.2] at hafter
      exact not_answered_of_untimely hbefore hafter
    · exact absurd hsender (by simp only [reduceCtorEq, not_false_eq_true])
  · intro htimely before after st htrace hrun
    rw [htrace] at htimely
    rcases settled_of_timely context hrun htimely.init st rfl with ⟨hsettled, haccount⟩
    refine ⟨fun hsome => ?_, haccount⟩
    have hne : st.operationStreamCloseResponseSender ≠ none :=
      Option.isSome_iff_ne_none.mp hsome
    exact ⟨hsettled.requested hne, hsettled.pending hne⟩

end

/-- The gateway refuses the operation stream. -/
def operationRefusal : String × Json String :=
  ("\x7b\"type\":\"operation.open.error\"\x7d", .obj [("type", .str "operation.open.error")])

/-- Records that follow a refusal keep a close waiting, for a stream that nobody
    asks for any more. -/
theorem close_after_refusal_waits :
    ∃ trace st, ConnectionRun (.ofDocuments [operationRefusal]) trace (some st) ∧
      trace.map Entry.input =
        [.connect .open none [] (some { operationId := "op", operationKind := "start" }),
          .item .idle (.event (.bootstrapMessage (.text operationRefusal.1))),
          .item .idle (.request (.operationRecord "record\n")),
          .item .idle (.request (.operationClose 1))] ∧
      st.operationStreamCloseResponseSender = some 1 ∧ st.operationStreamRequested = false ∧
      ¬ ClosesAnswered trace st := by
  rcases exists_connectionRun (.ofDocuments [operationRefusal])
    [.connect .open none [] (some { operationId := "op", operationKind := "start" }),
      .item .idle (.event (.bootstrapMessage (.text operationRefusal.1))),
      .item .idle (.request (.operationRecord "record\n")),
      .item .idle (.request (.operationClose 1))]
    (fun _ st => st.operationStreamCloseResponseSender = some 1 ∧
      st.operationStreamRequested = false)
    (by decide +kernel) with ⟨trace, st, run, hinputs, hcheck⟩
  rcases of_decide_eq_true hcheck with ⟨hsender, hrequested⟩
  refine ⟨trace, st, run, hinputs, hsender, hrequested, fun hanswered => ?_⟩
  have hwaits := hanswered.1 (by rw [hsender]; rfl)
  rw [hrequested] at hwaits
  exact absurd hwaits.1 Bool.false_ne_true

/-- A close that waits for a record of a requested stream. -/
theorem closes_answered_iff_timely_waiting :
    ∃ trace st, ConnectionRun (.ofDocuments []) trace (some st) ∧
      st.operationStreamCloseResponseSender = some 1 ∧ ClosesAnswered trace st := by
  rcases exists_connectionRun_passing (.ofDocuments [])
    [.connect .open none [] (some { operationId := "op", operationKind := "start" }),
      .item .idle (.request (.operationRecord "record\n")),
      .item .idle (.request (.operationClose 1))]
    (fun _ st => st.operationStreamCloseResponseSender = some 1)
    (fun connection input => input.closes?.isNone ||
      connection.any fun (st : TunnelSessionMutableState) =>
        st.operationStreamCloseResponseSender.isNone && st.operationStreamRequested)
    (by decide +kernel) (by decide +kernel) with ⟨trace, st, run, _, hcheck, hsteps⟩
  refine ⟨trace, st, run, of_decide_eq_true hcheck, ?_⟩
  refine (closes_answered_iff_timely _ trace _ run).mpr ?_ trace [] st
    (List.append_nil _).symm run
  intro before input out after c htrace hrun before' hbefore hcloses
  have hpass := hsteps before input out after c htrace hrun
  simp only [Option.isNone_eq_false_iff.mpr hcloses, hbefore, Bool.false_or, Option.any_some,
    Bool.and_eq_true] at hpass
  exact ⟨Option.isNone_iff_eq_none.mp hpass.1, .inl hpass.2⟩

end Mistle
