import Mistle.SessionClient.Transport

/-!
# What the Calls of the Transport Leave Behind

Most calls concern one stream, or none: what the transport has on the others stays as it is, and so
do its sockets. The ends of a connection concern all streams, and what they do to each is the same.

## Main definitions

* `StreamView`: What the transport has on one stream.
* `about`: What is sent for a stream, and what its `openStream` is told.
* `spares`: A call leaves the sockets and some streams as they are.
* `GivenUp`: All opens and streams are given up.

## Theorems

* `spares_emitEvent`, `spares_continueOpenStream`, `spares_handleOpenResult` and others: What the
  calls spare.
* `closeTransportWithError_returns`, `disconnect_returns`, `handleSocketClose_returns`,
  `handleSocketError_returns`: The ends of a connection give up all streams.
* `connect_apply_of_busy`, `connect_apply_of_not_busy`, `finishWithFailure_apply`: The start of a
  connection, and its failing.
-/

namespace Mistle

namespace SessionClient

open Handler SessionProtocol

/-- What the transport has on one stream. -/
@[ext]
structure StreamView where
  /-- The stream's id has been handed out. -/
  made : Bool
  /-- Its open waits for an answer. -/
  pending : Bool
  /-- Its send window, while it is active. -/
  window : Option Nat
  /-- The answer, until its `openStream` goes on. -/
  settled : Option (Except OpenFailure Unit)

def Transport.view (t : Transport) (id : Nat) : StreamView where
  made := decide (id < t.nextStreamId)
  pending := (t.pendingOpensByStreamId.get? id).isSome
  window := t.activeStreamsByStreamId.get? id
  settled := t.settledOpens.get? id

/-- The stream that an output is sent for, or whose `openStream` it ends. -/
def TransportOutput.streamId? : TransportOutput → Option Nat
  | .sendsControl _ message => some message.streamId
  | .sendsBinary _ encoded => (decodeDataFrame encoded).toOption.map
      SessionProtocol.StreamDataFrame.streamId
  | .opens streamId _ => some streamId
  | _ => none

/-- What is sent for a stream, and what its `openStream` is told. -/
def about (id : Nat) (out : List TransportOutput) : List TransportOutput :=
  out.filter fun output => output.streamId? = some id

section

variable {id : Nat} {t : Transport} {P : Nat → Prop}

@[simp] theorem about_append (a b : List TransportOutput) :
    about id (a ++ b) = about id a ++ about id b :=
  List.filter_append ..

theorem about_eq_nil {out : List TransportOutput} (h : ∀ o ∈ out, o.streamId? ≠ some id) :
    about id out = [] :=
  List.filter_eq_nil_iff.mpr fun o ho heq => h o ho (of_decide_eq_true heq)

theorem about_singleton {o : TransportOutput} (h : o.streamId? = some id) : about id [o] = [o] :=
  List.filter_cons_of_pos (decide_eq_true h)

theorem about_singleton_of_ne {o : TransportOutput} (h : o.streamId? ≠ some id) :
    about id [o] = [] :=
  List.filter_cons_of_neg fun heq => h (of_decide_eq_true heq)

/-- A step is a call that was allowed, and what it emitted; a call that fails says so last. -/
theorem steps_cases {t t' : Transport} {input : TransportInput} {out : List TransportOutput}
    (h : Steps t input out t') : t.allows input = true ∧ (react input t).state = t' ∧
      (out = (react input t).emitted ∨
        ∃ error, out = (react input t).emitted ++ [.fails error]) := by
  unfold Steps step at h
  by_cases hallowed : t.allows input = true
  · rw [if_pos hallowed] at h
    cases hresult : (react input t).result with
    | ok _ =>
        simp only [hresult, Option.some.injEq, Prod.mk.injEq] at h
        exact ⟨hallowed, h.1, .inl h.2.symm⟩
    | error error =>
        simp only [hresult, Option.some.injEq, Prod.mk.injEq] at h
        exact ⟨hallowed, h.1, .inr ⟨error, h.2.symm⟩⟩
  · rw [if_neg hallowed] at h
    exact absurd h (by simp only [reduceCtorEq, not_false_eq_true])

/-! ### Calls about one stream -/

/-- The sockets stay as they are, no `connect` is settled, and nothing happens to the streams of a
    set. -/
def spares (P : Nat → Prop) : Trail Transport TransportOutput where
  rel t out t' := (∀ id, P id → t'.view id = t.view id ∧ about id out = []) ∧
    t'.socket = t.socket ∧ t'.sockets = t.sockets ∧ ∀ n result, .connects n result ∉ out
  refl _ := ⟨fun _ _ => ⟨rfl, rfl⟩, rfl, rfl, fun _ _ => List.not_mem_nil⟩
  comp h h' := by
    refine ⟨fun id hid => ⟨(h'.1 id hid).1.trans (h.1 id hid).1, ?_⟩, h'.2.1.trans h.2.1,
      h'.2.2.1.trans h.2.2.1, fun n result hmem => ?_⟩
    · rw [about_append, (h.1 id hid).2, (h'.1 id hid).2, List.append_nil]
    · rcases List.mem_append.mp hmem with hfirst | hthen
      · exact h.2.2.2 n result hfirst
      · exact h'.2.2.2 n result hthen

/-- A change that the views of the streams and the sockets do not show. -/
theorem spares_modify {f : Transport → Transport} (hview : ∀ id, P id → (f t).view id = t.view id)
    (hsocket : (f t).socket = t.socket) (hsockets : (f t).sockets = t.sockets) :
    FollowsFrom (spares P) (Handler.modify f : Call Unit) t :=
  ⟨fun id hid => ⟨hview id hid, rfl⟩, hsocket, hsockets, fun _ _ => List.not_mem_nil⟩

theorem spares_emit {o : TransportOutput} (hbears : ∀ id, P id → o.streamId? ≠ some id)
    (hconnects : ∀ n result, .connects n result ≠ o) :
    Follows (spares P) (emit o : Call Unit) :=
  fun _ => ⟨fun id hid => ⟨rfl, about_singleton_of_ne (hbears id hid)⟩, rfl, rfl,
    fun n result hmem => hconnects n result (List.mem_singleton.mp hmem)⟩

/-- What the transport tells its own listeners, or those of a stream. -/
theorem spares_emits (event : TransportEvent) :
    Follows (spares P) (emit (.emits event) : Call Unit) :=
  spares_emit (fun _ _ => (Option.some_ne_none _).symm) fun _ _ => TransportOutput.noConfusion

theorem spares_delivers (streamId listener : Nat) (event : SessionStreamEvent) :
    Follows (spares P) (emit (.delivers streamId listener event) : Call Unit) :=
  spares_emit (fun _ _ => (Option.some_ne_none _).symm) fun _ _ => TransportOutput.noConfusion

theorem spares_modifyStream (streamId : Nat) (f : TransportStream → TransportStream) :
    Follows (spares P) (modifyStream streamId f) :=
  fun _ => spares_modify (fun _ _ => rfl) rfl rfl

theorem spares_emitEvent (streamId : Nat) (event : SessionStreamEvent) :
    Follows (spares P) (emitEvent streamId event) := by
  refine Follows.read fun t => ?_
  dsimp only
  split
  · exact Follows.pure () t
  split
  · exact spares_modifyStream _ _ t
  · exact Follows.forEach (fun listener _ => spares_delivers _ _ _) t

theorem spares_setState (streamId : Nat) (state : StreamState) (errorMessage : Option String)
    (restart : Option GatewayServiceRestartCloseInfo) :
    Follows (spares P) (setState streamId state errorMessage restart) :=
  Follows.bind (spares_modifyStream _ _) fun _ => spares_emitEvent _ _

theorem spares_listen (streamId listener : Nat) :
    Follows (spares P) (listen streamId listener) := by
  refine Follows.read fun t => ?_
  dsimp only
  split
  · exact Follows.throw _ t
  refine Follows.bind (spares_modifyStream _ _) (fun _ => ?_) t
  exact Follows.forEach fun event _ => spares_delivers _ _ _

theorem spares_sendTextMessage (payload : String) :
    Follows (spares P) (sendTextMessage payload) := by
  refine Follows.read fun t => ?_
  cases t.openSocket? with
  | none => exact Follows.throw _ t
  | some n =>
      exact spares_emit (o := .sendsText n payload) (fun _ _ => (Option.some_ne_none _).symm)
        (fun _ _ => TransportOutput.noConfusion) t

section

variable {streamId : Nat} (hnot : ¬ P streamId)

include hnot

theorem ne_of_not (hid : P id) : id ≠ streamId := fun heq => hnot (heq ▸ hid)

theorem spares_settleOpen (result : Except OpenFailure Unit) :
    Follows (spares P) (settleOpen result streamId) := by
  refine fun t => spares_modify (fun id hid => ?_) rfl rfl
  ext1
  case settled => exact InsertionMap.get?_set_of_ne (ne_of_not hnot hid) _ _
  all_goals rfl

theorem spares_deletePendingOpen : Follows (spares P) (deletePendingOpen streamId) := by
  refine fun t => spares_modify (fun id hid => ?_) rfl rfl
  ext1
  case pending =>
    exact congrArg Option.isSome (InsertionMap.get?_delete_of_ne (ne_of_not hnot hid) _)
  all_goals rfl

theorem spares_deleteActiveStream : Follows (spares P) (deleteActiveStream streamId) := by
  refine fun t => spares_modify (fun id hid => ?_) rfl rfl
  ext1
  case window => exact InsertionMap.get?_delete_of_ne (ne_of_not hnot hid) _
  all_goals rfl

theorem spares_setWindow (w : Nat) : Follows (spares P) (Handler.modify fun t => { t with
    activeStreamsByStreamId := t.activeStreamsByStreamId.set streamId w } : Call Unit) := by
  refine fun t => spares_modify (fun id hid => ?_) rfl rfl
  ext1
  case window => exact InsertionMap.get?_set_of_ne (ne_of_not hnot hid) _ _
  all_goals rfl

theorem spares_setPending : Follows (spares P) (Handler.modify fun t => { t with
    pendingOpensByStreamId := t.pendingOpensByStreamId.set streamId () } : Call Unit) := by
  refine fun t => spares_modify (fun id hid => ?_) rfl rfl
  ext1
  case pending =>
    exact congrArg Option.isSome (InsertionMap.get?_set_of_ne (ne_of_not hnot hid) _ _)
  all_goals rfl

theorem spares_deleteSettled : Follows (spares P) (Handler.modify fun t => { t with
    settledOpens := t.settledOpens.delete streamId } : Call Unit) := by
  refine fun t => spares_modify (fun id hid => ?_) rfl rfl
  ext1
  case settled => exact InsertionMap.get?_delete_of_ne (ne_of_not hnot hid) _
  all_goals rfl

/-- An output about the stream. -/
theorem spares_emit_about {o : TransportOutput} (ho : o.streamId? = some streamId) :
    Follows (spares P) (emit o : Call Unit) := by
  refine spares_emit (fun id hid heq => ?_) fun n result heq => ?_
  · rw [ho, Option.some.injEq] at heq
    exact ne_of_not hnot hid heq.symm
  · rw [← heq] at ho
    exact Option.some_ne_none _ ho.symm

theorem spares_continueOpenStream (result : Except OpenFailure Unit) :
    Follows (spares P) (continueOpenStream streamId result) := by
  refine Follows.bind (spares_deleteSettled hnot) fun _ => ?_
  cases result with
  | ok _ =>
      exact Follows.bind (spares_setState _ _ _ _) fun _ => spares_emit_about hnot rfl
  | error failure =>
      refine Follows.bind (spares_deleteActiveStream hnot) fun _ => ?_
      exact Follows.bind (spares_modifyStream _ _) fun _ => spares_emit_about hnot rfl

/-- An open is answered, or given up. -/
theorem spares_settle (result : Except OpenFailure Unit) : Follows (spares P)
    (deletePendingOpen streamId >>= fun _ => settleOpen result streamId) :=
  Follows.bind (spares_deletePendingOpen hnot) fun _ => spares_settleOpen hnot result

theorem spares_handleOpenResult (message : StreamControlMessage)
    (openError : Option (String × String)) :
    Follows (spares P) (handleOpenResult streamId message openError) := by
  refine Follows.read fun t => ?_
  cases t.pendingOpensByStreamId.get? streamId with
  | none => exact spares_emits _ t
  | some _ =>
      refine Follows.bind (spares_deletePendingOpen hnot) (fun _ => ?_) t
      cases openError with
      | none => exact spares_settleOpen hnot _
      | some error =>
          refine Follows.read fun t => ?_
          cases t.activeStreamsByStreamId.get? streamId with
          | none => exact spares_settleOpen hnot _ t
          | some w =>
              refine Follows.bind (spares_deleteActiveStream hnot) (fun _ => ?_) t
              exact Follows.bind (spares_setState _ _ _ _) fun _ => spares_settleOpen hnot _

end

/-- What a send finds, or the call fails and changes nothing. -/
theorem requireOpenStream_cases (streamId : Nat) (t : Transport) :
    (∃ error, requireOpenStream streamId t = ⟨.error error, t, []⟩) ∨
      ∃ n w, requireOpenStream streamId t = ⟨.ok (n, w), t, []⟩ ∧ t.openSocket? = some n ∧
        t.activeStreamsByStreamId.get? streamId = some w := by
  unfold requireOpenStream
  rw [get_bind_apply]
  cases hsocket : t.openSocket? with
  | none => exact .inl ⟨_, rfl⟩
  | some n =>
      cases hwindow : t.activeStreamsByStreamId.get? streamId with
      | none => exact .inl ⟨_, rfl⟩
      | some w =>
          by_cases hopened : (t.streams streamId).state = .opened
          · refine .inr ⟨n, w, ?_, rfl, rfl⟩
            exact congrFun (if_neg fun hnot => hnot hopened) t
          · exact .inl ⟨_, congrFun (if_pos hopened) t⟩

/-- A frame of a stream decodes to what it was made of. -/
theorem decodeDataFrame_of_encodeDataFrame {streamId : Nat} {payloadKind : JsNumber}
    {payload encoded : List UInt8}
    (h : encodeDataFrame (.int streamId) payloadKind payload = .ok encoded) :
    ∃ frame, decodeDataFrame encoded = .ok frame ∧ frame.streamId = streamId ∧
      frame.payload = payload := by
  rcases exists_of_encodeDataFrame h with ⟨id, kind, hid, _, hencode⟩
  rw [JsNumber.int.injEq, Int.natCast_inj] at hid
  have hdecode := decodeDataFrame_eq encoded
  rw [decode_encode hencode, toOption_ok, Option.map_some, toOption_eq_some] at hdecode
  exact ⟨_, hdecode, hid.symm, rfl⟩

theorem streamId?_of_encodeDataFrame {streamId n : Nat} {payloadKind : JsNumber}
    {payload encoded : List UInt8}
    (h : encodeDataFrame (.int streamId) payloadKind payload = .ok encoded) :
    (TransportOutput.sendsBinary n encoded).streamId? = some streamId := by
  rcases decodeDataFrame_of_encodeDataFrame h with ⟨frame, hdecode, hframe, _⟩
  change (decodeDataFrame encoded).toOption.map _ = _
  rw [hdecode, toOption_ok, Option.map_some, hframe]

/-- A frame with a supported payload kind fails to encode for its stream id only. -/
theorem streamId_of_encodeDataFrame_error {streamId : Nat} {payloadKind : JsNumber}
    {payload : List UInt8} {error : String}
    (hkind : payloadKind = .int SessionProtocol.payloadKindRawBytes ∨
      payloadKind = .int SessionProtocol.payloadKindWebSocketText ∨
      payloadKind = .int SessionProtocol.payloadKindWebSocketBinary)
    (h : encodeDataFrame (.int streamId) payloadKind payload = .error error) :
    ¬ (0 < streamId ∧ streamId ≤ maxStreamId) := by
  intro hrange
  have hid : SessionProtocol.validateStreamId (.int streamId) = .ok streamId := by
    have hin : ¬ ((streamId : Int) ≤ 0 ∨ (streamId : Int) > maxStreamId) := by omega
    exact if_neg hin
  have hvalid : ∃ kind, SessionProtocol.validatePayloadKind payloadKind = .ok kind := by
    rcases hkind with hraw | htext | hbinary
    · exact ⟨_, if_pos hraw⟩
    · rw [htext]
      exact ⟨_, rfl⟩
    · rw [hbinary]
      exact ⟨_, rfl⟩
  rcases hvalid with ⟨kind, hvalid⟩
  unfold encodeDataFrame at h
  rw [hid, hvalid] at h
  simp only [bind, Except.bind, pure, Except.pure, reduceCtorEq] at h

/-- What came in is granted back, if the socket is open and there was something. -/
theorem sendReceiveWindowUpdate_apply (streamId bytes : Nat) (t : Transport) :
    ∃ inFlight grant, sendReceiveWindowUpdate streamId bytes t =
        ⟨.ok (), { t with grantsInFlight := inFlight }, grant⟩ ∧
      (grant = [] ∨ ∃ n, t.openSocket? = some n ∧
        grant = [.sendsControl n (.streamWindow streamId bytes)]) := by
  unfold sendReceiveWindowUpdate
  rw [get_bind_apply]
  cases t.openSocket? with
  | none => exact ⟨_, _, rfl, .inl rfl⟩
  | some n =>
      by_cases hbytes : bytes = 0
      · exact ⟨_, _, congrFun (if_pos hbytes) t, .inl rfl⟩
      · exact ⟨_, _, congrFun (if_neg hbytes) t, .inr ⟨n, rfl, rfl⟩⟩

/-! ### The ends of a connection -/

/-- The settled opens, with some more rejected. -/
def rejectEach (error : OpenFailure) (ids : List Nat)
    (settled : InsertionMap Nat (Except OpenFailure Unit)) :
    InsertionMap Nat (Except OpenFailure Unit) :=
  ids.foldl (fun settled streamId => settled.set streamId (.error error)) settled

/-- The answer of an open that is rejected with all others. -/
theorem get?_rejectEach (error : OpenFailure) (ids : List Nat)
    (settled : InsertionMap Nat (Except OpenFailure Unit)) :
    (rejectEach error ids settled).get? id =
      if id ∈ ids then some (.error error) else settled.get? id := by
  unfold rejectEach
  induction ids generalizing settled with
  | nil => rfl
  | cons first ids ih =>
      rw [List.foldl_cons, ih, InsertionMap.get?_set]
      by_cases hids : id ∈ ids
      · rw [if_pos hids, if_pos (List.mem_cons_of_mem _ hids)]
      · by_cases hfirst : id = first
        · rw [if_neg hids, if_pos hfirst, if_pos (hfirst ▸ List.mem_cons_self)]
        · rw [if_neg hids, if_neg hfirst, if_neg fun h => (List.mem_cons.mp h).elim hfirst hids]

theorem rejectPendingOpens_apply (error : OpenFailure) (t : Transport) :
    rejectPendingOpens error t = ⟨.ok (), { t with
      pendingOpensByStreamId := .empty
      settledOpens := rejectEach error t.pendingOpensByStreamId.keys t.settledOpens }, []⟩ := by
  have hloop : ∀ ids : List Nat, ∀ t : Transport, each (settleOpen (.error error)) ids t =
      ⟨.ok (), { t with settledOpens := rejectEach error ids t.settledOpens }, []⟩ := by
    intro ids
    induction ids with
    | nil => exact fun _ => rfl
    | cons streamId ids ih =>
        intro t
        rw [each_cons, settleOpen, modify_bind_apply, ih]
        rfl
  unfold rejectPendingOpens
  rw [get_bind_apply, bind_ok (hloop _ t)]
  rfl

theorem setState_result (streamId : Nat) (state : StreamState) (errorMessage : Option String)
    (restart : Option GatewayServiceRestartCloseInfo) (t : Transport) :
    (setState streamId state errorMessage restart t).result = .ok () := by
  have hemits : ∀ t, (emitEvent streamId (.stateChanged state errorMessage restart) t).result =
      .ok () := by
    intro t
    unfold emitEvent
    rw [get_bind_apply]
    split
    · rfl
    split
    · rfl
    · rw [each_emit_apply]
  exact hemits _

/-- All active streams are told that the transport is closed, and are active no longer. -/
theorem markAllStreamsTransportClosed_returns (message : String)
    (restart : Option GatewayServiceRestartCloseInfo) (t : Transport) :
    Returns (markAllStreamsTransportClosed message restart) t fun _ t' out =>
      ∃ u, (spares fun _ => True).rel t out u ∧
        t' = { u with activeStreamsByStreamId := .empty } := by
  have hloop : ∀ ids : List Nat, ∀ t : Transport,
      Returns (each (markTransportClosed message restart) ids) t fun _ u out =>
        (spares fun _ => True).rel t out u := by
    intro ids
    induction ids with
    | nil => exact fun t => Returns.pure ((spares _).refl t)
    | cons streamId ids ih =>
        intro t
        have hone : Returns (markTransportClosed message restart streamId) t fun _ u out =>
            (spares fun _ => True).rel t out u :=
          Returns.of_result (setState_result ..) (spares_setState _ _ _ _ t)
        refine hone.bind fun _ u out hfirst => (ih u).mono fun _ _ _ hthen => ?_
        exact (spares _).comp hfirst hthen
  refine Returns.read ((hloop _ t).bind fun _ u out hspares => Returns.modify ?_)
  rw [List.append_nil]
  exact ⟨u, hspares, rfl⟩

/-- What is left of a stream once its open is rejected and it is active no longer. -/
def StreamView.givenUp (message : String) (v : StreamView) : StreamView :=
  { v with
    pending := false
    window := none
    settled := if v.pending then some (.error (.message message)) else v.settled }

/-- All opens and streams are given up, nothing is sent for any, and the sockets are as told. -/
structure GivenUp (message : String) (socket : Option Nat) (sockets : Nat → ClientSocket)
    (t : Transport) (out : List TransportOutput) (t' : Transport) : Prop where
  views : ∀ id, t'.view id = (t.view id).givenUp message
  quiet : ∀ id, about id out = []
  socket : t'.socket = socket
  sockets : t'.sockets = sockets
  unconnected : ∀ n result, .connects n result ∉ out

theorem GivenUp.of_same {message : String} {socket : Option Nat} {sockets : Nat → ClientSocket}
    {out : List TransportOutput} {s u : Transport} (h : GivenUp message socket sockets s out u)
    (hviews : ∀ id, s.view id = t.view id) : GivenUp message socket sockets t out u :=
  ⟨fun id => hviews id ▸ h.views id, h.quiet, h.socket, h.sockets, h.unconnected⟩

/-- More may follow that concerns no stream. -/
theorem GivenUp.more {message : String} {socket socket' : Option Nat}
    {sockets sockets' : Nat → ClientSocket} {out : List TransportOutput} {u t' : Transport}
    (h : GivenUp message socket sockets t out u) {more : List TransportOutput}
    (hviews : ∀ id, t'.view id = u.view id) (hsocket : t'.socket = socket')
    (hsockets : t'.sockets = sockets')
    (hmore : ∀ o ∈ more, o.streamId? = none ∧ ∀ n result, .connects n result ≠ o) :
    GivenUp message socket' sockets' t (out ++ more) t' := by
  refine ⟨fun id => (hviews id).trans (h.views id), fun id => ?_, hsocket, hsockets,
    fun n result hmem => ?_⟩
  · rw [about_append, h.quiet id, List.nil_append]
    refine about_eq_nil fun o ho => ?_
    rw [(hmore o ho).1]
    exact (Option.some_ne_none id).symm
  · rcases List.mem_append.mp hmem with hfirst | hthen
    · exact h.unconnected n result hfirst
    · exact (hmore _ hthen).2 n result rfl

/-- Giving up all opens and streams, in front of the rest of a call. -/
theorem returns_giveUp {message : String} {restart : Option GatewayServiceRestartCloseInfo}
    {rest : Unit → Call Unit} {R : Unit → Transport → List TransportOutput → Prop}
    (h : ∀ t' out, GivenUp message t.socket t.sockets t out t' →
      Returns (rest ()) t' fun a s' more => R a s' (out ++ more)) :
    Returns (rejectPendingOpens (.message message) >>= fun _ =>
      markAllStreamsTransportClosed message restart >>= rest) t R := by
  have hreject : Returns (rejectPendingOpens (.message message)) t fun _ u out =>
      rejectPendingOpens (.message message) t = ⟨.ok (), u, out⟩ :=
    ⟨(), _, _, rejectPendingOpens_apply .., rejectPendingOpens_apply ..⟩
  refine hreject.bind fun _ u out hu => ?_
  rw [rejectPendingOpens_apply, Outcome.mk.injEq] at hu
  refine (markAllStreamsTransportClosed_returns message restart u).bind fun _ t' more hmark => ?_
  rcases hmark with ⟨v, ⟨hviews, hsocket, hsockets, hconnects⟩, ht'⟩
  rcases hu with ⟨_, hu, hout⟩
  rw [← hout]
  change Returns (rest ()) t' fun a s' after => R a s' (more ++ after)
  refine h t' more ⟨fun id => ?_, fun id => (hviews id trivial).2, ?_, ?_, hconnects⟩
  · have hv := (hviews id trivial).1
    rw [ht']
    ext1
    case made =>
      refine (congrArg StreamView.made hv).trans ?_
      rw [← hu]
      rfl
    case pending =>
      refine (congrArg StreamView.pending hv).trans ?_
      rw [← hu]
      rfl
    case window => rfl
    case settled =>
      refine (congrArg StreamView.settled hv).trans ?_
      rw [← hu]
      refine (get?_rejectEach ..).trans ?_
      simp only [StreamView.givenUp, Transport.view, InsertionMap.isSome_get?_iff]
  · rw [ht']
    exact hsocket.trans (congrArg Transport.socket hu).symm
  · rw [ht']
    exact hsockets.trans (congrArg Transport.sockets hu).symm

/-! ### Sockets -/

/-- The transport with one socket changed. -/
def Transport.updateSocket (t : Transport) (n : Nat) (f : ClientSocket → ClientSocket) :
    Transport :=
  { t with sockets := Function.update t.sockets n (f (t.sockets n)) }

/-- The transport with a socket that it has closed and no longer listens to. -/
def Transport.withoutSocket (t : Transport) (n : Nat) : Transport :=
  (t.updateSocket n ({ · with attached := false })).updateSocket n fun s =>
    { s with readyState := if s.readyState = .closed then .closed else .closing }

/-- The sockets once the one held is closed. -/
def Transport.socketsClosed (t : Transport) : Nat → ClientSocket :=
  t.socket.elim t.sockets fun n => (t.withoutSocket n).sockets

/-- The socket that was held is closed, behind giving up all streams. -/
theorem GivenUp.closes {message : String} {u : Transport} {out : List TransportOutput}
    (hu : GivenUp message none t.sockets t out u) (code : Option Nat) (reason : Option String)
    (more : List TransportOutput)
    (hmore : ∀ o ∈ more, o.streamId? = none ∧ ∀ n result, .connects n result ≠ o) :
    GivenUp message none t.socketsClosed t
      (out ++ (t.socket.toList.map (fun n => .closes n code reason) ++ more))
      (t.socket.elim u u.withoutSocket) := by
  refine hu.more (fun id => ?_) ?_ ?_ fun o ho => ?_
  · cases t.socket with
    | none => rfl
    | some n => rfl
  · cases t.socket with
    | none => exact hu.socket
    | some n => exact hu.socket
  · unfold Transport.socketsClosed
    cases t.socket with
    | none => exact hu.sockets
    | some n =>
        unfold Option.elim Transport.withoutSocket Transport.updateSocket
        rw [hu.sockets]
  · rcases List.mem_append.mp ho with hcloses | hthen
    · rcases List.mem_map.mp hcloses with ⟨n, _, hn⟩
      rw [← hn]
      exact ⟨rfl, fun _ _ => TransportOutput.noConfusion⟩
    · exact hmore o hthen

theorem closeTransportWithError_returns (message : String) (t : Transport) :
    Returns (closeTransportWithError message) t fun _ t' out =>
      GivenUp message none t.socketsClosed t out t' := by
  unfold closeTransportWithError
  refine Returns.read (Returns.change (returns_giveUp fun u out hu => ?_))
  have hgiven : GivenUp message none t.sockets t out u :=
    hu.of_same fun _ => rfl
  refine ⟨(), t.socket.elim u u.withoutSocket, _, ?_, hgiven.closes
    (some protocolViolationCloseCode) (some message) [.emits (.error message)] fun o ho => ?_⟩
  · cases t.socket with
    | none => rfl
    | some n => rfl
  · rw [List.mem_singleton.mp ho]
    exact ⟨rfl, fun _ _ => TransportOutput.noConfusion⟩

theorem disconnect_returns (closeCode : Option Nat) (reason : Option String) (t : Transport) :
    Returns (disconnect closeCode reason) t fun _ t' out =>
      GivenUp "Sandbox websocket connection closed." none t.socketsClosed t out t' := by
  unfold disconnect
  refine Returns.read (Returns.change (returns_giveUp fun u out hu => ?_))
  have hgiven : GivenUp "Sandbox websocket connection closed." none t.sockets t out u :=
    hu.of_same fun _ => rfl
  refine ⟨(), t.socket.elim u u.withoutSocket, _, ?_,
    hgiven.closes closeCode reason [] fun o ho => absurd ho List.not_mem_nil⟩
  cases t.socket with
  | none => rfl
  | some n => rfl

/-- The message of a close event. -/
def CloseEvent.message (event : CloseEvent) : String :=
  if resolveGatewayServiceRestartCloseInfo event.code event.reason ≠ none then
    gatewayServiceRestartReconnectMessage
  else if event.reason.length > 0 then event.reason
  else "Sandbox websocket connection closed."

theorem handleSocketClose_returns (event : CloseEvent) (t : Transport) :
    Returns (handleSocketClose event) t fun _ t' out =>
      GivenUp event.message none t.sockets t out t' := by
  unfold handleSocketClose
  refine Returns.change (Returns.change (returns_giveUp fun u out hu => Returns.emit ?_))
  have hgiven : GivenUp event.message none t.sockets t out u :=
    hu.of_same fun _ => rfl
  refine hgiven.more (fun _ => rfl) hu.socket hu.sockets fun o ho => ?_
  rw [List.mem_singleton.mp ho]
  exact ⟨rfl, fun _ _ => TransportOutput.noConfusion⟩

theorem handleSocketError_returns (t : Transport) :
    Returns handleSocketError t fun _ t' out =>
      GivenUp "Sandbox websocket connection failed." t.socket t.sockets t out t' := by
  unfold handleSocketError
  refine Returns.change (returns_giveUp fun u out hu => Returns.emit ?_)
  have hgiven : GivenUp "Sandbox websocket connection failed." t.socket t.sockets t out u :=
    hu.of_same fun _ => rfl
  refine hgiven.more (fun _ => rfl) hu.socket hu.sockets fun o ho => ?_
  rw [List.mem_singleton.mp ho]
  exact ⟨rfl, fun _ _ => TransportOutput.noConfusion⟩

/-! ### The start of a connection -/

/-- The transport once a `connect` has failed. -/
def Transport.withoutConnect (t : Transport) (n : Nat) (error : String) : Transport :=
  { (t.updateSocket n ({ · with awaited := false })).withoutSocket n with
    socket := none
    errorMessage := some error }

theorem finishWithFailure_apply (n : Nat) (error : String) (t : Transport) :
    finishWithFailure n error t =
      if (t.sockets n).awaited then
        ⟨.ok (), t.withoutConnect n error, [.closes n none none, .connects n (.error error)]⟩
      else ⟨.ok (), t, []⟩ := by
  unfold finishWithFailure
  rw [get_bind_apply]
  cases hawaited : (t.sockets n).awaited with
  | false => rfl
  | true => rfl

/-- The transport holds a socket that is not closed. -/
def Transport.Busy (t : Transport) : Prop :=
  ∃ n, t.socket = some n ∧ (t.sockets n).readyState ≠ .closed

/-- The transport once it has made a socket. -/
def Transport.withConnect (t : Transport) : Transport :=
  { t with
    errorMessage := none
    socket := some t.nextSocket
    sockets := Function.update t.sockets t.nextSocket
      { readyState := .connecting, attached := true, awaited := true, ended := false }
    nextSocket := t.nextSocket + 1 }

theorem connect_apply_of_busy (h : t.Busy) (created : Except String Unit) :
    connect created t =
      ⟨.error "Sandbox session transport already has an active websocket.", t, []⟩ := by
  rcases h with ⟨n, hsocket, hready⟩
  have hcheck : requireNoActiveSocket t =
      ⟨.error "Sandbox session transport already has an active websocket.", t, []⟩ := by
    unfold requireNoActiveSocket
    rw [get_bind_apply, hsocket]
    exact congrFun (if_pos hready) t
  exact bind_error hcheck

/-- Otherwise `createSocket` answers first. -/
theorem connect_apply_of_not_busy (h : ¬ t.Busy) (created : Except String Unit) :
    connect created t = match created with
      | .error error => ⟨.error error, { t with errorMessage := none }, []⟩
      | .ok () => ⟨.ok (), t.withConnect, [.creates t.nextSocket]⟩ := by
  have hcheck : requireNoActiveSocket t = ⟨.ok (), t, []⟩ := by
    unfold requireNoActiveSocket
    rw [get_bind_apply]
    cases hsocket : t.socket with
    | none => rfl
    | some n => exact congrFun (if_neg fun hready => h ⟨n, hsocket, hready⟩) t
  unfold connect
  rw [bind_ok hcheck, modify_bind_apply]
  cases created with
  | error error => rfl
  | ok _ =>
      change (⟨.ok (), { t with
          errorMessage := none
          socket := some t.nextSocket
          sockets := Function.update (Function.update (Function.update t.sockets t.nextSocket _)
            t.nextSocket _) t.nextSocket _
          nextSocket := t.nextSocket + 1 }, [.creates t.nextSocket]⟩ :
        Outcome String Transport TransportOutput Unit) = _
      simp only [Function.update_idem, Function.update_self]
      rfl

end

end SessionClient

end Mistle
