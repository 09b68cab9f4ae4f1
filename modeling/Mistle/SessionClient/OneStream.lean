import Mistle.SessionClient.Outcomes

/-!
# One Stream's Side of a Step

A step of the transport concerns many streams at once: an error of the socket rejects every
open and closes every stream. What a property of one stream needs is what a step does to that
stream, and that is one of few things, whatever the step was.

## Main definitions

* `StreamStep`: What a step can do to one stream.
* `ActsOn`, `Credits`: A call does one of these.
* `TransportInput.credit`: The credit that comes with an input.

## Theorems

* `streamStep_of_steps`: Every step does one of these to every stream.
* `view_of_run`: What such steps keep, holds along every run.
-/

namespace Mistle

namespace SessionClient

open Handler SessionProtocol

/-- What a step can do to one stream, with the socket that is open, the credit that the stream is
    given in the step, and what is sent for it or told its `openStream`. -/
inductive StreamStep (id : Nat) (socket : Option Nat) :
    Nat → StreamView → List TransportOutput → StreamView → Prop
  | same (v : StreamView) : StreamStep id socket 0 v [] v
  /-- `openStream` makes the stream and asks for it. -/
  | asks {v : StreamView} {n : Nat} (channel : StreamChannel) (hsocket : socket = some n)
      (hnew : v.made = false) :
      StreamStep id socket 0 v [.sendsControl n (.streamOpen id channel)]
        { v with
          made := true, pending := true, window := some (getInitialSendWindowBytes channel) }
  /-- The open is answered, or given up. -/
  | settles {v : StreamView} (result : Except OpenFailure Unit) (hpending : v.pending = true) :
      StreamStep id socket 0 v [] { v with pending := false, settled := some result }
  /-- `openStream` goes on and succeeds. -/
  | opens {v : StreamView} (hsettled : v.settled = some (.ok ())) :
      StreamStep id socket 0 v [.opens id (.ok ())] { v with settled := none }
  /-- `openStream` goes on and fails. -/
  | givesUp {v : StreamView} (failure : OpenFailure)
      (hsettled : v.settled = some (.error failure)) :
      StreamStep id socket 0 v [.opens id (.error failure)]
        { v with settled := none, window := none }
  /-- A control message of the holder, or a grant for what came in. -/
  | sends {v : StreamView} {n w : Nat} (message : OutboundControl) (hsocket : socket = some n)
      (hwindow : v.window = some w) :
      StreamStep id socket 0 v [.sendsControl n (withStreamId message id)] v
  | pays {v : StreamView} {n w : Nat} (payload : List UInt8) (payloadKind : JsNumber)
      (encoded : List UInt8) (hsocket : socket = some n) (hwindow : v.window = some w)
      (hfits : payload.length ≤ w)
      (hencoded : encodeDataFrame (.int id) payloadKind payload = .ok encoded) :
      StreamStep id socket 0 v [.sendsBinary n encoded]
        { v with window := some (w - payload.length) }
  /-- The window was lowered, and then the frame could not be encoded. -/
  | wastes {v : StreamView} {w : Nat} (paid : Nat) (hwindow : v.window = some w)
      (hfits : paid ≤ w) (hid : ¬ (0 < id ∧ id ≤ maxStreamId)) :
      StreamStep id socket 0 v [] { v with window := some (w - paid) }
  | gains {v : StreamView} {w : Nat} (bytes : Nat) (hwindow : v.window = some w)
      (hfits : w + bytes ≤ maxStreamWindowBytes) :
      StreamStep id socket bytes v [] { v with window := some (w + bytes) }
  /-- The stream is active no longer. An open that waits may be rejected with it. -/
  | ends {v : StreamView} (pending : Bool) (settled : Option (Except OpenFailure Unit))
      (hanswer : (pending = v.pending ∧ settled = v.settled) ∨
        (v.pending = true ∧ pending = false ∧ ∃ failure, settled = some (.error failure))) :
      StreamStep id socket 0 v [] { v with pending, window := none, settled }

theorem StreamStep.to {id gained : Nat} {socket : Option Nat} {v v' w : StreamView}
    {out : List TransportOutput} (h : StreamStep id socket gained v out v') (hw : w = v') :
    StreamStep id socket gained v out w :=
  hw ▸ h

section

variable {id : Nat} {socket : Option Nat} {t : Transport} {α : Type}

/-! ### One stream's side of a call -/

/-- A call does to the stream what a step can do, and gives it no credit. -/
def ActsOn (id : Nat) (socket : Option Nat) (x : Call Unit) (t : Transport) : Prop :=
  StreamStep id socket 0 (t.view id) (about id (x t).emitted) ((x t).state.view id)

theorem actsOn_of_step {x : Call Unit} {out : List TransportOutput} {v : StreamView}
    (hstep : StreamStep id socket 0 (t.view id) out v) (hout : about id (x t).emitted = out)
    (hview : (x t).state.view id = v) : ActsOn id socket x t := by
  unfold ActsOn
  rw [hout, hview]
  exact hstep

/-- A call that leaves the stream as it is. -/
theorem actsOn_of_same {x : Call Unit} (hview : (x t).state.view id = t.view id)
    (hout : about id (x t).emitted = []) : ActsOn id socket x t :=
  actsOn_of_step (.same _) hout hview

theorem actsOn_of_spares {x : Call Unit} (h : FollowsFrom (spares (· = id)) x t) :
    ActsOn id socket x t :=
  actsOn_of_same (h.1 id rfl).1 (h.1 id rfl).2

theorem ActsOn.read {f : Transport → Call Unit} (h : ActsOn id socket (f t) t) :
    ActsOn id socket (get >>= f) t := h

theorem ActsOn.change {g : Transport → Transport} {f : Unit → Call Unit}
    (hg : (g t).view id = t.view id) (h : ActsOn id socket (f ()) (g t)) :
    ActsOn id socket (modify g >>= f) t := by
  unfold ActsOn at h ⊢
  rw [hg] at h
  exact h

/-! ### Sockets -/

theorem finishWithFailure_spares (id n : Nat) (error : String) (t : Transport) :
    (finishWithFailure n error t).state.view id = t.view id ∧
      about id (finishWithFailure n error t).emitted = [] := by
  rw [finishWithFailure_apply]
  cases (t.sockets n).awaited with
  | false => exact ⟨rfl, rfl⟩
  | true => exact ⟨rfl, rfl⟩

/-- What is left of the stream, once all are given up. -/
theorem streamStep_givenUp (message : String) (v : StreamView) :
    StreamStep id socket 0 v [] (v.givenUp message) := by
  refine .ends false _ ?_
  cases hpending : v.pending with
  | false => exact .inl ⟨rfl, rfl⟩
  | true => exact .inr ⟨rfl, rfl, _, rfl⟩

theorem actsOn_of_givenUp {x : Call Unit} {message : String} {held : Option Nat}
    {sockets : Nat → ClientSocket}
    (h : Returns x t fun _ t' out => GivenUp message held sockets t out t') :
    ActsOn id socket x t := by
  rcases h with ⟨_, t', out, hx, hgiven⟩
  refine actsOn_of_step (streamStep_givenUp message (t.view id)) ?_ ?_
  · rw [hx]
    exact hgiven.quiet id
  · rw [hx]
    exact hgiven.views id

theorem actsOn_handleSocketEvent {n : Nat} {handler : Call Unit} {error message : String}
    {held : Option Nat} {sockets : Nat → ClientSocket}
    (h : Returns handler t fun _ t' out => GivenUp message held sockets t out t') :
    ActsOn id socket (handleSocketEvent n handler error) t := by
  have hrest := finishWithFailure_spares id n error
  unfold handleSocketEvent
  refine ActsOn.read ?_
  split
  · rcases h with ⟨_, t', out, hx, hgiven⟩
    refine actsOn_of_step (streamStep_givenUp message (t.view id)) ?_ ?_
    · rw [bind_ok hx, about_append, hgiven.quiet id, (hrest t').2]
      rfl
    · rw [bind_ok hx]
      exact (hrest t').1.trans (hgiven.views id)
  · exact actsOn_of_same (hrest t).1 (hrest t).2

theorem actsOn_connect (created : Except String Unit) :
    ActsOn id socket (connect created) t := by
  by_cases hbusy : t.Busy
  · have happly := connect_apply_of_busy hbusy created
    exact actsOn_of_same (by rw [happly]) (by rw [happly]; rfl)
  · have happly := connect_apply_of_not_busy hbusy created
    cases created with
    | error error => exact actsOn_of_same (by rw [happly]; rfl) (by rw [happly]; rfl)
    | ok _ => exact actsOn_of_same (by rw [happly]; rfl) (by rw [happly]; rfl)

/-! ### Opening -/

theorem actsOn_openStream (channel : StreamChannel) :
    ActsOn id t.openSocket? (openStream channel) t := by
  unfold openStream
  refine ActsOn.read ?_
  cases hsocket : t.openSocket? with
  | none => exact actsOn_of_spares (Follows.throw _ t)
  | some n =>
      by_cases hid : t.nextStreamId = id
      · rw [← hid]
        have hnew : (t.view t.nextStreamId).made = false :=
          decide_eq_false (Nat.lt_irrefl _)
        refine actsOn_of_step (.asks channel rfl hnew) (about_singleton rfl) ?_
        ext1
        case made => exact decide_eq_true (Nat.lt_succ_self _)
        case pending => exact congrArg Option.isSome (InsertionMap.get?_set_self ..)
        case window => exact InsertionMap.get?_set_self ..
        case settled => rfl
      · have hmade : ({ t with nextStreamId := t.nextStreamId + 1 } : Transport).view id
            = t.view id := by
          ext1
          case made =>
            refine decide_eq_decide.mpr ?_
            change id < t.nextStreamId + 1 ↔ id < t.nextStreamId
            omega
          all_goals rfl
        refine ActsOn.change hmade (actsOn_of_spares ?_)
        refine Follows.bind (spares_modifyStream _ _) (fun _ => ?_) _
        refine Follows.bind (spares_setWindow (P := (· = id)) hid _) fun _ => ?_
        refine Follows.bind (spares_setPending (P := (· = id)) hid) fun _ => ?_
        exact spares_emit_about (P := (· = id)) hid rfl

theorem actsOn_settle {streamId : Nat} (result : Except OpenFailure Unit)
    (hpending : (t.pendingOpensByStreamId.get? streamId).isSome) :
    ActsOn id socket (deletePendingOpen streamId >>= fun _ => settleOpen result streamId) t := by
  by_cases hid : streamId = id
  · rw [hid] at hpending ⊢
    refine actsOn_of_step (.settles result hpending) rfl ?_
    ext1
    case pending => exact congrArg Option.isSome (InsertionMap.get?_delete_self ..)
    case settled => exact InsertionMap.get?_set_self ..
    all_goals rfl
  · exact actsOn_of_spares (spares_settle (P := (· = id)) hid result t)

theorem actsOn_handleOpenSendFailure (streamId : Nat) (error : Option String) :
    ActsOn id socket (handleOpenSendFailure streamId error) t := by
  unfold handleOpenSendFailure
  refine ActsOn.read ?_
  cases hpending : t.pendingOpensByStreamId.get? streamId with
  | none => exact actsOn_of_spares (Follows.pure () t)
  | some _ => exact actsOn_settle _ (by rw [hpending]; rfl)

/-- A change of a stream's state, and of who hears of it, leaves its view. -/
theorem setState_spares (id streamId : Nat) (state : StreamState) (errorMessage : Option String)
    (restart : Option GatewayServiceRestartCloseInfo) (t : Transport) :
    ∃ t' out, setState streamId state errorMessage restart t = ⟨.ok (), t', out⟩ ∧
      t'.view id = t.view id ∧ about id out = [] := by
  have hspares := spares_setState (P := fun _ => True) streamId state errorMessage restart t
  refine ⟨_, _, ?_, hspares.1 id trivial⟩
  rw [← setState_result streamId state errorMessage restart t]

theorem actsOn_continueOpenStream {streamId : Nat} {result : Except OpenFailure Unit}
    (hsettled : t.settledOpens.get? streamId = some result) :
    ActsOn id socket (continueOpenStream streamId result) t := by
  by_cases hid : streamId = id
  · rw [hid] at hsettled ⊢
    have hdeleted : (t.settledOpens.delete id).get? id = none :=
      InsertionMap.get?_delete_self ..
    cases result with
    | ok _ =>
        rcases setState_spares id id .opened none none
          { t with settledOpens := t.settledOpens.delete id } with ⟨t', out, hset, hview, hout⟩
        have happly : continueOpenStream id (.ok ()) t =
            ⟨.ok (), t', out ++ [.opens id (.ok ())]⟩ :=
          bind_ok (f := fun _ => (emit (TransportOutput.opens id (.ok ())) : Call Unit)) hset
        unfold ActsOn
        rw [happly, about_append, hout, List.nil_append, about_singleton rfl]
        have hstep : StreamStep id socket 0 (t.view id) _ _ := .opens hsettled
        refine hstep.to (hview.trans ?_)
        ext1
        case settled => exact hdeleted
        all_goals rfl
    | error failure =>
        refine actsOn_of_step (.givesUp failure hsettled) (about_singleton rfl) ?_
        ext1
        case settled => exact hdeleted
        case window => exact InsertionMap.get?_delete_self ..
        all_goals rfl
  · exact actsOn_of_spares (spares_continueOpenStream (P := (· = id)) hid result t)

/-! ### Sending -/

theorem actsOn_sendControlForStream (streamId : Nat) (message : OutboundControl) :
    ActsOn id t.openSocket? (sendControlForStream streamId message) t := by
  unfold sendControlForStream
  rcases requireOpenStream_cases streamId t with ⟨error, hfails⟩ | ⟨n, w, hfound, hsocket, hwindow⟩
  · have happly := bind_error (f := fun found => emit (.sendsControl found.1
      (withStreamId message streamId))) hfails
    exact actsOn_of_same (congrArg (fun outcome => outcome.state.view id) happly)
      (congrArg (fun outcome => about id outcome.emitted) happly)
  · have hbears : (TransportOutput.sendsControl n (withStreamId message streamId)).streamId?
        = some streamId := by
      cases message with
      | close => rfl
      | signal signal => rfl
      | window bytes => rfl
    unfold ActsOn
    rw [bind_ok hfound]
    by_cases hid : streamId = id
    · rw [hid] at hwindow hbears ⊢
      exact actsOn_of_step (x := emit (.sendsControl n (withStreamId message id)))
        (.sends message hsocket hwindow) (about_singleton hbears) rfl
    · exact actsOn_of_spares (spares_emit_about (P := (· = id)) hid hbears t)

theorem actsOn_sendDataFrameForStream (streamId : Nat) (payload : List UInt8)
    (payloadKind : JsNumber) :
    ActsOn id t.openSocket? (sendDataFrameForStream streamId payload payloadKind) t := by
  unfold sendDataFrameForStream
  rcases requireOpenStream_cases streamId t with ⟨error, hfails⟩ | ⟨n, w, hfound, hsocket, hwindow⟩
  · unfold ActsOn
    rw [bind_error hfails]
    exact .same _
  unfold ActsOn
  rw [bind_ok hfound]
  change ActsOn id t.openSocket? _ t
  dsimp only
  split
  · exact actsOn_of_spares (Follows.throw _ t)
  rename_i hkind
  split
  · exact actsOn_of_spares (Follows.throw _ t)
  rename_i hfits
  have hle : payload.length ≤ w := Nat.le_of_not_lt hfits
  by_cases hid : streamId = id
  · rw [hid] at hwindow ⊢
    -- The window is lowered first, whether the frame can be encoded or not.
    have hlowered : (t.activeStreamsByStreamId.set id (w - payload.length)).get? id
        = some (w - payload.length) :=
      InsertionMap.get?_set_self ..
    cases hencode : encodeDataFrame (.int id) payloadKind payload with
    | error error =>
        have hunfit := streamId_of_encodeDataFrame_error (by tauto) hencode
        refine actsOn_of_step (.wastes payload.length hwindow hle hunfit) rfl ?_
        ext1
        case window => exact hlowered
        all_goals rfl
    | ok encoded =>
        refine actsOn_of_step (.pays payload payloadKind encoded hsocket hwindow hle hencode)
          (about_singleton (streamId?_of_encodeDataFrame hencode)) ?_
        ext1
        case window => exact hlowered
        all_goals rfl
  · refine actsOn_of_spares (Follows.bind (spares_setWindow (P := (· = id)) hid _) (fun _ => ?_) t)
    cases hencode : encodeDataFrame (.int streamId) payloadKind payload with
    | error error => exact Follows.throw error
    | ok encoded =>
        exact spares_emit_about (P := (· = id)) hid (streamId?_of_encodeDataFrame hencode)

/-! ### Messages -/

/-- An active stream is taken out, and its listeners are told why. -/
theorem actsOn_end (streamId : Nat) (message : StreamControlMessage) (state : StreamState)
    (text : String) : ActsOn id socket (do
      deleteActiveStream streamId
      emitControl streamId message
      setState streamId state (some text) none) t := by
  have htold : Follows (spares fun _ => True) (do
      emitControl streamId message
      setState streamId state (some text) none : Call Unit) :=
    Follows.bind (spares_emitEvent _ _) fun _ => spares_setState _ _ _ _
  by_cases hid : streamId = id
  · rw [hid] at htold ⊢
    have hspares := (htold { t with
      activeStreamsByStreamId := t.activeStreamsByStreamId.delete id }).1 id trivial
    refine actsOn_of_step (.ends (t.view id).pending (t.view id).settled (.inl ⟨rfl, rfl⟩))
      hspares.2 (hspares.1.trans ?_)
    ext1
    case window => exact InsertionMap.get?_delete_self ..
    all_goals rfl
  · refine actsOn_of_spares
      (Follows.bind (spares_deleteActiveStream (P := (· = id)) hid) (fun _ => ?_) t)
    exact Follows.bind (spares_emitEvent _ _) fun _ => spares_setState _ _ _ _

theorem actsOn_handleOpenResult (streamId : Nat) (message : StreamControlMessage)
    (openError : Option (String × String)) :
    ActsOn id socket (handleOpenResult streamId message openError) t := by
  by_cases hid : streamId = id
  swap
  · exact actsOn_of_spares (spares_handleOpenResult (P := (· = id)) hid message openError t)
  rw [hid]
  unfold handleOpenResult
  refine ActsOn.read ?_
  cases hpending : t.pendingOpensByStreamId.get? id with
  | none => exact actsOn_of_spares (spares_emits _ t)
  | some _ =>
      have hsome : (t.pendingOpensByStreamId.get? id).isSome := by
        rw [hpending]
        rfl
      cases openError with
      | none => exact actsOn_settle _ hsome
      | some error =>
          rcases error with ⟨code, text⟩
          cases hactive : t.activeStreamsByStreamId.get? id with
          | none =>
              unfold ActsOn
              simp only [deletePendingOpen, modify_bind_apply, get_bind_apply, hactive]
              exact actsOn_settle _ hsome
          | some w =>
              rcases setState_spares id id .closed (some text) none { t with
                  pendingOpensByStreamId := t.pendingOpensByStreamId.delete id
                  activeStreamsByStreamId := t.activeStreamsByStreamId.delete id }
                with ⟨t', out, hset, hview, hout⟩
              unfold ActsOn
              simp only [deletePendingOpen, deleteActiveStream, markClosed, modify_bind_apply,
                get_bind_apply, hactive]
              rw [bind_ok hset, about_append, hout]
              refine (StreamStep.ends false (some (.error (.openError code text)))
                (.inr ⟨hsome, rfl, _, rfl⟩)).to ?_
              ext1
              case made =>
                exact Eq.trans (b := (t'.view id).made) rfl ((congrArg _ hview).trans rfl)
              case pending =>
                refine Eq.trans (b := (t'.view id).pending) rfl ((congrArg _ hview).trans ?_)
                exact congrArg Option.isSome (InsertionMap.get?_delete_self ..)
              case window =>
                refine Eq.trans (b := (t'.view id).window) rfl ((congrArg _ hview).trans ?_)
                exact InsertionMap.get?_delete_self ..
              case settled => exact InsertionMap.get?_set_self ..

/-- A control message for an active stream that brings no credit. -/
theorem actsOn_handleStreamControl (message : StreamControlMessage)
    (hother : ∀ bears bytes, message ≠ .streamWindow bears bytes) (streamId w : Nat) :
    ActsOn id socket (handleStreamControl message streamId w) t := by
  cases message with
  | streamWindow bears bytes => exact absurd rfl (hother bears bytes)
  | streamReset bears code text => exact actsOn_end ..
  | streamComplete bears => exact actsOn_end ..
  | _ => exact actsOn_of_spares (spares_emitEvent _ _ t)

theorem actsOn_handleControlMessage {message : StreamControlMessage}
    (hother : ∀ bears bytes, message ≠ .streamWindow bears bytes) :
    ActsOn id socket (handleControlMessage message) t := by
  cases message with
  | streamOpenOk bears => exact actsOn_handleOpenResult bears _ none
  | streamOpenError bears code text => exact actsOn_handleOpenResult bears _ _
  | streamWindow bears bytes => exact absurd rfl (hother bears bytes)
  | _ =>
      refine ActsOn.read ?_
      split
      · exact actsOn_of_spares (spares_emits _ t)
      · exact actsOn_handleStreamControl _ hother _ _

/-- A call gives the stream the credit that is meant for it, while the stream is active and stays
    so. -/
def Credits (id : Nat) (socket : Option Nat) (credit : Nat) (x : Call Unit) (t : Transport) :
    Prop :=
  ∃ gained, StreamStep id socket gained (t.view id) (about id (x t).emitted)
      ((x t).state.view id) ∧
    ((t.view id).window = none ∨ ((x t).state.view id).window = none ∨ gained = credit)

theorem ActsOn.credits {x : Call Unit} (h : ActsOn id socket x t) : Credits id socket 0 x t :=
  ⟨0, h, .inr (.inr rfl)⟩

theorem credits_streamWindow (bears bytes : Nat) :
    Credits id socket (if bears = id then bytes else 0)
      (handleControlMessage (.streamWindow bears bytes)) t := by
  unfold Credits
  cases hwindow : t.activeStreamsByStreamId.get? bears with
  | none =>
      have houtcome : handleControlMessage (.streamWindow bears bytes) t =
          ⟨.ok (), t, [.emits (.unhandledControl (.streamWindow bears bytes))]⟩ := by
        simp only [handleControlMessage, get_bind_apply, StreamControlMessage.streamId, hwindow]
        rfl
      rw [houtcome]
      refine ⟨0, .same _, ?_⟩
      by_cases hid : bears = id
      · exact .inl (hid ▸ hwindow)
      · exact .inr (.inr (if_neg hid).symm)
  | some w =>
      have houtcome : handleControlMessage (.streamWindow bears bytes) t =
          handleStreamControl (.streamWindow bears bytes) bears w t := by
        simp only [handleControlMessage, get_bind_apply, StreamControlMessage.streamId, hwindow]
      rw [houtcome, handleStreamControl]
      split
      · -- Too much credit ends the connection.
        have hclosed := closeTransportWithError_returns
          ("Sandbox session stream send window exceeds the configured " ++
            s!"maximum of {maxStreamWindowBytes} bytes.") t
        refine ⟨0, actsOn_of_givenUp hclosed, .inr (.inl ?_)⟩
        rcases hclosed with ⟨_, t', out, hx, hgiven⟩
        rw [hx]
        exact congrArg StreamView.window (hgiven.views id)
      rename_i hfits
      by_cases hid : bears = id
      · rw [hid] at hwindow ⊢
        rw [if_pos rfl]
        have htold := (spares_emitEvent (P := fun _ => True) id
          (.control (.streamWindow id bytes)) { t with
            activeStreamsByStreamId := t.activeStreamsByStreamId.set id (w + bytes) }).1 id trivial
        refine ⟨bytes, ?_, .inr (.inr rfl)⟩
        have hstep : StreamStep id socket bytes (t.view id) [] _ :=
          .gains bytes hwindow (Nat.le_of_not_lt hfits)
        rw [modify_bind_apply, emitControl, htold.2]
        refine hstep.to (htold.1.trans ?_)
        ext1
        case window => exact InsertionMap.get?_set_self ..
        all_goals rfl
      · have hspares := Follows.bind (spares_setWindow (P := (· = id)) hid (w + bytes))
          (fun _ => spares_emitEvent bears (.control (.streamWindow bears bytes))) t
        exact ⟨0, actsOn_of_spares hspares, .inr (.inr (if_neg hid).symm)⟩

theorem actsOn_handleSocketMessage {inbound : Inbound}
    (hother : ∀ bears bytes, inbound ≠ .control (.streamWindow bears bytes)) :
    ActsOn id t.openSocket? (handleSocketMessage inbound) t := by
  cases inbound with
  | control message =>
      exact actsOn_handleControlMessage fun bears bytes heq => hother bears bytes (heq ▸ rfl)
  | otherControl text => exact actsOn_of_spares (spares_emits _ t)
  | invalidText => exact actsOn_of_givenUp (closeTransportWithError_returns _ t)
  | unsupported => exact actsOn_of_givenUp (closeTransportWithError_returns _ t)
  | binary encoded =>
      rw [handleSocketMessage]
      cases decodeDataFrame encoded with
      | error error => exact actsOn_of_givenUp (closeTransportWithError_returns error t)
      | ok frame =>
          refine ActsOn.read ?_
          cases hactive : t.activeStreamsByStreamId.get? frame.streamId with
          | none => exact actsOn_of_spares (spares_emits _ t)
          | some w =>
              rcases sendReceiveWindowUpdate_apply frame.streamId frame.payload.length t with
                ⟨inFlight, grant, hupdate, hgrant⟩
              have htold := (spares_emitEvent (P := fun _ => True) frame.streamId (.data frame)
                { t with grantsInFlight := inFlight }).1 id trivial
              have happly := bind_ok (f := fun _ => emitData frame.streamId frame) hupdate
              have hview : ((sendReceiveWindowUpdate frame.streamId frame.payload.length >>=
                  fun _ => emitData frame.streamId frame) t).state.view id = t.view id := by
                rw [happly]
                exact htold.1
              have hout : about id ((sendReceiveWindowUpdate frame.streamId frame.payload.length >>=
                  fun _ => emitData frame.streamId frame) t).emitted = about id grant := by
                rw [happly, about_append]
                exact (congrArg _ htold.2).trans (List.append_nil _)
              rcases hgrant with hnone | ⟨n, hsocket, hsome⟩
              · rw [hnone] at hout
                exact actsOn_of_same hview hout
              · rw [hsome] at hout
                by_cases hid : frame.streamId = id
                · subst hid
                  exact actsOn_of_step (.sends (.window frame.payload.length) hsocket hactive)
                    (hout.trans (about_singleton rfl)) hview
                · refine actsOn_of_same hview (hout.trans (about_singleton_of_ne fun heq => hid ?_))
                  exact Option.some.inj heq

/-! ### Steps -/

/-- The credit that comes for a stream with an input. -/
def TransportInput.credit (id : Nat) : TransportInput → Nat
  | .receives _ (.control (.streamWindow bears bytes)) => if bears = id then bytes else 0
  | _ => 0

theorem credits_receives (n : Nat) (inbound : Inbound) :
    Credits id t.openSocket? (TransportInput.credit id (.receives n inbound))
      (handleSocketMessage inbound) t := by
  cases inbound with
  | control message =>
      cases message with
      | streamWindow bears bytes => exact credits_streamWindow bears bytes
      | _ => exact (actsOn_handleSocketMessage
          (by simp only [ne_eq, Inbound.control.injEq, reduceCtorEq, not_false_eq_true,
            implies_true])).credits
  | _ => exact (actsOn_handleSocketMessage
      (by simp only [ne_eq, reduceCtorEq, not_false_eq_true, implies_true])).credits

theorem actsOn_react {input : TransportInput} (hallowed : t.allows input = true)
    (hother : ∀ n inbound, input ≠ .receives n inbound) :
    ActsOn id t.openSocket? (react input) t := by
  cases input with
  | connect created => exact actsOn_connect created
  | disconnect closeCode reason => exact actsOn_of_givenUp (disconnect_returns closeCode reason t)
  | openStream channel => exact actsOn_openStream channel
  | sendTextMessage payload => exact actsOn_of_spares (spares_sendTextMessage payload t)
  | sendControl streamId message => exact actsOn_sendControlForStream streamId message
  | sendDataFrame streamId payload payloadKind =>
      exact actsOn_sendDataFrameForStream streamId payload payloadKind
  | listens streamId listener => exact actsOn_of_spares (spares_listen streamId listener t)
  | unlistens streamId listener => exact actsOn_of_spares (spares_modifyStream _ _ t)
  | disposes streamId => exact actsOn_of_spares (spares_modifyStream _ _ t)
  | socketOpens n =>
      refine ActsOn.change rfl (ActsOn.read ?_)
      split
      · exact actsOn_of_same rfl rfl
      · exact actsOn_of_same rfl rfl
  | socketCloseBegins n => exact actsOn_of_same rfl rfl
  | socketErrors n isClosed =>
      exact ActsOn.change rfl (actsOn_handleSocketEvent (handleSocketError_returns _))
  | socketCloses n event =>
      exact ActsOn.change rfl (actsOn_handleSocketEvent (handleSocketClose_returns event _))
  | receives n inbound => exact absurd rfl (hother n inbound)
  | connectTimesOut n =>
      have hspares := finishWithFailure_spares id n "Sandbox websocket connection timed out." t
      exact actsOn_of_same hspares.1 hspares.2
  | openTimesOut streamId =>
      exact actsOn_settle _ (InsertionMap.isSome_get?_iff.mpr (InsertionMap.has_iff.mp hallowed))
  | openSendFails streamId error => exact actsOn_handleOpenSendFailure streamId error
  | grantSent => exact actsOn_of_same rfl rfl
  | grantSendFails =>
      exact ActsOn.change rfl (actsOn_of_givenUp (closeTransportWithError_returns _ _))
  | openStreamGoesOn streamId =>
      refine ActsOn.read ?_
      cases hsettled : t.settledOpens.get? streamId with
      | none => exact actsOn_of_spares (Follows.pure () t)
      | some result => exact actsOn_continueOpenStream hsettled

/-- Every call does one of these to every stream, on the socket that is open. -/
theorem credits_react (id : Nat) {input : TransportInput} (hallowed : t.allows input = true) :
    Credits id t.openSocket? (input.credit id) (react input) t := by
  cases input with
  | receives n inbound => exact credits_receives n inbound
  | _ => exact (actsOn_react hallowed
      (by simp only [ne_eq, reduceCtorEq, not_false_eq_true, implies_true])).credits

/-- Every step does one of these to every stream, on the socket that was open. The credit that comes
    with an input is what an active stream is given, unless the stream ends with the step. -/
theorem streamStep_of_steps {input : TransportInput} {out : List TransportOutput} {t' : Transport}
    (h : Steps t input out t') :
    ∃ gained, StreamStep id t.openSocket? gained (t.view id) (about id out) (t'.view id) ∧
      ((t.view id).window = none ∨ (t'.view id).window = none ∨ gained = input.credit id) := by
  rcases steps_cases h with ⟨hallowed, ht', hout⟩
  have hcredits := credits_react id hallowed
  unfold Credits at hcredits
  rw [ht'] at hcredits
  rcases hout with hok | ⟨error, herror⟩
  · rw [hok]
    exact hcredits
  · rw [herror, about_append]
    exact (List.append_nil _).symm ▸ hcredits

/-- What a step of a stream keeps, holds along every run. -/
theorem view_of_run {P : List TransportOutput → StreamView → Prop}
    (hinit : P [] (Transport.new.view id))
    (hstep : ∀ out socket gained v more v', P out v → StreamStep id socket gained v more v' →
      P (out ++ more) v')
    {trace : List (Entry TransportInput TransportOutput)} (run : Run Steps .new trace t) :
    P (about id (outputs trace)) (t.view id) := by
  refine run.history (P := fun trace t => P (about id (outputs trace)) (t.view id)) hinit ?_
  intro trace a input out b _ hP h
  rcases streamStep_of_steps h with ⟨gained, hacts, _⟩
  rw [outputs_append, outputs_singleton, about_append]
  exact hstep _ _ gained _ _ _ hP hacts

end

end SessionClient

end Mistle
