import Mistle.Control.ActivationState
import Mistle.Lib.Turns

/-!
# The Control Server

Two threads serve connections one at a time, each in a loop that looks for a shutdown
signal before it looks for a connection. What a client sends is answered, and an error
of a request is an answer too. But the answer has to be written, and the head of a health
request has to be read, and where that fails the loop returns: so a client that is gone at
that moment takes the thread with it.

The teardown begins by signalling the threads. A thread that has ended has dropped its
end of the channel, so the signal cannot be sent and the teardown returns there, before
it comes to the sandbox state.

A lock is poisoned when a thread panics while it holds it. The loops find that at their
locks, each turn saying whether it does.

## Main definitions

* `controlTurn`, `healthTurn`: One turn of each loop.
* `ControlServer.close`, `ControlServer.wait`: The teardown.
* `ControlConnection.Taken`, `HealthConnection.Taken`: Connections that are not given up
  by their client.

## Theorems

* `shutdownAfterActivation_iff`: The control loop is to end exactly if a snapshot
  activation succeeded.
* `controlLoop_iff`, `healthLoop_iff`: When the loops end only for their reasons.
* `close_iff`, `wait_iff`: When the teardown closes the sandbox state.
* `clients_iff`: All of them.
-/

namespace Mistle

namespace Control

/-- What a listener gives when it is asked for a connection. -/
inductive Accept (Connection : Type) where
  | connection (stream : Connection)
  | wouldBlock
  | failed (error : String)

/-! ### The control loop -/

/-- A connection to the control socket: what its client sends, up to the end of what it
    sends if that comes, and what the calls on it come to. -/
structure ControlConnection where
  configure : Except String Unit := .ok ()
  verifyPeer : Except String Unit := .ok ()
  read : Option (Except String (List UInt8))
  outcomes : Outcomes := {}
  write : Except String Unit := .ok ()

structure ControlTurn where
  signal : Bool := false
  poisoned : Bool := false
  accept : Accept ControlConnection

section ControlLoop

variable {Plan : Type} [DecidableEq Plan] (parse : List UInt8 → Except String (ControlRequest Plan))

def ControlResponse.ofError (error : ControlError) : ControlResponse :=
  ⟨false, some error.toString, none⟩

/-- Answer a connection. A request that its client does not end is waited for. -/
def handleConnection (stream : ControlConnection) (s : ControlServerState Plan) :
    Option (ControlResponse × ControlServerState Plan) :=
  match stream.verifyPeer with
  | .error error => some (.ofError (.verifyPeer error), s)
  | .ok () =>
    match stream.read with
    | none => none
    | some (.error error) => some (.ofError (.readRequest error), s)
    | some (.ok rawRequest) =>
      match parse rawRequest with
      | .error error => some (.ofError (.invalidRequest error), s)
      | .ok request =>
        let served := handleRequest stream.outcomes request s
        match served.result with
        | .ok response => some (response, served.state)
        | .error error => some (.ofError error, served.state)

/-- One turn of `run_control_server_loop`. -/
def controlTurn (s : ControlServerState Plan) (turn : ControlTurn) :
    ControlServerState Plan × TurnEnd (Except ControlError Unit) :=
  if turn.signal = true then (s, .returned (.ok ()))
  else if turn.poisoned = true then (s, .returned (.error .controlStateLockPoisoned))
  else if s.shutdownAfterActivation = true then (s, .returned (.ok ()))
  else
    match turn.accept with
    | .connection stream =>
      match stream.configure with
      | .error error => (s, .returned (.error (.configureConnection error)))
      | .ok () =>
        match handleConnection parse stream s with
        | none => (s, .blocked)
        | some (_, s') =>
          match stream.write with
          | .error error => (s', .returned (.error (.writeResponse error)))
          | .ok () => (s', .continues)
    | .wouldBlock => (s, .continues)
    | .failed error => (s, .returned (.error (.acceptConnection error)))

/-- A connection that can be configured and, if its request comes to an end, takes the
    response. -/
structure ControlConnection.Taken (stream : ControlConnection) : Prop where
  configured : stream.configure = .ok ()
  written : (stream.verifyPeer = .ok () → stream.read ≠ none) → stream.write = .ok ()

/-- Behind the turns the daemon was initialised by a snapshot activation. -/
def SnapshotActivated (s : ControlServerState Plan) (turns : List ControlTurn) : Prop :=
  ∃ before turn after stream rawRequest input, turns = before ++ turn :: after ∧
    turn.accept = .connection stream ∧ stream.verifyPeer = .ok () ∧
    stream.read = some (.ok rawRequest) ∧ parse rawRequest = .ok (.activate input) ∧
    input.operationKind = .snapshot ∧
    (loopTurns (controlTurn parse) before s).1.activationPhase = .unactivated ∧
    (handleRequest stream.outcomes (.activate input)
      (loopTurns (controlTurn parse) before s).1).result = .ok ⟨true, none, none⟩

variable {parse}

/-- A request that is read is served, and answered whatever comes of it. -/
theorem handleConnection_request {stream : ControlConnection} {s : ControlServerState Plan}
    {rawRequest : List UInt8} {request : ControlRequest Plan} (hpeer : stream.verifyPeer = .ok ())
    (hread : stream.read = some (.ok rawRequest)) (hparse : parse rawRequest = .ok request) :
    ∃ response, handleConnection parse stream s =
      some (response, (handleRequest stream.outcomes request s).state) := by
  unfold handleConnection
  simp only [hpeer, hread, hparse]
  rcases (handleRequest stream.outcomes request s).result with error | response
  · exact ⟨_, rfl⟩
  · exact ⟨_, rfl⟩

/-- What a connection comes to: it waits for its client, or it is answered, and then the
    state has served the request that was read or is the state before. -/
theorem handleConnection_cases (stream : ControlConnection) (s : ControlServerState Plan) :
    (handleConnection parse stream s = none ∧ stream.verifyPeer = .ok () ∧ stream.read = none) ∨
    (stream.verifyPeer = .ok () → stream.read ≠ none) ∧ ∃ response t,
      handleConnection parse stream s = some (response, t) ∧ (t = s ∨ ∃ rawRequest request,
        stream.verifyPeer = .ok () ∧ stream.read = some (.ok rawRequest) ∧
        parse rawRequest = .ok request ∧
        t = (handleRequest stream.outcomes request s).state) := by
  cases hpeer : stream.verifyPeer with
  | error error =>
    refine .inr ⟨fun h => (nomatch h), .ofError (.verifyPeer error), s, ?_, .inl rfl⟩
    simp only [handleConnection, hpeer]
  | ok _ =>
    cases hread : stream.read with
    | none =>
      refine .inl ⟨?_, rfl, rfl⟩
      simp only [handleConnection, hpeer, hread]
    | some result =>
      refine .inr ⟨fun _ h => (Option.some_ne_none _ h).elim, ?_⟩
      cases result with
      | error error =>
        refine ⟨.ofError (.readRequest error), s, ?_, .inl rfl⟩
        simp only [handleConnection, hpeer, hread]
      | ok rawRequest =>
        cases hparse : parse rawRequest with
        | error error =>
          refine ⟨.ofError (.invalidRequest error), s, ?_, .inl rfl⟩
          simp only [handleConnection, hpeer, hread, hparse]
        | ok request =>
          rcases handleConnection_request (s := s) hpeer hread hparse with ⟨response, hserved⟩
          exact ⟨response, _, hserved, .inr ⟨rawRequest, request, rfl, rfl, hparse, rfl⟩⟩

/-- A turn that comes to its listener. -/
theorem controlTurn_listens {s : ControlServerState Plan} {turn : ControlTurn}
    (hsignal : turn.signal = false) (hpoisoned : turn.poisoned = false)
    (hshutdown : s.shutdownAfterActivation = false) :
    controlTurn parse s turn =
      match turn.accept with
      | .connection stream =>
        match stream.configure with
        | .error error => (s, .returned (.error (.configureConnection error)))
        | .ok () =>
          match handleConnection parse stream s with
          | none => (s, .blocked)
          | some (_, s') =>
            match stream.write with
            | .error error => (s', .returned (.error (.writeResponse error)))
            | .ok () => (s', .continues)
      | .wouldBlock => (s, .continues)
      | .failed error => (s, .returned (.error (.acceptConnection error))) := by
  simp only [controlTurn, hsignal, hpoisoned, hshutdown, Bool.false_eq_true, if_false]

/-- A turn that goes on came to its listener. -/
theorem controlTurn_continues {s t : ControlServerState Plan} {turn : ControlTurn}
    (h : controlTurn parse s turn = (t, .continues)) :
    turn.signal = false ∧ turn.poisoned = false ∧ s.shutdownAfterActivation = false := by
  unfold controlTurn at h
  cases hsignal : turn.signal with
  | true =>
    rw [hsignal, if_pos rfl] at h
    exact nomatch (Prod.mk.inj h).2
  | false =>
    cases hpoisoned : turn.poisoned with
    | true =>
      rw [hsignal, hpoisoned, if_neg nofun, if_pos rfl] at h
      exact nomatch (Prod.mk.inj h).2
    | false =>
      cases hshutdown : s.shutdownAfterActivation with
      | true =>
        rw [hsignal, hpoisoned, hshutdown, if_neg nofun, if_neg nofun, if_pos rfl] at h
        exact nomatch (Prod.mk.inj h).2
      | false => exact ⟨rfl, rfl, rfl⟩

/-- The state behind a turn that goes on: a request was served, or it is the state before. -/
theorem controlTurn_state {s t : ControlServerState Plan} {turn : ControlTurn}
    (h : controlTurn parse s turn = (t, .continues)) :
    t = s ∨ ∃ stream rawRequest request, turn.accept = .connection stream ∧
      stream.verifyPeer = .ok () ∧ stream.read = some (.ok rawRequest) ∧
      parse rawRequest = .ok request ∧ t = (handleRequest stream.outcomes request s).state := by
  rcases controlTurn_continues h with ⟨hsignal, hpoisoned, hshutdown⟩
  rw [controlTurn_listens hsignal hpoisoned hshutdown] at h
  cases haccept : turn.accept with
  | wouldBlock =>
    rw [haccept] at h
    exact .inl (Prod.mk.inj h).1.symm
  | failed error =>
    rw [haccept] at h
    exact nomatch (Prod.mk.inj h).2
  | connection stream =>
    rw [haccept] at h
    dsimp only at h
    rcases hconfigure : stream.configure with error | _
    · rw [hconfigure] at h
      exact nomatch (Prod.mk.inj h).2
    · rw [hconfigure] at h
      rcases @handleConnection_cases _ _ parse stream s with
        ⟨hnone, _⟩ | ⟨_, response, s', hsome, hserved⟩
      · rw [hnone] at h
        exact nomatch (Prod.mk.inj h).2
      · rw [hsome] at h
        dsimp only at h
        rcases hwrite : stream.write with error | _
        · rw [hwrite] at h
          exact nomatch (Prod.mk.inj h).2
        · rw [hwrite] at h
          rw [← (Prod.mk.inj h).1]
          rcases hserved with hsame | ⟨rawRequest, request, hpeer, hread, hparse, hstate⟩
          · exact .inl hsame
          · exact .inr ⟨stream, rawRequest, request, rfl, hpeer, hread, hparse, hstate⟩

/-- A request served by a daemon that is not to end makes it one that is, exactly if it
    initialises the daemon by a snapshot activation. -/
theorem serve_shutdownAfterActivation {s : ControlServerState Plan} (hs : Settled s)
    (hshutdown : s.shutdownAfterActivation = false) (outcomes : Outcomes)
    (request : ControlRequest Plan) :
    (handleRequest outcomes request s).state.shutdownAfterActivation = true ↔
      ∃ input, request = .activate input ∧ input.operationKind = .snapshot ∧
        s.activationPhase = .unactivated ∧
        (handleRequest outcomes (.activate input) s).result = .ok ⟨true, none, none⟩ := by
  have hkept : ∀ t : ControlServerState Plan, t.shutdownAfterActivation = false →
      ¬ t.shutdownAfterActivation = true := fun t ht h => nomatch ht.symm.trans h
  cases request with
  | ready => exact ⟨fun h => absurd h (hkept s hshutdown), fun ⟨_, h, _⟩ => nomatch h⟩
  | refreshEgressRoutes =>
    rw [handleRequest_refreshEgressRoutes_state]
    exact ⟨fun h => absurd h (hkept s hshutdown), fun ⟨_, h, _⟩ => nomatch h⟩
  | sign signRequest =>
    rw [handleRequest_sign_state]
    exact ⟨fun h => absurd h (hkept s hshutdown), fun ⟨_, h, _⟩ => nomatch h⟩
  | shutdown =>
    refine ⟨fun h => ?_, fun ⟨_, h, _⟩ => nomatch h⟩
    rcases @Settled.shutdown _ _ outcomes _ hs with hstate | ⟨error, hstate⟩ <;>
    · rw [hstate] at h
      exact absurd h (hkept s hshutdown)
  | activate input =>
    have hactivated : Activated outcomes input s _ := hs.activated
    generalize hserved : handleRequest outcomes (.activate input) s = served at hactivated ⊢
    cases hactivated with
    | initialized hphase hnew =>
      refine ⟨fun h => ⟨input, rfl, of_decide_eq_true h, hphase, by rw [hserved]⟩, ?_⟩
      rintro ⟨other, hother, hkind, _⟩
      rw [ControlRequest.activate.inj hother]
      exact decide_eq_true hkind
    | notInitialized hphase hnew =>
      refine ⟨fun h => absurd h (hkept s hshutdown), ?_⟩
      rintro ⟨other, hother, _, _, hok⟩
      rw [← ControlRequest.activate.inj hother, hserved] at hok
      exact nomatch hok
    | recorded hphase _ =>
      exact ⟨fun h => absurd h (hkept s hshutdown),
        fun ⟨_, _, _, hother, _⟩ => nomatch hphase.symm.trans hother⟩
    | refreshed hphase _ _ _ =>
      exact ⟨fun h => absurd h (hkept s hshutdown),
        fun ⟨_, _, _, hother, _⟩ => nomatch hphase.symm.trans hother⟩
    | notRefreshed hphase _ _ =>
      exact ⟨fun h => absurd h (hkept s hshutdown),
        fun ⟨_, _, _, hother, _⟩ => nomatch hphase.symm.trans hother⟩
    | rejected =>
      refine ⟨fun h => absurd h (hkept s hshutdown), ?_⟩
      rintro ⟨other, hother, _, _, hok⟩
      rw [← ControlRequest.activate.inj hother, hserved] at hok
      exact nomatch hok

/-- A turn that serves a request and goes on. -/
theorem controlTurn_request {s t : ControlServerState Plan} {turn : ControlTurn}
    (h : controlTurn parse s turn = (t, .continues)) {stream : ControlConnection}
    {rawRequest : List UInt8} {request : ControlRequest Plan}
    (haccept : turn.accept = .connection stream) (hpeer : stream.verifyPeer = .ok ())
    (hread : stream.read = some (.ok rawRequest)) (hparse : parse rawRequest = .ok request) :
    t = (handleRequest stream.outcomes request s).state := by
  rcases controlTurn_state h with
    _ | ⟨stream', rawRequest', request', haccept', _, hread', hparse', ht⟩
  · rcases controlTurn_continues h with ⟨hsignal, hpoisoned, hshutdown⟩
    rcases handleConnection_request (s := s) hpeer hread hparse with ⟨response, hserved⟩
    rw [controlTurn_listens hsignal hpoisoned hshutdown, haccept] at h
    dsimp only at h
    rcases hconfigure : stream.configure with error | _
    · rw [hconfigure] at h
      exact nomatch (Prod.mk.inj h).2
    · rw [hconfigure, hserved] at h
      dsimp only at h
      rcases hwrite : stream.write with error | _
      · rw [hwrite] at h
        exact nomatch (Prod.mk.inj h).2
      · rw [hwrite] at h
        exact (Prod.mk.inj h).1.symm
  · rw [haccept', Accept.connection.injEq] at haccept
    rw [haccept, hread, Option.some.injEq, Except.ok.injEq] at hread'
    rw [← hread', hparse, Except.ok.injEq] at hparse'
    rw [ht, haccept, hparse']

/-- The loop is to end exactly if the daemon was initialised by a snapshot activation. -/
theorem shutdownAfterActivation_iff {s : ControlServerState Plan} (hs : Settled s)
    (hshutdown : s.shutdownAfterActivation = false) (turns : List ControlTurn)
    (h : (loopTurns (controlTurn parse) turns s).2 = .continues) :
    Settled (loopTurns (controlTurn parse) turns s).1 ∧
      ((loopTurns (controlTurn parse) turns s).1.shutdownAfterActivation = true ↔
        SnapshotActivated parse s turns) := by
  refine @loopTurns_invariant _ _ _ (controlTurn parse) s
    (fun turns a => Settled a ∧
      (a.shutdownAfterActivation = true ↔ SnapshotActivated parse s turns)) ?_ ?_ turns h
  · refine ⟨hs, fun htrue => (nomatch hshutdown.symm.trans htrue), ?_⟩
    rintro ⟨before, turn, after, _, _, _, hnil, _⟩
    exact absurd hnil.symm (List.append_ne_nil_of_right_ne_nil _ (List.cons_ne_nil _ _))
  · rintro before turn a b hbefore ha ⟨hsettled, hiff⟩ hturn
    have hfalse := (controlTurn_continues hturn).2.2
    refine ⟨?_, ?_, ?_⟩
    · rcases controlTurn_state hturn with rfl | ⟨stream, _, request, _, _, _, _, rfl⟩
      · exact hsettled
      · exact hsettled.serve request
    · intro htrue
      rcases controlTurn_state hturn with
        hsame | ⟨stream, rawRequest, request, haccept, hpeer, hread, hparse, hstate⟩
      · rw [hsame] at htrue
        exact nomatch hfalse.symm.trans htrue
      · rw [hstate, serve_shutdownAfterActivation hsettled hfalse] at htrue
        rcases htrue with ⟨input, hinput, hkind, hphase, hok⟩
        rw [hinput] at hparse
        rw [← ha] at hphase hok
        exact ⟨before, turn, [], stream, rawRequest, input, rfl, haccept, hpeer, hread, hparse, hkind,
          hphase, hok⟩
    · rintro ⟨first, turn', after, stream, rawRequest, input, hsplit, haccept, hpeer, hread, hparse,
        hkind, hphase, hok⟩
      rcases snoc_eq_split hsplit with ⟨_, hfirst, hlast⟩ | ⟨init, _, hinit⟩
      · rw [← hlast] at haccept
        rw [← hfirst, ha] at hphase hok
        rw [controlTurn_request hturn haccept hpeer hread hparse,
          serve_shutdownAfterActivation hsettled hfalse]
        exact ⟨input, rfl, hkind, hphase, hok⟩
      · -- An earlier snapshot activation would have ended the loop before this turn.
        have hearlier := hiff.mpr ⟨first, turn', init, stream, rawRequest, input, hinit, haccept,
          hpeer, hread, hparse, hkind, hphase, hok⟩
        exact nomatch hfalse.symm.trans hearlier

/-- The loop returns only when it is signalled, after a snapshot activation, or with an
    error of its listener. -/
def ControlLoopEnds (parse : List UInt8 → Except String (ControlRequest Plan))
    (s : ControlServerState Plan) (turns : List ControlTurn) : Prop :=
  EachTurn (controlTurn parse) s turns fun before a turn => ∀ result,
    (controlTurn parse a turn).2 = .returned result →
      turn.signal = true ∨ SnapshotActivated parse s before ∨
        ∃ error, turn.accept = .failed error ∧ result = .error (.acceptConnection error)

/-- Until the loop is to end, no lock is poisoned and every connection is taken. -/
def ControlClientsTake (parse : List UInt8 → Except String (ControlRequest Plan))
    (s : ControlServerState Plan) (turns : List ControlTurn) : Prop :=
  EachTurn (controlTurn parse) s turns fun _ a turn =>
    turn.signal = false → a.shutdownAfterActivation = false →
      turn.poisoned = false ∧ ∀ stream, turn.accept = .connection stream → stream.Taken

/-- The connection of a turn ends the loop exactly if it is not taken. -/
theorem taken_iff {s : ControlServerState Plan} {turn : ControlTurn} {stream : ControlConnection}
    (hsignal : turn.signal = false) (hpoisoned : turn.poisoned = false)
    (hshutdown : s.shutdownAfterActivation = false) (haccept : turn.accept = .connection stream) :
    stream.Taken ↔ ∀ result, (controlTurn parse s turn).2 ≠ .returned result := by
  rw [controlTurn_listens hsignal hpoisoned hshutdown, haccept]
  dsimp only
  rcases hconfigure : stream.configure with error | _
  · exact ⟨fun h => (nomatch hconfigure.symm.trans h.configured), fun h => absurd rfl (h _)⟩
  · rcases @handleConnection_cases _ _ parse stream s with
      ⟨hnone, hpeer, hread⟩ | ⟨hends, response, t, hsome, _⟩
    · rw [hnone]
      exact ⟨fun _ _ h => (nomatch h), fun _ => ⟨hconfigure, fun h => absurd hread (h hpeer)⟩⟩
    · rw [hsome]
      dsimp only
      rcases hwrite : stream.write with error | _
      · exact ⟨fun h => (nomatch hwrite.symm.trans (h.written hends)), fun h => absurd rfl (h _)⟩
      · exact ⟨fun _ _ h => (nomatch h), fun _ => ⟨hconfigure, fun _ => hwrite⟩⟩

/-- The control loop returns only for its reasons exactly if its clients take what they
    are sent. -/
theorem controlLoop_iff {s : ControlServerState Plan} (hs : Settled s)
    (hshutdown : s.shutdownAfterActivation = false) (turns : List ControlTurn) :
    ControlLoopEnds parse s turns ↔ ControlClientsTake parse s turns := by
  refine EachTurn.congr fun before turn hbefore => ?_
  have hiff := (shutdownAfterActivation_iff hs hshutdown before hbefore).2
  generalize (loopTurns (controlTurn parse) before s).1 = a at hiff ⊢
  cases hsignal : turn.signal with
  | true => exact ⟨fun _ h => (nomatch h), fun _ _ _ => .inl rfl⟩
  | false =>
    cases hflag : a.shutdownAfterActivation with
    | true => exact ⟨fun _ _ h => (nomatch h), fun _ _ _ => .inr (.inl (hiff.mp hflag))⟩
    | false =>
      have hnot : ¬ SnapshotActivated parse s before :=
        fun h => nomatch hflag.symm.trans (hiff.mpr h)
      constructor
      · intro hends _ _
        have hpoisoned : turn.poisoned = false := by
          by_contra hpoisoned
          have hturn : (controlTurn parse a turn).2 =
              .returned (.error .controlStateLockPoisoned) := by
            rw [Bool.not_eq_false] at hpoisoned
            simp only [controlTurn, hsignal, hpoisoned, Bool.false_eq_true, if_false, if_true]
          rcases hends _ hturn with h | h | ⟨_, _, h⟩
          · exact nomatch h
          · exact hnot h
          · exact nomatch h
        refine ⟨hpoisoned, fun stream haccept => ?_⟩
        rw [taken_iff hsignal hpoisoned hflag haccept]
        intro result hturn
        rcases hends result hturn with h | h | ⟨_, h, _⟩
        · exact nomatch h
        · exact hnot h
        · exact nomatch haccept.symm.trans h
      · intro htakes result hturn
        rcases htakes rfl rfl with ⟨hpoisoned, htaken⟩
        cases haccept : turn.accept with
        | connection stream =>
          exact absurd hturn ((taken_iff hsignal hpoisoned hflag haccept).mp
            (htaken stream haccept) result)
        | wouldBlock =>
          rw [controlTurn_listens hsignal hpoisoned hflag, haccept] at hturn
          exact nomatch hturn
        | failed error =>
          rw [controlTurn_listens hsignal hpoisoned hflag, haccept] at hturn
          exact .inr (.inr ⟨error, rfl, (TurnEnd.returned.inj hturn).symm⟩)

end ControlLoop

/-! ### The health loop -/

/-- A connection to the health endpoint: what its reads give, what the health response
    comes to as bytes, and what the other calls come to. -/
structure HealthConnection where
  configure : Except String Unit := .ok ()
  reads : List (Except String (List UInt8))
  healthResponse : Except String (List UInt8) := .ok []
  write : Except String Unit := .ok ()

structure HealthTurn where
  signal : Bool := false
  poisoned : Bool := false
  accept : Accept HealthConnection

structure HttpResponse where
  statusCode : Nat
  body : List UInt8
  deriving DecidableEq

/-- `read_http_request_head`: up to a blank line, the end of what the client sends or a
    bound. -/
def readHttpRequestHead :
    List (Except String (List UInt8)) → List UInt8 → Option (Except ControlError (List UInt8))
  | [], _ => none
  | .error error :: _, _ => some (.error (.readHealthRequest error))
  | .ok chunk :: rest, rawRequest =>
    if chunk = [] then some (.ok rawRequest)
    else if [13, 10, 13, 10] <:+: rawRequest ++ chunk then some (.ok (rawRequest ++ chunk))
    else if (rawRequest ++ chunk).length > 16 * 1024 then some (.ok (rawRequest ++ chunk))
    else readHttpRequestHead rest (rawRequest ++ chunk)

/-- `str::lines().next()`: a line break may begin with a carriage return. -/
def firstLine (text : List Char) : List Char :=
  let line := text.takeWhile (· ≠ '\n')
  if line.length < text.length ∧ line.getLast? = some '\r' then line.dropLast else line

/-- The characters that the language takes as white space. -/
def isWhitespace (c : Char) : Bool :=
  (9 ≤ c.toNat && c.toNat ≤ 13) || (0x2000 ≤ c.toNat && c.toNat ≤ 0x200A) ||
    c.toNat ∈ [0x20, 0x85, 0xA0, 0x1680, 0x2028, 0x2029, 0x202F, 0x205F, 0x3000]

/-- `str::split_whitespace`. -/
def splitWhitespace (text : List Char) : List (List Char) :=
  (text.splitOnP isWhitespace).filter (· ≠ [])

def parseHttpRequestLine (requestLine : List Char) : Option (List Char × List Char) :=
  match splitWhitespace requestLine with
  | method :: path :: _ :: _ => some (method, path)
  | _ => none

def isHealthRequest (requestHead : List Char) : Bool :=
  parseHttpRequestLine (firstLine requestHead) = some ("GET".toList, "/__healthz".toList)

/-- Answer a health request, with the text of its head. -/
def healthAnswer (poisoned : Bool) (healthResponse : Except String (List UInt8))
    (requestHead : List Char) : Except ControlError HttpResponse :=
  if isHealthRequest requestHead = true then
    if poisoned = true then .error .controlStateLockPoisoned
    else (healthResponse.map (HttpResponse.mk 200)).mapError .serializeResponse
  else .ok ⟨404, "\x7b\"error\":\"not_found\"\x7d".toUTF8.toList⟩

section HealthLoop

variable (fromUtf8Lossy : List UInt8 → List Char)

def handleHealthConnection (poisoned : Bool) (stream : HealthConnection) :
    Option (Except ControlError HttpResponse) :=
  match readHttpRequestHead stream.reads [] with
  | none => none
  | some (.error error) => some (.error error)
  | some (.ok rawRequest) =>
    match healthAnswer poisoned stream.healthResponse (fromUtf8Lossy rawRequest) with
    | .error error => some (.error error)
    | .ok response =>
      match stream.write with
      | .error error => some (.error (.writeHealthResponse error))
      | .ok () => some (.ok response)

/-- One turn of `run_health_server_loop`. -/
def healthTurn (_ : Unit) (turn : HealthTurn) : Unit × TurnEnd (Except ControlError Unit) :=
  if turn.signal = true then ((), .returned (.ok ()))
  else
    match turn.accept with
    | .connection stream =>
      match stream.configure with
      | .error error => ((), .returned (.error (.configureConnection error)))
      | .ok () =>
        match handleHealthConnection fromUtf8Lossy turn.poisoned stream with
        | none => ((), .blocked)
        | some (.error error) => ((), .returned (.error error))
        | some (.ok _) => ((), .continues)
    | .wouldBlock => ((), .continues)
    | .failed error => ((), .returned (.error (.acceptHealthConnection error)))

/-- A connection that can be configured, whose request can be read and answered, and which
    takes the response. -/
structure HealthConnection.Taken (poisoned : Bool) (stream : HealthConnection) : Prop where
  configured : stream.configure = .ok ()
  read : ∀ error, readHttpRequestHead stream.reads [] ≠ some (.error error)
  answered : ∀ rawRequest, readHttpRequestHead stream.reads [] = some (.ok rawRequest) →
    isHealthRequest (fromUtf8Lossy rawRequest) = true →
      poisoned = false ∧ ∃ body, stream.healthResponse = .ok body
  written : ∀ rawRequest, readHttpRequestHead stream.reads [] = some (.ok rawRequest) →
    stream.write = .ok ()

variable {fromUtf8Lossy}

theorem healthAnswer_ok_iff {poisoned : Bool} {healthResponse : Except String (List UInt8)}
    {requestHead : List Char} :
    (∃ response, healthAnswer poisoned healthResponse requestHead = .ok response) ↔
      (isHealthRequest requestHead = true → poisoned = false ∧ ∃ body, healthResponse = .ok body) := by
  unfold healthAnswer
  by_cases hhealth : isHealthRequest requestHead = true
  · rw [if_pos hhealth]
    cases poisoned with
    | true => exact ⟨fun ⟨_, h⟩ => (nomatch h), fun h => nomatch (h hhealth).1⟩
    | false =>
      rw [if_neg nofun]
      cases healthResponse with
      | error error => exact ⟨fun ⟨_, h⟩ => (nomatch h), fun h => nomatch (h hhealth).2⟩
      | ok body => exact ⟨fun _ _ => ⟨rfl, body, rfl⟩, fun _ => ⟨_, rfl⟩⟩
  · rw [if_neg hhealth]
    exact ⟨fun _ h => absurd h hhealth, fun _ => ⟨_, rfl⟩⟩

/-- A connection ends the loop exactly if it is not taken. -/
theorem healthTaken_iff {turn : HealthTurn} {stream : HealthConnection}
    (hsignal : turn.signal = false) (haccept : turn.accept = .connection stream) :
    stream.Taken fromUtf8Lossy turn.poisoned ↔
      ∀ result, (healthTurn fromUtf8Lossy () turn).2 ≠ .returned result := by
  unfold healthTurn
  rw [hsignal, if_neg nofun, haccept]
  dsimp only
  cases hconfigure : stream.configure with
  | error error =>
    exact ⟨fun h => (nomatch hconfigure.symm.trans h.configured), fun h => absurd rfl (h _)⟩
  | ok _ =>
    dsimp only
    unfold handleHealthConnection
    cases hread : readHttpRequestHead stream.reads [] with
    | none =>
      refine ⟨fun _ _ h => (nomatch h), fun _ => ⟨hconfigure, ?_, ?_, ?_⟩⟩
      · exact fun _ h => nomatch hread.symm.trans h
      · exact fun _ h => nomatch hread.symm.trans h
      · exact fun _ h => nomatch hread.symm.trans h
    | some head =>
      cases head with
      | error error => exact ⟨fun h => absurd hread (h.read error), fun h => absurd rfl (h _)⟩
      | ok rawRequest =>
        dsimp only
        cases hanswer : healthAnswer turn.poisoned stream.healthResponse
            (fromUtf8Lossy rawRequest) with
        | error error =>
          refine ⟨fun h => ?_, fun h => absurd rfl (h _)⟩
          rcases healthAnswer_ok_iff.mpr (h.answered rawRequest hread) with ⟨response, hok⟩
          exact nomatch hanswer.symm.trans hok
        | ok response =>
          dsimp only
          cases hwrite : stream.write with
          | error error =>
            exact ⟨fun h => (nomatch hwrite.symm.trans (h.written rawRequest hread)),
              fun h => absurd rfl (h _)⟩
          | ok _ =>
            refine ⟨fun _ _ h => (nomatch h), fun _ => ⟨hconfigure, ?_, ?_, fun _ _ => hwrite⟩⟩
            · exact fun _ h => nomatch hread.symm.trans h
            · intro other hother
              rw [hread, Option.some.injEq, Except.ok.injEq] at hother
              rw [← hother]
              exact healthAnswer_ok_iff.mp ⟨response, hanswer⟩

/-- The loop returns only when it is signalled, or with an error of its listener. -/
def HealthLoopEnds (fromUtf8Lossy : List UInt8 → List Char) (turns : List HealthTurn) : Prop :=
  EachTurn (healthTurn fromUtf8Lossy) () turns fun _ a turn => ∀ result,
    (healthTurn fromUtf8Lossy a turn).2 = .returned result →
      turn.signal = true ∨
        ∃ error, turn.accept = .failed error ∧ result = .error (.acceptHealthConnection error)

/-- Until the loop is signalled every connection is taken. -/
def HealthClientsTake (fromUtf8Lossy : List UInt8 → List Char) (turns : List HealthTurn) : Prop :=
  EachTurn (healthTurn fromUtf8Lossy) () turns fun _ _ turn =>
    turn.signal = false → ∀ stream, turn.accept = .connection stream →
      stream.Taken fromUtf8Lossy turn.poisoned

/-- The health loop returns only for its reasons exactly if its clients let themselves be
    answered. -/
theorem healthLoop_iff (turns : List HealthTurn) :
    HealthLoopEnds fromUtf8Lossy turns ↔ HealthClientsTake fromUtf8Lossy turns := by
  refine EachTurn.congr fun before turn _ => ?_
  cases hsignal : turn.signal with
  | true => exact ⟨fun _ h => (nomatch h), fun _ _ _ => .inl rfl⟩
  | false =>
    constructor
    · intro hends _ stream haccept
      rw [healthTaken_iff hsignal haccept]
      intro result hturn
      rcases hends result hturn with h | ⟨_, h, _⟩
      · exact nomatch h
      · exact nomatch haccept.symm.trans h
    · intro htakes result hturn
      cases haccept : turn.accept with
      | connection stream =>
        exact absurd hturn ((healthTaken_iff hsignal haccept).mp (htakes rfl stream haccept) result)
      | wouldBlock =>
        unfold healthTurn at hturn
        rw [hsignal, if_neg nofun, haccept] at hturn
        exact nomatch hturn
      | failed error =>
        unfold healthTurn at hturn
        rw [hsignal, if_neg nofun, haccept] at hturn
        exact .inr ⟨error, rfl, (TurnEnd.returned.inj hturn).symm⟩

end HealthLoop

/-! ### The teardown -/

/-- How a thread ended. -/
inductive ThreadEnd where
  | returned (result : Except ControlError Unit)
  | panicked

/-- What the teardown meets: whether each thread still had its end of the channel when it
    was signalled, how it ended, what the activation thread came to, and what is held once
    all have ended. -/
structure ControlServer where
  threadReceives : Bool
  healthThreadReceives : Bool
  thread : ThreadEnd
  healthThread : ThreadEnd
  activation : Except ControlError Unit
  poisoned : Bool
  sandboxdState : Option SandboxdState
  closeSandboxd : Except String Unit

def ThreadEnd.join (panicked : ControlError) : ThreadEnd → Except ControlError Unit
  | .returned result => result
  | .panicked => .error panicked

/-- `close_sandboxd_state`, with what it does to the sandbox. -/
def closeSandboxdState (server : ControlServer) : Except ControlError Unit × List SandboxEffect :=
  if server.poisoned = true then (.error .controlStateLockPoisoned, [])
  else
    match server.sandboxdState with
    | none => (.ok (), [])
    | some _ => (server.closeSandboxd.mapError .closeSandboxdState, [.close])

/-- Join the threads and close the sandbox state. The first error is the one returned. -/
def ControlServer.joinAndClose (server : ControlServer) :
    Except ControlError Unit × List SandboxEffect :=
  let stop := closeSandboxdState server
  ((do
    server.thread.join .serverPanicked
    server.healthThread.join .healthServerPanicked
    server.activation
    stop.1), stop.2)

def ControlServer.close (server : ControlServer) : Except ControlError Unit × List SandboxEffect :=
  if server.threadReceives = false then (.error .shutdownSend, [])
  else if server.healthThreadReceives = false then (.error .shutdownSend, [])
  else server.joinAndClose

def ControlServer.wait (server : ControlServer) : Except ControlError Unit × List SandboxEffect :=
  if server.healthThreadReceives = false then (.error .shutdownSend, [])
  else server.joinAndClose

/-- What is held has been closed when the teardown returns. -/
def ClosesHeld (server : ControlServer)
    (teardown : ControlServer → Except ControlError Unit × List SandboxEffect) : Prop :=
  server.sandboxdState.isSome → (teardown server).2 = [.close]

theorem closeSandboxdState_iff (server : ControlServer) (hheld : server.sandboxdState.isSome) :
    (closeSandboxdState server).2 = [.close] ↔ server.poisoned = false := by
  rcases Option.isSome_iff_exists.mp hheld with ⟨held, hheld⟩
  cases hpoisoned : server.poisoned <;> simp [closeSandboxdState, hpoisoned, hheld]

theorem close_iff (server : ControlServer) : ClosesHeld server ControlServer.close ↔
    (server.sandboxdState.isSome → server.threadReceives = true ∧
      server.healthThreadReceives = true ∧ server.poisoned = false) := by
  refine forall_congr' fun hheld => ?_
  rw [← closeSandboxdState_iff server hheld, ControlServer.close]
  cases server.threadReceives <;> cases server.healthThreadReceives <;>
    simp [ControlServer.joinAndClose]

theorem wait_iff (server : ControlServer) : ClosesHeld server ControlServer.wait ↔
    (server.sandboxdState.isSome →
      server.healthThreadReceives = true ∧ server.poisoned = false) := by
  refine forall_congr' fun hheld => ?_
  rw [← closeSandboxdState_iff server hheld, ControlServer.wait]
  cases server.healthThreadReceives <;> simp [ControlServer.joinAndClose]

/-! ### The teardown behind the loops -/

/-- Whether a thread whose loop came to this can still be signalled. -/
def receives {ρ : Type} : TurnEnd ρ → Bool
  | .returned _ => false
  | .continues | .blocked => true

/-- How a thread whose loop came to this ends once it is signalled. -/
def endOnceSignalled : TurnEnd (Except ControlError Unit) → ThreadEnd
  | .returned result => .returned result
  | .continues | .blocked => .returned (.ok ())

/-- What the teardown meets behind turns of both loops. -/
def ControlServer.behind {Plan : Type} [DecidableEq Plan]
    (parse : List UInt8 → Except String (ControlRequest Plan))
    (fromUtf8Lossy : List UInt8 → List Char) (config : GitConfig)
    (controlTurns : List ControlTurn) (healthTurns : List HealthTurn)
    (closeSandboxd : Except String Unit) : ControlServer :=
  let control := loopTurns (controlTurn parse) controlTurns (ControlServerState.initial Plan config)
  let health := loopTurns (healthTurn fromUtf8Lossy) healthTurns ()
  { threadReceives := receives control.2
    healthThreadReceives := receives health.2
    thread := endOnceSignalled control.2
    healthThread := endOnceSignalled health.2
    activation := .ok ()
    poisoned := false
    sandboxdState := control.1.sandboxdState
    closeSandboxd := closeSandboxd }

/-- A health loop whose clients let themselves be answered can be signalled, as long as its
    listener does not fail. -/
theorem healthLoop_receives {fromUtf8Lossy : List UInt8 → List Char} {turns : List HealthTurn}
    (htakes : HealthClientsTake fromUtf8Lossy turns)
    (hlistens : ∀ turn ∈ turns, turn.signal = false ∧ ∀ error, turn.accept ≠ .failed error) :
    receives (loopTurns (healthTurn fromUtf8Lossy) turns ()).2 = true := by
  have hends := (healthLoop_iff turns).mpr htakes
  cases hloop : (loopTurns (healthTurn fromUtf8Lossy) turns ()).2 with
  | continues => rfl
  | blocked => rfl
  | returned result =>
    rcases loopTurns_returned_iff.mp hloop with ⟨before, turn, after, hturns, hbefore, hreturned⟩
    have hmem : turn ∈ turns := by
      rw [hturns]
      exact List.mem_append_right _ List.mem_cons_self
    rcases hends before turn after hturns hbefore result hreturned with hsignal | ⟨error, hfailed, _⟩
    · exact nomatch hsignal.symm.trans (hlistens turn hmem).1
    · exact absurd hfailed ((hlistens turn hmem).2 error)

/-- Behind such a health loop `wait` closes what is held, whatever the clients of the
    control socket do. -/
theorem wait_behind {Plan : Type} [DecidableEq Plan]
    {parse : List UInt8 → Except String (ControlRequest Plan)}
    {fromUtf8Lossy : List UInt8 → List Char} {config : GitConfig}
    {controlTurns : List ControlTurn} {healthTurns : List HealthTurn}
    {closeSandboxd : Except String Unit} (htakes : HealthClientsTake fromUtf8Lossy healthTurns)
    (hlistens : ∀ turn ∈ healthTurns, turn.signal = false ∧ ∀ error, turn.accept ≠ .failed error) :
    ClosesHeld (ControlServer.behind parse fromUtf8Lossy config controlTurns healthTurns
      closeSandboxd) ControlServer.wait :=
  (wait_iff _).mpr fun _ => ⟨healthLoop_receives htakes hlistens, rfl⟩

/-- The loops end only for their reasons, and the teardown closes what is held, exactly if
    the clients let themselves be answered and both threads can still be signalled. -/
theorem clients_iff {Plan : Type} [DecidableEq Plan]
    (parse : List UInt8 → Except String (ControlRequest Plan))
    (fromUtf8Lossy : List UInt8 → List Char) (config : GitConfig) :
    (∀ turns, ControlLoopEnds parse (ControlServerState.initial Plan config) turns ↔
      ControlClientsTake parse (ControlServerState.initial Plan config) turns) ∧
    (∀ turns, HealthLoopEnds fromUtf8Lossy turns ↔ HealthClientsTake fromUtf8Lossy turns) ∧
    (∀ server, ClosesHeld server ControlServer.close ↔
      (server.sandboxdState.isSome → server.threadReceives = true ∧
        server.healthThreadReceives = true ∧ server.poisoned = false)) ∧
    ∀ server, ClosesHeld server ControlServer.wait ↔
      (server.sandboxdState.isSome →
        server.healthThreadReceives = true ∧ server.poisoned = false) :=
  ⟨controlLoop_iff (Settled.initial config) rfl, healthLoop_iff, close_iff, wait_iff⟩

/-- A client of the control socket that is gone before its response is written ends that
    loop, one of the health endpoint that resets its connection ends the other, and then the
    sandbox state that is held is not closed. -/
theorem clients_end_daemon :
    ¬ ControlLoopEnds (fun _ => .ok (.ready : ControlRequest Unit)) emptyDaemon
      [{ accept := .connection { read := some (.ok []), write := .error "broken pipe" } }] ∧
    ¬ HealthLoopEnds (fun _ => [])
      [{ accept := .connection { reads := [.error "connection reset by peer"] } }] ∧
    let server := ControlServer.behind
      (fun _ => .ok (.activate (activationOf .start none) : ControlRequest Unit)) (fun _ => [])
      (GitConfig.ofIdentity none) [{ accept := .connection { read := some (.ok []) } }]
      [{ accept := .connection { reads := [.error "connection reset by peer"] } }] (.ok ())
    server.sandboxdState.isSome ∧ server.wait = (.error .shutdownSend, []) := by
  refine ⟨fun h => ?_, fun h => ?_, rfl, rfl⟩
  · rcases h [] _ [] rfl rfl _ rfl with hsignal | ⟨before, _, _, _, _, _, hnil, _⟩ | ⟨_, haccept, _⟩
    · exact nomatch hsignal
    · exact absurd hnil.symm (List.append_ne_nil_of_right_ne_nil _ (List.cons_ne_nil _ _))
    · exact nomatch haccept
  · rcases h [] _ [] rfl rfl _ rfl with hsignal | ⟨_, haccept, _⟩
    · exact nomatch hsignal
    · exact nomatch haccept

end Control

end Mistle
