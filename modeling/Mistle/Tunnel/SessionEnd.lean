import Mistle.Tunnel.SessionResources

/-!
# The End of a Session

A session returns on several ways: the runtime's flag for shutting down is seen, the
router asks to stop or to restart, a handler fails, the loop's own upkeep fails, or the
channels close. What the session started outlives the loop, and whatever the tables
hold when it is left is still under way when the session returns: the first way alone
cancels the commands and aborts the dials, and none removes a file.

## Main definitions

* `SessionEnding`, `sessionEnding`: Why the loop is left.
* `leaveConnectedSession`: What the runner does then.
* `WatchedSession`, `WatchedSession.step`: A session with what it has started.
* `ReleasesOn`: What a turn needs in order to leave nothing behind.
* `WatchedSession.Accounted`: Nothing is under way that no table holds.

## Theorems

* `accounted_step`: One turn.
* `session_released`: Every run.
* `session_restarted_holding`: A run that ends with a restart and leaves all three kinds.
-/

namespace Mistle

open Handler

/-! ### Sessions -/

inductive ConnectedTunnelSessionOutcome where
  | restartRequired
  | shutdownRequested
  deriving DecidableEq

/-- Why the loop was left. -/
inductive SessionEnding where
  | shutdownObserved
  | shutdownRequested
  | restartRequired
  | failed (error : TunnelSessionError)
  /-- The loop's own upkeep failed, or its channels are closed. -/
  | interrupted
  deriving DecidableEq

/-- Why an item leaves the loop, if it does. -/
def sessionEnding (item : SessionItem)
    (result : Except TunnelSessionError TunnelSessionControlFlow) : Option SessionEnding :=
  match result, item with
  | .ok .continue, _ => none
  | _, .shutdownObserved => some .shutdownObserved
  | .error _, .keepaliveState _ _ => some .interrupted
  | .error _, .runtimeReady _ => some .interrupted
  | .ok .shutdownRequested, _ => some .shutdownRequested
  | .ok .restartRequired, _ => some .restartRequired
  | .error error, _ => some (.failed error)

def tunnelWriterIsClosedError : TunnelSessionError → Bool
  | .writeTunnelText message => message == writerClosed
  | .writeTunnelBinary message => message == writerClosed
  | _ => false

/-- The close of the bootstrap connection that is waited for. -/
structure BootstrapClose where
  world : World
  isGatewayServiceRestart : Bool
  reason : Option String

section

variable (context : TunnelSessionLoopContext)

/-- The first close to come in time, if one does; all other events are dropped. -/
def waitForBootstrapCloseClassification :
    Option BootstrapClose → Session (Option TunnelSessionControlFlow)
  | none => return none
  | some close => do
    match ← attempt (handleTunnelSessionEvent context close.world
        (.bootstrapClosed close.isGatewayServiceRestart close.reason)) with
    | .ok controlFlow => return some controlFlow
    | .error _ => return none

def returnShutdownRequested : Session ConnectedTunnelSessionOutcome := do
  failPendingRequests "shut down"
  let _ ← sendToWriter .close
  return .shutdownRequested

def returnRestartRequired (ending : String) : Session ConnectedTunnelSessionOutcome := do
  failPendingRequests ending
  return .restartRequired

/-- What the runner does once it has left the loop. -/
def leaveConnectedSession (close : Option BootstrapClose) :
    SessionEnding → Session ConnectedTunnelSessionOutcome
  | .shutdownObserved => return .shutdownRequested
  | .shutdownRequested => returnShutdownRequested
  | .restartRequired => returnRestartRequired "restarted"
  | .failed error => do
    if tunnelWriterIsClosedError error then
      match ← waitForBootstrapCloseClassification context close with
      | some .restartRequired => returnRestartRequired "restarted"
      | _ => returnShutdownRequested
    else returnRestartRequired "failed"
  | .interrupted => return .restartRequired

/-- What happens to a session next. -/
inductive SessionTurn where
  | item (world : World) (item : SessionItem)
  | interrupted
  | leave (close : Option BootstrapClose)

inductive SessionStage where
  | connected (st : TunnelSessionMutableState)
  | leaving (ending : SessionEnding) (st : TunnelSessionMutableState)
  | returned (outcome : ConnectedTunnelSessionOutcome)

/-- A session with what it has started. -/
structure WatchedSession where
  stage : SessionStage
  resources : SessionResources

/-- A session that has just connected. -/
def connectSession (writer : TunnelWriter) (agentEndpointUrl : Option String)
    (runtimeEnv : List (String × String)) (operation : Option SandboxOperation) : WatchedSession :=
  let o := startSession operation (.fresh writer agentEndpointUrl runtimeEnv)
  match o.result with
  | .ok () => ⟨.connected o.state, .none⟩
  | .error _ => ⟨.returned .restartRequired, .none⟩

def WatchedSession.step (removes : String → Bool) (session : WatchedSession) (turn : SessionTurn) :
    Option (WatchedSession × List TunnelEffect) :=
  match session.stage, turn with
  | .connected st, .item world item =>
    let o := handleSessionItem context world item st
    let resources := (session.resources.reported item).after removes o.emitted
    match sessionEnding item o.result with
    | none => some (⟨.connected o.state, resources⟩, o.emitted)
    | some ending => some (⟨.leaving ending o.state, resources⟩, o.emitted)
  | .connected st, .interrupted => some (⟨.leaving .interrupted st, session.resources⟩, [])
  | .leaving ending st, .leave close =>
    let o := leaveConnectedSession context close ending st
    let resources := session.resources.after removes o.emitted
    match o.result with
    | .ok outcome => some (⟨.returned outcome, resources⟩, o.emitted)
    -- Not reached: leaving does not fail.
    | .error error => some (⟨.leaving (.failed error) o.state, resources⟩, o.emitted)
  | _, _ => none

/-! ### What is under way when it returns -/

def SessionStage.state? : SessionStage → Option TunnelSessionMutableState
  | .connected st => some st
  | .leaving _ st => some st
  | .returned _ => none

/-- What a turn needs in order to leave nothing behind: an item that finishes an upload
    finishes it, and the loop is left over the flag for shutting down or with nothing
    under way, and without uploads. -/
def ReleasesOn (removes : String → Bool) (stage : SessionStage) (turn : SessionTurn) : Prop :=
  match stage, turn with
  | .connected st, .item world item => ItemReleases removes context world st item
  | .leaving ending st, .leave _ => st.fileUploads = ∅ ∧
    (ending = .shutdownObserved ∨ st.pendingExecOpens = ∅ ∧ st.pendingAgentOpens = ∅)
  | _, _ => True

instance (removes : String → Bool) (stage : SessionStage) (turn : SessionTurn) :
    Decidable (ReleasesOn context removes stage turn) :=
  match stage, turn with
  | .connected st, .item world item =>
    inferInstanceAs (Decidable (ItemReleases removes context world st item))
  | .leaving ending st, .leave _ =>
    decidable_of_iff (st.fileUploads.isEmpty = true ∧ (ending = .shutdownObserved ∨
      st.pendingExecOpens.isEmpty = true ∧ st.pendingAgentOpens.isEmpty = true)) (by
        simp only [ReleasesOn, Std.ExtTreeMap.isEmpty_iff])
  | .connected _, .interrupted => isTrue trivial
  | .connected _, .leave _ => isTrue trivial
  | .leaving _ _, .item _ _ => isTrue trivial
  | .leaving _ _, .interrupted => isTrue trivial
  | .returned _, _ => isTrue trivial

/-- Nothing is under way that no table holds, and nothing at all once the session returned. -/
def WatchedSession.Accounted (session : WatchedSession) : Prop :=
  match session.stage with
  | .connected st => session.resources.Covered st.resourceTables
  | .leaving ending st => session.resources.Covered st.resourceTables ∧
    (ending = .shutdownObserved → session.resources.execs = [] ∧ session.resources.agentDials = [])
  | .returned _ => session.resources = .none

theorem accounted_connectSession (writer : TunnelWriter) (agentEndpointUrl : Option String)
    (runtimeEnv : List (String × String)) (operation : Option SandboxOperation) :
    (connectSession writer agentEndpointUrl runtimeEnv operation).Accounted := by
  unfold connectSession
  dsimp only
  split
  · exact SessionResources.Covered.none _
  · rfl

theorem returnShutdownRequested_sparing : Follows sparing returnShutdownRequested :=
  Follows.bind (failPendingRequests_sparing _) fun _ =>
    Follows.bind (sendToWriter_sparing _) fun _ => Follows.pure _

theorem returnRestartRequired_sparing (ending : String) :
    Follows sparing (returnRestartRequired ending) :=
  Follows.bind (failPendingRequests_sparing _) fun _ => Follows.pure _

/-- Leaving stops nothing that is still under way. -/
theorem leaveConnectedSession_sparing (close : Option BootstrapClose) (ending : SessionEnding) :
    Follows sparing (leaveConnectedSession context close ending) := by
  have hwait : Follows sparing (waitForBootstrapCloseClassification context close) := by
    cases close with
    | none => exact Follows.pure _
    | some close =>
        refine Follows.bind (Follows.attempt (Follows.bind (handleBootstrapClosed_sparing _ _ _)
          fun _ => Follows.pure _)) fun result => ?_
        cases result with
        | ok => exact Follows.pure _
        | error error => exact Follows.pure _
  cases ending with
  | shutdownObserved => exact Follows.pure _
  | shutdownRequested => exact returnShutdownRequested_sparing
  | restartRequired => exact returnRestartRequired_sparing _
  | failed error =>
      dsimp only [leaveConnectedSession]
      split
      · refine Follows.bind hwait fun controlFlow => ?_
        split
        · exact returnRestartRequired_sparing _
        · exact returnShutdownRequested_sparing
      · exact returnRestartRequired_sparing _
  | interrupted => exact Follows.pure _

/-- The item that leaves the loop over the flag for shutting down. -/
theorem eq_shutdownObserved {item : SessionItem}
    {result : Except TunnelSessionError TunnelSessionControlFlow}
    (h : sessionEnding item result = some .shutdownObserved) : item = .shutdownObserved := by
  unfold sessionEnding at h
  split at h
  · exact nomatch h
  · rfl
  · exact nomatch h
  · exact nomatch h
  · exact nomatch h
  · exact nomatch h
  · exact nomatch h

/-- What empty tables cover is nothing. -/
theorem SessionResources.Covered.eq_none {r : SessionResources} {tables : ResourceTables}
    (h : r.Covered tables) (huploads : tables.uploads = ∅)
    (htasks : (r.execs = [] ∧ r.agentDials = []) ∨ tables.execs = ∅ ∧ tables.agentDials = ∅) :
    r = .none := by
  have hfiles : r.tempFiles = [] := by
    refine List.eq_nil_iff_forall_not_mem.mpr fun path hpath => ?_
    rcases h.tempFiles path hpath with ⟨s, upload, hupload, _⟩
    rw [huploads, Std.ExtTreeMap.getElem?_empty] at hupload
    exact nomatch hupload
  have hempty : ∀ {ids : List StreamId} {table : Table TaskHandle}, table = ∅ →
      (∀ s ∈ ids, table[s]?.isSome) → ids = [] := by
    intro ids table htable hids
    refine List.eq_nil_iff_forall_not_mem.mpr fun s hs => ?_
    have hsome := hids s hs
    rw [htable, Std.ExtTreeMap.getElem?_empty] at hsome
    exact nomatch hsome
  have hlists : r.execs = [] ∧ r.agentDials = [] := by
    rcases htasks with hlists | ⟨hexecs, hdials⟩
    · exact hlists
    · exact ⟨hempty hexecs h.execs, hempty hdials h.agentDials⟩
  calc r = ⟨r.execs, r.agentDials, r.tempFiles⟩ := rfl
    _ = .none := by rw [hlists.1, hlists.2, hfiles]; rfl

/-- A turn that has what it needs keeps everything accounted for. -/
theorem accounted_step {removes : String → Bool} {session session' : WatchedSession}
    {turn : SessionTurn} {out : List TunnelEffect} (h : session.Accounted)
    (hneeds : ReleasesOn context removes session.stage turn)
    (hstep : session.step context removes turn = some (session', out)) : session'.Accounted := by
  rcases session with ⟨stage, resources⟩
  cases stage with
  | returned outcome => cases turn <;> exact nomatch hstep
  | connected st =>
      cases turn with
      | leave close => exact nomatch hstep
      | interrupted =>
          simp only [WatchedSession.step, Option.some.injEq, Prod.mk.injEq] at hstep
          rw [← hstep.1]
          exact ⟨h, fun hending => nomatch hending⟩
      | item world item =>
          have hcovered := handleSessionItem_covered hneeds h
          unfold WatchedSession.step at hstep
          dsimp only at hstep
          cases hending : sessionEnding item (handleSessionItem context world item st).result with
          | none =>
              rw [hending, Option.some.injEq, Prod.mk.injEq] at hstep
              rw [← hstep.1]
              exact hcovered
          | some ending =>
              rw [hending, Option.some.injEq, Prod.mk.injEq] at hstep
              rw [← hstep.1]
              refine ⟨hcovered, fun hobserved => ?_⟩
              rw [hobserved] at hending
              rw [eq_shutdownObserved hending]
              have hspec := (@observeShutdown_spec removes _ _ h).1
              exact ⟨congrArg SessionResources.execs hspec,
                congrArg SessionResources.agentDials hspec⟩
  | leaving ending st =>
      cases turn with
      | item world item => exact nomatch hstep
      | interrupted => exact nomatch hstep
      | leave close =>
          have hleft := leaveConnectedSession_sparing context close ending st
          have hsame := resources.after_of_quiet removes hleft.quiet
          rcases h with ⟨hcovered, hobserved⟩
          rcases hneeds with ⟨huploads, htasks⟩
          unfold WatchedSession.step at hstep
          dsimp only at hstep
          rw [hsame] at hstep
          cases hresult : (leaveConnectedSession context close ending st).result with
          | ok outcome =>
              rw [hresult, Option.some.injEq, Prod.mk.injEq] at hstep
              rw [← hstep.1]
              exact hcovered.eq_none huploads (htasks.imp_left hobserved)
          | error error =>
              rw [hresult, Option.some.injEq, Prod.mk.injEq] at hstep
              rw [← hstep.1]
              refine ⟨?_, fun hending => nomatch hending⟩
              rw [hleft.tables]
              exact hcovered

/-- In every run in which each turn has what it needs, the temporary files that exist are
    those of uploads the session still holds, and once it has returned nothing is left. -/
theorem session_released (removes : String → Bool) (writer : TunnelWriter)
    (agentEndpointUrl : Option String) (runtimeEnv : List (String × String))
    (operation : Option SandboxOperation) (trace : List (Entry SessionTurn TunnelEffect))
    (session : WatchedSession)
    (run : Run (fun s turn out s' => s.step context removes turn = some (s', out))
      (connectSession writer agentEndpointUrl runtimeEnv operation) trace session)
    (hneeds : EveryStep (fun s turn out s' => s.step context removes turn = some (s', out))
      (connectSession writer agentEndpointUrl runtimeEnv operation) trace
      fun s turn _ => ReleasesOn context removes s.stage turn) :
    (∀ outcome, session.stage = .returned outcome → session.resources = .none) ∧
      ∀ st, session.stage.state? = some st → ∀ path ∈ session.resources.tempFiles,
        ∃ (s : StreamId) (upload : FileUploadState),
          st.fileUploads[s]? = some upload ∧ upload.tempPath = path := by
  have haccounted : session.Accounted := by
    refine (run.restrict hneeds).invariant (accounted_connectSession _ _ _ _) ?_
    exact fun a turn out b ha hstep => accounted_step context ha hstep.2 hstep.1
  rcases session with ⟨stage, resources⟩
  cases stage with
  | connected st =>
      refine ⟨fun _ hreturned => (nomatch hreturned), fun st' hst' => ?_⟩
      rw [← Option.some.inj hst']
      exact SessionResources.Covered.tempFiles haccounted
  | leaving ending st =>
      refine ⟨fun _ hreturned => (nomatch hreturned), fun st' hst' => ?_⟩
      rw [← Option.some.inj hst']
      exact haccounted.1.tempFiles
  | returned outcome => exact ⟨fun _ _ => haccounted, fun _ hst' => nomatch hst'⟩

end

/-! ### Runs -/

def agentOpenDocument : String × Json String :=
  ("\x7b\"type\":\"stream.open\",\"streamId\":5,\"channel\":\x7b\"kind\":\"agent\"\x7d\x7d",
    .obj [("type", .str "stream.open"), ("streamId", .int 5),
      ("channel", .obj [("kind", .str "agent")])])

def execOpenDocument : String × Json String :=
  ("\x7b\"type\":\"stream.open\",\"streamId\":7,\"channel\":"
      ++ "\x7b\"kind\":\"exec\",\"command\":\"sleep\"\x7d\x7d",
    .obj [("type", .str "stream.open"), ("streamId", .int 7),
      ("channel", .obj [("kind", .str "exec"), ("command", .str "sleep")])])

def uploadOpenDocument : String × Json String :=
  ("\x7b\"type\":\"stream.open\",\"streamId\":9,\"channel\":\x7b\"kind\":\"fileUpload\","
      ++ "\"threadId\":\"t1\",\"mimeType\":\"text/plain\",\"originalFilename\":\"a.txt\","
      ++ "\"sizeBytes\":3\x7d\x7d",
    .obj [("type", .str "stream.open"), ("streamId", .int 9),
      ("channel", .obj [("kind", .str "fileUpload"), ("threadId", .str "t1"),
        ("mimeType", .str "text/plain"), ("originalFilename", .str "a.txt"),
        ("sizeBytes", .int 3)])])

def uploadCloseDocument : String × Json String :=
  ("\x7b\"type\":\"stream.close\",\"streamId\":9\x7d",
    .obj [("type", .str "stream.close"), ("streamId", .int 9)])

def sessionDocuments : TunnelSessionLoopContext :=
  .ofDocuments [agentOpenDocument, execOpenDocument, uploadOpenDocument, uploadCloseDocument]

/-- A session whose agent has an address. -/
def exampleSession : WatchedSession :=
  connectSession .open (some "ws://127.0.0.1:7000") [] none

/-- A text of the gateway while everything works. -/
def textTurn (document : String × Json String) : SessionTurn :=
  .item .idle (.event (.bootstrapMessage (.text document.1)))

def WatchedSession.returnedWith (session : WatchedSession)
    (outcome : ConnectedTunnelSessionOutcome) (resources : SessionResources) : Bool :=
  match session.stage with
  | .returned outcome' => outcome' == outcome && session.resources == resources
  | _ => false

theorem eq_of_returnedWith {session : WatchedSession} {outcome : ConnectedTunnelSessionOutcome}
    {resources : SessionResources} (h : session.returnedWith outcome resources = true) :
    session = ⟨.returned outcome, resources⟩ := by
  rcases session with ⟨stage, held⟩
  cases stage with
  | connected st => exact nomatch h
  | leaving ending st => exact nomatch h
  | returned outcome' =>
      simp only [WatchedSession.returnedWith, Bool.and_eq_true, beq_iff_eq] at h
      rw [h.1, h.2]

/-- An agent is dialled, a command runs, an upload is finished, and the flag for shutting
    down is seen. -/
def shutdownTurns : List SessionTurn :=
  [textTurn agentOpenDocument, textTurn execOpenDocument, textTurn uploadOpenDocument,
    .item .idle (.event (.bootstrapMessage (.binary
      [dataFrameKind, 0, 0, 0, 9, payloadKindRawBytes, 97, 98, 99]))),
    textTurn uploadCloseDocument, .item .idle .shutdownObserved, .leave none]

/-- The gateway closes the connection while all three are under way. -/
def restartTurns : List SessionTurn :=
  [textTurn agentOpenDocument, textTurn execOpenDocument, textTurn uploadOpenDocument,
    .item .idle (.event (.bootstrapMessage .close)), .leave none]

/-- An upload is finished and the flag for shutting down is seen while an agent is dialled
    and a command runs: nothing is left. -/
theorem session_released_shutdown : ∃ trace session,
    Run (fun s turn out s' => s.step sessionDocuments (fun _ => true) turn = some (s', out))
      exampleSession trace session ∧
      session.stage = .returned .shutdownRequested ∧ session.resources = .none := by
  have hreturns : executesTo (WatchedSession.step sessionDocuments fun _ => true)
      exampleSession shutdownTurns (fun _ s => s.returnedWith .shutdownRequested .none)
      = true := by decide +kernel
  have hreleases : stepsPass (WatchedSession.step sessionDocuments fun _ => true)
      (fun s turn => decide (ReleasesOn sessionDocuments (fun _ => true) s.stage turn))
      exampleSession shutdownTurns = true := by decide +kernel
  rcases exists_run_of_stepsPass hreturns hreleases with
    ⟨trace, session, run, _, hreturned, hneeds⟩
  have hstage : session.stage = .returned .shutdownRequested := by
    rw [eq_of_returnedWith hreturned]
  refine ⟨trace, session, run, hstage, ?_⟩
  exact (session_released sessionDocuments (fun _ => true) .open (some "ws://127.0.0.1:7000") []
    none trace session run fun before turn out after s htrace hbefore =>
      of_decide_eq_true (hneeds before turn out after s htrace hbefore)).1 _ hstage

/-- The gateway closes the connection while an agent is dialled, a command runs and an
    upload is under way: the session returns for a restart, and all three are left. -/
theorem session_restarted_holding : ∃ trace,
    Run (fun s turn out s' => s.step sessionDocuments (fun _ => true) turn = some (s', out))
      exampleSession trace
      ⟨.returned .restartRequired, ⟨[7], [5], ["/root/attachments/t1/.att_0_0.part"]⟩⟩ := by
  have hreturns : executesTo (WatchedSession.step sessionDocuments fun _ => true)
      exampleSession restartTurns (fun _ s => s.returnedWith .restartRequired
        ⟨[7], [5], ["/root/attachments/t1/.att_0_0.part"]⟩) = true := by decide +kernel
  rcases exists_run_of_executesTo hreturns with ⟨trace, session, run, _, hreturned⟩
  rw [eq_of_returnedWith hreturned] at run
  exact ⟨trace, run⟩

end Mistle
