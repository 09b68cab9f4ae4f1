import Mistle.Egress.RouteRefresh

/-!
# Refreshes Are All or Nothing

A refresh that fails should leave the routes as they were, and one that succeeds should have
them served. Whether it does depends on the thread that supervises the child. The thread
goes on where a child does not come up, and spawns another until one does. It does
not go on where it cannot poll its child, or where the child that a refresh replaces does not
shut down: then it answers with an error and ends. The table is put back, but there is
nothing left that serves it.

Where the thread replaces a child for another reason it goes on even if the old one
does not shut down, and while it waits for a new child it takes a poll that fails for a
child that did not come up.

## Main definitions

* `Atomic`: What a refresh should have done when it returns.
* `ProxyEvent.fails`: The steps that end the thread.
* `Sound`: What holds while there were none.

## Theorems

* `supervise_cases`: What a step of the thread does.
* `Sound.run`, `ended_of_fails`: What holds along a run without such a step, and with one.
* `refresh_atomic`: A refresh is all or nothing while the thread lives, and not after.
-/

namespace Mistle

namespace Sandbox

namespace EgressProxy

/-- The child of the thread, where it has one, serves a table. -/
def Serves (proxy : EgressProxy) (routes : List SharedEgressRoute) : Prop :=
  ∀ child, proxy.supervisor.child? = some child → child.routes = routes

/-- The table of a refresh has what the refresh was called with, replaced in place or put
    at the end. -/
def TableUpserted (proxy : EgressProxy) (refresh : Refresh) : Prop :=
  ∃ routes, refresh.requested.mapM egressProxyRouteFromControl = .ok routes ∧
    Upserted ruleId refresh.previousRoutes routes proxy.routes

/-- What a refresh that returns should have done: nothing, with the thread alive, or
    all, with the child serving it. -/
def Atomic (proxy : EgressProxy) (refresh : Refresh) : Except Text Unit → Prop
  | .error _ => proxy.routes = refresh.previousRoutes ∧ proxy.supervisor.isRunning = true ∧
    proxy.Serves refresh.previousRoutes
  | .ok () => proxy.TableUpserted refresh ∧ proxy.Serves proxy.routes

/-- A child that does not shut down when the thread asks it to, and a poll that fails. -/
def ProxyEvent.fails : ProxyEvent → Bool
  | .supervisor (.shutdownChild (.error _)) => true
  | .supervisor (.tryRecvExit (.error _)) => true
  | _ => false

/-- The refreshes that were asked for and not answered. -/
def pending (proxy : EgressProxy) : Nat :=
  proxy.commands.count .refreshRoutes + proxy.supervisor.refreshing.toNat

variable {proxy next : EgressProxy}

/-! ### The thread -/

/-- A step of the thread that neither spawns a child nor answers. -/
structure Quiet (proxy next : EgressProxy) : Prop where
  routes : next.routes = proxy.routes
  response : next.response = proxy.response
  refresh : next.refresh = proxy.refresh
  serving : next.supervisor.serving = true
  pending : next.pending = proxy.pending
  child : ∀ child, next.supervisor.child? = some child → proxy.supervisor.child? = some child
  started : ∀ child, next.supervisor ≠ .starting .routeRefresh child

/-- What a step of the thread does that is not to shut down and meets no failure that
    ends it. -/
theorem supervise_cases {event : SupervisorEvent} (hstep : proxy.supervise event = some next)
    (hshutdown : proxy.shutdownRequested = false) (hserving : proxy.supervisor.serving = true)
    (hfails : (ProxyEvent.supervisor event).fails = false) :
    Quiet proxy next ∨
    (∃ reason, proxy.supervisor = .spawning reason ∧
      next = { proxy with supervisor := .starting reason ⟨proxy.routes⟩ }) ∨
    (∃ child, proxy.supervisor = .starting .routeRefresh child ∧
      next = { proxy with response := some (.ok ()), supervisor := .atLoopHead child }) := by
  rcases proxy with ⟨routes, commands, response, shutdownRequested, supervisor, refresh⟩
  cases hshutdown
  cases supervisor with
  | atLoopHead child =>
    cases event with
    | loadShutdownRequested =>
      cases hstep
      exact .inl ⟨rfl, rfl, rfl, rfl, rfl, fun _ h => h, nofun⟩
    | _ => exact nomatch hstep
  | stopping child => exact nomatch hserving
  | receiving child =>
    cases event with
    | tryReceive =>
      rcases commands with _ | ⟨_ | _, commands⟩ <;> cases hstep
      · exact .inl ⟨rfl, rfl, rfl, rfl, rfl, fun _ h => h, nofun⟩
      · -- The command is taken off the queue, and the thread is at it.
        refine .inl ⟨rfl, rfl, rfl, rfl, ?_, fun _ h => h, nofun⟩
        simp only [pending, Supervisor.refreshing, List.count_cons_self, Bool.toNat_true,
          Bool.toNat_false, Nat.add_zero]
      · have hcount : (EgressProxySupervisorCommand.forceCurrentServerShutdown :: commands).count
            .refreshRoutes = commands.count .refreshRoutes := List.count_cons_of_ne (by decide)
        refine .inl ⟨rfl, rfl, rfl, rfl, ?_, fun _ h => h, nofun⟩
        rw [pending, pending, hcount]
        rfl
    | _ => exact nomatch hstep
  | replacing child =>
    cases event with
    | shutdownChild result =>
      rcases result with error | _
      · exact nomatch hfails
      · cases hstep
        exact .inl ⟨rfl, rfl, rfl, rfl, rfl, nofun, nofun⟩
    | _ => exact nomatch hstep
  | polling child =>
    cases event with
    | tryRecvExit result =>
      rcases result with error | _ | _
      · exact nomatch hfails
      · cases hstep
        exact .inl ⟨rfl, rfl, rfl, rfl, rfl, fun _ h => h, nofun⟩
      · cases hstep
        exact .inl ⟨rfl, rfl, rfl, rfl, rfl, nofun, nofun⟩
    | _ => exact nomatch hstep
  | checking child =>
    cases event with
    | checkHealth result =>
      rcases result with error | _ <;> cases hstep
      · exact .inl ⟨rfl, rfl, rfl, rfl, rfl, nofun, nofun⟩
      · exact .inl ⟨rfl, rfl, rfl, rfl, rfl, fun _ h => h, nofun⟩
    | _ => exact nomatch hstep
  | restarting reason =>
    cases event with
    | loadShutdownRequested =>
      cases hstep
      cases reason <;> exact .inl ⟨rfl, rfl, rfl, rfl, rfl, nofun, nofun⟩
    | _ => exact nomatch hstep
  | backingOff reason =>
    cases event with
    | loadShutdownRequested =>
      cases hstep
      cases reason <;> exact .inl ⟨rfl, rfl, rfl, rfl, rfl, nofun, nofun⟩
    | _ => exact nomatch hstep
  | spawning reason =>
    cases event with
    | spawnChild result =>
      rcases result with error | _ <;> cases hstep
      · cases reason <;> exact .inl ⟨rfl, rfl, rfl, rfl, rfl, nofun, nofun⟩
      · exact .inr (.inl ⟨reason, rfl, rfl⟩)
    | _ => exact nomatch hstep
  | starting reason child =>
    cases event with
    | waitForHealth result =>
      rcases result with error | _ <;> cases reason <;> cases hstep
      · exact .inl ⟨rfl, rfl, rfl, rfl, rfl, nofun, nofun⟩
      · exact .inl ⟨rfl, rfl, rfl, rfl, rfl, nofun, nofun⟩
      · exact .inr (.inr ⟨child, rfl, rfl⟩)
      · exact .inl ⟨rfl, rfl, rfl, rfl, rfl, fun _ h => h, nofun⟩
    | _ => cases reason <;> exact nomatch hstep
  | ended result => exact nomatch hserving

/-! ### While the thread lives -/

/-- No refresh is under way, and the child serves the table. -/
structure Settled (proxy : EgressProxy) : Prop where
  pending : proxy.pending = 0
  serves : proxy.Serves proxy.routes

/-- How the last refresh stands to the table and to what the thread is at. -/
def StageSound (proxy : EgressProxy) : RefreshStage → Prop
  | .never => proxy.Settled
  | .tableWritten refresh => proxy.TableUpserted refresh ∧ proxy.pending = 0 ∧
    proxy.response = none
  | .waiting refresh => proxy.TableUpserted refresh ∧ proxy.pending ≤ 1 ∧
    (proxy.response = none ∨ proxy.response = some (.ok ()) ∧ proxy.Settled)
  | .failing _ _ => False
  | .returned refresh (.ok ()) => proxy.TableUpserted refresh ∧ proxy.Settled
  | .returned refresh (.error _) => proxy.routes = refresh.previousRoutes ∧ proxy.Settled

/-- What holds while no step has ended the thread. -/
structure Sound (proxy : EgressProxy) : Prop where
  serving : proxy.supervisor.serving = true
  stage : proxy.StageSound proxy.refresh
  started : ∀ child, proxy.supervisor = .starting .routeRefresh child → child.routes = proxy.routes

theorem Sound.initial (routes : List SharedEgressRoute) : Sound (.started routes) where
  serving := rfl
  stage := ⟨rfl, fun _ h => (Option.some.inj h) ▸ rfl⟩
  started := nofun

/-- While the thread is at a refresh it was asked for one, and has not answered. -/
theorem Sound.waiting_of_pending (h : proxy.Sound) (hpending : proxy.pending ≠ 0) :
    ∃ refresh, proxy.refresh = .waiting refresh ∧ proxy.TableUpserted refresh ∧
      proxy.pending = 1 ∧ proxy.response = none := by
  have hstage := h.stage
  cases hrefresh : proxy.refresh with
  | never =>
    rw [hrefresh] at hstage
    exact absurd hstage.pending hpending
  | tableWritten refresh =>
    rw [hrefresh] at hstage
    exact absurd hstage.2.1 hpending
  | waiting refresh =>
    rw [hrefresh] at hstage
    rcases hstage with ⟨htable, hone, hnone | ⟨_, hsettled⟩⟩
    · exact ⟨refresh, rfl, htable, by omega, hnone⟩
    · exact absurd hsettled.pending hpending
  | failing refresh error =>
    rw [hrefresh] at hstage
    exact hstage.elim
  | returned refresh result =>
    rw [hrefresh] at hstage
    rcases result with error | _ <;> exact absurd hstage.2.pending hpending

theorem Settled.quiet (h : proxy.Settled) (hquiet : Quiet proxy next) : next.Settled where
  pending := hquiet.pending.trans h.pending
  serves := fun child hchild => (h.serves child (hquiet.child child hchild)).trans
    hquiet.routes.symm

/-- What the last refresh has to do with a state is kept by a step that leaves the table and
    the answer alone, takes on no refresh and keeps a settled proxy settled. -/
theorem StageSound.of_same (proxy next : EgressProxy) (hroutes : next.routes = proxy.routes)
    (hresponse : next.response = proxy.response) (hpending : next.pending = proxy.pending)
    (hsettled : proxy.Settled → next.Settled) {stage : RefreshStage}
    (h : proxy.StageSound stage) : next.StageSound stage := by
  have htable : ∀ refresh, proxy.TableUpserted refresh → next.TableUpserted refresh := by
    rintro refresh ⟨routes, hroutes', hupserted⟩
    exact ⟨routes, hroutes', hroutes ▸ hupserted⟩
  cases stage with
  | never => exact hsettled h
  | tableWritten refresh =>
    exact ⟨htable _ h.1, hpending.trans h.2.1, hresponse.trans h.2.2⟩
  | waiting refresh =>
    refine ⟨htable _ h.1, hpending ▸ h.2.1, ?_⟩
    rcases h.2.2 with hnone | ⟨hok, hset⟩
    · exact .inl (hresponse.trans hnone)
    · exact .inr ⟨hresponse.trans hok, hsettled hset⟩
  | failing _ _ => exact h
  | returned refresh result =>
    rcases result with error | _
    · exact ⟨hroutes.trans h.1, hsettled h.2⟩
    · exact ⟨htable _ h.1, hsettled h.2⟩

/-- A step of the thread. -/
theorem Sound.supervise {event : SupervisorEvent} (h : proxy.Sound)
    (hstep : proxy.supervise event = some next) (hshutdown : proxy.shutdownRequested = false)
    (hfails : (ProxyEvent.supervisor event).fails = false) : next.Sound := by
  rcases supervise_cases hstep hshutdown h.serving hfails with
    hquiet | ⟨reason, hspawning, rfl⟩ | ⟨child, hstarting, rfl⟩
  · refine ⟨hquiet.serving, ?_, fun child hchild => absurd hchild (hquiet.started child)⟩
    rw [hquiet.refresh]
    exact StageSound.of_same proxy next hquiet.routes hquiet.response hquiet.pending
      (fun hsettled => hsettled.quiet hquiet) h.stage
  · -- The child is spawned with the table as it is now.
    have hserves : ∀ child, (Supervisor.starting reason ⟨proxy.routes⟩).child? = some child →
        child.routes = proxy.routes := fun child hchild => (Option.some.inj hchild) ▸ rfl
    have hpending : pending { proxy with supervisor := .starting reason ⟨proxy.routes⟩ } =
        proxy.pending := by
      rw [pending, pending, hspawning]
      cases reason <;> rfl
    refine ⟨rfl, ?_, fun child hchild => ?_⟩
    · exact StageSound.of_same proxy { proxy with supervisor := .starting reason ⟨proxy.routes⟩ }
        rfl rfl hpending (fun hsettled => ⟨hpending.trans hsettled.pending, hserves⟩) h.stage
    · injection hchild with _ hchild
      rw [← hchild]
  · -- The thread answers the refresh that it was asked for.
    have hone : proxy.pending ≠ 0 := by
      rw [pending, hstarting]
      exact Nat.succ_ne_zero _
    rcases h.waiting_of_pending hone with ⟨refresh, hrefresh, htable, hpending, _⟩
    have hnext : pending { proxy with
        response := some (.ok ())
        supervisor := .atLoopHead child } = 0 := by
      rw [pending, hstarting] at hpending
      exact Nat.succ.inj hpending
    refine ⟨rfl, ?_, nofun⟩
    rw [show (_ : RefreshStage) = _ from hrefresh]
    refine ⟨htable, hnext.trans_le (Nat.zero_le 1), .inr ⟨rfl, hnext, fun other hother => ?_⟩⟩
    rw [← Option.some.inj hother]
    exact h.started child hstarting

/-- Asking for a refresh. -/
theorem pending_send (proxy : EgressProxy) (refresh : RefreshStage) :
    pending { proxy with commands := proxy.commands ++ [.refreshRoutes], refresh := refresh } =
      proxy.pending + 1 := by
  rw [pending, pending, List.count_append]
  show _ + 1 + proxy.supervisor.refreshing.toNat = _
  omega

/-- Routes that are called for where nothing is under way. -/
theorem Sound.upsertControlRoutes (h : proxy.Sound) (hsettled : proxy.Settled)
    (requested : List ControlEgressRouteMatcher) : (proxy.upsertControlRoutes requested).Sound := by
  rw [EgressProxy.upsertControlRoutes]
  cases hroutes : requested.mapM egressProxyRouteFromControl with
  | error error => exact ⟨h.serving, ⟨rfl, hsettled.pending, hsettled.serves⟩, h.started⟩
  | ok routes =>
    refine ⟨h.serving, ⟨⟨routes, hroutes, upsertAll_spec _ _⟩, hsettled.pending, rfl⟩, ?_⟩
    intro child hchild
    -- No child is being started for a refresh, or one would be under way.
    have hpending := hsettled.pending
    rw [pending, hchild] at hpending
    exact absurd hpending (Nat.succ_ne_zero _)

/-- A step of a refresh. -/
theorem Sound.upsert {event : RefreshEvent} (h : proxy.Sound)
    (hstep : proxy.upsert? event = some next) : next.Sound := by
  have hstage := h.stage
  have hrunning := Supervisor.isRunning_of_serving h.serving
  unfold upsert? at hstep
  cases hrefresh : proxy.refresh with
  | never =>
    rw [hrefresh] at hstage
    rw [hrefresh] at hstep
    cases event with
    | upsertControlRoutes requested =>
      rw [← Option.some.inj hstep]
      exact h.upsertControlRoutes hstage requested
    | _ => exact nomatch hstep
  | tableWritten refresh =>
    rw [hrefresh] at hstage
    rw [hrefresh] at hstep
    cases event with
    | sendRefreshRoutes =>
      dsimp only at hstep
      rw [if_pos hrunning] at hstep
      rw [← Option.some.inj hstep]
      have hpending := pending_send proxy (.waiting refresh)
      refine ⟨h.serving, ⟨hstage.1, ?_, .inl hstage.2.2⟩, h.started⟩
      rw [hpending, hstage.2.1]
    | _ => exact nomatch hstep
  | waiting refresh =>
    rw [hrefresh] at hstage
    rw [hrefresh] at hstep
    cases event with
    | receiveResponse =>
      rcases hstage with ⟨htable, _, hnone | ⟨hok, hsettled⟩⟩
      · -- The thread is alive and has not answered, so there is nothing to receive.
        dsimp only at hstep
        rw [hnone] at hstep
        dsimp only at hstep
        rw [if_pos hrunning] at hstep
        exact nomatch hstep
      · dsimp only at hstep
        rw [hok] at hstep
        rw [← Option.some.inj hstep]
        exact ⟨h.serving, ⟨htable, hsettled.pending, hsettled.serves⟩, h.started⟩
    | _ => exact nomatch hstep
  | failing refresh error =>
    rw [hrefresh] at hstage
    exact hstage.elim
  | returned refresh result =>
    rw [hrefresh] at hstage
    rw [hrefresh] at hstep
    have hsettled : proxy.Settled := by
      rcases result with error | _
      · exact hstage.2
      · exact hstage.2
    cases event with
    | upsertControlRoutes requested =>
      rw [← Option.some.inj hstep]
      exact h.upsertControlRoutes hsettled requested
    | _ => exact nomatch hstep

/-! ### Runs -/

theorem restartFailed_shutdownRequested (proxy : EgressProxy) (reason : RestartReason) :
    (proxy.restartFailed reason).shutdownRequested = proxy.shutdownRequested := by
  cases reason with
  | routeRefresh => rfl
  | restartAfterFailure =>
    rw [restartFailed]
    split
    · rfl
    · rfl

theorem supervise_shutdownRequested {event : SupervisorEvent}
    (hstep : proxy.supervise event = some next) :
    next.shutdownRequested = proxy.shutdownRequested := by
  unfold supervise at hstep
  split at hstep <;> (try split at hstep) <;> cases hstep <;>
    first
    | rfl
    | exact restartFailed_shutdownRequested proxy _

/-- A step of a refresh neither answers nor touches the thread. -/
structure LeavesThread (proxy next : EgressProxy) : Prop where
  shutdownRequested : next.shutdownRequested = proxy.shutdownRequested
  supervisor : next.supervisor = proxy.supervisor
  response : next.response = proxy.response ∨ next.response = none

theorem upsertControlRoutes_leavesThread (proxy : EgressProxy)
    (requested : List ControlEgressRouteMatcher) :
    LeavesThread proxy (proxy.upsertControlRoutes requested) := by
  rw [EgressProxy.upsertControlRoutes]
  cases requested.mapM egressProxyRouteFromControl with
  | error _ => exact ⟨rfl, rfl, .inl rfl⟩
  | ok _ => exact ⟨rfl, rfl, .inr rfl⟩

theorem upsert_leavesThread {event : RefreshEvent} (hstep : proxy.upsert? event = some next) :
    LeavesThread proxy next := by
  unfold upsert? at hstep
  split at hstep <;> (try split at hstep) <;> (try split at hstep) <;> cases hstep <;>
    first
    | exact ⟨rfl, rfl, .inl rfl⟩
    | exact upsertControlRoutes_leavesThread proxy _

/-- Once the program is to shut down, it stays so. -/
theorem shutdownRequested_of_step {event : ProxyEvent} (hstep : proxy.step? event = some next)
    (h : next.shutdownRequested = false) : proxy.shutdownRequested = false := by
  cases event with
  | supervisor event => exact (supervise_shutdownRequested hstep).symm.trans h
  | refresh event => exact (upsert_leavesThread hstep).shutdownRequested.symm.trans h
  | forceCurrentServerShutdown =>
    rw [step?] at hstep
    split at hstep <;> (rw [← Option.some.inj hstep] at h; exact h)
  | requestShutdown =>
    rw [← Option.some.inj hstep] at h
    exact nomatch h

theorem Sound.step {event : ProxyEvent} (h : proxy.Sound) (hstep : proxy.step? event = some next)
    (hshutdown : next.shutdownRequested = false) (hfails : event.fails = false) : next.Sound := by
  have hbefore := shutdownRequested_of_step hstep hshutdown
  cases event with
  | supervisor event => exact h.supervise hstep hbefore hfails
  | refresh event => exact h.upsert hstep
  | forceCurrentServerShutdown =>
    rw [step?, if_pos (Supervisor.isRunning_of_serving h.serving)] at hstep
    rw [← Option.some.inj hstep]
    have hpending : pending { proxy with
        commands := proxy.commands ++ [.forceCurrentServerShutdown] } = proxy.pending := by
      rw [pending, pending, List.count_append]
      rfl
    refine ⟨h.serving, ?_, h.started⟩
    exact StageSound.of_same proxy
      { proxy with commands := proxy.commands ++ [.forceCurrentServerShutdown] } rfl rfl hpending
      (fun hsettled => ⟨hpending.trans hsettled.pending, hsettled.serves⟩) h.stage
  | requestShutdown =>
    rw [← Option.some.inj hstep] at hshutdown
    exact nomatch hshutdown

/-- Along a run in which no step fails. -/
theorem Sound.run {routes : List SharedEgressRoute} {trace : List (Entry ProxyEvent Unit)}
    (run : Run proxyStep (.started routes) trace proxy)
    (hshutdown : proxy.shutdownRequested = false) (hfails : ∀ entry ∈ trace, entry.input.fails = false) :
    proxy.Sound := by
  have hsound : proxy.shutdownRequested = false → (∀ entry ∈ trace, entry.input.fails = false) →
      proxy.Sound := by
    refine run.history (P := fun trace proxy => proxy.shutdownRequested = false →
      (∀ entry ∈ trace, entry.input.fails = false) → proxy.Sound) (fun _ _ => Sound.initial routes) ?_
    intro trace a event out b _ ih hstep hb hfails
    refine (ih (shutdownRequested_of_step hstep.1 hb) ?_).step hstep.1 hb ?_
    · exact fun entry hentry => hfails entry (List.mem_append_left _ hentry)
    · exact hfails ⟨event, out⟩ (List.mem_append_right _ (List.mem_singleton.mpr rfl))
  exact hsound hshutdown hfails

/-- What is sound is all or nothing. -/
theorem Sound.atomic (h : proxy.Sound) {refresh : Refresh} {result : Except Text Unit}
    (hreturned : proxy.refresh = .returned refresh result) : proxy.Atomic refresh result := by
  have hstage := h.stage
  rw [hreturned] at hstage
  rcases result with error | _
  · exact ⟨hstage.1, Supervisor.isRunning_of_serving h.serving, hstage.1 ▸ hstage.2.serves⟩
  · exact ⟨hstage.1, hstage.2.serves⟩

/-- A step that fails ends the thread. -/
theorem ended_of_step_fails {event : ProxyEvent} (hstep : proxy.step? event = some next)
    (hfails : event.fails = true) : next.supervisor.isRunning = false := by
  rcases proxy with ⟨routes, commands, response, shutdownRequested, supervisor, refresh⟩
  rcases event with (_ | _ | (error | _) | (error | _) | _ | _ | _) | _ | _ | _
  case supervisor.shutdownChild.error =>
    cases supervisor with
    | stopping child => exact (Option.some.inj hstep) ▸ rfl
    | replacing child => exact (Option.some.inj hstep) ▸ rfl
    | starting reason child => cases reason <;> exact nomatch hstep
    | _ => exact nomatch hstep
  case supervisor.tryRecvExit.error =>
    cases supervisor with
    | polling child => exact (Option.some.inj hstep) ▸ rfl
    | starting reason child => cases reason <;> exact nomatch hstep
    | _ => exact nomatch hstep
  all_goals exact nomatch hfails

/-- A thread that ended stays so. -/
theorem ended_of_step {event : ProxyEvent} (hstep : proxy.step? event = some next)
    (hended : proxy.supervisor.isRunning = false) : next.supervisor.isRunning = false := by
  cases event with
  | supervisor event =>
    rcases proxy with ⟨routes, commands, response, shutdownRequested, supervisor, refresh⟩
    cases supervisor with
    | ended result => exact nomatch hstep
    | _ => exact nomatch hended
  | refresh event =>
    rw [(upsert_leavesThread hstep).supervisor]
    exact hended
  | forceCurrentServerShutdown =>
    rw [step?, hended] at hstep
    exact (Option.some.inj hstep) ▸ hended
  | requestShutdown => exact (Option.some.inj hstep) ▸ hended

theorem ended_of_fails {routes : List SharedEgressRoute} {trace : List (Entry ProxyEvent Unit)}
    (run : Run proxyStep (.started routes) trace proxy)
    (hfails : ∃ entry ∈ trace, entry.input.fails = true) : proxy.supervisor.isRunning = false := by
  refine run.history (P := fun trace proxy => (∃ entry ∈ trace, entry.input.fails = true) →
    proxy.supervisor.isRunning = false) (fun h => ?_) ?_ hfails
  · rcases h with ⟨entry, hentry, _⟩
    exact absurd hentry List.not_mem_nil
  · rintro trace a event out b _ ih hstep ⟨entry, hentry, hfails⟩
    rcases List.mem_append.mp hentry with hentry | hentry
    · exact ended_of_step hstep.1 (ih ⟨entry, hentry, hfails⟩)
    · rw [List.mem_singleton.mp hentry] at hfails
      exact ended_of_step_fails hstep.1 hfails

/-- When the thread answers that a refresh succeeded, its child serves the table. -/
theorem Sound.answers {event : ProxyEvent} (h : proxy.Sound)
    (hstep : proxy.step? event = some next) (hshutdown : proxy.shutdownRequested = false)
    (hfails : event.fails = false) (hnone : proxy.response = none)
    (hok : next.response = some (.ok ())) : next.supervisor = .atLoopHead ⟨next.routes⟩ := by
  cases event with
  | supervisor event =>
    rcases supervise_cases hstep hshutdown h.serving hfails with
      hquiet | ⟨reason, _, rfl⟩ | ⟨child, hstarting, rfl⟩
    · exact nomatch (hquiet.response.trans hnone).symm.trans hok
    · exact nomatch hnone.symm.trans hok
    · rw [← h.started child hstarting]
  | refresh event =>
    have hresponse : next.response = none :=
      (upsert_leavesThread hstep).response.elim (fun h => h.trans hnone) id
    exact nomatch hresponse.symm.trans hok
  | forceCurrentServerShutdown =>
    rw [step?] at hstep
    split at hstep <;>
    · rw [← Option.some.inj hstep] at hok
      exact nomatch hnone.symm.trans hok
  | requestShutdown =>
    rw [← Option.some.inj hstep] at hok
    exact nomatch hnone.symm.trans hok

/-- While no child fails to shut down for a refresh and no poll fails, every refresh is all
    or nothing, and a child serves the table when the thread answers. Once there was such a
    failure, no refresh that returns an error is. -/
theorem refresh_atomic (routes : List SharedEgressRoute) {trace : List (Entry ProxyEvent Unit)}
    (run : Run proxyStep (.started routes) trace proxy)
    (hshutdown : proxy.shutdownRequested = false) :
    ((∀ entry ∈ trace, entry.input.fails = false) →
      (∀ refresh result, proxy.refresh = .returned refresh result →
        proxy.Atomic refresh result) ∧
      ∀ event next, event.fails = false → proxyStep proxy event [] next → proxy.response = none →
        next.response = some (.ok ()) → next.supervisor = .atLoopHead ⟨next.routes⟩) ∧
    ((∃ entry ∈ trace, entry.input.fails = true) → ∀ refresh error,
      proxy.refresh = .returned refresh (.error error) →
        ¬ proxy.Atomic refresh (.error error)) := by
  refine ⟨fun hfails => ?_, fun hfails refresh error _ hatomic => ?_⟩
  · have hsound := Sound.run run hshutdown hfails
    refine ⟨fun refresh result hreturned => hsound.atomic hreturned, ?_⟩
    exact fun event next hevent hstep hnone hok =>
      hsound.answers hstep.1 hshutdown hevent hnone hok
  · exact absurd hatomic.2.1 (by rw [ended_of_fails run hfails]; exact Bool.false_ne_true)

/-! ### Two refreshes -/

/-- A step as it is executed. -/
def executeStep (proxy : EgressProxy) (event : ProxyEvent) : Option (EgressProxy × List Unit) :=
  (proxy.step? event).map fun next => (next, [])

theorem proxyStep_of_executeStep (event : ProxyEvent) (out : List Unit)
    (h : proxy.executeStep event = some (next, out)) : proxyStep proxy event out next := by
  rcases Option.map_eq_some_iff.mp h with ⟨other, hother, heq⟩
  rw [Prod.mk.injEq] at heq
  exact ⟨heq.1 ▸ hother, heq.2.symm⟩

/-- A route for one host. -/
def controlRoute : ControlEgressRouteMatcher where
  egressRuleId := "rule_1".toList
  hosts := ["api.example.com".toList]
  pathPrefixes := ["/".toList]
  methods := none
  designerRuntimeMcp := none

/-- A refresh of one route, up to where the thread shuts the child down. -/
def refreshEvents : List ProxyEvent :=
  [.refresh (.upsertControlRoutes [controlRoute]), .refresh .sendRefreshRoutes,
    .supervisor .loadShutdownRequested, .supervisor .tryReceive]

/-- The child exits, another is spawned and becomes healthy. -/
def replacedEvents : List ProxyEvent :=
  [.supervisor (.shutdownChild (.ok ())), .supervisor .loadShutdownRequested,
    .supervisor .loadShutdownRequested, .supervisor (.spawnChild (.ok ())),
    .supervisor (.waitForHealth (.ok ())), .refresh .receiveResponse]

/-- The child cannot be waited for. -/
def notReplacedEvents : List ProxyEvent :=
  [.supervisor (.shutdownChild (.error "failed to wait for local egress proxy child".toList)),
    .refresh .receiveResponse, .refresh .restoreRoutes]

theorem refresh_atomic_replaced : ∃ trace proxy refresh,
    Run proxyStep (.started []) trace proxy ∧ proxy.refresh = .returned refresh (.ok ()) ∧
      refresh.requested = [controlRoute] ∧ proxy.Atomic refresh (.ok ()) := by
  have hexecutes : executesTo executeStep (.started []) (refreshEvents ++ replacedEvents)
      (fun _ proxy => decide (proxy.shutdownRequested = false ∧
        proxy.refresh = .returned ⟨[controlRoute], []⟩ (.ok ()))) = true := by
    decide +kernel
  rcases exists_run_of_executesTo hexecutes with ⟨trace, proxy, run, hinputs, hcheck⟩
  rcases of_decide_eq_true hcheck with ⟨hshutdown, hreturned⟩
  have hrun := run.mono fun a i out b => proxyStep_of_executeStep i out
  have hfails : ∀ entry ∈ trace, entry.input.fails = false := by
    intro entry hentry
    have hquiet : ∀ event ∈ refreshEvents ++ replacedEvents, event.fails = false := by decide
    exact hquiet entry.input (hinputs ▸ List.mem_map_of_mem hentry)
  exact ⟨trace, proxy, _, hrun, hreturned, rfl,
    ((refresh_atomic [] hrun hshutdown).1 hfails).1 _ _ hreturned⟩

/-- A refresh that fails because the child could not be waited for: the table is put back,
    but the thread has ended. -/
theorem refresh_ends_thread : ∃ trace proxy refresh error,
    Run proxyStep (.started []) trace proxy ∧ proxy.shutdownRequested = false ∧
      proxy.refresh = .returned refresh (.error error) ∧ proxy.routes = refresh.previousRoutes ∧
      proxy.supervisor.isRunning = false ∧ ¬ proxy.Atomic refresh (.error error) := by
  have hexecutes : executesTo executeStep (.started []) (refreshEvents ++ notReplacedEvents)
      (fun _ proxy => decide (proxy.shutdownRequested = false ∧
        proxy.refresh = .returned ⟨[controlRoute], []⟩
          (.error "failed to wait for local egress proxy child".toList) ∧
        proxy.routes = [] ∧ proxy.supervisor.isRunning = false)) = true := by
    decide +kernel
  rcases exists_run_of_executesTo hexecutes with ⟨trace, proxy, run, _, hcheck⟩
  rcases of_decide_eq_true hcheck with ⟨hshutdown, hreturned, hroutes, hended⟩
  have hrun := run.mono fun a i out b => proxyStep_of_executeStep i out
  refine ⟨trace, proxy, _, _, hrun, hshutdown, hreturned, hroutes, hended, fun hatomic => ?_⟩
  exact Bool.false_ne_true (hended.symm.trans hatomic.2.1)

end EgressProxy

end Sandbox

end Mistle
