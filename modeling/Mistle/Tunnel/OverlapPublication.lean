import Mistle.Tunnel.SessionOverlap

/-!
# What the Gateway Is Told After an Overlap

While two sessions run, a message may be published by the old loop that the new connection never
sees, and the old loop's end may silence the managers. The activation makes that good: it waits
for the old loop to end, and then marks both managers once more. From then on only the new loop
publishes, and whatever a manager remembers as published last is what was last written on the
new connection. So a loop that goes through its three places once has told everything.

## Main definitions

* `lastActive`, `lastReady`: What was last told.
* `PublishedInv`: What holds once the activation has come so far.
* `PublishesCurrent`: What was last written on the new connection is what is kept now.

## Theorems

* `published_inv`: What holds in every run.
* `current_after_turns`: Three turns of the new loop tell what is kept.
* `overlap_undisturbed_iff`: The new session starts exactly when its mark is not taken away, and
  once the activation has returned the gateway is told what is kept.
-/

namespace Mistle

/-! ### What is published -/

/-- The activity last told in some messages. -/
def lastActive (messages : List OutboundMessage) : Option Bool :=
  messages.foldl (fun last message =>
    match message with
    | .keepaliveState _ active => some active
    | _ => last) none

/-- The readiness last told in some messages. -/
def lastReady (messages : List OutboundMessage) : Option Bool :=
  messages.foldl (fun last message =>
    match message with
    | .runtimeReady ready => some ready
    | _ => last) none

theorem lastActive_snoc (messages : List OutboundMessage) (message : OutboundMessage) :
    lastActive (messages ++ [message]) = match message with
      | .keepaliveState _ active => some active
      | _ => lastActive messages := by
  unfold lastActive
  rw [List.foldl_append]
  rfl

theorem lastReady_snoc (messages : List OutboundMessage) (message : OutboundMessage) :
    lastReady (messages ++ [message]) = match message with
      | .runtimeReady ready => some ready
      | _ => lastReady messages := by
  unfold lastReady
  rw [List.foldl_append]
  rfl

/-- The keepalive manager has a connected tunnel, and what it published last was last told. -/
def KeepaliveManager.Tells (manager : KeepaliveManager) (messages : List OutboundMessage) : Prop :=
  manager.tunnelConnected = true ∧
    (manager.lastPublishedActive = none ∨ manager.lastPublishedActive = lastActive messages)

/-- The same of the readiness manager. -/
def RuntimeReadinessManager.Tells (manager : RuntimeReadinessManager)
    (messages : List OutboundMessage) : Prop :=
  manager.tunnelConnected = true ∧
    (manager.lastPublishedReady = none ∨ manager.lastPublishedReady = lastReady messages)

/-- What holds once the activation has come so far, of the messages on the new connection. -/
structure PublishedInv (messages : List OutboundMessage) (s : Overlap) : Prop where
  completed : 0 < s.activation.rank → s.startupCompleted = true
  ended : 2 < s.activation.rank → s.old = .ended
  keepalive : 4 < s.activation.rank → s.managers.keepalive.Tells messages
  readiness : 5 < s.activation.rank → s.managers.readiness.Tells messages

/-- Before the new session has started, and after a failure, nothing is asked. -/
theorem PublishedInv.of_unstarted {messages : List OutboundMessage} {s : Overlap}
    (h : s.activation.rank = 0) : PublishedInv messages s where
  completed hr := absurd hr (by omega)
  ended hr := absurd hr (by omega)
  keepalive hr := absurd hr (by omega)
  readiness hr := absurd hr (by omega)

/-- What is kept may change at any time: that is not what has been published of it. -/
theorem PublishedInv.setReadiness {messages : List OutboundMessage} {s : Overlap}
    (h : PublishedInv messages s) (ready : Bool) :
    PublishedInv messages (s.setReadiness (.setReady ready)) :=
  ⟨h.completed, h.ended, h.keepalive, h.readiness⟩

/-- One turn of a loop that goes on, on a socket that holds, keeps what is told. -/
theorem SessionLoop.turn_tells {loop next : SessionLoop} {turn : LoopTurn}
    {managers managers' : Managers} {written messages : List OutboundMessage}
    (h : loop.turn turn managers = some (next, managers', written))
    (hlooping : loop.isLooping = true) (hdelivered : turn.delivered = true) :
    (managers.keepalive.Tells messages → managers'.keepalive.Tells (messages ++ written)) ∧
      (managers.readiness.Tells messages → managers'.readiness.Tells (messages ++ written)) := by
  cases loop with
  | publishingKeepalive =>
      rw [SessionLoop.turn] at h
      rcases managers.keepalive.takePublishableState_cases turn.nowMs with ⟨htake, -⟩ | htake
      · simp only [htake, publish] at h
        cases h
        rw [List.append_nil]
        exact ⟨id, id⟩
      · simp only [htake, publish, if_pos hdelivered] at h
        cases h
        refine ⟨fun ht => ⟨ht.1, .inr ?_⟩, fun ht => ⟨ht.1, ?_⟩⟩
        · rw [KeepaliveManager.snapshot, lastActive_snoc]
          rfl
        · rw [KeepaliveManager.snapshot, lastReady_snoc]
          exact ht.2
  | publishingReadiness =>
      rw [SessionLoop.turn] at h
      rcases managers.readiness.takePublishableState_cases with ⟨htake, -⟩ | htake
      · simp only [htake, publish] at h
        cases h
        rw [List.append_nil]
        exact ⟨id, id⟩
      · simp only [htake, RuntimeReadinessManager.published, publish, if_pos hdelivered] at h
        cases h
        refine ⟨fun ht => ⟨ht.1, ?_⟩, fun ht => ⟨ht.1, .inr ?_⟩⟩
        · rw [lastActive_snoc]
          exact ht.2
        · rw [lastReady_snoc]
  | waiting =>
      cases h
      rw [List.append_nil]
      exact ⟨id, id⟩
  | openingTelemetry => cases hlooping
  | markingKeepaliveConnected => cases hlooping
  | markingReadinessConnected => cases hlooping
  | publishingInitialReadiness => cases hlooping
  | markingKeepaliveDisconnected => cases hlooping
  | markingReadinessDisconnected => cases hlooping
  | ended => cases hlooping

/-- The activation marks the managers connected, and waits for the old loop before it does. -/
theorem PublishedInv.activate {messages : List OutboundMessage} {s t : Overlap} {nowMs : Nat}
    {attached ready : Bool} (h : PublishedInv messages s)
    (hstep : s.activate nowMs attached ready = some t) : PublishedInv messages t := by
  unfold Overlap.activate at hstep
  cases hactivation : s.activation with
  | startingTunnelSession =>
      rw [hactivation] at hstep
      by_cases hcompleted : s.startupCompleted = true
      · rw [if_pos hcompleted] at hstep
        cases hstep
        exact ⟨fun _ => hcompleted, fun hr => by simp [Activation.rank] at hr,
          fun hr => by simp [Activation.rank] at hr, fun hr => by simp [Activation.rank] at hr⟩
      · rw [if_neg hcompleted] at hstep
        by_cases hended : s.new = .ended
        · rw [if_pos hended] at hstep
          cases hstep
          exact .of_unstarted rfl
        · rw [if_neg hended] at hstep
          cases hstep
  | attaching =>
      have hcompleted : s.startupCompleted = true := h.completed (by rw [hactivation]; decide)
      rw [hactivation] at hstep
      cases hstep
      cases attached with
      | false => exact .of_unstarted rfl
      | true =>
          exact ⟨fun _ => hcompleted, fun hr => by simp [Activation.rank] at hr,
            fun hr => by simp [Activation.rank] at hr, fun hr => by simp [Activation.rank] at hr⟩
  | closingPreviousTunnelSession =>
      have hcompleted : s.startupCompleted = true := h.completed (by rw [hactivation]; decide)
      rw [hactivation] at hstep
      by_cases hended : s.old = .ended
      · rw [if_pos hended] at hstep
        cases hstep
        exact ⟨fun _ => hcompleted, fun _ => hended, fun hr => by simp [Activation.rank] at hr,
          fun hr => by simp [Activation.rank] at hr⟩
      · rw [if_neg hended] at hstep
        cases hstep
  | syncingRuntimeReadiness =>
      have hcompleted : s.startupCompleted = true := h.completed (by rw [hactivation]; decide)
      have hended : s.old = .ended := h.ended (by rw [hactivation]; decide)
      rw [hactivation] at hstep
      cases hstep
      exact ⟨fun _ => hcompleted, fun _ => hended, fun hr => by simp [Activation.rank] at hr,
        fun hr => by simp [Activation.rank] at hr⟩
  | markingKeepaliveConnected =>
      have hcompleted : s.startupCompleted = true := h.completed (by rw [hactivation]; decide)
      have hended : s.old = .ended := h.ended (by rw [hactivation]; decide)
      rw [hactivation] at hstep
      cases hstep
      exact ⟨fun _ => hcompleted, fun _ => hended, fun _ => ⟨rfl, .inl rfl⟩,
        fun hr => by simp [Activation.rank] at hr⟩
  | markingReadinessConnected =>
      have hcompleted : s.startupCompleted = true := h.completed (by rw [hactivation]; decide)
      have hended : s.old = .ended := h.ended (by rw [hactivation]; decide)
      have hkeepalive := h.keepalive (by rw [hactivation]; decide)
      rw [hactivation] at hstep
      cases hstep
      exact ⟨fun _ => hcompleted, fun _ => hended, fun _ => hkeepalive, fun _ => ⟨rfl, .inl rfl⟩⟩
  | returned =>
      rw [hactivation] at hstep
      cases hstep
  | failed =>
      rw [hactivation] at hstep
      cases hstep

/-- The old loop does not take a turn any more once the activation has waited for it. -/
theorem PublishedInv.old {messages : List OutboundMessage} {s t : Overlap} {turn : LoopTurn}
    (h : PublishedInv messages s) (hstep : s.turnOld turn = some t) : PublishedInv messages t := by
  rcases Option.map_eq_some_iff.mp hstep with ⟨⟨next, managers, written⟩, hturn, rfl⟩
  have hrank : ¬2 < s.activation.rank := by
    intro hrank
    rw [h.ended hrank] at hturn
    cases hturn
  exact ⟨h.completed, fun hr => absurd hr hrank, fun hr => absurd (Nat.lt_trans (by decide) hr) hrank,
    fun hr => absurd (Nat.lt_trans (by decide) hr) hrank⟩

/-- A turn of the new loop, which goes on once its startup is completed. -/
theorem PublishedInv.new {messages out : List OutboundMessage} {n : Nat} {U : Prop} {s t : Overlap}
    {turn : LoopTurn} (h : PublishedInv messages s) (hstartup : StartupInv n U s)
    (hstep : s.turnNew turn = some (t, out)) (hdelivered : turn.delivered = true) :
    PublishedInv (messages ++ out) t := by
  rcases Option.map_eq_some_iff.mp hstep with ⟨⟨next, managers, written⟩, hturn, heq⟩
  cases heq
  have hlooping : 0 < s.activation.rank → s.new.isLooping = true := fun hr =>
    hstartup.looping (h.completed hr)
  refine ⟨fun hr => ?_, h.ended, fun hr => ?_, fun hr => ?_⟩
  · exact Bool.or_eq_true_iff.mpr (.inl (h.completed hr))
  · have hgoes := hlooping (Nat.lt_trans (by decide) hr)
    exact (SessionLoop.turn_tells hturn hgoes hdelivered).1 (h.keepalive hr)
  · have hgoes := hlooping (Nat.lt_trans (by decide) hr)
    exact (SessionLoop.turn_tells hturn hgoes hdelivered).2 (h.readiness hr)

/-- What holds once the activation has come so far. -/
theorem published_inv {managers : Managers} {old : SessionLoop} {trace : OverlapTrace}
    {s : Overlap} (run : OverlapRun (.start managers old) trace s) (hsocket : SocketHolds trace) :
    PublishedInv (outputs trace) s := by
  refine run.history (P := fun trace s => SocketHolds trace → PublishedInv (outputs trace) s)
    (fun _ => .of_unstarted rfl) (fun trace a input out b before ih hstep hsocket => ?_) hsocket
  have hholds : SocketHolds trace :=
    fun entry hentry => hsocket entry (List.mem_append_left _ hentry)
  have hbefore := ih hholds
  rw [outputs_append, outputs_singleton]
  cases input with
  | old turn =>
      rcases Option.map_eq_some_iff.mp hstep with ⟨b', hturn, heq⟩
      cases heq
      rw [List.append_nil]
      exact hbefore.old hturn
  | new turn =>
      have hdelivered := (hsocket ⟨.new turn, out⟩
        (List.mem_append_right _ (List.mem_singleton_self _)) turn rfl).1
      exact hbefore.new (startup_inv before hholds) hstep hdelivered
  | activation nowMs attached ready =>
      rcases Option.map_eq_some_iff.mp hstep with ⟨b', hactivate, heq⟩
      cases heq
      rw [List.append_nil]
      exact hbefore.activate hactivate
  | setUserActive active =>
      cases hstep
      rw [List.append_nil]
      exact ⟨hbefore.completed, hbefore.ended, hbefore.keepalive, hbefore.readiness⟩
  | setPlatformActive active =>
      cases hstep
      rw [List.append_nil]
      exact ⟨hbefore.completed, hbefore.ended, hbefore.keepalive, hbefore.readiness⟩
  | setPlatformProcessActive active =>
      cases hstep
      rw [List.append_nil]
      exact ⟨hbefore.completed, hbefore.ended, hbefore.keepalive, hbefore.readiness⟩
  | setReady ready =>
      cases hstep
      rw [List.append_nil]
      exact hbefore.setReadiness ready

/-! ### What is told once the activation has returned -/

/-- The place of a loop among the three it goes through. -/
def SessionLoop.place : SessionLoop → Nat
  | .publishingReadiness => 1
  | .waiting => 2
  | _ => 0

/-- What was last written on the new connection is what is kept now. -/
def PublishesCurrent (messages : List OutboundMessage) (managers : Managers) : Prop :=
  lastActive messages = some managers.keepalive.active ∧
    lastReady messages = some managers.readiness.ready

/-- A turn of a loop that goes on: each of its two publications leaves the current value as the
    last one told, and no turn changes what is kept. -/
theorem SessionLoop.turn_current {loop next : SessionLoop} {turn : LoopTurn}
    {managers managers' : Managers} {written messages : List OutboundMessage}
    (h : loop.turn turn managers = some (next, managers', written))
    (hlooping : loop.isLooping = true) (hdelivered : turn.delivered = true)
    (hclosed : turn.closed = false) (hkeepalive : managers.keepalive.Tells messages)
    (hreadiness : managers.readiness.Tells messages) :
    next.place = (loop.place + 1) % 3 ∧
      (loop.place = 0 ∨ lastActive messages = some managers'.keepalive.active →
        lastActive (messages ++ written) = some managers'.keepalive.active) ∧
      (loop.place = 1 ∨ lastReady messages = some managers'.readiness.ready →
        lastReady (messages ++ written) = some managers'.readiness.ready) := by
  cases loop with
  | publishingKeepalive =>
      rw [SessionLoop.turn] at h
      rcases managers.keepalive.takePublishableState_cases turn.nowMs with ⟨htake, hquiet⟩ | htake
      · simp only [htake, publish] at h
        cases h
        rw [List.append_nil]
        refine ⟨rfl, fun _ => ?_, fun h => h.resolve_left (by decide)⟩
        have hlast := hquiet hkeepalive.1
        rcases hkeepalive.2 with hnone | hsame
        · rw [hnone] at hlast
          cases hlast
        · exact hsame.symm.trans hlast
      · simp only [htake, publish, if_pos hdelivered] at h
        cases h
        rw [KeepaliveManager.snapshot, lastActive_snoc, lastReady_snoc]
        exact ⟨rfl, fun _ => rfl, fun h => h.resolve_left (by decide)⟩
  | publishingReadiness =>
      rw [SessionLoop.turn] at h
      rcases managers.readiness.takePublishableState_cases with ⟨htake, hquiet⟩ | htake
      · simp only [htake, publish] at h
        cases h
        rw [List.append_nil]
        refine ⟨rfl, fun h => h.resolve_left (by decide), fun _ => ?_⟩
        have hlast := hquiet hreadiness.1
        rcases hreadiness.2 with hnone | hsame
        · rw [hnone] at hlast
          cases hlast
        · exact hsame.symm.trans hlast
      · simp only [htake, RuntimeReadinessManager.published, publish, if_pos hdelivered] at h
        cases h
        rw [lastActive_snoc, lastReady_snoc]
        exact ⟨rfl, fun h => h.resolve_left (by decide), fun _ => rfl⟩
  | waiting =>
      rw [SessionLoop.turn, hclosed] at h
      cases h
      rw [List.append_nil]
      exact ⟨rfl, fun h => h.resolve_left (by decide), fun h => h.resolve_left (by decide)⟩
  | openingTelemetry => cases hlooping
  | markingKeepaliveConnected => cases hlooping
  | markingReadinessConnected => cases hlooping
  | publishingInitialReadiness => cases hlooping
  | markingKeepaliveDisconnected => cases hlooping
  | markingReadinessDisconnected => cases hlooping
  | ended => cases hlooping

/-- What is kept is the same in every state of a continuation. -/
def Unchanged (s : Overlap) (more : OverlapTrace) : Prop :=
  EveryState (fun s i out t => overlapStep s i = some (t, out)) s more fun t =>
    t.managers.keepalive.active = s.managers.keepalive.active ∧
      t.managers.readiness.ready = s.managers.readiness.ready

theorem Unchanged.init {s : Overlap} {more : OverlapTrace}
    {entry : Entry OverlapInput OutboundMessage} (h : Unchanged s (more ++ [entry])) :
    Unchanged s more := by
  intro before after t hmore run
  refine h before (after ++ [entry]) t ?_ run
  rw [hmore, List.append_assoc]

/-- Where the new loop is after so many turns since the return, and what it has told by then. -/
structure CurrentInv (first turns : Nat) (messages : List OutboundMessage) (s : Overlap) : Prop where
  returned : s.activation = .returned
  place : s.new.place = (first + turns) % 3
  active : first = 0 ∧ 0 < turns ∨ 3 < first + turns →
    lastActive messages = some s.managers.keepalive.active
  ready : first < 2 ∧ 1 < first + turns ∨ 4 < first + turns →
    lastReady messages = some s.managers.readiness.ready

/-- A step after the return that leaves what is kept as it is. -/
theorem CurrentInv.step {first turns n : Nat} {U : Prop} {messages out : List OutboundMessage}
    {s t : Overlap} {input : OverlapInput} (h : CurrentInv first turns messages s)
    (hfirst : first < 3) (hstartup : StartupInv n U s) (hpublished : PublishedInv messages s)
    (hstep : overlapStep s input = some (t, out))
    (hsocket : ∀ turn, input = .new turn → turn.delivered = true ∧ turn.closed = false)
    (hactive : t.managers.keepalive.active = s.managers.keepalive.active)
    (hready : t.managers.readiness.ready = s.managers.readiness.ready) :
    CurrentInv first (turns + input.isNew.toNat) (messages ++ out) t := by
  have hrank : s.activation.rank = 6 := by
    rw [h.returned]
    rfl
  have hkept : t.activation = s.activation → t.new = s.new →
      CurrentInv first turns (messages ++ []) t := by
    intro hactivation hnew
    rw [List.append_nil]
    refine ⟨hactivation.trans h.returned, ?_, ?_, ?_⟩
    · rw [hnew]
      exact h.place
    · rw [hactive]
      exact h.active
    · rw [hready]
      exact h.ready
  cases input with
  | old turn =>
      rcases Option.map_eq_some_iff.mp hstep with ⟨t', hturn, heq⟩
      rcases Option.map_eq_some_iff.mp hturn with ⟨⟨next, managers, written⟩, hmoves, -⟩
      rw [hpublished.ended (by omega)] at hmoves
      cases hmoves
  | new turn =>
      rcases hsocket turn rfl with ⟨hdelivered, hclosed⟩
      rcases Option.map_eq_some_iff.mp hstep with ⟨⟨next, managers, written⟩, hturn, heq⟩
      cases heq
      have hlooping : s.new.isLooping = true :=
        hstartup.looping (hpublished.completed (by omega))
      rcases SessionLoop.turn_current hturn hlooping hdelivered hclosed
        (hpublished.keepalive (by omega)) (hpublished.readiness (by omega)) with
        ⟨hplace, htold, hreadied⟩
      have hbefore := h.place
      have hactive' : managers.keepalive.active = s.managers.keepalive.active := hactive
      have hready' : managers.readiness.ready = s.managers.readiness.ready := hready
      refine ⟨h.returned, ?_, fun hlt => htold ?_, fun hlt => hreadied ?_⟩
      · show next.place = (first + (turns + 1)) % 3
        omega
      · rw [hactive']
        have hlt' : first = 0 ∧ 0 < turns + 1 ∨ 3 < first + (turns + 1) := hlt
        by_cases hat : s.new.place = 0
        · exact .inl hat
        · exact .inr (h.active (by omega))
      · rw [hready']
        have hlt' : first < 2 ∧ 1 < first + (turns + 1) ∨ 4 < first + (turns + 1) := hlt
        by_cases hat : s.new.place = 1
        · exact .inl hat
        · exact .inr (h.ready (by omega))
  | activation nowMs attached ready =>
      rcases Option.map_eq_some_iff.mp hstep with ⟨t', hactivate, -⟩
      rw [Overlap.activate, h.returned] at hactivate
      cases hactivate
  | setUserActive active =>
      cases hstep
      exact hkept rfl rfl
  | setPlatformActive active =>
      cases hstep
      exact hkept rfl rfl
  | setPlatformProcessActive active =>
      cases hstep
      exact hkept rfl rfl
  | setReady ready =>
      cases hstep
      exact hkept rfl rfl

/-- Once the activation has returned and nothing changes, three turns of the new loop leave what
    is kept as the last that was written on its connection. -/
theorem current_after_turns {managers : Managers} {old : SessionLoop}
    {trace more : OverlapTrace} {s t : Overlap} (run : OverlapRun (.start managers old) trace s)
    (hreturned : s.activation = .returned) (rest : OverlapRun s more t)
    (hsocket : SocketHolds (trace ++ more)) (hunchanged : Unchanged s more)
    (hturns : 3 ≤ newTurns more) : PublishesCurrent (outputs (trace ++ more)) t.managers := by
  have hplace : s.new.place < 3 := by
    cases s.new <;> decide
  have hinv : CurrentInv s.new.place (newTurns more) (outputs (trace ++ more)) t := by
    refine rest.history (P := fun more t => SocketHolds (trace ++ more) → Unchanged s more →
      CurrentInv s.new.place (newTurns more) (outputs (trace ++ more)) t) (fun _ _ => ?_)
      (fun more a input out b before ih hstep hsocket hunchanged => ?_) hsocket hunchanged
    · refine ⟨hreturned, ?_, fun hlt => ?_, fun hlt => ?_⟩
      · exact (Nat.mod_eq_of_lt hplace).symm
      · have hlt' : s.new.place = 0 ∧ 0 < 0 ∨ 3 < s.new.place + 0 := hlt
        omega
      · have hlt' : s.new.place < 2 ∧ 1 < s.new.place + 0 ∨ 4 < s.new.place + 0 := hlt
        omega
    · rw [← List.append_assoc] at hsocket
      have hholds : SocketHolds (trace ++ more) :=
        fun entry hentry => hsocket entry (List.mem_append_left _ hentry)
      have hlast := hsocket ⟨input, out⟩ (List.mem_append_right _ (List.mem_singleton_self _))
      have hbefore := hunchanged more [⟨input, out⟩] a rfl before
      have hafter := hunchanged (more ++ [⟨input, out⟩]) [] b (List.append_nil _).symm
        (before.snoc hstep)
      have hwhole := run.trans before
      rw [newTurns_snoc, ← List.append_assoc, outputs_append, outputs_singleton]
      exact (ih hholds hunchanged.init).step hplace (startup_inv hwhole hholds)
        (published_inv hwhole hholds) hstep hlast (hafter.1.trans hbefore.1.symm)
        (hafter.2.trans hbefore.2.symm)
  exact ⟨hinv.active (by omega), hinv.ready (by omega)⟩

/-! ### Undisturbed sessions -/

/-- On a socket that holds, the new session's startup is decided after four of its turns and
    completes exactly when its mark was not taken away. Once the activation has returned and
    nothing changes any more, three turns leave what is kept as the last that was written. -/
theorem overlap_undisturbed_iff (managers : Managers) (old : SessionLoop) (trace : OverlapTrace)
    (s : Overlap) (run : OverlapRun (.start managers old) trace s) (hsocket : SocketHolds trace) :
    (4 ≤ newTurns trace → (s.startupCompleted = true ↔
      OverlapSteps (.start managers old) trace fun t input _ => ¬Erases t input)) ∧
    (s.activation = .returned → ∀ more t, OverlapRun s more t → SocketHolds more →
      Unchanged s more → 3 ≤ newTurns more →
        PublishesCurrent (outputs (trace ++ more)) t.managers) := by
  refine ⟨fun hturns => ?_, fun hreturned more t rest hmore hunchanged hturns => ?_⟩
  · have hstartup := startup_inv run hsocket
    have hturns' := hstartup.turns
    exact hstartup.decided (by omega)
  · refine current_after_turns run hreturned rest ?_ hunchanged hturns
    intro entry hentry
    rcases List.mem_append.mp hentry with hentry | hentry
    · exact hsocket entry hentry
    · exact hmore entry hentry

/-- Managers whose tunnel is connected, with a runtime that is ready. -/
def connectedManagers : Managers where
  keepalive := ⟨false, true, false, true, some true, some 10000⟩
  readiness := ⟨true, true, some true⟩

/-- A turn in which nothing fails. -/
def goodTurn : LoopTurn := ⟨0, true, false⟩

/-- A turn that finds the connection closed. -/
def closingTurn : LoopTurn := ⟨0, true, true⟩

/-- No input of a trace is a failure of the new session's socket. -/
theorem socketHolds_of_inputs {inputs : List OverlapInput} {trace : OverlapTrace}
    (htrace : trace.map Entry.input = inputs)
    (h : ∀ input ∈ inputs, input = .new goodTurn ∨ input.isNew = false) : SocketHolds trace := by
  intro entry hentry turn hturn
  have hmem : entry.input ∈ inputs := htrace ▸ List.mem_map_of_mem hentry
  rcases h entry.input hmem with hgood | hother
  · rw [hturn] at hgood
    cases hgood
    exact ⟨rfl, rfl⟩
  · rw [hturn] at hother
    cases hother

/-- The state an undisturbed activation returns in. -/
def returnedOverlap : Overlap where
  managers := ⟨⟨false, true, false, true, none, some 0⟩, ⟨true, true, none⟩⟩
  old := .ended
  new := .publishingKeepalive
  startupCompleted := true
  activation := .returned

/-- The old loop ends after the new session has started: that session is not disturbed, and three
    more turns tell the gateway what is kept. -/
theorem overlap_undisturbed_iff_returned :
    ∃ trace more t, OverlapRun (.start connectedManagers .waiting) trace returnedOverlap ∧
      OverlapRun returnedOverlap more t ∧
      (returnedOverlap.startupCompleted = true ↔
        OverlapSteps (.start connectedManagers .waiting) trace fun t input _ => ¬Erases t input) ∧
      PublishesCurrent (outputs (trace ++ more)) t.managers := by
  have hfirst : executesTo overlapStep (.start connectedManagers .waiting)
      [.new goodTurn, .new goodTurn, .new goodTurn, .new goodTurn, .activation 0 true true,
        .activation 0 true true, .old closingTurn, .old goodTurn, .old goodTurn,
        .activation 0 true true, .activation 0 true true, .activation 0 true true,
        .activation 0 true true]
      (fun trace s => decide (s = returnedOverlap ∧ 4 ≤ newTurns trace)) = true := by
    decide +kernel
  have hrest : executesTo overlapStep returnedOverlap [.new goodTurn, .new goodTurn, .new goodTurn]
      (fun more _ => decide (3 ≤ newTurns more)) = true := by
    decide +kernel
  have hpass : stepsPass overlapStep (fun s input =>
      match overlapStep s input with
      | none => true
      | some (t, _) => decide (t.managers.keepalive.active = true ∧
          t.managers.readiness.ready = true)) returnedOverlap
      [.new goodTurn, .new goodTurn, .new goodTurn] = true := by
    decide +kernel
  rcases exists_run_of_executesTo hfirst with ⟨trace, s, run, hinputs, hcheck⟩
  rcases of_decide_eq_true hcheck with ⟨rfl, hturns⟩
  rcases exists_run_of_stepsPass hrest hpass with ⟨more, t, rest, hmore, hcheck, hsteps⟩
  have hsocket := socketHolds_of_inputs hinputs (by decide)
  have hunchanged : Unchanged returnedOverlap more := by
    refine (everyState_iff (by decide)).mpr fun before input out after a htrace hbefore b hstep => ?_
    have hvalues := hsteps before input out after a htrace hbefore
    simp only [hstep, decide_eq_true_eq] at hvalues
    exact hvalues
  rcases overlap_undisturbed_iff connectedManagers .waiting trace returnedOverlap run hsocket with
    ⟨hstartup, hcurrent⟩
  exact ⟨trace, more, t, run, rest, hstartup hturns, hcurrent rfl more t rest
    (socketHolds_of_inputs hmore (by decide)) hunchanged (of_decide_eq_true hcheck)⟩

/-- The old loop ends between the new session's mark and its first message, and the new session
    does not start although its socket holds. -/
theorem old_end_erases_mark :
    ∃ trace s, OverlapRun (.start connectedManagers .waiting) trace s ∧ SocketHolds trace ∧
      s.new = .ended ∧ s.startupCompleted = false ∧ s.activation = .failed := by
  have hexecutes : executesTo overlapStep (.start connectedManagers .waiting)
      [.new goodTurn, .new goodTurn, .new goodTurn, .old closingTurn, .old goodTurn,
        .old goodTurn, .new goodTurn, .new goodTurn, .new goodTurn, .activation 0 true true]
      (fun _ s => decide (s.new = .ended ∧ s.startupCompleted = false ∧
        s.activation = .failed)) = true := by
    decide +kernel
  rcases exists_run_of_executesTo hexecutes with ⟨trace, s, run, hinputs, hcheck⟩
  exact ⟨trace, s, run, socketHolds_of_inputs hinputs (by decide), of_decide_eq_true hcheck⟩

end Mistle
