import Mistle.Tunnel.Publication

/-!
# Two Sessions at Once

An activation of a running session starts a new tunnel session before it closes the one there
was. Until then both loops run, and both mark the same two managers. The new loop marks them
connected and then publishes its first readiness, which it can only do while the manager is
still marked. The old loop, whose connection the gateway closes in the meantime, marks them
disconnected.

So the startup depends on one interval, from the mark of the new loop to its first message. If the
old loop's mark falls into it, the new session does not start, whatever its own socket does.
Otherwise it starts: the fourth turn of the new loop decides, and `startup_inv` counts to it.

## Main definitions

* `Activation`, `Overlap`, `overlapStep`: Both loops and the activation, one lock at a time.
* `Erases`: The step that takes the new session's mark away.
* `SocketHolds`: Nothing fails on the new session's own socket.
* `StartupInv`: Where the new session stands after a number of its turns.

## Theorems

* `SessionLoop.turn_onward`, `SessionLoop.turn_deciding`: The turns of a startup.
* `StartupInv.old`, `StartupInv.new`, `StartupInv.activate`: What each party's step keeps.
* `startup_inv`: Where the new session stands in every run.
-/

namespace Mistle

/-! ### The system -/

/-- How far the activation is. -/
inductive Activation where
  | startingTunnelSession
  | attaching
  | closingPreviousTunnelSession
  | syncingRuntimeReadiness
  | markingKeepaliveConnected
  | markingReadinessConnected
  | returned
  | failed
  deriving DecidableEq

structure Overlap where
  managers : Managers
  old : SessionLoop
  new : SessionLoop
  startupCompleted : Bool
  activation : Activation
  deriving DecidableEq

/-- One lock of one of the parties, or a change of what is kept. -/
inductive OverlapInput where
  | old (turn : LoopTurn)
  | new (turn : LoopTurn)
  | activation (nowMs : Nat) (attached ready : Bool)
  | setUserActive (active : Bool)
  | setPlatformActive (active : Bool)
  | setPlatformProcessActive (active : Bool)
  | setReady (ready : Bool)
  deriving DecidableEq

namespace Overlap

def setKeepalive (update : KeepaliveManager → KeepaliveManager) (s : Overlap) : Overlap :=
  { s with managers := { s.managers with keepalive := update s.managers.keepalive } }

def setReadiness (update : RuntimeReadinessManager → RuntimeReadinessManager) (s : Overlap) :
    Overlap :=
  { s with managers := { s.managers with readiness := update s.managers.readiness } }

/-- The next step of the activation. It waits for the startup of the new session, and for the
    end of the old one. -/
def activate (nowMs : Nat) (attached ready : Bool) (s : Overlap) : Option Overlap :=
  match s.activation with
  | .startingTunnelSession =>
    if s.startupCompleted then some { s with activation := .attaching }
    else if s.new = .ended then some { s with activation := .failed }
    else none
  | .attaching =>
    some { s with activation := if attached then .closingPreviousTunnelSession else .failed }
  | .closingPreviousTunnelSession =>
    if s.old = .ended then some { s with activation := .syncingRuntimeReadiness } else none
  | .syncingRuntimeReadiness =>
    some { s.setReadiness (.setReady ready) with activation := .markingKeepaliveConnected }
  | .markingKeepaliveConnected =>
    some { s.setKeepalive (.onTunnelConnected nowMs) with activation := .markingReadinessConnected }
  | .markingReadinessConnected =>
    some { s.setReadiness .onTunnelConnected with activation := .returned }
  | .returned => none
  | .failed => none

/-- A turn of the new loop. Its first readiness completes the startup. -/
def turnNew (turn : LoopTurn) (s : Overlap) : Option (Overlap × List OutboundMessage) :=
  (s.new.turn turn s.managers).map fun (next, managers, written) =>
    ({ s with
        managers
        new := next
        startupCompleted := s.startupCompleted ||
          decide (s.new = .publishingInitialReadiness ∧ next = .publishingKeepalive) }, written)

def turnOld (turn : LoopTurn) (s : Overlap) : Option Overlap :=
  (s.old.turn turn s.managers).map fun (next, managers, _) => { s with managers, old := next }

end Overlap

/-- One step. The outputs are what is written on the new connection. -/
def overlapStep (s : Overlap) : OverlapInput → Option (Overlap × List OutboundMessage)
  | .old turn => (s.turnOld turn).map (·, [])
  | .new turn => s.turnNew turn
  | .activation nowMs attached ready => (s.activate nowMs attached ready).map (·, [])
  | .setUserActive active => some (s.setKeepalive (.setUserActive active), [])
  | .setPlatformActive active => some (s.setKeepalive (.setPlatformActive active), [])
  | .setPlatformProcessActive active =>
    some (s.setKeepalive (.setPlatformProcessActive active), [])
  | .setReady ready => some (s.setReadiness (.setReady ready), [])

/-- The activation starts the new session, beside an old one anywhere in its loop. -/
def Overlap.start (managers : Managers) (old : SessionLoop) : Overlap where
  managers := managers
  old := old
  new := .openingTelemetry
  startupCompleted := false
  activation := .startingTunnelSession

abbrev OverlapTrace := List (Entry OverlapInput OutboundMessage)

abbrev OverlapRun (s : Overlap) (trace : OverlapTrace) (t : Overlap) : Prop :=
  Run (fun s i out t => overlapStep s i = some (t, out)) s trace t

abbrev OverlapSteps (s : Overlap) (trace : OverlapTrace)
    (P : Overlap → OverlapInput → List OutboundMessage → Prop) : Prop :=
  EveryStep (fun s i out t => overlapStep s i = some (t, out)) s trace P

theorem overlapStep_functional :
    Functional fun s i out t => overlapStep s i = some (t, out) :=
  functional_of_step overlapStep

def OverlapInput.isNew : OverlapInput → Bool
  | .new _ => true
  | _ => false

/-- How many turns the new loop has taken. -/
def newTurns (trace : OverlapTrace) : Nat := trace.countP fun entry => entry.input.isNew

/-- Nothing fails on the new session's own socket: its writer takes every message, and its
    connection is not closed. -/
def SocketHolds (trace : OverlapTrace) : Prop :=
  ∀ entry ∈ trace, ∀ turn, entry.input = .new turn → turn.delivered = true ∧ turn.closed = false

/-- The old loop marks the readiness manager disconnected after the new loop has marked it
    connected and before that has published its first readiness. -/
def Erases (s : Overlap) (input : OverlapInput) : Prop :=
  (∃ turn, input = .old turn) ∧ s.old = .markingReadinessDisconnected ∧
    s.new = .publishingInitialReadiness

/-- The new session's mark is never taken away. -/
def Unerased (s : Overlap) (trace : OverlapTrace) : Prop :=
  OverlapSteps s trace fun s input _ => ¬Erases s input

theorem newTurns_append (a b : OverlapTrace) : newTurns (a ++ b) = newTurns a + newTurns b :=
  List.countP_append

theorem newTurns_snoc (trace : OverlapTrace) (input : OverlapInput) (out : List OutboundMessage) :
    newTurns (trace ++ [⟨input, out⟩]) = newTurns trace + input.isNew.toNat := by
  rw [newTurns_append]
  unfold newTurns
  cases input <;> rfl

theorem unerased_snoc {s t : Overlap} {trace : OverlapTrace} (run : OverlapRun s trace t)
    (input : OverlapInput) (out : List OutboundMessage) :
    Unerased s (trace ++ [⟨input, out⟩]) ↔ Unerased s trace ∧ ¬Erases t input :=
  EveryStep.snoc_iff overlapStep_functional run

/-! ### The startup -/

/-- How many turns bring a new session here, where four decide on its startup. -/
def SessionLoop.startupTurns : SessionLoop → Nat
  | .openingTelemetry => 0
  | .markingKeepaliveConnected => 1
  | .markingReadinessConnected => 2
  | .publishingInitialReadiness => 3
  | _ => 4

/-- The places of a session that goes on. -/
def SessionLoop.isLooping : SessionLoop → Bool
  | .publishingKeepalive => true
  | .publishingReadiness => true
  | .waiting => true
  | _ => false

/-- How far an activation has come that has not failed. -/
def Activation.rank : Activation → Nat
  | .startingTunnelSession => 0
  | .attaching => 1
  | .closingPreviousTunnelSession => 2
  | .syncingRuntimeReadiness => 3
  | .markingKeepaliveConnected => 4
  | .markingReadinessConnected => 5
  | .returned => 6
  | .failed => 0

/-- Where the new session stands after a number of its turns. -/
structure StartupInv (turns : Nat) (unerased : Prop) (s : Overlap) : Prop where
  turns : min turns 4 = s.new.startupTurns
  clean : s.new.startupTurns < 3 → unerased
  /-- In the interval, the mark is there unless it was taken away for good. -/
  marked : s.new.startupTurns = 3 →
    s.managers.readiness.tunnelConnected = true ∧ unerased ∨
      s.managers.readiness.tunnelConnected = false ∧ ¬unerased ∧ s.old = .ended
  undecided : s.new.startupTurns < 4 → s.startupCompleted = false
  decided : s.new.startupTurns = 4 → (s.startupCompleted = true ↔ unerased)
  looping : s.startupCompleted = true → s.new.isLooping = true
  started : 0 < s.activation.rank → s.startupCompleted = true

/-- Steps that leave the new loop alone and do not erase. -/
theorem StartupInv.keep {n : Nat} {U : Prop} {s t : Overlap} (h : StartupInv n U s)
    (hnew : t.new = s.new) (hstarted : t.startupCompleted = s.startupCompleted)
    (hold : s.old = .ended → t.old = .ended)
    (hmark : s.new.startupTurns = 3 →
      t.managers.readiness.tunnelConnected = s.managers.readiness.tunnelConnected)
    (hrank : 0 < t.activation.rank → t.startupCompleted = true) : StartupInv n U t where
  turns := by rw [hnew, h.turns]
  clean hlt := h.clean (hnew ▸ hlt)
  marked heq := by
    rw [hnew] at heq
    rw [hmark heq]
    rcases h.marked heq with hkept | ⟨hgone, herased, hended⟩
    · exact .inl hkept
    · exact .inr ⟨hgone, herased, hold hended⟩
  undecided hlt := hstarted.trans (h.undecided (hnew ▸ hlt))
  decided heq := by
    rw [hstarted]
    exact h.decided (hnew ▸ heq)
  looping hcompleted := by
    rw [hnew]
    exact h.looping (hstarted ▸ hcompleted)
  started := hrank

/-- What is kept may change at any time. -/
theorem StartupInv.setReadiness {n : Nat} {U : Prop} {s : Overlap} (h : StartupInv n U s)
    (ready : Bool) : StartupInv n U (s.setReadiness (.setReady ready)) :=
  h.keep rfl rfl id (fun _ => rfl) h.started

theorem StartupInv.setKeepalive {n : Nat} {U : Prop} {s : Overlap} (h : StartupInv n U s)
    (update : KeepaliveManager → KeepaliveManager) : StartupInv n U (s.setKeepalive update) :=
  h.keep rfl rfl id (fun _ => rfl) h.started

/-- The activation only marks the managers once the new session has started. -/
theorem StartupInv.activate {n : Nat} {U : Prop} {s t : Overlap} {nowMs : Nat}
    {attached ready : Bool} (h : StartupInv n U s)
    (hstep : s.activate nowMs attached ready = some t) : StartupInv n U t := by
  have hnot : s.startupCompleted = true → s.new.startupTurns ≠ 3 := by
    intro hcompleted hthree
    have hopen : s.startupCompleted = false := h.undecided (by omega)
    rw [hopen] at hcompleted
    cases hcompleted
  unfold Overlap.activate at hstep
  cases hactivation : s.activation with
  | startingTunnelSession =>
      rw [hactivation] at hstep
      by_cases hcompleted : s.startupCompleted = true
      · rw [if_pos hcompleted] at hstep
        cases hstep
        exact h.keep rfl rfl id (fun _ => rfl) fun _ => hcompleted
      · rw [if_neg hcompleted] at hstep
        by_cases hended : s.new = .ended
        · rw [if_pos hended] at hstep
          cases hstep
          exact h.keep rfl rfl id (fun _ => rfl) fun hrank => absurd hrank (Nat.lt_irrefl 0)
        · rw [if_neg hended] at hstep
          cases hstep
  | attaching =>
      rw [hactivation] at hstep
      cases hstep
      exact h.keep rfl rfl id (fun _ => rfl) fun _ => h.started (by rw [hactivation]; decide)
  | closingPreviousTunnelSession =>
      rw [hactivation] at hstep
      by_cases hended : s.old = .ended
      · rw [if_pos hended] at hstep
        cases hstep
        exact h.keep rfl rfl id (fun _ => rfl) fun _ => h.started (by rw [hactivation]; decide)
      · rw [if_neg hended] at hstep
        cases hstep
  | syncingRuntimeReadiness =>
      rw [hactivation] at hstep
      cases hstep
      exact h.keep rfl rfl id (fun _ => rfl) fun _ => h.started (by rw [hactivation]; decide)
  | markingKeepaliveConnected =>
      rw [hactivation] at hstep
      cases hstep
      exact h.keep rfl rfl id (fun _ => rfl) fun _ => h.started (by rw [hactivation]; decide)
  | markingReadinessConnected =>
      have hcompleted : s.startupCompleted = true := h.started (by rw [hactivation]; decide)
      rw [hactivation] at hstep
      cases hstep
      exact h.keep rfl rfl id (fun hthree => absurd hthree (hnot hcompleted)) fun _ => hcompleted
  | returned =>
      rw [hactivation] at hstep
      cases hstep
  | failed =>
      rw [hactivation] at hstep
      cases hstep

/-- What one turn of a loop does to the mark of the readiness manager. -/
theorem SessionLoop.turn_connected {loop next : SessionLoop} {turn : LoopTurn}
    {managers managers' : Managers} {written : List OutboundMessage}
    (h : loop.turn turn managers = some (next, managers', written)) :
    managers'.readiness.tunnelConnected = managers.readiness.tunnelConnected ∨
      managers'.readiness.tunnelConnected = true ∨
      loop = .markingReadinessDisconnected ∧ next = .ended ∧
        managers'.readiness.tunnelConnected = false := by
  cases loop with
  | openingTelemetry => cases h; exact .inl rfl
  | markingKeepaliveConnected => cases h; exact .inl rfl
  | markingReadinessConnected => cases h; exact .inr (.inl rfl)
  | publishingInitialReadiness =>
      rw [SessionLoop.turn] at h
      rcases managers.readiness.takeInitialPublishableState_cases with ⟨-, htake⟩ | ⟨-, htake⟩ <;>
        rw [htake] at h <;> cases h <;> exact .inl rfl
  | publishingKeepalive => cases h; exact .inl rfl
  | publishingReadiness =>
      rw [SessionLoop.turn] at h
      rcases managers.readiness.takePublishableState_cases with ⟨htake, -⟩ | htake <;>
        rw [htake] at h <;> cases h <;> exact .inl rfl
  | waiting => cases h; exact .inl rfl
  | markingKeepaliveDisconnected => cases h; exact .inl rfl
  | markingReadinessDisconnected => cases h; exact .inr (.inr ⟨rfl, rfl, rfl⟩)
  | ended => cases h

theorem not_erases {s : Overlap} {input : OverlapInput} (h : ∀ turn, input ≠ .old turn) :
    ¬Erases s input :=
  fun ⟨⟨turn, heq⟩, _⟩ => h turn heq

theorem SessionLoop.startupTurns_eq_three {loop : SessionLoop} (h : loop.startupTurns = 3) :
    loop = .publishingInitialReadiness := by
  cases loop <;> first | rfl | cases h

/-- A turn of the old loop, which erases or leaves the mark. -/
theorem StartupInv.old {n : Nat} {U : Prop} {s t : Overlap} {turn : LoopTurn}
    (h : StartupInv n U s) (hstep : s.turnOld turn = some t) :
    StartupInv n (U ∧ ¬Erases s (.old turn)) t := by
  rcases Option.map_eq_some_iff.mp hstep with ⟨⟨next, managers, written⟩, hturn, rfl⟩
  by_cases herases : Erases s (.old turn)
  · have hthree : s.new.startupTurns = 3 := by
      rw [herases.2.2]
      rfl
    rw [herases.2.1] at hturn
    cases hturn
    refine ⟨h.turns, fun hlt => ?_, fun _ => .inr ⟨rfl, fun hu => hu.2 herases, rfl⟩,
      h.undecided, fun heq => ?_, h.looping, h.started⟩
    · have hlt' : s.new.startupTurns < 3 := hlt
      omega
    · have heq' : s.new.startupTurns = 4 := heq
      omega
  · rw [propext (and_iff_left herases)]
    refine ⟨h.turns, h.clean, fun hthree => ?_, h.undecided, h.decided, h.looping, h.started⟩
    rcases h.marked hthree with ⟨hmark, hu⟩ | ⟨-, -, hended⟩
    · refine .inl ⟨?_, hu⟩
      rcases SessionLoop.turn_connected hturn with hsame | htrue | ⟨hold, -, -⟩
      · exact hsame.trans hmark
      · exact htrue
      · exact absurd ⟨⟨turn, rfl⟩, hold, SessionLoop.startupTurns_eq_three hthree⟩ herases
    · rw [hended] at hturn
      cases hturn

/-- A turn of a loop on a socket that holds, but for the one that decides its startup. -/
theorem SessionLoop.turn_onward {loop next : SessionLoop} {turn : LoopTurn}
    {managers managers' : Managers} {written : List OutboundMessage}
    (h : loop.turn turn managers = some (next, managers', written))
    (hne : loop ≠ .publishingInitialReadiness) (hdelivered : turn.delivered = true)
    (hclosed : turn.closed = false) :
    next.startupTurns = min (loop.startupTurns + 1) 4 ∧
      (loop.isLooping = true → next.isLooping = true) ∧
      (next.startupTurns = 3 → managers'.readiness.tunnelConnected = true) := by
  cases loop with
  | openingTelemetry =>
      rw [SessionLoop.turn, if_pos hdelivered] at h
      cases h
      exact ⟨rfl, fun h => (nomatch h), fun h => (nomatch h)⟩
  | markingKeepaliveConnected =>
      cases h
      exact ⟨rfl, fun h => (nomatch h), fun h => (nomatch h)⟩
  | markingReadinessConnected =>
      cases h
      exact ⟨rfl, fun h => (nomatch h), fun _ => rfl⟩
  | publishingInitialReadiness => exact absurd rfl hne
  | publishingKeepalive =>
      rw [SessionLoop.turn] at h
      rcases managers.keepalive.takePublishableState_cases turn.nowMs with ⟨htake, -⟩ | htake
      all_goals
        simp only [htake, publish, if_pos hdelivered] at h
        cases h
        exact ⟨rfl, fun _ => rfl, fun h => (nomatch h)⟩
  | publishingReadiness =>
      rw [SessionLoop.turn] at h
      rcases managers.readiness.takePublishableState_cases with ⟨htake, -⟩ | htake
      all_goals
        simp only [htake, RuntimeReadinessManager.published, publish, if_pos hdelivered] at h
        cases h
        exact ⟨rfl, fun _ => rfl, fun h => (nomatch h)⟩
  | waiting =>
      rw [SessionLoop.turn, hclosed] at h
      cases h
      exact ⟨rfl, fun _ => rfl, fun h => (nomatch h)⟩
  | markingKeepaliveDisconnected =>
      cases h
      exact ⟨rfl, fun h => (nomatch h), fun h => (nomatch h)⟩
  | markingReadinessDisconnected =>
      cases h
      exact ⟨rfl, fun h => (nomatch h), fun h => (nomatch h)⟩
  | ended => cases h

/-- The turn that decides a startup, on a socket that holds, goes by the mark. -/
theorem SessionLoop.turn_deciding {next : SessionLoop} {turn : LoopTurn}
    {managers managers' : Managers} {written : List OutboundMessage}
    (h : SessionLoop.turn turn managers .publishingInitialReadiness =
      some (next, managers', written)) (hdelivered : turn.delivered = true) :
    managers.readiness.tunnelConnected = true ∧ next = .publishingKeepalive ∨
      managers.readiness.tunnelConnected = false ∧ next = .markingKeepaliveDisconnected := by
  rw [SessionLoop.turn] at h
  rcases managers.readiness.takeInitialPublishableState_cases with
    ⟨hmark, htake⟩ | ⟨hmark, htake⟩
  · simp only [htake] at h
    cases h
    exact .inr ⟨hmark, rfl⟩
  · simp only [htake, RuntimeReadinessManager.published, publish, if_pos hdelivered] at h
    cases h
    exact .inl ⟨hmark, rfl⟩

/-- A turn of the new loop, on a socket that holds. -/
theorem StartupInv.new {n : Nat} {U : Prop} {s t : Overlap} {turn : LoopTurn}
    {out : List OutboundMessage} (h : StartupInv n U s) (hstep : s.turnNew turn = some (t, out))
    (hdelivered : turn.delivered = true) (hclosed : turn.closed = false) :
    StartupInv (n + 1) U t := by
  rcases Option.map_eq_some_iff.mp hstep with ⟨⟨next, managers, written⟩, hturn, heq⟩
  cases heq
  have hturns := h.turns
  by_cases hnew : s.new = .publishingInitialReadiness
  · -- The fourth turn decides the startup, by the mark it finds.
    have hthree : s.new.startupTurns = 3 := by
      rw [hnew]
      rfl
    have hopen : s.startupCompleted = false := h.undecided (by omega)
    have hrank : ¬0 < s.activation.rank := by
      intro hrank
      rw [h.started hrank] at hopen
      cases hopen
    rw [hnew] at hturn
    rcases SessionLoop.turn_deciding hturn hdelivered with ⟨hmark, rfl⟩ | ⟨hmark, rfl⟩
    · have hu : U := by
        rcases h.marked hthree with ⟨-, hu⟩ | ⟨hgone, -, -⟩
        · exact hu
        · rw [hmark] at hgone
          cases hgone
      have hcompleted : (s.startupCompleted || decide (s.new = .publishingInitialReadiness ∧
          SessionLoop.publishingKeepalive = .publishingKeepalive)) = true := by
        rw [hnew]
        simp
      refine ⟨?_, fun hlt => (nomatch hlt), fun heq => (nomatch heq), fun hlt => ?_,
        fun _ => ⟨fun _ => hu, fun _ => hcompleted⟩, fun _ => rfl, fun _ => hcompleted⟩
      · show min (n + 1) 4 = 4
        omega
      · exact absurd hlt (Nat.lt_irrefl 4)
    · have herased : ¬U := by
        rcases h.marked hthree with ⟨hkept, -⟩ | ⟨-, herased, -⟩
        · rw [hmark] at hkept
          cases hkept
        · exact herased
      have hcompleted : (s.startupCompleted || decide (s.new = .publishingInitialReadiness ∧
          SessionLoop.markingKeepaliveDisconnected = .publishingKeepalive)) = false := by
        rw [hopen]
        simp
      refine ⟨?_, fun hlt => (nomatch hlt), fun heq => (nomatch heq), fun _ => hcompleted,
        fun _ => ⟨fun hc => ?_, fun hu => absurd hu herased⟩, fun hc => ?_,
        fun hrank' => absurd hrank' hrank⟩
      · show min (n + 1) 4 = 4
        omega
      · exact absurd (hcompleted.symm.trans hc) Bool.false_ne_true
      · exact absurd (hcompleted.symm.trans hc) Bool.false_ne_true
  · rcases SessionLoop.turn_onward hturn hnew hdelivered hclosed with ⟨hnext, hloops, hmarks⟩
    have hne : s.new.startupTurns ≠ 3 := fun heq => hnew (SessionLoop.startupTurns_eq_three heq)
    have hsame : (s.startupCompleted || decide (s.new = .publishingInitialReadiness ∧
        next = .publishingKeepalive)) = s.startupCompleted := by
      simp [hnew]
    refine ⟨?_, fun hlt => h.clean ?_, fun heq => .inl ⟨hmarks heq, h.clean ?_⟩,
      fun hlt => hsame.trans (h.undecided ?_), fun heq => ?_, fun hc => hloops (h.looping ?_),
      fun hrank => hsame.trans (h.started hrank)⟩
    · show min (n + 1) 4 = next.startupTurns
      omega
    · have hlt' : next.startupTurns < 3 := hlt
      omega
    · have heq' : next.startupTurns = 3 := heq
      omega
    · have hlt' : next.startupTurns < 4 := hlt
      omega
    · have heq' : next.startupTurns = 4 := heq
      show (s.startupCompleted || decide (s.new = .publishingInitialReadiness ∧
        next = .publishingKeepalive)) = true ↔ U
      rw [hsame]
      exact h.decided (by omega)
    · exact hsame.symm.trans hc

/-- Where the new session stands after so many of its turns. -/
theorem startup_inv {managers : Managers} {old : SessionLoop} {trace : OverlapTrace} {s : Overlap}
    (run : OverlapRun (.start managers old) trace s) (hsocket : SocketHolds trace) :
    StartupInv (newTurns trace) (Unerased (.start managers old) trace) s := by
  refine run.history (P := fun trace s => SocketHolds trace →
    StartupInv (newTurns trace) (Unerased (.start managers old) trace) s) (fun _ => ?_)
    (fun trace a input out b before ih hstep hsocket => ?_) hsocket
  · refine ⟨rfl, fun _ => EveryStep.nil, fun heq => (nomatch heq), fun _ => rfl,
      fun heq => (nomatch heq), fun h => (nomatch h), fun h => (nomatch h)⟩
  · have hbefore := ih fun entry hentry => hsocket entry (List.mem_append_left _ hentry)
    have hlast : ∀ turn, input = .new turn → turn.delivered = true ∧ turn.closed = false :=
      hsocket ⟨input, out⟩ (List.mem_append_right _ (List.mem_singleton_self _))
    have hleft : (∀ turn, input ≠ .old turn) →
        (Unerased (.start managers old) trace ∧ ¬Erases a input) =
          Unerased (.start managers old) trace :=
      fun hne => propext (and_iff_left (not_erases hne))
    rw [newTurns_snoc, propext (unerased_snoc before input out)]
    cases input with
    | old turn =>
        rcases Option.map_eq_some_iff.mp hstep with ⟨b', hturn, heq⟩
        cases heq
        exact hbefore.old hturn
    | new turn =>
        rw [hleft (by simp)]
        rcases hlast turn rfl with ⟨hdelivered, hclosed⟩
        exact hbefore.new hstep hdelivered hclosed
    | activation nowMs attached ready =>
        rw [hleft (by simp)]
        rcases Option.map_eq_some_iff.mp hstep with ⟨b', hactivate, heq⟩
        cases heq
        exact hbefore.activate hactivate
    | setUserActive active =>
        rw [hleft (by simp)]
        cases hstep
        exact hbefore.setKeepalive _
    | setPlatformActive active =>
        rw [hleft (by simp)]
        cases hstep
        exact hbefore.setKeepalive _
    | setPlatformProcessActive active =>
        rw [hleft (by simp)]
        cases hstep
        exact hbefore.setKeepalive _
    | setReady ready =>
        rw [hleft (by simp)]
        cases hstep
        exact hbefore.setReadiness ready

end Mistle
