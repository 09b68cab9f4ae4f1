import Mathlib.Tactic.Common

/-!
# Handlers with State, Outputs and Errors

A handler is one call of a stateful service: it starts in a state, may emit
outputs, and stops with a value or an error. Both the state it stopped in and
the outputs it emitted survive an error, because a call that fails half way has
already written what it wrote. That is what separates `Handler` from stacking
an exception monad on top of a state monad that rolls back.

Facts about handlers are stated through a `Trail`: a relation between the state
before, the outputs and the state after, which holds of doing nothing and is
closed under doing one thing after another. A handler `Follows` a trail when
every call of it lands in the relation, and the rules below push that through
`pure`, `>>=`, `throw` and the rest, so a fact proved of each primitive
operation becomes a fact about whole handlers.

## Main definitions

* `Outcome`: What one call leaves behind.
* `Handler`: A call, as a function of the state it starts in.
* `Trail`: A relation on (before, outputs, after) closed under sequencing.
* `FollowsFrom`: One call from one state lands in the trail.
* `Follows`: Every call lands in the trail.
* `Returns`: One call from one state succeeds, with a postcondition.
* `exec`: A call without its outputs, whose rules compute.

## Theorems

* `bind_ok`, `bind_error`: The outcome of a sequence from that of its head.
* `each_emit_apply`: The outcome of a loop that emits.
* `FollowsFrom.bind`: Sequencing, where the tail may use what the head returned.
* `Follows.bind`, `Follows.read`, `Follows.attempt`, `Follows.forEach`: The rules for handlers that
  follow the trail from every state.
* `Returns.bind`, `Returns.read`, `Returns.attempt`, `Returns.forEach`: The rules for calls that
  succeed.
* `exec_bind`, `exec_bind_ok`, `exec_bind_error`: A sequence without its outputs.
-/

namespace Mistle

/-- What one call leaves behind: its result, the state it stopped in, and the
    outputs it emitted on the way. -/
structure Outcome (ε σ ω α : Type) where
  result : Except ε α
  state : σ
  emitted : List ω

/-- A call of a service, as a function of the state it starts in. -/
def Handler (ε σ ω α : Type) := σ → Outcome ε σ ω α

namespace Handler

variable {ε σ ω α β : Type}

/-- Return a value, changing nothing. -/
protected def pure (a : α) : Handler ε σ ω α :=
  fun s => ⟨.ok a, s, []⟩

/-- Run `x`, then `f` on its value in the state `x` stopped in. An error of `x`
    skips `f` and keeps what `x` did. -/
protected def bind (x : Handler ε σ ω α) (f : α → Handler ε σ ω β) : Handler ε σ ω β :=
  fun s => match x s with
    | ⟨.ok a, s', out⟩ => match f a s' with
      | ⟨r, s'', out'⟩ => ⟨r, s'', out ++ out'⟩
    | ⟨.error e, s', out⟩ => ⟨.error e, s', out⟩

instance : Monad (Handler ε σ ω) where
  pure := Handler.pure
  bind := Handler.bind

/-- Stop with an error. -/
def throw (e : ε) : Handler ε σ ω α :=
  fun s => ⟨.error e, s, []⟩

/-- Emit one output. -/
def emit (o : ω) : Handler ε σ ω Unit :=
  fun s => ⟨.ok (), s, [o]⟩

/-- Read the state. -/
def get : Handler ε σ ω σ :=
  fun s => ⟨.ok s, s, []⟩

/-- Change the state. -/
def modify (f : σ → σ) : Handler ε σ ω Unit :=
  fun s => ⟨.ok (), f s, []⟩

/-- Continue with a value computed elsewhere, or stop with its error. -/
def ofExcept : Except ε α → Handler ε σ ω α
  | .ok a => Handler.pure a
  | .error e => throw e

/-- Run `x` and hand its result, error or value, to the caller. -/
def attempt (x : Handler ε σ ω α) : Handler ε σ ω (Except ε α) :=
  fun s => match x s with
    | ⟨r, s', out⟩ => ⟨.ok r, s', out⟩

/-- Run `f` on each element of a list, in order. -/
def each (f : α → Handler ε σ ω Unit) : List α → Handler ε σ ω Unit
  | [] => Handler.pure ()
  | a :: as => Handler.bind (f a) fun _ => each f as

theorem bind_eq (x : Handler ε σ ω α) (f : α → Handler ε σ ω β) :
    x >>= f = Handler.bind x f := rfl

@[simp] theorem pure_apply (a : α) (s : σ) :
    (pure a : Handler ε σ ω α) s = ⟨.ok a, s, []⟩ := rfl

@[simp] theorem throw_apply (e : ε) (s : σ) :
    (throw e : Handler ε σ ω α) s = ⟨.error e, s, []⟩ := rfl

@[simp] theorem emit_apply (o : ω) (s : σ) :
    (emit o : Handler ε σ ω Unit) s = ⟨.ok (), s, [o]⟩ := rfl

@[simp] theorem get_apply (s : σ) : (get : Handler ε σ ω σ) s = ⟨.ok s, s, []⟩ := rfl

@[simp] theorem modify_apply (f : σ → σ) (s : σ) :
    (modify f : Handler ε σ ω Unit) s = ⟨.ok (), f s, []⟩ := rfl

@[simp] theorem ofExcept_ok_apply (a : α) (s : σ) :
    (ofExcept (.ok a) : Handler ε σ ω α) s = ⟨.ok a, s, []⟩ := rfl

@[simp] theorem ofExcept_error_apply (e : ε) (s : σ) :
    (ofExcept (.error e) : Handler ε σ ω α) s = ⟨.error e, s, []⟩ := rfl

theorem attempt_apply (x : Handler ε σ ω α) (s : σ) :
    attempt x s = ⟨.ok (x s).result, (x s).state, (x s).emitted⟩ := rfl

theorem bind_apply (x : Handler ε σ ω α) (f : α → Handler ε σ ω β) (s : σ) :
    (x >>= f) s = match x s with
      | ⟨.ok a, s', out⟩ => ⟨(f a s').result, (f a s').state, out ++ (f a s').emitted⟩
      | ⟨.error e, s', out⟩ => ⟨.error e, s', out⟩ := rfl

theorem bind_ok {x : Handler ε σ ω α} {f : α → Handler ε σ ω β} {s s' : σ} {a : α}
    {out : List ω} (h : x s = ⟨.ok a, s', out⟩) :
    (x >>= f) s = ⟨(f a s').result, (f a s').state, out ++ (f a s').emitted⟩ := by
  rw [bind_eq]
  unfold Handler.bind
  rw [h]

theorem bind_error {x : Handler ε σ ω α} {f : α → Handler ε σ ω β} {s s' : σ} {e : ε}
    {out : List ω} (h : x s = ⟨.error e, s', out⟩) :
    (x >>= f) s = ⟨.error e, s', out⟩ := by
  rw [bind_eq]
  unfold Handler.bind
  rw [h]

@[simp] theorem get_bind_apply (f : σ → Handler ε σ ω β) (s : σ) : (get >>= f) s = f s s := rfl

@[simp] theorem modify_bind_apply (g : σ → σ) (f : Unit → Handler ε σ ω β) (s : σ) :
    (modify g >>= f) s = f () (g s) := rfl

theorem each_cons (f : α → Handler ε σ ω Unit) (a : α) (as : List α) :
    each f (a :: as) = f a >>= fun _ => each f as := rfl

/-- A loop that emits one output an element. -/
theorem each_emit_apply (f : α → ω) (as : List α) (s : σ) :
    (each (fun a => emit (f a)) as : Handler ε σ ω Unit) s = ⟨.ok (), s, as.map f⟩ := by
  induction as with
  | nil => rfl
  | cons a as ih =>
      rw [each_cons, bind_ok (emit_apply (f a) s), ih]
      rfl

/-- A sequence succeeds only through both of its parts. -/
theorem bind_result_ok {x : Handler ε σ ω α} {f : α → Handler ε σ ω β} {s : σ} {b : β}
    (h : ((x >>= f) s).result = .ok b) :
    ∃ a, (x s).result = .ok a ∧ (f a (x s).state).result = .ok b := by
  rcases hx : x s with ⟨r, s', out⟩
  cases r with
  | error e =>
      rw [bind_error hx] at h
      exact absurd h (by simp only [reduceCtorEq, not_false_eq_true])
  | ok a =>
      rw [bind_ok hx] at h
      exact ⟨a, rfl, h⟩

/-! ### Trails -/

/-- A relation between the state before a call, what the call emitted and the
    state after, which doing nothing satisfies and sequencing keeps. -/
structure Trail (σ ω : Type) where
  rel : σ → List ω → σ → Prop
  refl : ∀ s, rel s [] s
  comp : ∀ {a b c u v}, rel a u b → rel b v c → rel a (u ++ v) c

/-- The call of `x` from `s` lands in the trail, whether it fails or not. -/
def FollowsFrom (T : Trail σ ω) (x : Handler ε σ ω α) (s : σ) : Prop :=
  T.rel s (x s).emitted (x s).state

/-- Every call of `x` lands in the trail. -/
def Follows (T : Trail σ ω) (x : Handler ε σ ω α) : Prop :=
  ∀ s, FollowsFrom T x s

variable {T : Trail σ ω}

theorem FollowsFrom.bind {x : Handler ε σ ω α} {f : α → Handler ε σ ω β} {s : σ}
    (hx : FollowsFrom T x s)
    (hf : ∀ a, (x s).result = .ok a → FollowsFrom T (f a) (x s).state) :
    FollowsFrom T (x >>= f) s := by
  unfold FollowsFrom at hx ⊢
  rcases hr : x s with ⟨r, s', out⟩
  rw [hr] at hx hf
  cases r with
  | error e =>
      rw [bind_error hr]
      exact hx
  | ok a =>
      rw [bind_ok hr]
      exact T.comp hx (hf a rfl)

/-- A handler that starts by reading the state. -/
theorem FollowsFrom.read {f : σ → Handler ε σ ω α} {s : σ} (h : FollowsFrom T (f s) s) :
    FollowsFrom T (get >>= f) s := by
  refine FollowsFrom.bind (T.refl s) fun a ha => ?_
  rw [get_apply, Except.ok.injEq] at ha
  rw [← ha]
  exact h

theorem Follows.pure (a : α) : Follows T (pure a : Handler ε σ ω α) :=
  fun s => T.refl s

theorem Follows.throw (e : ε) : Follows T (throw e : Handler ε σ ω α) :=
  fun s => T.refl s

theorem Follows.get : Follows T (get : Handler ε σ ω σ) :=
  fun s => T.refl s

theorem Follows.ofExcept (r : Except ε α) : Follows T (ofExcept r : Handler ε σ ω α) := by
  cases r with
  | ok a => exact Follows.pure a
  | error e => exact Follows.throw e

theorem Follows.emit {o : ω} (h : ∀ s, T.rel s [o] s) :
    Follows T (emit o : Handler ε σ ω Unit) := h

theorem Follows.modify {f : σ → σ} (h : ∀ s, T.rel s [] (f s)) :
    Follows T (modify f : Handler ε σ ω Unit) := h

theorem Follows.bind {x : Handler ε σ ω α} {f : α → Handler ε σ ω β}
    (hx : Follows T x) (hf : ∀ a, Follows T (f a)) : Follows T (x >>= f) :=
  fun s => FollowsFrom.bind (hx s) fun a _ => hf a _

theorem Follows.read {f : σ → Handler ε σ ω α} (h : ∀ s, FollowsFrom T (f s) s) :
    Follows T (Handler.get >>= f) :=
  fun s => FollowsFrom.read (h s)

theorem Follows.attempt {x : Handler ε σ ω α} (hx : Follows T x) : Follows T (attempt x) :=
  fun s => hx s

theorem Follows.forEach {f : α → Handler ε σ ω Unit} {as : List α}
    (hf : ∀ a ∈ as, Follows T (f a)) : Follows T (each f as) := by
  induction as with
  | nil => exact Follows.pure ()
  | cons a as ih =>
      have hhead : Follows T (f a) := hf a (List.mem_cons_self ..)
      have htail : Follows T (each f as) := ih fun b hb => hf b (List.mem_cons_of_mem _ hb)
      exact Follows.bind hhead fun _ => htail

/-! ### Calls that succeed -/

/-- The call of `x` from `s` succeeds, and `Q` holds of the value it returns,
    the state it stops in and what it emitted. -/
def Returns (x : Handler ε σ ω α) (s : σ) (Q : α → σ → List ω → Prop) : Prop :=
  ∃ a s' out, x s = ⟨.ok a, s', out⟩ ∧ Q a s' out

variable {Q : α → σ → List ω → Prop} {R : β → σ → List ω → Prop}

theorem Returns.mono {Q' : α → σ → List ω → Prop} {x : Handler ε σ ω α} {s : σ}
    (h : Returns x s Q) (hQ : ∀ a s' out, Q a s' out → Q' a s' out) : Returns x s Q' := by
  rcases h with ⟨a, s', out, hx, hq⟩
  exact ⟨a, s', out, hx, hQ a s' out hq⟩

theorem Returns.pure {a : α} {s : σ} (h : Q a s []) :
    Returns (pure a : Handler ε σ ω α) s Q := ⟨a, s, [], rfl, h⟩

theorem Returns.modify {Q : Unit → σ → List ω → Prop} {f : σ → σ} {s : σ} (h : Q () (f s) []) :
    Returns (modify f : Handler ε σ ω Unit) s Q := ⟨(), f s, [], rfl, h⟩

theorem Returns.emit {Q : Unit → σ → List ω → Prop} {o : ω} {s : σ} (h : Q () s [o]) :
    Returns (emit o : Handler ε σ ω Unit) s Q := ⟨(), s, [o], rfl, h⟩

theorem Returns.bind {x : Handler ε σ ω α} {f : α → Handler ε σ ω β} {s : σ} (hx : Returns x s Q)
    (hf : ∀ a s' out, Q a s' out → Returns (f a) s' fun b s'' out' => R b s'' (out ++ out')) :
    Returns (x >>= f) s R := by
  rcases hx with ⟨a, s', out, hx, hq⟩
  rcases hf a s' out hq with ⟨b, s'', out', hfa, hr⟩
  refine ⟨b, s'', out ++ out', ?_, hr⟩
  rw [bind_ok hx, hfa]

/-- A handler that starts by reading the state. -/
theorem Returns.read {f : σ → Handler ε σ ω β} {s : σ} (h : Returns (f s) s R) :
    Returns (get >>= f) s R := by
  rcases h with ⟨b, s', out, hf, hr⟩
  refine ⟨b, s', out, ?_, hr⟩
  rw [bind_ok (get_apply s), hf, List.nil_append]

/-- A handler that starts by changing the state. -/
theorem Returns.change {g : σ → σ} {f : Unit → Handler ε σ ω β} {s : σ}
    (h : Returns (f ()) (g s) R) : Returns (Handler.modify g >>= f) s R := h

theorem Returns.of_result {x : Handler ε σ ω α} {s : σ} {a : α} (hresult : (x s).result = .ok a)
    (h : Q a (x s).state (x s).emitted) : Returns x s Q := by
  refine ⟨a, (x s).state, (x s).emitted, ?_, h⟩
  rw [← hresult]

/-- An attempt always succeeds. -/
theorem Returns.attempt {x : Handler ε σ ω α} {s : σ} {Q : Except ε α → σ → List ω → Prop}
    (h : Q (x s).result (x s).state (x s).emitted) : Returns (attempt x) s Q :=
  ⟨_, _, _, attempt_apply x s, h⟩

/-- An invariant of every call of a loop holds after the loop. -/
theorem Returns.forEach {f : α → Handler ε σ ω Unit} {I : σ → Prop} (as : List α) :
    ∀ s, I s → (∀ a ∈ as, ∀ s, I s → Returns (f a) s fun _ s' _ => I s') →
      Returns (each f as) s fun _ s' _ => I s' := by
  induction as with
  | nil => exact fun s hs _ => Returns.pure hs
  | cons a as ih =>
      intro s hs hf
      have hhead := hf a (List.mem_cons_self ..) s hs
      exact hhead.bind fun _ s' _ hs' => ih s' hs' fun b hb => hf b (List.mem_cons_of_mem _ hb)

/-! ### Calls without their outputs -/

/-- The result of a call and the state it stops in. -/
def exec (x : Handler ε σ ω α) (s : σ) : Except ε α × σ := ((x s).result, (x s).state)

@[simp] theorem exec_pure (a : α) (s : σ) :
    exec (pure a : Handler ε σ ω α) s = (.ok a, s) := rfl

@[simp] theorem exec_throw (e : ε) (s : σ) :
    exec (throw e : Handler ε σ ω α) s = (.error e, s) := rfl

@[simp] theorem exec_emit (o : ω) (s : σ) :
    exec (emit o : Handler ε σ ω Unit) s = (.ok (), s) := rfl

@[simp] theorem exec_modify (f : σ → σ) (s : σ) :
    exec (modify f : Handler ε σ ω Unit) s = (.ok (), f s) := rfl

@[simp] theorem exec_attempt (x : Handler ε σ ω α) (s : σ) :
    exec (attempt x) s = (.ok (exec x s).1, (exec x s).2) := rfl

theorem exec_bind (x : Handler ε σ ω α) (f : α → Handler ε σ ω β) (s : σ) :
    exec (x >>= f) s = match exec x s with
      | (.ok a, s') => exec (f a) s'
      | (.error e, s') => (.error e, s') := by
  unfold exec
  rcases hx : x s with ⟨r, s', out⟩
  cases r with
  | error e => rw [bind_error hx]
  | ok a => rw [bind_ok hx]

theorem exec_bind_ok {x : Handler ε σ ω α} {f : α → Handler ε σ ω β} {s s' : σ} {a : α}
    (h : exec x s = (.ok a, s')) : exec (x >>= f) s = exec (f a) s' := by
  rw [exec_bind, h]

theorem exec_bind_error {x : Handler ε σ ω α} {f : α → Handler ε σ ω β} {s s' : σ} {e : ε}
    (h : exec x s = (.error e, s')) : exec (x >>= f) s = (.error e, s') := by
  rw [exec_bind, h]

end Handler

end Mistle
