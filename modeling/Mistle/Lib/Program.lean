import Mistle.Lib.Run

/-!
# Programs of Atomic Operations

A program performs atomic operations on a state it shares with others: the
statements of a database, the commands of a store. Between two of its operations
any number of operations of others may happen. A program is the tree of what it
does next for every answer it may get, so code with branches, early returns and
exceptions is written as it stands, and interleaved only where it waits.

A system has a shared state, calls that each run a program, and steps from outside.
A call that returns may go on with another program, which is how a loop without a
bound is run.

What a program does in company is proved from a relation that every step of the
system keeps to. The relation is a preorder, so that it says what any number of
steps may do together, and a program is looked at alone: wherever the others have
led, each of its operations keeps to the relation and the rest is as good.

## Main definitions

* `Program`: A program of atomic operations.
* `Program.op`, `Program.query`: One operation, and one that may fail.
* `Program.lift`, `Program.caught`: A step without operations, and a program whose exception is caught.
* `Program.Every`, `Program.EveryResult`: Every operation of a program, and every result.
* `Program.Holds`: What a program does among steps that keep to a relation.
* `StatementAnswer`: What becomes of an operation that may fail.
* `System`, `Pool`: A system of calls, and its state.
* `SystemEvent`, `System.step`: What happens in a step.
* `System.alone`: What a call does that nothing comes between.
* `System.Upholds`: A relation that every step of a system keeps to.

## Theorems

* `Program.Every.bind`, `System.every_step`: The operations that a call may come to.
* `System.step_outside`, `System.step_start`, `System.step_advance`, `System.step_finish`: How a
  step is taken.
* `System.alone_bind`, `System.exists_runs_of_alone`: A call that nothing comes between.
* `Program.Holds.mono`: What holds goes on to hold while others take steps.
* `Program.Holds.imp`, `Program.Holds.bind`, `Program.Holds.except_bind`,
  `Program.Holds.caught_bind`, `Program.Holds.lift_bind`, `Program.Holds.query_bind`: Weakening
  and sequencing.
* `Program.Holds.of_every`: A program whose operations keep to the relation where an invariant
  of it holds.
* `System.Upholds.run`, `System.Upholds.returned`: A run keeps to the relation, and every
  call does what it should and returns what it should.
-/

namespace Mistle

/-- A program: it is done, or performs an operation and goes on with the answer. -/
inductive Program (Op : Type) (Res : Op → Type) (α : Type) where
  | done (a : α)
  | perform (op : Op) (next : Res op → Program Op Res α)

namespace Program

variable {Op : Type} {Res : Op → Type} {α β : Type}

def bind : Program Op Res α → (α → Program Op Res β) → Program Op Res β
  | done a, f => f a
  | perform op next, f => perform op fun r => (next r).bind f

instance : Monad (Program Op Res) where
  pure := done
  bind := bind

/-- A single operation. -/
def op (o : Op) : Program Op Res (Res o) :=
  perform o done


variable {σ : Type}

/-- Among steps that keep to `R`, every operation of the program keeps to `R`, and
    `Q` holds from where it is done. -/
def Holds (exec : (op : Op) → σ → Res op → σ → Prop) (R : σ → σ → Prop) (Q : α → σ → Prop) :
    Program Op Res α → σ → Prop
  | done a, s => ∀ t, R s t → Q a t
  | perform op next, s =>
    ∀ t, R s t → ∀ r u, exec op t r u → R t u ∧ Holds exec R Q (next r) u

variable {exec : (op : Op) → σ → Res op → σ → Prop} {R : σ → σ → Prop}

theorem Holds.mono {Q : α → σ → Prop} (htrans : ∀ a b c, R a b → R b c → R a c)
    {p : Program Op Res α} {s t : σ} (h : Holds exec R Q p s) (hst : R s t) :
    Holds exec R Q p t := by
  cases p with
  | done a => exact fun u htu => h u (htrans s t u hst htu)
  | perform op next => exact fun u htu => h u (htrans s t u hst htu)

theorem Holds.imp {Q Q' : α → σ → Prop} (himp : ∀ a s, Q a s → Q' a s) :
    ∀ {p : Program Op Res α} {s : σ}, Holds exec R Q p s → Holds exec R Q' p s := by
  intro p
  induction p with
  | done a => exact fun h t hst => himp a t (h t hst)
  | perform op next ih =>
      intro s h t hst r u hexec
      exact ⟨(h t hst r u hexec).1, ih r (h t hst r u hexec).2⟩

/-- What follows is looked at from where the first program is done. -/
theorem Holds.bind {Q : β → σ → Prop} (hrefl : ∀ a b, R a b → R b b) (f : α → Program Op Res β) :
    ∀ {p : Program Op Res α} {s : σ},
      Holds exec R (fun a t => Holds exec R Q (f a) t) p s → Holds exec R Q (p.bind f) s := by
  intro p
  induction p with
  | done a =>
      intro s h
      show Holds exec R Q (f a) s
      cases hnext : f a with
      | done b =>
          intro t hst
          have hthere : Holds exec R Q (f a) t := h t hst
          rw [hnext] at hthere
          exact hthere t (hrefl s t hst)
      | perform op next =>
          intro t hst
          have hthere : Holds exec R Q (f a) t := h t hst
          rw [hnext] at hthere
          exact hthere t (hrefl s t hst)
  | perform op next ih =>
      intro s h t hst r u hexec
      exact ⟨(h t hst r u hexec).1, ih r (h t hst r u hexec).2⟩

/-- Every operation that the program may come to. -/
def Every (P : Op → Prop) : Program Op Res α → Prop
  | done _ => True
  | perform op next => P op ∧ ∀ r, Every P (next r)

theorem Every.bind {P : Op → Prop} {f : α → Program Op Res β} (hf : ∀ a, (f a).Every P) :
    ∀ {p : Program Op Res α}, p.Every P → (p.bind f).Every P := by
  intro p
  induction p with
  | done a => exact fun _ => hf a
  | perform op next ih => exact fun h => ⟨h.1, fun r => ih r (h.2 r)⟩

theorem Every.imp {P Q : Op → Prop} (hPQ : ∀ op, P op → Q op) :
    ∀ {p : Program Op Res α}, p.Every P → p.Every Q := by
  intro p
  induction p with
  | done a => exact fun _ => trivial
  | perform op next ih => exact fun h => ⟨hPQ op h.1, fun r => ih r (h.2 r)⟩

theorem every_of_forall {P : Op → Prop} (hP : ∀ op, P op) (p : Program Op Res α) : p.Every P := by
  induction p with
  | done a => trivial
  | perform op next ih => exact ⟨hP op, ih⟩

/-- Every result that the program may come to. -/
def EveryResult (Q : α → Prop) : Program Op Res α → Prop
  | done a => Q a
  | perform _ next => ∀ r, EveryResult Q (next r)

/-- A program whose operations keep to the relation where an invariant of it holds. -/
theorem Holds.of_every {P : Op → Prop} {I : σ → Prop} (hkeep : ∀ a b, I a → R a b → I b)
    (hop : ∀ o, P o → ∀ s r t, I s → exec o s r t → R s t) :
    ∀ {p : Program Op Res α} {s : σ}, p.Every P → I s → Holds exec R (fun _ t => I t) p s := by
  intro p
  induction p with
  | done a => exact fun _ hs t hst => hkeep _ t hs hst
  | perform o next ih =>
      intro s h hs t hst r u hexec
      have htu : R t u := hop o h.1 t r u (hkeep s t hs hst) hexec
      exact ⟨htu, ih r (h.2 r) (hkeep t u (hkeep s t hs hst) htu)⟩

/-! ### Operations that may fail -/

section

variable {E : Type} {Row : Op → Type}

/-- An operation that answers with a row or fails. -/
abbrev Fallible (E : Type) (Row : Op → Type) (op : Op) : Type := Except E (Row op)

/-- A program in which an operation that fails raises an exception. -/
abbrev Query (E : Type) (Op : Type) (Row : Op → Type) : Type → Type :=
  ExceptT E (Program Op (Fallible E Row))

/-- An operation that raises its failure. -/
def query (o : Op) : Query E Op Row (Row o) :=
  ExceptT.mk (op o)

/-- A step without operations, which may raise an exception. -/
def lift (x : Except E α) : Query E Op Row α :=
  ExceptT.mk (done x)

/-- A program whose exception is caught and answered with. -/
def caught (x : Query E Op Row α) : Query E Op Row (Except E α) :=
  ExceptT.mk (x.run.bind fun result => done (.ok result))

variable {exec : (op : Op) → σ → Fallible E Row op → σ → Prop}

theorem Every.query_bind {P : Op → Prop} {o : Op} {f : Row o → Query E Op Row β} (ho : P o)
    (hf : ∀ row, (f row).run.Every P) : (query o >>= f : Query E Op Row β).run.Every P := by
  refine ⟨ho, fun r => ?_⟩
  cases r with
  | ok row => exact hf row
  | error e => trivial

theorem Every.lift_bind {P : Op → Prop} {x : Except E α} {f : α → Query E Op Row β}
    (hf : ∀ a, x = .ok a → (f a).run.Every P) :
    (lift x >>= f : Query E Op Row β).run.Every P := by
  cases x with
  | ok a => exact hf a rfl
  | error e => trivial

theorem Every.except_bind {P : Op → Prop} {x : Query E Op Row α} {f : α → Query E Op Row β}
    (hx : x.run.Every P) (hf : ∀ a, (f a).run.Every P) :
    (x >>= f : Query E Op Row β).run.Every P := by
  refine Every.bind (fun r => ?_) hx
  cases r with
  | ok a => exact hf a
  | error e => trivial

theorem Every.caught {P : Op → Prop} {x : Query E Op Row α} (hx : x.run.Every P) :
    (caught x : Query E Op Row (Except E α)).run.Every P := by
  have hdone : ∀ result : Except E α,
      (done (.ok result) : Program Op (Fallible E Row) (Except E (Except E α))).Every P :=
    fun _ => trivial
  exact Every.bind hdone hx

/-- Sequencing, where an exception ends the program. -/
theorem Holds.except_bind {Q : Except E β → σ → Prop} (hrefl : ∀ a b, R a b → R b b)
    {x : Query E Op Row α} {f : α → Query E Op Row β} {s : σ}
    (h : Holds exec R (fun r t => (∀ a, r = .ok a → Holds exec R Q (f a).run t) ∧
      ∀ e, r = .error e → ∀ u, R t u → Q (.error e) u) x.run s) :
    Holds exec R Q (x >>= f : Query E Op Row β).run s := by
  refine Holds.bind hrefl _ (h.imp fun r t hr => ?_)
  cases r with
  | ok a => exact hr.1 a rfl
  | error e => exact fun u htu => hr.2 e rfl u htu

/-- Sequencing, where an exception is caught. -/
theorem Holds.caught_bind {Q : Except E β → σ → Prop} (hrefl : ∀ a b, R a b → R b b)
    (htrans : ∀ a b c, R a b → R b c → R a c) {x : Query E Op Row α}
    {f : Except E α → Query E Op Row β} {s : σ}
    (h : Holds exec R (fun r t => Holds exec R Q (f r).run t) x.run s) :
    Holds exec R Q (caught x >>= f : Query E Op Row β).run s := by
  refine Holds.except_bind hrefl (Holds.bind hrefl _ (h.imp fun r t hr => ?_))
  intro u htu
  refine ⟨fun a ha => ?_, fun e he => ?_⟩
  · rw [← Except.ok.inj ha]
    exact hr.mono htrans htu
  · cases he

/-- After a step without operations, which fails or has a result. -/
theorem Holds.lift_bind {Q : Except E β → σ → Prop} {x : Except E α} {f : α → Query E Op Row β}
    {s : σ} (hok : ∀ a, x = .ok a → Holds exec R Q (f a).run s)
    (herror : ∀ e, x = .error e → ∀ t, R s t → Q (.error e) t) :
    Holds exec R Q (lift x >>= f : Query E Op Row β).run s := by
  cases x with
  | ok a => exact hok a rfl
  | error e => exact herror e rfl

/-- After an operation: it keeps to `R`, and what follows its row is as good, or the
    failure is. -/
theorem Holds.query_bind {Q : Except E β → σ → Prop}
    {o : Op} {f : Row o → Query E Op Row β} {s : σ}
    (h : ∀ t, R s t → ∀ r u, exec o t r u → R t u ∧
      (∀ row, r = .ok row → Holds exec R Q (f row).run u) ∧
      (∀ e, r = .error e → Q (.error e) u))
    (hQ : ∀ e a b, Q (.error e) a → R a b → Q (.error e) b) :
    Holds exec R Q (query o >>= f : Query E Op Row β).run s := by
  intro t hst r u hexec
  rcases h t hst r u hexec with ⟨hR, hok, herror⟩
  refine ⟨hR, ?_⟩
  cases r with
  | ok row => exact hok row rfl
  | error e => exact fun v huv => hQ e u v (herror e rfl) huv

end

end Program

/-- Whether a statement answers, fails without effect, or takes effect and fails to answer. -/
inductive StatementAnswer where
  | arrives
  | fails (message : String)
  | lost (message : String)

/-- A system: what happens outside of its calls, how a call starts, what an operation
    does that a call performs, where the environment's choice `χ` decides what the
    state does not, and what a call goes on with that returned. -/
structure System (σ ε ι χ α Op : Type) (Res : Op → Type) where
  outside : ε → σ → Option σ
  start : ι → σ → Option (σ × Program Op Res α)
  perform : ι → (op : Op) → χ → σ → Option (σ × Res op)
  again : ι → α → Option (Program Op Res α)

/-- A call with what it was called for, and what it still has to do. -/
structure SystemCall (ι α Op : Type) (Res : Op → Type) where
  input : ι
  rest : Option (Program Op Res α)

/-- The state of a system: what is shared, and every call in the order of their start. -/
structure Pool (σ ι α Op : Type) (Res : Op → Type) where
  shared : σ
  calls : List (SystemCall ι α Op Res)

/-- What is chosen in a step: something outside, a call that starts, or the number of
    the call that goes on. -/
inductive PoolInput (ε ι χ : Type) where
  | outside (e : ε)
  | start (i : ι)
  | advance (n : Nat) (c : χ)
  | finish (n : Nat)

/-- What happens in a step. -/
inductive SystemEvent (ε ι χ α Op : Type) where
  | outside (e : ε)
  | start (i : ι)
  | perform (i : ι) (op : Op) (c : χ)
  | returned (i : ι) (a : α)

namespace System

variable {σ ε ι χ α Op : Type} {Res : Op → Type}

def step (S : System σ ε ι χ α Op Res) (pool : Pool σ ι α Op Res) :
    PoolInput ε ι χ → Option (Pool σ ι α Op Res × List (SystemEvent ε ι χ α Op))
  | .outside e =>
    match S.outside e pool.shared with
    | none => none
    | some t => some (⟨t, pool.calls⟩, [.outside e])
  | .start i =>
    match S.start i pool.shared with
    | none => none
    | some (t, p) => some (⟨t, pool.calls ++ [⟨i, some p⟩]⟩, [.start i])
  | .advance n c =>
    match pool.calls[n]? with
    | some ⟨i, some (.perform op next)⟩ =>
      match S.perform i op c pool.shared with
      | none => none
      | some (t, r) => some (⟨t, pool.calls.set n ⟨i, some (next r)⟩⟩, [.perform i op c])
    | _ => none
  | .finish n =>
    match pool.calls[n]? with
    | some ⟨i, some (.done a)⟩ =>
      some (⟨pool.shared, pool.calls.set n ⟨i, S.again i a⟩⟩, [.returned i a])
    | _ => none

/-- The run of a system. -/
abbrev Runs (S : System σ ε ι χ α Op Res) :
    Pool σ ι α Op Res → List (Entry (PoolInput ε ι χ) (SystemEvent ε ι χ α Op)) →
    Pool σ ι α Op Res → Prop :=
  Run fun pool input out pool' => S.step pool input = some (pool', out)

section

variable {S : System σ ε ι χ α Op Res} {pool pool' : Pool σ ι α Op Res}
  {out : List (SystemEvent ε ι χ α Op)}

theorem step_outside {e : ε} (h : S.step pool (.outside e) = some (pool', out)) :
    ∃ t, S.outside e pool.shared = some t ∧ pool' = ⟨t, pool.calls⟩ ∧ out = [.outside e] := by
  rw [step] at h
  split at h
  · exact absurd h (by simp only [reduceCtorEq, not_false_eq_true])
  · rename_i t ht
    rw [Option.some.injEq, Prod.mk.injEq] at h
    exact ⟨t, ht, h.1.symm, h.2.symm⟩

theorem step_start {i : ι} (h : S.step pool (.start i) = some (pool', out)) :
    ∃ t p, S.start i pool.shared = some (t, p) ∧
      pool' = ⟨t, pool.calls ++ [⟨i, some p⟩]⟩ ∧ out = [.start i] := by
  rw [step] at h
  split at h
  · exact absurd h (by simp only [reduceCtorEq, not_false_eq_true])
  · rename_i t p ht
    rw [Option.some.injEq, Prod.mk.injEq] at h
    exact ⟨t, p, ht, h.1.symm, h.2.symm⟩

theorem step_advance {n : Nat} {c : χ} (h : S.step pool (.advance n c) = some (pool', out)) :
    ∃ i op next t r, pool.calls[n]? = some ⟨i, some (.perform op next)⟩ ∧
      S.perform i op c pool.shared = some (t, r) ∧
      pool' = ⟨t, pool.calls.set n ⟨i, some (next r)⟩⟩ ∧ out = [.perform i op c] := by
  rw [step] at h
  split at h
  · rename_i i op next hcall
    split at h
    · exact absurd h (by simp only [reduceCtorEq, not_false_eq_true])
    · rename_i t r ht
      rw [Option.some.injEq, Prod.mk.injEq] at h
      exact ⟨i, op, next, t, r, hcall, ht, h.1.symm, h.2.symm⟩
  · exact absurd h (by simp only [reduceCtorEq, not_false_eq_true])

theorem step_finish {n : Nat} (h : S.step pool (.finish n) = some (pool', out)) :
    ∃ i a, pool.calls[n]? = some ⟨i, some (.done a)⟩ ∧
      pool' = ⟨pool.shared, pool.calls.set n ⟨i, S.again i a⟩⟩ ∧ out = [.returned i a] := by
  rw [step] at h
  split at h
  · rename_i i a hcall
    rw [Option.some.injEq, Prod.mk.injEq] at h
    exact ⟨i, a, hcall, h.1.symm, h.2.symm⟩
  · exact absurd h (by simp only [reduceCtorEq, not_false_eq_true])

/-- A call that does not go on in a step is as it was. -/
theorem step_call_other {n : Nat} {call : SystemCall ι α Op Res} {input : PoolInput ε ι χ}
    (h : S.step pool input = some (pool', out)) (hcall : pool.calls[n]? = some call)
    (hadvance : ∀ c, input ≠ .advance n c) (hfinish : input ≠ .finish n) :
    pool'.calls[n]? = some call := by
  cases input with
  | outside e =>
      rcases step_outside h with ⟨t, _, hpool', _⟩
      rw [hpool']
      exact hcall
  | start i =>
      rcases step_start h with ⟨t, p, _, hpool', _⟩
      rw [hpool']
      exact (List.getElem?_append_left (List.getElem?_eq_some_iff.mp hcall).1).trans hcall
  | advance k c =>
      rcases step_advance h with ⟨i, op, next, t, r, _, _, hpool', _⟩
      have hne : k ≠ n := fun heq => hadvance c (heq ▸ rfl)
      rw [hpool']
      exact (List.getElem?_set_ne hne).trans hcall
  | finish k =>
      rcases step_finish h with ⟨i, a, _, hpool', _⟩
      have hne : k ≠ n := fun heq => hfinish (heq ▸ rfl)
      rw [hpool']
      exact (List.getElem?_set_ne hne).trans hcall

/-- Every way a step of a system is taken. -/
theorem step_cases {input : PoolInput ε ι χ} (h : S.step pool input = some (pool', out)) :
    (∃ e t, S.outside e pool.shared = some t ∧ pool' = ⟨t, pool.calls⟩ ∧ out = [.outside e]) ∨
    (∃ i t p, S.start i pool.shared = some (t, p) ∧
      pool' = ⟨t, pool.calls ++ [⟨i, some p⟩]⟩ ∧ out = [.start i]) ∨
    (∃ n i op next c t r, pool.calls[n]? = some ⟨i, some (.perform op next)⟩ ∧
      S.perform i op c pool.shared = some (t, r) ∧
      pool' = ⟨t, pool.calls.set n ⟨i, some (next r)⟩⟩ ∧ out = [.perform i op c]) ∨
    (∃ n i a, pool.calls[n]? = some ⟨i, some (.done a)⟩ ∧
      pool' = ⟨pool.shared, pool.calls.set n ⟨i, S.again i a⟩⟩ ∧ out = [.returned i a]) := by
  cases input with
  | outside e =>
      rcases step_outside h with ⟨t, hstep⟩
      exact .inl ⟨e, t, hstep⟩
  | start i =>
      rcases step_start h with ⟨t, p, hstep⟩
      exact .inr (.inl ⟨i, t, p, hstep⟩)
  | advance n c =>
      rcases step_advance h with ⟨i, op, next, t, r, hstep⟩
      exact .inr (.inr (.inl ⟨n, i, op, next, c, t, r, hstep⟩))
  | finish n =>
      rcases step_finish h with ⟨i, a, hstep⟩
      exact .inr (.inr (.inr ⟨n, i, a, hstep⟩))

end

/-- What a call does that nothing comes between, with the choices of the environment. -/
def alone (S : System σ ε ι χ α Op Res) (i : ι) :
    Program Op Res α → List χ → σ → Option (σ × α)
  | .done a, [], s => some (s, a)
  | .done _, _ :: _, _ => none
  | .perform _ _, [], _ => none
  | .perform op next, c :: cs, s =>
    match S.perform i op c s with
    | none => none
    | some (t, r) => S.alone i (next r) cs t

section

variable {S : System σ ε ι χ α Op Res}

theorem alone_perform {i : ι} {op : Op} {next : Res op → Program Op Res α} {c : χ} {cs : List χ}
    {s t : σ} {r : Res op} {result : Option (σ × α)} (hperform : S.perform i op c s = some (t, r))
    (h : S.alone i (next r) cs t = result) :
    S.alone i (.perform op next) (c :: cs) s = result := by
  rw [alone, hperform]
  exact h

theorem alone_bind {i : ι} {f : α → Program Op Res α} {rest : List χ} {result : Option (σ × α)} :
    ∀ {p : Program Op Res α} {cs : List χ} {s t : σ} {a : α}, S.alone i p cs s = some (t, a) →
      S.alone i (f a) rest t = result → S.alone i (p.bind f) (cs ++ rest) s = result := by
  intro p
  induction p with
  | done b =>
      intro cs s t a h hrest
      cases cs with
      | nil =>
          rw [alone, Option.some.injEq, Prod.mk.injEq] at h
          rw [h.1, List.nil_append, Program.bind, h.2]
          exact hrest
      | cons c cs => exact absurd h (by simp only [alone, reduceCtorEq, not_false_eq_true])
  | perform op next ih =>
      intro cs s t a h hrest
      cases cs with
      | nil => exact absurd h (by simp only [alone, reduceCtorEq, not_false_eq_true])
      | cons c cs =>
          rw [alone] at h
          rw [List.cons_append, Program.bind, alone]
          split at h
          · exact absurd h (by simp only [reduceCtorEq, not_false_eq_true])
          · exact ih _ h hrest

/-- A call that nothing comes between can be run among any others. -/
theorem exists_runs_of_alone {i : ι} {s s' t : σ} {p : Program Op Res α} {cs : List χ} {a : α}
    (hstart : S.start i s = some (s', p)) (h : S.alone i p cs s' = some (t, a))
    (calls : List (SystemCall ι α Op Res)) :
    ∃ trace, S.Runs ⟨s, calls⟩ trace ⟨t, calls ++ [⟨i, S.again i a⟩]⟩ := by
  have hlast : ∀ call : SystemCall ι α Op Res, (calls ++ [call])[calls.length]? = some call :=
    fun call => by rw [List.getElem?_append_right (Nat.le_refl _), Nat.sub_self,
      List.getElem?_cons_zero]
  have hset : ∀ call call' : SystemCall ι α Op Res,
      (calls ++ [call]).set calls.length call' = calls ++ [call'] := fun call call' => by
    rw [List.set_append_right _ _ (Nat.le_refl _), Nat.sub_self, List.set_cons_zero]
  have hrest : ∀ (p : Program Op Res α) (cs : List χ) (s' : σ),
      S.alone i p cs s' = some (t, a) → ∃ trace,
        S.Runs ⟨s', calls ++ [⟨i, some p⟩]⟩ trace ⟨t, calls ++ [⟨i, S.again i a⟩]⟩ := by
    intro p
    induction p with
    | done b =>
        intro cs s' h
        cases cs with
        | nil =>
            rw [alone, Option.some.injEq, Prod.mk.injEq] at h
            refine ⟨_, @Run.single _ _ _ _ _ _ (.finish calls.length) [.returned i a] ?_⟩
            simp only [step, hlast, hset, h.1, h.2]
        | cons c cs => exact absurd h (by simp only [alone, reduceCtorEq, not_false_eq_true])
    | perform op next ih =>
        intro cs s' h
        cases cs with
        | nil => exact absurd h (by simp only [alone, reduceCtorEq, not_false_eq_true])
        | cons c cs =>
            rw [alone] at h
            split at h
            · exact absurd h (by simp only [reduceCtorEq, not_false_eq_true])
            · rename_i u r hperform
              rcases ih r cs u h with ⟨trace, hrun⟩
              have hadvance : S.step ⟨s', calls ++ [⟨i, some (.perform op next)⟩]⟩
                  (.advance calls.length c) =
                    some (⟨u, calls ++ [⟨i, some (next r)⟩]⟩, [.perform i op c]) := by
                simp only [step, hlast, hset, hperform]
              exact ⟨_, (Run.single hadvance).trans hrun⟩
  rcases hrest p cs s' h with ⟨trace, hrun⟩
  have hfirst : S.step ⟨s, calls⟩ (.start i) =
      some (⟨s', calls ++ [⟨i, some p⟩]⟩, [.start i]) := by
    simp only [step, hstart]
  exact ⟨_, (Run.single hfirst).trans hrun⟩

end

/-- Every operation that the calls of a pool may come to. -/
def Pool.Every (P : ι → Op → Prop) (pool : Pool σ ι α Op Res) : Prop :=
  ∀ call ∈ pool.calls, ∀ p, call.rest = some p → p.Every (P call.input)

theorem Pool.Every.set {P : ι → Op → Prop} {pool : Pool σ ι α Op Res} {t : σ} {n : Nat} {i : ι}
    {rest : Option (Program Op Res α)} (hpool : Pool.Every P pool)
    (hrest : ∀ p, rest = some p → p.Every (P i)) :
    Pool.Every P ⟨t, pool.calls.set n ⟨i, rest⟩⟩ := by
  intro call hcall p hp
  rcases List.mem_or_eq_of_mem_set hcall with hcall | hcall
  · exact hpool call hcall p hp
  · rw [hcall] at hp ⊢
    exact hrest p hp

/-- What every call of a pool is still to do, by what the calls share. -/
def Pool.Each (P : σ → ι → Program Op Res α → Prop) (pool : Pool σ ι α Op Res) : Prop :=
  ∀ call ∈ pool.calls, ∀ p, call.rest = some p → P pool.shared call.input p

/-- A step keeps what holds of each call if it keeps it for the calls that wait, and the call
    that starts or goes on has it. -/
theorem Pool.Each.step {S : System σ ε ι χ α Op Res} {P : σ → ι → Program Op Res α → Prop}
    {pool pool' : Pool σ ι α Op Res} {input : PoolInput ε ι χ}
    {out : List (SystemEvent ε ι χ α Op)} (hpool : Pool.Each P pool)
    (hstep : S.step pool input = some (pool', out))
    (hwait : ∀ call ∈ pool.calls, ∀ p, call.rest = some p → P pool.shared call.input p →
      P pool'.shared call.input p)
    (hstart : ∀ i p, input = .start i → S.start i pool.shared = some (pool'.shared, p) →
      P pool'.shared i p)
    (hperform : ∀ n c i op next r, input = .advance n c →
      pool.calls[n]? = some ⟨i, some (.perform op next)⟩ →
      S.perform i op c pool.shared = some (pool'.shared, r) →
      P pool.shared i (.perform op next) → P pool'.shared i (next r))
    (hagain : ∀ i a p, S.again i a = some p → P pool'.shared i p) :
    Pool.Each P pool' := by
  have hset : ∀ {n : Nat} {i : ι} {rest : Option (Program Op Res α)},
      pool'.calls = pool.calls.set n ⟨i, rest⟩ → (∀ p, rest = some p → P pool'.shared i p) →
      Pool.Each P pool' := by
    intro n i rest hcalls hrest call hmem p hp
    rw [hcalls] at hmem
    rcases List.mem_or_eq_of_mem_set hmem with hmem | hmem
    · exact hwait call hmem p hp (hpool call hmem p hp)
    · rw [hmem] at hp ⊢
      exact hrest p hp
  cases input with
  | outside e =>
      rcases step_outside hstep with ⟨t, _, hpool', _⟩
      intro call hmem p hp
      rw [congrArg Pool.calls hpool'] at hmem
      exact hwait call hmem p hp (hpool call hmem p hp)
  | start i =>
      rcases step_start hstep with ⟨t, q, hq, hpool', _⟩
      intro call hmem p hp
      rw [congrArg Pool.calls hpool'] at hmem
      rcases List.mem_append.mp hmem with hmem | hmem
      · exact hwait call hmem p hp (hpool call hmem p hp)
      · rw [List.mem_singleton.mp hmem] at hp ⊢
        rw [← Option.some.inj hp]
        exact hstart i q rfl (hpool' ▸ hq)
  | advance n c =>
      rcases step_advance hstep with ⟨i, op, next, t, r, hcall, ht, hpool', _⟩
      refine hset (congrArg Pool.calls hpool') fun p hp => ?_
      rw [← Option.some.inj hp]
      exact hperform n c i op next r rfl hcall (hpool' ▸ ht)
        (hpool _ (List.mem_of_getElem? hcall) _ rfl)
  | finish n =>
      rcases step_finish hstep with ⟨i, a, _, hpool', _⟩
      exact hset (congrArg Pool.calls hpool') fun p hp => hagain i a p hp

/-- The operations that calls perform are those of the programs they started with. -/
theorem every_step {S : System σ ε ι χ α Op Res} {P : ι → Op → Prop}
    (hstart : ∀ i s t p, S.start i s = some (t, p) → p.Every (P i))
    (hagain : ∀ i a p, S.again i a = some p → p.Every (P i)) {pool pool' : Pool σ ι α Op Res}
    {input : PoolInput ε ι χ} {out : List (SystemEvent ε ι χ α Op)}
    (hstep : S.step pool input = some (pool', out)) (hpool : Pool.Every P pool) :
    Pool.Every P pool' ∧ ∀ i op c, .perform i op c ∈ out → P i op := by
  rcases step_cases hstep with ⟨e, t, ht, hpool', hout⟩ | ⟨i, t, p, ht, hpool', hout⟩ |
    ⟨n, i, op, next, c, t, r, hcall, ht, hpool', hout⟩ | ⟨n, i, a, hcall, hpool', hout⟩
  · rw [hpool', hout]
    refine ⟨hpool, fun j op c hmem => ?_⟩
    exact absurd (List.mem_singleton.mp hmem) (by simp only [reduceCtorEq, not_false_eq_true])
  · rw [hpool', hout]
    refine ⟨?_, fun j op c hmem => ?_⟩
    · intro call hmem q hq
      rcases List.mem_append.mp hmem with hmem | hmem
      · exact hpool call hmem q hq
      · rw [List.mem_singleton.mp hmem] at hq ⊢
        rw [← Option.some.inj hq]
        exact hstart i pool.shared t p ht
    · exact absurd (List.mem_singleton.mp hmem) (by simp only [reduceCtorEq, not_false_eq_true])
  · have hevery := hpool _ (List.mem_of_getElem? hcall) _ rfl
    rw [hpool', hout]
    refine ⟨Pool.Every.set hpool fun p hp => ?_, fun j o c' hmem => ?_⟩
    · rw [← Option.some.inj hp]
      exact hevery.2 r
    · have heq := List.mem_singleton.mp hmem
      injection heq with hi ho
      rw [hi, ho]
      exact hevery.1
  · rw [hpool', hout]
    refine ⟨Pool.Every.set hpool fun p hp => hagain i a p hp, fun j op c hmem => ?_⟩
    exact absurd (List.mem_singleton.mp hmem) (by simp only [reduceCtorEq, not_false_eq_true])

/-- What an operation of the call `i` may do where the allowed events are taken. -/
def exec (S : System σ ε ι χ α Op Res) (allow : σ → SystemEvent ε ι χ α Op → Prop) (i : ι)
    (op : Op) (s : σ) (r : Res op) (t : σ) : Prop :=
  ∃ c, S.perform i op c s = some (t, r) ∧ allow s (.perform i op c)

/-- From a state with the invariant the steps of a system keep to `R` where the allowed
    events are taken, and the call `i` returns `a` only where `Q i a` holds. -/
structure Upholds (S : System σ ε ι χ α Op Res) (allow : σ → SystemEvent ε ι χ α Op → Prop)
    (I : σ → Prop) (R : σ → σ → Prop) (Q : ι → α → σ → Prop) : Prop where
  refl : ∀ s, I s → R s s
  trans : ∀ s t u, R s t → R t u → R s u
  keeps : ∀ s t, R s t → I t
  outside : ∀ e s t, I s → S.outside e s = some t → allow s (.outside e) → R s t
  start : ∀ i s t p, I s → S.start i s = some (t, p) → allow s (.start i) →
    R s t ∧ Program.Holds (S.exec allow i) R (Q i) p t
  again : ∀ i a s p, I s → Q i a s → S.again i a = some p →
    Program.Holds (S.exec allow i) R (Q i) p s

section

variable {S : System σ ε ι χ α Op Res} {allow : σ → SystemEvent ε ι χ α Op → Prop}
  {I : σ → Prop} {R : σ → σ → Prop} {Q : ι → α → σ → Prop}

/-- Every call of a pool does what it should. -/
def Pool.Holds (S : System σ ε ι χ α Op Res) (allow : σ → SystemEvent ε ι χ α Op → Prop)
    (R : σ → σ → Prop) (Q : ι → α → σ → Prop) (pool : Pool σ ι α Op Res) : Prop :=
  ∀ call ∈ pool.calls, ∀ p, call.rest = some p →
    Program.Holds (S.exec allow call.input) R (Q call.input) p pool.shared

/-- One call goes on, and the others see a step of `R`. -/
theorem Pool.Holds.set (h : Upholds S allow I R Q) {pool : Pool σ ι α Op Res} {t : σ} {n : Nat}
    {i : ι} {rest : Option (Program Op Res α)} (hpool : Pool.Holds S allow R Q pool)
    (hstep : R pool.shared t)
    (hrest : ∀ p, rest = some p → Program.Holds (S.exec allow i) R (Q i) p t) :
    Pool.Holds S allow R Q ⟨t, pool.calls.set n ⟨i, rest⟩⟩ := by
  intro call hcall p hp
  rcases List.mem_or_eq_of_mem_set hcall with hcall | hcall
  · exact (hpool call hcall p hp).mono h.trans hstep
  · rw [hcall] at hp ⊢
    exact hrest p hp

theorem Upholds.step (h : Upholds S allow I R Q) {pool pool' : Pool σ ι α Op Res}
    {input : PoolInput ε ι χ} {out : List (SystemEvent ε ι χ α Op)}
    (hstep : S.step pool input = some (pool', out)) (hallow : ∀ e ∈ out, allow pool.shared e)
    (hinv : I pool.shared) (hpool : Pool.Holds S allow R Q pool) :
    R pool.shared pool'.shared ∧ Pool.Holds S allow R Q pool' ∧
      ∀ i a, .returned i a ∈ out → Q i a pool.shared := by
  rcases step_cases hstep with ⟨e, t, ht, hpool', hout⟩ | ⟨i, t, p, ht, hpool', hout⟩ |
    ⟨n, i, op, next, c, t, r, hcall, ht, hpool', hout⟩ | ⟨n, i, a, hcall, hpool', hout⟩
  · rw [hout] at hallow ⊢
    have hR : R pool.shared t := h.outside e _ t hinv ht (hallow _ (List.mem_singleton.mpr rfl))
    rw [hpool']
    refine ⟨hR, fun call hmem p hp => (hpool call hmem p hp).mono h.trans hR, ?_⟩
    intro i a hmem
    exact absurd (List.mem_singleton.mp hmem) (by simp only [reduceCtorEq, not_false_eq_true])
  · rw [hout] at hallow ⊢
    rcases h.start i _ t p hinv ht (hallow _ (List.mem_singleton.mpr rfl)) with ⟨hR, hp⟩
    rw [hpool']
    refine ⟨hR, ?_, ?_⟩
    · intro call hmem q hq
      rcases List.mem_append.mp hmem with hmem | hmem
      · exact (hpool call hmem q hq).mono h.trans hR
      · rw [List.mem_singleton.mp hmem] at hq ⊢
        rw [← Option.some.inj hq]
        exact hp
    · intro j a hmem
      exact absurd (List.mem_singleton.mp hmem) (by simp only [reduceCtorEq, not_false_eq_true])
  · rw [hout] at hallow ⊢
    have hholds := hpool _ (List.mem_of_getElem? hcall) _ rfl pool.shared (h.refl _ hinv) r t
      ⟨c, ht, hallow _ (List.mem_singleton.mpr rfl)⟩
    rw [hpool']
    refine ⟨hholds.1, Pool.Holds.set h hpool hholds.1 ?_, ?_⟩
    · intro p hp
      rw [← Option.some.inj hp]
      exact hholds.2
    · intro j a hmem
      exact absurd (List.mem_singleton.mp hmem) (by simp only [reduceCtorEq, not_false_eq_true])
  · rw [hout]
    have hQ : Q i a pool.shared :=
      hpool _ (List.mem_of_getElem? hcall) _ rfl pool.shared (h.refl _ hinv)
    rw [hpool']
    refine ⟨h.refl _ hinv,
      Pool.Holds.set h hpool (h.refl _ hinv) fun p hp => h.again i a _ p hinv hQ hp, ?_⟩
    intro j b hmem
    have heq := List.mem_singleton.mp hmem
    injection heq with hi ha
    rw [hi, ha]
    exact hQ

/-- What the steps keep to, a run keeps to, and every call returns what it should. -/
theorem Upholds.run (h : Upholds S allow I R Q) {pool pool' : Pool σ ι α Op Res}
    {trace : List (Entry (PoolInput ε ι χ) (SystemEvent ε ι χ α Op))}
    (hrun : S.Runs pool trace pool')
    (hallow : EveryStep (fun pool input out pool' => S.step pool input = some (pool', out)) pool
      trace fun pool _ out => ∀ e ∈ out, allow pool.shared e)
    (hinv : I pool.shared) (hpool : Pool.Holds S allow R Q pool) :
    R pool.shared pool'.shared ∧ Pool.Holds S allow R Q pool' := by
  refine (hrun.restrict hallow).invariant
    (P := fun p => R pool.shared p.shared ∧ Pool.Holds S allow R Q p)
    ⟨h.refl _ hinv, hpool⟩ ?_
  intro a input out b ha hstep
  rcases h.step hstep.1 hstep.2 (h.keeps _ _ ha.1) ha.2 with ⟨hR, hholds, _⟩
  exact ⟨h.trans _ _ _ ha.1 hR, hholds⟩

/-- Every answer in a run is one that the call should give. -/
theorem Upholds.returned (h : Upholds S allow I R Q) {pool pool' : Pool σ ι α Op Res}
    {trace : List (Entry (PoolInput ε ι χ) (SystemEvent ε ι χ α Op))}
    (hrun : S.Runs pool trace pool')
    (hallow : EveryStep (fun pool input out pool' => S.step pool input = some (pool', out)) pool
      trace fun pool _ out => ∀ e ∈ out, allow pool.shared e)
    (hinv : I pool.shared) (hpool : Pool.Holds S allow R Q pool) :
    EveryStep (fun pool input out pool' => S.step pool input = some (pool', out)) pool trace
      fun pool _ out => ∀ i a, .returned i a ∈ out → Q i a pool.shared := by
  intro before input out after t htrace hbefore i a hmem
  rcases h.run hbefore (htrace ▸ hallow).init hinv hpool with ⟨hR, hholds⟩
  rw [htrace] at hrun
  rcases Run.step_at (functional_of_step _) hrun hbefore with ⟨next, hnext⟩
  exact (h.step hnext (hallow before input out after t htrace hbefore) (h.keeps _ _ hR)
    hholds).2.2 i a hmem

end

end System

end Mistle
