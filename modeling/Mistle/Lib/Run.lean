import Mathlib.Tactic.Common

/-!
# Runs of a Step Relation

A run of a step relation with its trace: every input taken, with the outputs of
that step, in order. Safety properties of a system are facts about all runs from
an initial state, and they are proved one step at a time.

The trace is part of the run rather than of the state, so a property may speak
about history without the system having to record it: an invariant here relates
the trace so far to the state it led to.

## Main definitions

* `Entry`: One step of a trace.
* `Run`: A run from one state to another with its trace.
* `outputs`: All outputs of a trace.
* `EveryStep`: A property of every step of a trace and the state before it.
* `EveryState`: A property of every state along a trace.
* `EachAfter`: A property of every entry of a record and the entries before it.
* `execute`, `executesTo`, `stepsPass`: Running a step function on a list of inputs.

## Theorems

* `Run.invariant`: What the first state satisfies and every step keeps, every
  reachable state satisfies.
* `Run.history`: The same for a relation between trace and state.
* `Run.trans`, `Run.split`: Runs compose, and a trace splits at any point.
* `Run.mono`: A run of a smaller relation is a run of a larger one.
* `Run.functional`: Where a step is determined, so is the end of a run.
* `Run.everyStep_iff`, `Run.everyStep_iff_of_invariant`: Two properties that agree
  on steps agree on runs.
* `Run.restrict`: A run whose steps all have a property, as a run of such steps.
* `execute_run`, `execute_inputs`: What executes is a run over its inputs.
* `exists_run_of_executesTo`, `exists_run_of_stepsPass`: A run found by executing its inputs.
-/

namespace Mistle

/-- One step of a trace: the input it took and what it emitted. -/
structure Entry (ι ω : Type) where
  input : ι
  emitted : List ω

/-- All outputs of a trace, in order. -/
def outputs {ι ω : Type} (trace : List (Entry ι ω)) : List ω :=
  trace.flatMap Entry.emitted

/-- A run of `step`, from the first state to the last, with its trace. -/
inductive Run {σ ι ω : Type} (step : σ → ι → List ω → σ → Prop) (s : σ) :
    List (Entry ι ω) → σ → Prop
  | nil : Run step s [] s
  | snoc {t u : σ} {trace : List (Entry ι ω)} {i : ι} {out : List ω}
      (run : Run step s trace t) (last : step t i out u) : Run step s (trace ++ [⟨i, out⟩]) u

section

variable {σ ι ω : Type} {step : σ → ι → List ω → σ → Prop}

@[simp] theorem outputs_nil : outputs ([] : List (Entry ι ω)) = [] := rfl

@[simp] theorem outputs_append (a b : List (Entry ι ω)) :
    outputs (a ++ b) = outputs a ++ outputs b :=
  List.flatMap_append

@[simp] theorem outputs_singleton (i : ι) (out : List ω) :
    outputs [(⟨i, out⟩ : Entry ι ω)] = out := by
  simp only [outputs, List.flatMap_cons, List.flatMap_nil, List.append_nil]

theorem Run.history {s t : σ} {trace : List (Entry ι ω)} (run : Run step s trace t)
    {P : List (Entry ι ω) → σ → Prop} (hinit : P [] s)
    (hstep : ∀ (trace : List (Entry ι ω)) (a : σ) (i : ι) (out : List ω) (b : σ),
      Run step s trace a → P trace a → step a i out b → P (trace ++ [⟨i, out⟩]) b) :
    P trace t := by
  induction run with
  | nil => exact hinit
  | snoc run last ih => exact hstep _ _ _ _ _ run ih last

theorem Run.invariant {s t : σ} {trace : List (Entry ι ω)} (run : Run step s trace t)
    {P : σ → Prop} (hinit : P s)
    (hstep : ∀ (a : σ) (i : ι) (out : List ω) (b : σ), P a → step a i out b → P b) : P t :=
  run.history hinit fun _ a i out b _ ha hab => hstep a i out b ha hab

theorem Run.single {s t : σ} {i : ι} {out : List ω} (h : step s i out t) :
    Run step s [⟨i, out⟩] t := by
  have hrun : Run step s ([] ++ [⟨i, out⟩]) t := Run.nil.snoc h
  simpa only [List.nil_append] using hrun

theorem Run.trans {s t u : σ} {a b : List (Entry ι ω)} (first : Run step s a t)
    (rest : Run step t b u) : Run step s (a ++ b) u := by
  induction rest with
  | nil => rwa [List.append_nil]
  | snoc _ last ih =>
      rw [← List.append_assoc]
      exact ih.snoc last

theorem Run.split {s u : σ} {trace : List (Entry ι ω)} (run : Run step s trace u) :
    ∀ (a b : List (Entry ι ω)), trace = a ++ b → ∃ t, Run step s a t ∧ Run step t b u := by
  induction run with
  | nil =>
      intro a b h
      rcases List.append_eq_nil_iff.mp h.symm with ⟨ha, hb⟩
      rw [ha, hb]
      exact ⟨s, .nil, .nil⟩
  | @snoc t u trace i out run last ih =>
      intro a b h
      rcases List.eq_nil_or_concat b with hb | ⟨b', e, hb⟩
      · refine ⟨u, ?_, ?_⟩
        · rw [hb, List.append_nil] at h
          rw [← h]
          exact run.snoc last
        · rw [hb]
          exact .nil
      · rw [hb, List.concat_eq_append, ← List.append_assoc] at h
        rcases List.append_inj' h rfl with ⟨htrace, he⟩
        rcases ih a b' htrace with ⟨m, hfirst, hrest⟩
        refine ⟨m, hfirst, ?_⟩
        rw [hb, List.concat_eq_append, ← he]
        exact hrest.snoc last

/-- A run without steps stays where it is. -/
theorem Run.eq_of_nil {s t : σ} (run : Run step s [] t) : s = t := by
  generalize hnil : ([] : List (Entry ι ω)) = trace at run
  cases run with
  | nil => rfl
  | snoc => exact absurd hnil.symm (List.append_ne_nil_of_right_ne_nil _ (List.cons_ne_nil _ _))

/-- The first step of a run that took one. -/
theorem Run.uncons {s u : σ} {i : ι} {out : List ω} {rest : List (Entry ι ω)}
    (run : Run step s (⟨i, out⟩ :: rest) u) : ∃ t, step s i out t ∧ Run step t rest u := by
  rcases run.split [⟨i, out⟩] rest rfl with ⟨t, hone, hrest⟩
  refine ⟨t, ?_, hrest⟩
  generalize htrace : ([⟨i, out⟩] : List (Entry ι ω)) = trace at hone
  cases hone with
  | nil => exact absurd htrace (List.cons_ne_nil _ _)
  | @snoc m _ before i' out' run last =>
      have happend : [] ++ [(⟨i, out⟩ : Entry ι ω)] = before ++ [⟨i', out'⟩] := htrace
      rcases List.append_inj' happend rfl with ⟨hbefore, he⟩
      injection he with he
      injection he with hi hout
      rw [← hbefore] at run
      rw [hi, hout, run.eq_of_nil]
      exact last

theorem Run.mono {step' : σ → ι → List ω → σ → Prop} {s t : σ} {trace : List (Entry ι ω)}
    (run : Run step s trace t) (h : ∀ a i out b, step a i out b → step' a i out b) :
    Run step' s trace t := by
  induction run with
  | nil => exact .nil
  | snoc _ last ih => exact ih.snoc (h _ _ _ _ last)

/-- Every step of a trace from `s` has the property `P`, which may look at the
    state the step was taken in. -/
def EveryStep (step : σ → ι → List ω → σ → Prop) (s : σ) (trace : List (Entry ι ω))
    (P : σ → ι → List ω → Prop) : Prop :=
  ∀ before i out after t, trace = before ++ ⟨i, out⟩ :: after → Run step s before t → P t i out

theorem EveryStep.nil {s : σ} {P : σ → ι → List ω → Prop} : EveryStep step s [] P :=
  fun _ _ _ _ _ h _ => absurd h.symm (List.append_ne_nil_of_right_ne_nil _ (List.cons_ne_nil _ _))

theorem EveryStep.init {s : σ} {trace rest : List (Entry ι ω)} {P : σ → ι → List ω → Prop}
    (h : EveryStep step s (trace ++ rest) P) : EveryStep step s trace P := by
  intro before i out after t htrace run
  refine h before i out (after ++ rest) t ?_ run
  rw [htrace, List.append_assoc, List.cons_append]

/-- The steps behind the first part of a trace. -/
theorem EveryStep.drop {s t : σ} {first rest : List (Entry ι ω)} {P : σ → ι → List ω → Prop}
    (h : EveryStep step s (first ++ rest) P) (run : Run step s first t) :
    EveryStep step t rest P := by
  intro before i out after u htrace hbefore
  refine h (first ++ before) i out after u ?_ (run.trans hbefore)
  rw [htrace, List.append_assoc]

/-- The only step of a trace. -/
theorem EveryStep.single {s : σ} {i : ι} {out : List ω} {P : σ → ι → List ω → Prop} :
    EveryStep step s [⟨i, out⟩] P ↔ P s i out := by
  constructor
  · intro h
    exact h [] i out [] s rfl .nil
  · intro h before j out' after t htrace run
    cases before with
    | nil =>
        rw [List.nil_append, List.cons.injEq, Entry.mk.injEq] at htrace
        rw [← htrace.1.1, ← htrace.1.2, ← run.eq_of_nil]
        exact h
    | cons e before =>
        rw [List.cons_append, List.cons.injEq] at htrace
        exact absurd htrace.2.symm (List.append_ne_nil_of_right_ne_nil _ (List.cons_ne_nil _ _))

/-- A run whose steps all have a property is a run of such steps. -/
theorem Run.restrict {s t : σ} {trace : List (Entry ι ω)} {P : σ → ι → List ω → Prop}
    (run : Run step s trace t) (h : EveryStep step s trace P) :
    Run (fun a i out b => step a i out b ∧ P a i out) s trace t := by
  induction run with
  | nil => exact .nil
  | snoc run last ih => exact (ih h.init).snoc ⟨last, h _ _ _ [] _ rfl run⟩

/-- Every state along a trace from `s` has the property `P`, the first and the last one
    included. -/
def EveryState (step : σ → ι → List ω → σ → Prop) (s : σ) (trace : List (Entry ι ω))
    (P : σ → Prop) : Prop :=
  ∀ before after t, trace = before ++ after → Run step s before t → P t

/-- The states behind the first one are those that steps lead to. -/
theorem everyState_iff {s : σ} {trace : List (Entry ι ω)} {P : σ → Prop} (hs : P s) :
    EveryState step s trace P ↔
      EveryStep step s trace fun a i out => ∀ b, step a i out b → P b := by
  constructor
  · intro h before i out after a htrace run b hstep
    refine h (before ++ [⟨i, out⟩]) after b ?_ (run.snoc hstep)
    rw [htrace, List.append_assoc, List.singleton_append]
  · intro h before after t htrace run
    cases run with
    | nil => exact hs
    | @snoc a _ before i out run last =>
        rw [List.append_assoc, List.singleton_append] at htrace
        exact h before i out after a htrace run t last

section

/-- A step is determined by its input. -/
def Functional (step : σ → ι → List ω → σ → Prop) : Prop :=
  ∀ a i out b out' b', step a i out b → step a i out' b' → out = out' ∧ b = b'

variable (hstep : Functional step)

include hstep

theorem Run.functional {s t : σ} {trace : List (Entry ι ω)} (run : Run step s trace t) :
    ∀ t', Run step s trace t' → t = t' := by
  induction run with
  | nil =>
      intro t' run'
      exact run'.eq_of_nil
  | @snoc t u trace i out run last ih =>
      intro t' run'
      rcases run'.split trace [⟨i, out⟩] rfl with ⟨m, hinit, hlast⟩
      rcases hlast.uncons with ⟨v, hv, hrest⟩
      rw [← ih m hinit] at hv
      exact (hstep _ _ _ _ _ _ last hv).2.trans hrest.eq_of_nil

/-- The step at any point of a trace was taken in the state the trace led to. -/
theorem Run.step_at {s t u : σ} {before after : List (Entry ι ω)} {i : ι} {out : List ω}
    (run : Run step s (before ++ ⟨i, out⟩ :: after) u) (hbefore : Run step s before t) :
    ∃ v, step t i out v := by
  rcases run.split before (⟨i, out⟩ :: after) rfl with ⟨m, hinit, hrest⟩
  rcases hrest.uncons with ⟨v, hv, _⟩
  rw [← Run.functional hstep hbefore m hinit] at hv
  exact ⟨v, hv⟩

theorem Run.everyStep {s t : σ} {trace : List (Entry ι ω)} (run : Run step s trace t)
    {P : σ → ι → List ω → Prop} (h : ∀ a i out b, step a i out b → P a i out) :
    EveryStep step s trace P := by
  intro before i out after a htrace hbefore
  rw [htrace] at run
  rcases Run.step_at hstep run hbefore with ⟨b, hb⟩
  exact h a i out b hb

/-- Properties that agree on every step agree on every run. -/
theorem Run.everyStep_iff {s t : σ} {trace : List (Entry ι ω)} (run : Run step s trace t)
    {P Q : σ → ι → List ω → Prop} (h : ∀ a i out b, step a i out b → (P a i out ↔ Q a i out)) :
    EveryStep step s trace P ↔ EveryStep step s trace Q := by
  have hagree : EveryStep step s trace fun a i out => (P a i out ↔ Q a i out) :=
    run.everyStep hstep h
  constructor
  · intro hP before i out after a htrace hbefore
    exact (hagree before i out after a htrace hbefore).mp
      (hP before i out after a htrace hbefore)
  · intro hQ before i out after a htrace hbefore
    exact (hagree before i out after a htrace hbefore).mpr
      (hQ before i out after a htrace hbefore)

/-- One more step, taken in the state that the trace led to. -/
theorem EveryStep.snoc {s t : σ} {trace : List (Entry ι ω)} {P : σ → ι → List ω → Prop} {i : ι}
    {out : List ω} (h : EveryStep step s trace P) (run : Run step s trace t) (hlast : P t i out) :
    EveryStep step s (trace ++ [⟨i, out⟩]) P := by
  intro before j out' after u htrace hbefore
  rcases List.eq_nil_or_concat after with hafter | ⟨init, e, hafter⟩
  · rw [hafter] at htrace
    rcases List.append_inj' htrace rfl with ⟨hinit, hentry⟩
    rw [List.cons.injEq, Entry.mk.injEq] at hentry
    rw [← hinit] at hbefore
    rw [← hentry.1.1, ← hentry.1.2, ← Run.functional hstep run u hbefore]
    exact hlast
  · rw [hafter, List.concat_eq_append, ← List.cons_append, ← List.append_assoc] at htrace
    exact h before j out' init u (List.append_inj' htrace rfl).1 hbefore

theorem EveryStep.snoc_iff {s t : σ} {trace : List (Entry ι ω)} {P : σ → ι → List ω → Prop} {i : ι}
    {out : List ω} (run : Run step s trace t) :
    EveryStep step s (trace ++ [⟨i, out⟩]) P ↔ EveryStep step s trace P ∧ P t i out := by
  constructor
  · intro h
    exact ⟨h.init, h trace i out [] t rfl run⟩
  · rintro ⟨h, hlast⟩
    exact h.snoc hstep run hlast

/-- The same where an invariant is needed to agree, and kept by steps that have
    the first property. -/
theorem Run.everyStep_iff_of_invariant {s t : σ} {trace : List (Entry ι ω)}
    (run : Run step s trace t) {I : σ → Prop} {P Q : σ → ι → List ω → Prop} (hinit : I s)
    (hkeep : ∀ a i out b, I a → step a i out b → P a i out → I b)
    (h : ∀ a i out b, I a → step a i out b → (P a i out ↔ Q a i out)) :
    EveryStep step s trace P ↔ EveryStep step s trace Q := by
  constructor
  · intro hP before i out after a htrace hbefore
    have hinv : I a := by
      refine (hbefore.restrict (htrace ▸ hP).init).invariant hinit ?_
      exact fun c j out' d hc hd => hkeep c j out' d hc hd.1 hd.2
    rw [htrace] at run
    rcases Run.step_at hstep run hbefore with ⟨b, hb⟩
    exact (h a i out b hinv hb).mp (hP before i out after a htrace hbefore)
  · intro hQ before i out after a htrace hbefore
    have hinv : I a := by
      refine (hbefore.restrict (htrace ▸ hQ).init).invariant hinit ?_
      exact fun c j out' d hc hd => hkeep c j out' d hc hd.1 ((h c j out' d hc hd.1).mpr hd.2)
    rw [htrace] at run
    rcases Run.step_at hstep run hbefore with ⟨b, hb⟩
    exact (h a i out b hinv hb).mpr (hQ before i out after a htrace hbefore)

end

end

/-! ### Records of what happened -/

section

variable {α : Type}

/-- Every entry of a record has a property, which may look at the entries before it. -/
def EachAfter (P : List α → α → Prop) (record : List α) : Prop :=
  ∀ before entry after, record = before ++ entry :: after → P before entry

theorem EachAfter.nil {P : List α → α → Prop} : EachAfter P [] :=
  fun _ _ _ h => absurd h.symm (List.append_ne_nil_of_right_ne_nil _ (List.cons_ne_nil _ _))

/-- An entry of a record that has grown by one is the last, or was there. -/
theorem snoc_eq_split {record before after : List α} {last entry : α}
    (h : record ++ [last] = before ++ entry :: after) :
    (after = [] ∧ record = before ∧ last = entry) ∨
      ∃ init, after = init ++ [last] ∧ record = before ++ entry :: init := by
  rcases List.eq_nil_or_concat after with hafter | ⟨init, e, hafter⟩
  · rw [hafter] at h
    rcases List.append_inj' h rfl with ⟨hbefore, hentry⟩
    exact .inl ⟨hafter, hbefore, List.head_eq_of_cons_eq hentry⟩
  · rw [hafter, List.concat_eq_append, ← List.cons_append, ← List.append_assoc] at h
    rcases List.append_inj' h rfl with ⟨hrecord, hlast⟩
    refine .inr ⟨init, ?_, hrecord⟩
    rw [hafter, List.concat_eq_append, List.head_eq_of_cons_eq hlast]

theorem EachAfter.snoc {P : List α → α → Prop} {record : List α} {last : α}
    (h : EachAfter P record) (hlast : P record last) : EachAfter P (record ++ [last]) := by
  intro before entry after hrecord
  rcases snoc_eq_split hrecord with ⟨_, hbefore, hentry⟩ | ⟨init, _, hbefore⟩
  · rw [← hbefore, ← hentry]
    exact hlast
  · exact h before entry init hbefore

/-- What an entry came after is still before what comes later. -/
theorem exists_split_append {before record more : List α} {entry : α}
    (h : ∃ after, record = before ++ entry :: after) :
    ∃ after, record ++ more = before ++ entry :: after := by
  rcases h with ⟨after, hrecord⟩
  refine ⟨after ++ more, ?_⟩
  rw [hrecord, List.append_assoc, List.cons_append]

end

/-! ### Executing a step function -/

section

variable {σ ι ω : Type}

/-- Execute a list of inputs with a step function; `none` if one does not apply. -/
def execute (step : σ → ι → Option (σ × List ω)) : σ → List ι → Option (List (Entry ι ω) × σ)
  | s, [] => some ([], s)
  | s, i :: is =>
    match step s i with
    | none => none
    | some (t, out) => (execute step t is).map fun (trace, u) => (⟨i, out⟩ :: trace, u)

theorem execute_run {step : σ → ι → Option (σ × List ω)} (is : List ι) :
    ∀ {s t : σ} {trace : List (Entry ι ω)}, execute step s is = some (trace, t) →
      Run (fun s i out t => step s i = some (t, out)) s trace t := by
  induction is with
  | nil =>
      intro s t trace h
      simp only [execute, Option.some.injEq, Prod.mk.injEq] at h
      rw [← h.1, ← h.2]
      exact .nil
  | cons i is ih =>
      intro s t trace h
      rw [execute] at h
      cases hstep : step s i with
      | none =>
          rw [hstep] at h
          exact absurd h (by simp only [reduceCtorEq, not_false_eq_true])
      | some next =>
          rcases next with ⟨u, out⟩
          rw [hstep] at h
          rcases Option.map_eq_some_iff.mp h with ⟨⟨rest, v⟩, hrest, hresult⟩
          rw [Prod.mk.injEq] at hresult
          rw [← hresult.1, ← hresult.2]
          exact (Run.single hstep).trans (ih hrest)

/-- Whether a list of inputs executes and ends in a check. -/
def executesTo (step : σ → ι → Option (σ × List ω)) (s : σ) (is : List ι)
    (check : List (Entry ι ω) → σ → Bool) : Bool :=
  match execute step s is with
  | none => false
  | some (trace, t) => check trace t

theorem execute_inputs {step : σ → ι → Option (σ × List ω)} (is : List ι) :
    ∀ {s t : σ} {trace : List (Entry ι ω)}, execute step s is = some (trace, t) →
      trace.map Entry.input = is := by
  induction is with
  | nil =>
      intro s t trace h
      simp only [execute, Option.some.injEq, Prod.mk.injEq] at h
      rw [← h.1]
      rfl
  | cons i is ih =>
      intro s t trace h
      rw [execute] at h
      split at h
      · exact absurd h (by simp only [reduceCtorEq, not_false_eq_true])
      · rcases Option.map_eq_some_iff.mp h with ⟨⟨rest, v⟩, hrest, hresult⟩
        rw [Prod.mk.injEq] at hresult
        rw [← hresult.1, List.map_cons, ih hrest]

theorem exists_run_of_executesTo {step : σ → ι → Option (σ × List ω)} {s : σ} {is : List ι}
    {check : List (Entry ι ω) → σ → Bool} (h : executesTo step s is check = true) :
    ∃ trace t, Run (fun s i out t => step s i = some (t, out)) s trace t ∧
      trace.map Entry.input = is ∧ check trace t = true := by
  unfold executesTo at h
  split at h
  · exact absurd h Bool.false_ne_true
  · rename_i trace t hexecute
    exact ⟨trace, t, execute_run is hexecute, execute_inputs is hexecute, h⟩

/-- Execute inputs, one step to look at, and more inputs; what is read off around it. -/
def executeAround {γ : Type} (step : σ → ι → Option (σ × List ω)) (s : σ) (is : List ι) (i : ι)
    (js : List ι) (read : σ → σ → σ → γ) : Option γ :=
  (execute step s is).bind fun (_, a) => (step a i).bind fun (b, _) =>
    (execute step b js).map fun (_, c) => read a b c

theorem exists_runs_of_executeAround {γ : Type} {step : σ → ι → Option (σ × List ω)} {s : σ}
    {is : List ι} {i : ι} {js : List ι} {read : σ → σ → σ → γ} {v : γ}
    (h : executeAround step s is i js read = some v) :
    ∃ before a out b trace c, Run (fun s i out t => step s i = some (t, out)) s before a ∧
      step a i = some (b, out) ∧ execute step b js = some (trace, c) ∧ read a b c = v := by
  rcases Option.bind_eq_some_iff.mp h with ⟨⟨before, a⟩, hbefore, h⟩
  rcases Option.bind_eq_some_iff.mp h with ⟨⟨b, out⟩, hstep, h⟩
  rcases Option.map_eq_some_iff.mp h with ⟨⟨trace, c⟩, htrace, h⟩
  exact ⟨before, a, out, b, trace, c, execute_run is hbefore, hstep, htrace, h⟩

/-- Whether every step of executing the inputs passes a check. -/
def stepsPass (step : σ → ι → Option (σ × List ω)) (check : σ → ι → Bool) : σ → List ι → Bool
  | _, [] => true
  | s, i :: is => check s i && match step s i with
    | none => true
    | some (t, _) => stepsPass step check t is

theorem functional_of_step (step : σ → ι → Option (σ × List ω)) :
    Functional fun s i out t => step s i = some (t, out) := by
  intro s i out t out' t' h h'
  rw [h, Option.some.injEq, Prod.mk.injEq] at h'
  exact ⟨h'.2, h'.1⟩

theorem everyStep_of_stepsPass {step : σ → ι → Option (σ × List ω)} {check : σ → ι → Bool}
    (is : List ι) : ∀ {s t : σ} {trace : List (Entry ι ω)},
      execute step s is = some (trace, t) → stepsPass step check s is = true →
      EveryStep (fun s i out t => step s i = some (t, out)) s trace
        fun s i _ => check s i = true := by
  induction is with
  | nil =>
      intro s t trace h _ before i out after u htrace _
      simp only [execute, Option.some.injEq, Prod.mk.injEq] at h
      rw [← h.1] at htrace
      exact absurd htrace.symm (List.append_ne_nil_of_right_ne_nil _ (List.cons_ne_nil _ _))
  | cons i is ih =>
      intro s t trace h hpass before j out after u htrace run
      rw [execute] at h
      rw [stepsPass, Bool.and_eq_true] at hpass
      cases hstep : step s i with
      | none =>
          rw [hstep] at h
          exact absurd h (by simp only [reduceCtorEq, not_false_eq_true])
      | some next =>
          rcases next with ⟨m, first⟩
          rw [hstep] at h hpass
          rcases Option.map_eq_some_iff.mp h with ⟨⟨rest, v⟩, hrest, hresult⟩
          rw [Prod.mk.injEq] at hresult
          rw [← hresult.1] at htrace
          cases before with
          | nil =>
              -- The first step is the one looked at.
              rw [List.nil_append, List.cons.injEq, Entry.mk.injEq] at htrace
              rw [← run.eq_of_nil, ← htrace.1.1]
              exact hpass.1
          | cons e before =>
              rw [List.cons_append, List.cons.injEq] at htrace
              rw [← htrace.1] at run
              rcases run.uncons with ⟨m', hm, hrun⟩
              rw [hstep, Option.some.injEq, Prod.mk.injEq] at hm
              rw [← hm.1] at hrun
              exact ih hrest hpass.2 before j out after u htrace.2 hrun

theorem exists_run_of_stepsPass {step : σ → ι → Option (σ × List ω)} {s : σ} {is : List ι}
    {check : List (Entry ι ω) → σ → Bool} {pass : σ → ι → Bool}
    (h : executesTo step s is check = true) (hpass : stepsPass step pass s is = true) :
    ∃ trace t, Run (fun s i out t => step s i = some (t, out)) s trace t ∧
      trace.map Entry.input = is ∧ check trace t = true ∧
      EveryStep (fun s i out t => step s i = some (t, out)) s trace
        fun s i _ => pass s i = true := by
  unfold executesTo at h
  split at h
  · exact absurd h Bool.false_ne_true
  · rename_i trace t hexecute
    exact ⟨trace, t, execute_run is hexecute, execute_inputs is hexecute, h,
      everyStep_of_stepsPass is hexecute hpass⟩

end

end Mistle
