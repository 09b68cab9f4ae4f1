import Mistle.Lib.Program

/-!
# Calls that Take Note of Answers

What an operation of a call is allowed to be often hangs on what the call has been
answered before: it writes what it has read, it acts on what it has checked. Here a note
is kept for every call, which its own answers change and nothing else does, and every
operation is judged by the note of the call that performs it.

The notes are kept beside the system. They decide nothing, so every run can be taken with
notes.

## Main definitions

* `Program.EveryNoting`: Every operation of a program, by the note it finds.
* `System.stepNoting`: A step of a system, and the notes behind it.

## Theorems

* `Program.EveryNoting.bind_kept`, `Program.EveryNoting.query_bind`,
  `Program.EveryNoting.except_bind`, `Program.EveryNoting.caught`: The rules for programs.
* `System.Noted.perform`, `System.everyNoting_run`: The operations that calls come to.
* `System.Runs.noting`, `System.Runs.of_noting`: Every run, with notes and without.
-/

namespace Mistle

namespace Program

variable {Op : Type} {Res : Op → Type} {α β M : Type} {note : M → (op : Op) → Res op → M}
  {P : M → Op → Prop}

/-- Every operation that the program may come to, judged by the note that the answers before
    it have led to. -/
def EveryNoting (note : M → (op : Op) → Res op → M) (P : M → Op → Prop) :
    M → Program Op Res α → Prop
  | _, done _ => True
  | m, perform op next => P m op ∧ ∀ r, EveryNoting note P (note m op r) (next r)

/-- What follows finds a note that the answers before it have kept as `K`. -/
theorem EveryNoting.bind_kept {K : M → Prop} {f : α → Program Op Res β}
    (hf : ∀ m a, K m → EveryNoting note P m (f a)) :
    ∀ {p : Program Op Res α} {m : M}, EveryNoting note P m p →
      p.Every (fun op => ∀ m r, K m → K (note m op r)) → K m → EveryNoting note P m (p.bind f) := by
  intro p
  induction p with
  | done a => exact fun {m} _ _ hm => hf m a hm
  | perform op next ih =>
      intro m h hkeeps hm
      exact ⟨h.1, fun r => ih r (h.2 r) (hkeeps.2 r) (hkeeps.1 m r hm)⟩

theorem EveryNoting.bind {f : α → Program Op Res β} (hf : ∀ m a, EveryNoting note P m (f a))
    {p : Program Op Res α} {m : M} (hp : EveryNoting note P m p) :
    EveryNoting note P m (p.bind f) :=
  EveryNoting.bind_kept (K := fun _ => True) (fun m a _ => hf m a) hp
    (p.every_of_forall fun _ _ _ _ => trivial) trivial

section

variable {E : Type} {Row : Op → Type} {note : M → (op : Op) → Fallible E Row op → M}

/-- After an operation: what follows finds the note that the row has led to. -/
theorem EveryNoting.query_bind {m : M} {o : Op} {f : Row o → Query E Op Row β} (ho : P m o)
    (hf : ∀ row, EveryNoting note P (note m o (.ok row)) (f row).run) :
    EveryNoting note P m (query o >>= f : Query E Op Row β).run := by
  refine ⟨ho, fun r => ?_⟩
  cases r with
  | ok row => exact hf row
  | error e => trivial

theorem EveryNoting.query {m : M} {o : Op} (ho : P m o) :
    EveryNoting note P m (Program.query o : Query E Op Row (Row o)).run :=
  ⟨ho, fun _ => trivial⟩

theorem EveryNoting.except_bind {m : M} {x : Query E Op Row α} {f : α → Query E Op Row β}
    (hx : EveryNoting note P m x.run) (hf : ∀ m a, EveryNoting note P m (f a).run) :
    EveryNoting note P m (x >>= f : Query E Op Row β).run := by
  refine EveryNoting.bind (fun m' r => ?_) hx
  cases r with
  | ok a => exact hf m' a
  | error e => trivial

theorem EveryNoting.except_bind_kept {K : M → Prop} {m : M} {x : Query E Op Row α}
    {f : α → Query E Op Row β} (hx : EveryNoting note P m x.run)
    (hkeeps : x.run.Every fun op => ∀ m r, K m → K (note m op r)) (hm : K m)
    (hf : ∀ m a, K m → EveryNoting note P m (f a).run) :
    EveryNoting note P m (x >>= f : Query E Op Row β).run := by
  refine EveryNoting.bind_kept (fun m' r hm' => ?_) hx hkeeps hm
  cases r with
  | ok a => exact hf m' a hm'
  | error e => trivial

/-- A program whose answers change no note. -/
theorem EveryNoting.except_bind_same {m : M} {x : Query E Op Row α} {f : α → Query E Op Row β}
    (hx : EveryNoting note P m x.run) (hsame : x.run.Every fun op => ∀ m r, note m op r = m)
    (hf : ∀ a, EveryNoting note P m (f a).run) :
    EveryNoting note P m (x >>= f : Query E Op Row β).run := by
  refine EveryNoting.except_bind_kept (K := (· = m)) hx (hsame.imp fun op h m' r hm' => ?_) rfl
    fun m' a hm' => ?_
  · rw [h m' r]
    exact hm'
  · rw [hm']
    exact hf a

theorem EveryNoting.lift_bind {m : M} {x : Except E α} {f : α → Query E Op Row β}
    (hf : ∀ a, x = .ok a → EveryNoting note P m (f a).run) :
    EveryNoting note P m (lift x >>= f : Query E Op Row β).run := by
  cases x with
  | ok a => exact hf a rfl
  | error e => trivial

theorem EveryNoting.caught {m : M} {x : Query E Op Row α} (hx : EveryNoting note P m x.run) :
    EveryNoting note P m (Program.caught x : Query E Op Row (Except E α)).run := by
  have hdone : ∀ (m : M) (result : Except E α), EveryNoting note P m
      (done (.ok result) : Program Op (Fallible E Row) (Except E (Except E α))) :=
    fun _ _ => trivial
  exact EveryNoting.bind hdone hx

end

end Program

namespace System

variable {σ ε ι χ α Op M : Type} {Res : Op → Type} (S : System σ ε ι χ α Op Res)
  (note : M → (op : Op) → Res op → M) (fresh : M)

/-- The notes behind a step: the answer to an operation is noted for the call that
    performed it, and a call starts with a fresh note. -/
def notesAfter (pool : Pool σ ι α Op Res) (notes : List M) : PoolInput ε ι χ → List M
  | .start _ => notes ++ [fresh]
  | .advance n c =>
    match pool.calls[n]? with
    | some ⟨i, some (.perform op _)⟩ =>
      match S.perform i op c pool.shared with
      | none => notes
      | some (_, r) => notes.modify n fun m => note m op r
    | _ => notes
  | _ => notes

variable {S note fresh} in
theorem notesAfter_advance {pool : Pool σ ι α Op Res} {notes : List M} {n : Nat} {c : χ} {i : ι}
    {op : Op} {next : Res op → Program Op Res α} {t : σ} {r : Res op}
    (hcall : pool.calls[n]? = some ⟨i, some (.perform op next)⟩)
    (hperform : S.perform i op c pool.shared = some (t, r)) :
    S.notesAfter note fresh pool notes (.advance n c) = notes.modify n fun m => note m op r := by
  simp only [notesAfter, hcall, hperform]

/-- A step with notes. -/
def stepNoting (x : Pool σ ι α Op Res × List M) (input : PoolInput ε ι χ) :
    Option ((Pool σ ι α Op Res × List M) × List (SystemEvent ε ι χ α Op)) :=
  (S.step x.1 input).map fun (pool, out) => ((pool, S.notesAfter note fresh x.1 x.2 input), out)

variable {S note fresh}

theorem stepNoting_step {x y : Pool σ ι α Op Res × List M} {input : PoolInput ε ι χ}
    {out : List (SystemEvent ε ι χ α Op)} (h : S.stepNoting note fresh x input = some (y, out)) :
    S.step x.1 input = some (y.1, out) ∧ y.2 = S.notesAfter note fresh x.1 x.2 input := by
  rcases Option.map_eq_some_iff.mp h with ⟨⟨pool, out'⟩, hstep, heq⟩
  rw [Prod.mk.injEq] at heq
  rw [← heq.1, ← heq.2]
  exact ⟨hstep, rfl⟩

/-- Every run of a system can be taken with notes. -/
theorem Runs.noting (note : M → (op : Op) → Res op → M) (fresh : M)
    {pool pool' : Pool σ ι α Op Res}
    {trace : List (Entry (PoolInput ε ι χ) (SystemEvent ε ι χ α Op))}
    (hrun : S.Runs pool trace pool') (notes : List M) :
    ∃ notes', Run (fun x input out y => S.stepNoting note fresh x input = some (y, out))
      (pool, notes) trace (pool', notes') := by
  induction hrun with
  | nil => exact ⟨notes, .nil⟩
  | @snoc t u trace input out run last ih =>
      rcases ih with ⟨mid, hmid⟩
      refine ⟨S.notesAfter note fresh t mid input, hmid.snoc ?_⟩
      rw [stepNoting, last, Option.map_some]

theorem Runs.of_noting {x y : Pool σ ι α Op Res × List M}
    {trace : List (Entry (PoolInput ε ι χ) (SystemEvent ε ι χ α Op))}
    (hrun : Run (fun x input out y => S.stepNoting note fresh x input = some (y, out)) x trace y) :
    S.Runs x.1 trace y.1 := by
  induction hrun with
  | nil => exact .nil
  | snoc _ last ih => exact ih.snoc (stepNoting_step last).1

/-- The call with a number has a note, and every operation that it may come to is good by it. -/
structure Noted (note : M → (op : Op) → Res op → M) (P : ι → M → Op → Prop)
    (x : Pool σ ι α Op Res × List M) : Prop where
  length : x.2.length = x.1.calls.length
  calls : ∀ (n : Nat) (call : SystemCall ι α Op Res) (m : M) (p : Program Op Res α),
    x.1.calls[n]? = some call → x.2[n]? = some m → call.rest = some p →
      p.EveryNoting note (P call.input) m

/-- One step leaves every call good by its note. -/
theorem everyNoting_step {P : ι → M → Op → Prop}
    (hstart : ∀ i s t p, S.start i s = some (t, p) → p.EveryNoting note (P i) fresh)
    (hagain : ∀ i a m p, S.again i a = some p → p.EveryNoting note (P i) m)
    {x y : Pool σ ι α Op Res × List M} {input : PoolInput ε ι χ}
    {out : List (SystemEvent ε ι χ α Op)} (hstep : S.stepNoting note fresh x input = some (y, out))
    (hx : Noted note P x) : Noted note P y := by
  rcases stepNoting_step hstep with ⟨hpool, hnotes⟩
  cases input with
  | outside e =>
      rcases step_outside hpool with ⟨t, _, hy, _⟩
      refine ⟨?_, ?_⟩
      · rw [hnotes, hy]
        exact hx.length
      · rw [hnotes, hy]
        exact hx.calls
  | start i =>
      rcases step_start hpool with ⟨t, p, hp, hy, _⟩
      have hnotesEq : S.notesAfter note fresh x.1 x.2 (.start i) = x.2 ++ [fresh] := rfl
      refine ⟨?_, ?_⟩
      · rw [hnotes, hnotesEq, hy, List.length_append, List.length_append, hx.length]
        rfl
      · rw [hnotes, hnotesEq, hy]
        intro n call m q hcall hm hq
        by_cases hn : n < x.1.calls.length
        · rw [List.getElem?_append_left hn] at hcall
          rw [List.getElem?_append_left (hx.length ▸ hn)] at hm
          exact hx.calls n call m q hcall hm hq
        · -- The call that has just started.
          rw [List.getElem?_append_right (Nat.le_of_not_lt hn)] at hcall
          rw [List.getElem?_append_right (hx.length ▸ Nat.le_of_not_lt hn)] at hm
          have hlast := List.mem_of_getElem? hcall
          have hfresh := List.mem_of_getElem? hm
          rw [List.mem_singleton.mp hlast] at hq ⊢
          rw [List.mem_singleton.mp hfresh, ← Option.some.inj hq]
          exact hstart i x.1.shared t p hp
  | advance k c =>
      rcases step_advance hpool with ⟨i, op, next, t, r, hcall, hperform, hy, _⟩
      have hnotesEq : S.notesAfter note fresh x.1 x.2 (.advance k c) =
          x.2.modify k fun m => note m op r := notesAfter_advance hcall hperform
      refine ⟨?_, ?_⟩
      · rw [hnotes, hnotesEq, hy, List.length_modify, List.length_set]
        exact hx.length
      · rw [hnotes, hnotesEq, hy]
        intro n call m p hcall' hm hp
        by_cases hnk : k = n
        · -- The call that went on has noted the answer.
          rw [← hnk, List.getElem?_set_self (List.getElem?_eq_some_iff.mp hcall).1,
            Option.some.injEq] at hcall'
          rw [← hnk, List.getElem?_modify_eq] at hm
          rcases Option.map_eq_some_iff.mp hm with ⟨old, hold, hm⟩
          rw [← hcall'] at hp ⊢
          rw [← hm, ← Option.some.inj hp]
          exact (hx.calls k _ old _ hcall hold rfl).2 r
        · rw [List.getElem?_set_ne hnk] at hcall'
          rw [List.getElem?_modify_ne _ _ hnk] at hm
          exact hx.calls n call m p hcall' hm hp
  | finish k =>
      rcases step_finish hpool with ⟨i, a, hcall, hy, _⟩
      refine ⟨?_, ?_⟩
      · rw [hnotes, hy, List.length_set]
        exact hx.length
      · rw [hnotes, hy]
        intro n call m p hcall' hm hp
        by_cases hnk : k = n
        · rw [← hnk, List.getElem?_set_self (List.getElem?_eq_some_iff.mp hcall).1,
            Option.some.injEq] at hcall'
          rw [← hcall'] at hp ⊢
          exact hagain i a m p hp
        · rw [List.getElem?_set_ne hnk] at hcall'
          exact hx.calls n call m p hcall' hm hp

/-- The operation that a call comes to next is good by its note. -/
theorem Noted.perform {P : ι → M → Op → Prop} {x : Pool σ ι α Op Res × List M} {n : Nat} {i : ι}
    {op : Op} {next : Res op → Program Op Res α} (hx : Noted note P x)
    (hcall : x.1.calls[n]? = some ⟨i, some (.perform op next)⟩) :
    ∃ m, x.2[n]? = some m ∧ P i m op := by
  have hn : n < x.2.length := hx.length ▸ (List.getElem?_eq_some_iff.mp hcall).1
  have hm : x.2[n]? = some x.2[n] := List.getElem?_eq_getElem hn
  exact ⟨x.2[n], hm, (hx.calls n _ _ _ hcall hm rfl).1⟩

/-- In every state of a run the calls are good by their notes. -/
theorem everyNoting_run {P : ι → M → Op → Prop}
    (hstart : ∀ i s t p, S.start i s = some (t, p) → p.EveryNoting note (P i) fresh)
    (hagain : ∀ i a m p, S.again i a = some p → p.EveryNoting note (P i) m)
    {x y : Pool σ ι α Op Res × List M}
    {trace : List (Entry (PoolInput ε ι χ) (SystemEvent ε ι χ α Op))}
    (hrun : Run (fun x input out y => S.stepNoting note fresh x input = some (y, out)) x trace y)
    (hx : Noted note P x) : Noted note P y :=
  hrun.invariant hx fun _ _ _ _ ha hstep => everyNoting_step hstart hagain hstep ha

end System

end Mistle
