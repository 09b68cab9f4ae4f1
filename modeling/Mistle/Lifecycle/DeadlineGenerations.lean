import Mathlib.Data.List.Induction
import Mistle.Lib.Split
import Mistle.Lifecycle.Deadlines

/-!
# Generations of Deadlines

What the statements of puts, deletions and executions of the workflow do to the deadline
of one sandbox instance and kind. The generation goes up with every put that changes the
deadline, so a run of the workflow that finds the generation it was asked for under has
found its put.

A deletion does not wait for the puts. One that comes between the read and the write of a
put is overwritten, so what is said of generations here is said of clearings that come at
another time.

## Main definitions

* `DeadlineStanding`, `standing`: The latest put, and whether it was cleared since.
* `ReadsBack`: A due time that the database gives back as the same instant.
* `FollowsRecord`: How the generation of a put stands to those of the puts before it.
* `Justified`: What is before an entry of the record.
* `DeadlineInv`, `DeadlineKeeps`: The invariant, and what the steps do.

## Theorems

* `key_generation`: The idempotency key tells the generation.
* `follows_next`: The generation that a put computes follows those before it.
* `DeadlineInv.put_unique`, `DeadlineInv.enqueued`: A generation tells the put, and the run
  that is answered with is one for it.
* `DeadlineOp.perform_keeps`: What a statement does.
-/

namespace Mistle

open Program (Fallible)

/-! ### The record -/

/-- A put as it was committed, and whether it has been cleared since. -/
structure DeadlineStanding where
  ownerLeaseId : String
  dueAt : String
  generation : Nat
  cleared : Bool
  deriving DecidableEq

def standingAfter : Option DeadlineStanding → DeadlineRecord → Option DeadlineStanding
  | _, .put ownerLeaseId dueAt generation => some ⟨ownerLeaseId, dueAt, generation, false⟩
  | st, .cleared _ => st.map fun put => { put with cleared := true }
  | st, _ => st

/-- The latest put of a record. -/
def standing (record : List DeadlineRecord) : Option DeadlineStanding :=
  record.foldl standingAfter none

@[simp] theorem standing_nil : standing [] = none := rfl

@[simp] theorem standing_snoc (record : List DeadlineRecord) (entry : DeadlineRecord) :
    standing (record ++ [entry]) = standingAfter (standing record) entry := by
  simp only [standing, List.foldl_append, List.foldl_cons, List.foldl_nil]

/-- The put that an execution of the workflow is for, as it stands where nothing has
    happened to it. -/
def HandleSandboxInstanceDeadlineWorkflowInput.standing
    (input : HandleSandboxInstanceDeadlineWorkflowInput) : DeadlineStanding :=
  ⟨input.ownerLeaseId, input.dueAt, input.generation, false⟩

def DeadlineRecord.isLook : DeadlineRecord → Bool
  | .looked _ _ => true
  | _ => false

/-- How a put stands to the puts before it: no generation goes down, two puts of one
    generation are the same, and where the deadline was cleared in between, while no put
    was under way, the generation is another. -/
structure FollowsRecord (before : List DeadlineRecord) (ownerLeaseId dueAt : String)
    (generation : Nat) : Prop where
  le : ∀ l d g, .put l d g ∈ before → g ≤ generation
  same : ∀ l d g, .put l d g ∈ before → g = generation → l = ownerLeaseId ∧ d = dueAt
  cleared : ∀ a l d g b, before = a ++ .put l d g :: b → .cleared false ∈ b → g < generation

/-- What is before an entry. An execution acts where it has read its own put, the latest
    and not cleared. -/
def Justified (before : List DeadlineRecord) : DeadlineRecord → Prop
  | .put ownerLeaseId dueAt generation => FollowsRecord before ownerLeaseId dueAt generation
  | .cleared _ => True
  | .looked look _ => look = before.countP DeadlineRecord.isLook
  | .acted look => ∃ a input b, before = a ++ .looked look input :: b ∧
      standing a = some input.standing

/-- The latest put is one of the puts. -/
theorem mem_of_standing {record : List DeadlineRecord} :
    ∀ {st : DeadlineStanding}, standing record = some st →
      .put st.ownerLeaseId st.dueAt st.generation ∈ record := by
  induction record using List.reverseRecOn with
  | nil => exact fun h => absurd h (by simp only [standing_nil, reduceCtorEq, not_false_eq_true])
  | append_singleton record entry ih =>
      intro st h
      rw [standing_snoc] at h
      cases entry with
      | put l d g =>
          have heq := Option.some.inj h
          rw [← heq]
          exact List.mem_append_right _ (List.mem_singleton.mpr rfl)
      | cleared during =>
          rcases Option.map_eq_some_iff.mp h with ⟨old, hold, heq⟩
          have hmem := ih hold
          rw [← heq]
          exact List.mem_append_left _ hmem
      | looked look input => exact List.mem_append_left _ (ih h)
      | acted look => exact List.mem_append_left _ (ih h)

/-! ### The rows -/

/-- The database gives the due time back as the same instant, if it takes it. -/
def ReadsBack (dates : DateTexts) (dueAt : String) : Prop :=
  ∀ text, dates.stored dueAt = some text → dates.toISOString text = some dueAt

/-- The row is the latest put. -/
def Stored (dates : DateTexts) :
    Option PersistedSandboxInstanceDeadline → Option DeadlineStanding → Prop
  | none, none => True
  | some row, some st => row.ownerLeaseId = st.ownerLeaseId ∧ row.generation = st.generation ∧
      dates.stored st.dueAt = some row.dueAt ∧ row.clearedAt.isSome = st.cleared
  | _, _ => False

theorem Stored.of_row {dates : DateTexts} {row : PersistedSandboxInstanceDeadline}
    {st : Option DeadlineStanding} (h : Stored dates (some row) st) :
    ∃ put, st = some put ∧ row.ownerLeaseId = put.ownerLeaseId ∧
      row.generation = put.generation ∧ dates.stored put.dueAt = some row.dueAt ∧
      row.clearedAt.isSome = put.cleared := by
  cases st with
  | none => exact absurd h id
  | some put => exact ⟨put, rfl, h⟩

theorem Stored.of_standing {dates : DateTexts} {row : Option PersistedSandboxInstanceDeadline}
    {put : DeadlineStanding} (h : Stored dates row (some put)) :
    ∃ stored, row = some stored ∧ stored.ownerLeaseId = put.ownerLeaseId ∧
      stored.generation = put.generation ∧ dates.stored put.dueAt = some stored.dueAt ∧
      stored.clearedAt.isSome = put.cleared := by
  cases row with
  | none => exact absurd h id
  | some stored => exact ⟨stored, rfl, h⟩

theorem Stored.of_none {dates : DateTexts} {st : Option DeadlineStanding}
    (h : Stored dates none st) : st = none := by
  cases st with
  | none => rfl
  | some put => exact absurd h id

/-- The row is what was read, or that and cleared since. -/
def ClearedSince (read : Option PersistedSandboxInstanceDeadline) :
    Option PersistedSandboxInstanceDeadline → Prop
  | none => read = none
  | some row => ∃ old, read = some old ∧ row = { old with clearedAt := row.clearedAt } ∧
      (old.clearedAt.isSome = true → row.clearedAt.isSome = true)

theorem ClearedSince.refl (read : Option PersistedSandboxInstanceDeadline) :
    ClearedSince read read := by
  cases read with
  | none => rfl
  | some row => exact ⟨row, rfl, rfl, id⟩

def DeadlineState.generation (s : DeadlineState) : Nat :=
  match s.deadline with
  | none => 0
  | some deadline => deadline.generation

/-! ### The idempotency key -/

/-- The key ends with the generation, behind its last colon. -/
theorem key_toList (input : HandleSandboxInstanceDeadlineWorkflowInput) :
    ∃ before, (createDeadlineWorkflowIdempotencyKey input).toList =
      before ++ ':' :: Nat.toDigits 10 input.generation := by
  refine ⟨(s!"deadline:{input.sandboxInstanceId}:{input.kind.text}:{input.ownerLeaseId}:" ++
    input.dueAt).toList, ?_⟩
  have htext : createDeadlineWorkflowIdempotencyKey input =
      s!"deadline:{input.sandboxInstanceId}:{input.kind.text}:{input.ownerLeaseId}:" ++
        input.dueAt ++ ":" ++ input.generation.repr := by
    simp only [createDeadlineWorkflowIdempotencyKey, String.append_assoc, Nat.toString_eq_repr]
    rfl
  rw [htext, String.toList_append, String.toList_append, List.append_assoc, Nat.toList_repr]
  rfl

theorem colon_not_mem_digits (n : Nat) : ':' ∉ Nat.toDigits 10 n := by
  intro h
  have hdigit := Nat.isDigit_of_mem_toDigits (by omega) (by omega) h
  exact absurd hdigit (by decide)

/-- The key tells the generation, whatever texts come before it. -/
theorem key_generation {a b : HandleSandboxInstanceDeadlineWorkflowInput}
    (h : createDeadlineWorkflowIdempotencyKey a = createDeadlineWorkflowIdempotencyKey b) :
    a.generation = b.generation := by
  rcases key_toList a with ⟨before, ha⟩
  rcases key_toList b with ⟨before', hb⟩
  have hsplit := rsplitOnce_append (colon_not_mem_digits a.generation) before
  rw [← ha, h, hb, rsplitOnce_append (colon_not_mem_digits b.generation)] at hsplit
  have hdigits := (Prod.mk.inj (Option.some.inj hsplit)).2
  have hvalue := congrArg (fun digits => Nat.ofDigitChars 10 digits 0) hdigits
  simp only [Nat.ofDigitChars_ten_toDigits] at hvalue
  exact hvalue.symm

/-! ### The invariant -/

structure DeadlineInv (dates : DateTexts) (s : DeadlineState) : Prop where
  stored : Stored dates s.deadline (standing s.record)
  readsBack : ∀ l d g, .put l d g ∈ s.record → ReadsBack dates d
  justified : EachAfter Justified s.record
  latest : ∀ l d g, .put l d g ∈ s.record → ∃ st, standing s.record = some st ∧
    g ≤ st.generation ∧ (g = st.generation → l = st.ownerLeaseId ∧ d = st.dueAt)
  cleared : ∀ a l d g b, s.record = a ++ .put l d g :: b → .cleared false ∈ b →
    ∃ st, standing s.record = some st ∧ (g < st.generation ∨ (g = st.generation ∧
      st.cleared = true ∧ ∀ lock ∈ s.lock, ∀ read ∈ lock.reads, read = s.deadline))
  lock : ∀ lock ∈ s.lock, lock.transaction < s.transactions ∧
    ∀ read ∈ lock.reads, ClearedSince read s.deadline
  looks : s.looks = s.record.countP DeadlineRecord.isLook
  runs : ∀ run ∈ s.workflowRuns,
    run.idempotencyKey = createDeadlineWorkflowIdempotencyKey run.input ∧
      .put run.input.ownerLeaseId run.input.dueAt run.input.generation ∈ s.record

/-- What any number of steps do. A transaction that has the lock goes on having read what
    it has read. -/
structure DeadlineKeeps (dates : DateTexts) (s t : DeadlineState) : Prop where
  inv : DeadlineInv dates t
  record : s.record <+: t.record
  generation : s.generation ≤ t.generation
  purpose : t.purpose = s.purpose
  runs : ∀ run ∈ s.workflowRuns, run ∈ t.workflowRuns
  transactions : s.transactions ≤ t.transactions
  lock : ∀ lock ∈ t.lock, lock.transaction < s.transactions → ∃ before ∈ s.lock,
    before.transaction = lock.transaction ∧ ∀ read ∈ before.reads, read ∈ lock.reads

theorem DeadlineKeeps.refl {dates : DateTexts} {s : DeadlineState} (h : DeadlineInv dates s) :
    DeadlineKeeps dates s s where
  inv := h
  record := List.prefix_refl _
  generation := Nat.le_refl _
  purpose := rfl
  runs := fun _ hrun => hrun
  transactions := Nat.le_refl _
  lock := fun lock hlock _ => ⟨lock, hlock, rfl, fun _ hread => hread⟩

theorem DeadlineKeeps.trans {dates : DateTexts} {s t u : DeadlineState}
    (hst : DeadlineKeeps dates s t) (htu : DeadlineKeeps dates t u) : DeadlineKeeps dates s u where
  inv := htu.inv
  record := hst.record.trans htu.record
  generation := Nat.le_trans hst.generation htu.generation
  purpose := htu.purpose.trans hst.purpose
  runs := fun run hrun => htu.runs run (hst.runs run hrun)
  transactions := Nat.le_trans hst.transactions htu.transactions
  lock := by
    intro lock hlock hlt
    rcases htu.lock lock hlock (Nat.lt_of_lt_of_le hlt hst.transactions) with
      ⟨mid, hmid, hmidtx, hmidread⟩
    rcases hst.lock mid hmid (hmidtx ▸ hlt) with ⟨old, hold, holdtx, holdread⟩
    exact ⟨old, hold, holdtx.trans hmidtx, fun read hread => hmidread read (holdread read hread)⟩

/-! ### Statements -/

section

variable {dates : DateTexts} {s : DeadlineState}

/-- A lock that is given back. -/
theorem DeadlineInv.release (h : DeadlineInv dates s) :
    DeadlineKeeps dates s { s with lock := none } where
  inv := { h with
    cleared := fun a l d g b hrecord hmem => by
      rcases h.cleared a l d g b hrecord hmem with ⟨st, hst, hlt | ⟨heq, hcleared, _⟩⟩
      · exact ⟨st, hst, .inl hlt⟩
      · exact ⟨st, hst, .inr ⟨heq, hcleared, fun _ hlock => absurd hlock (Option.not_mem_none _)⟩⟩
    lock := fun _ hlock => absurd hlock (Option.not_mem_none _) }
  record := List.prefix_refl _
  generation := Nat.le_refl _
  purpose := rfl
  runs := fun _ hrun => hrun
  transactions := Nat.le_refl _
  lock := fun _ hlock => absurd hlock (Option.not_mem_none _)

/-- An entry that is no put and no clearing. -/
theorem standing_snoc_other {record : List DeadlineRecord} {entry : DeadlineRecord}
    (hput : ∀ l d g, entry ≠ .put l d g) (hcleared : ∀ during, entry ≠ .cleared during) :
    standing (record ++ [entry]) = standing record := by
  rw [standing_snoc]
  cases entry with
  | put l d g => exact absurd rfl (hput l d g)
  | cleared during => exact absurd rfl (hcleared during)
  | looked look input => rfl
  | acted look => rfl

theorem DeadlineInv.generation_eq (h : DeadlineInv dates s) {st : DeadlineStanding}
    (hst : standing s.record = some st) : s.generation = st.generation := by
  have hstored := h.stored
  rw [hst] at hstored
  rcases hstored.of_standing with ⟨row, hrow, _, hgeneration, _⟩
  rw [DeadlineState.generation, hrow]
  exact hgeneration

/-- An entry that is no put and no clearing. -/
theorem DeadlineInv.entry (h : DeadlineInv dates s) {entry : DeadlineRecord} {looks : Nat}
    (hput : ∀ l d g, entry ≠ .put l d g) (hcleared : ∀ during, entry ≠ .cleared during)
    (hjustified : Justified s.record entry)
    (hlooks : looks = (s.record ++ [entry]).countP DeadlineRecord.isLook) :
    DeadlineKeeps dates s { s with looks := looks, record := s.record ++ [entry] } where
  inv := {
    stored := by
      show Stored dates s.deadline (standing (s.record ++ [entry]))
      rw [standing_snoc_other hput hcleared]
      exact h.stored
    readsBack := by
      intro l d g hmem
      rcases List.mem_append.mp hmem with hmem | hmem
      · exact h.readsBack l d g hmem
      · exact absurd (List.mem_singleton.mp hmem).symm (hput l d g)
    justified := h.justified.snoc hjustified
    latest := by
      intro l d g hmem
      show ∃ st, standing (s.record ++ [entry]) = some st ∧ _
      rw [standing_snoc_other hput hcleared]
      rcases List.mem_append.mp hmem with hmem | hmem
      · exact h.latest l d g hmem
      · exact absurd (List.mem_singleton.mp hmem).symm (hput l d g)
    cleared := by
      intro a l d g b hrecord hmem
      show ∃ st, standing (s.record ++ [entry]) = some st ∧ _
      rw [standing_snoc_other hput hcleared]
      rcases snoc_eq_split hrecord with ⟨_, _, hentry⟩ | ⟨init, hb, hrecord⟩
      · exact absurd hentry (hput l d g)
      · rw [hb] at hmem
        rcases List.mem_append.mp hmem with hmem | hmem
        · exact h.cleared a l d g init hrecord hmem
        · exact absurd (List.mem_singleton.mp hmem).symm (hcleared false)
    lock := h.lock
    looks := hlooks
    runs := fun run hrun => ⟨(h.runs run hrun).1, List.mem_append_left _ (h.runs run hrun).2⟩ }
  record := List.prefix_append _ _
  generation := Nat.le_refl _
  purpose := rfl
  runs := fun _ hrun => hrun
  transactions := Nat.le_refl _
  lock := fun lock hlock _ => ⟨lock, hlock, rfl, fun _ hread => hread⟩

/-- A clearing: the put that stands is cleared, and whoever has read it since its write has
    read it as it was. -/
theorem DeadlineInv.clear (h : DeadlineInv dates s) (now : String)
    (meant : PersistedSandboxInstanceDeadline → Bool) :
    DeadlineKeeps dates s (s.clear now meant) := by
  unfold DeadlineState.clear
  cases hdeadline : s.deadline with
  | none => exact .refl h
  | some row =>
      simp only []
      split
      · rename_i hmeant
        have hstored := h.stored
        rw [hdeadline] at hstored
        rcases hstored.of_row with ⟨st, hst, howner, hgeneration, htext, hclearedAt⟩
        rw [hmeant.2] at hclearedAt
        have hstanding : ∀ during, standing (s.record ++ [.cleared during]) =
            some { st with cleared := true } := by
          intro during
          rw [standing_snoc, hst]
          rfl
        refine {
          inv := {
            stored := by
              rw [hstanding]
              exact ⟨howner, hgeneration, htext, rfl⟩
            readsBack := ?_
            justified := h.justified.snoc trivial
            latest := ?_
            cleared := ?_
            lock := ?_
            looks := ?_
            runs := ?_ }
          record := List.prefix_append _ _
          generation := ?_
          purpose := rfl
          runs := fun _ hrun => hrun
          transactions := Nat.le_refl _
          lock := fun lock hlock _ => ⟨lock, hlock, rfl, fun _ hread => hread⟩ }
        · intro l d g hmem
          rcases List.mem_append.mp hmem with hmem | hmem
          · exact h.readsBack l d g hmem
          · exact absurd (List.mem_singleton.mp hmem)
              (by simp only [reduceCtorEq, not_false_eq_true])
        · intro l d g hmem
          refine ⟨_, hstanding _, ?_⟩
          rcases List.mem_append.mp hmem with hmem | hmem
          · rcases h.latest l d g hmem with ⟨st', hst', hle⟩
            rw [hst, Option.some.injEq] at hst'
            rw [hst']
            exact hle
          · exact absurd (List.mem_singleton.mp hmem)
              (by simp only [reduceCtorEq, not_false_eq_true])
        · intro a l d g b hrecord hmem
          refine ⟨_, hstanding _, ?_⟩
          rcases snoc_eq_split hrecord with ⟨_, _, hentry⟩ | ⟨init, hb, hrecord⟩
          · exact absurd hentry (by simp only [reduceCtorEq, not_false_eq_true])
          rcases h.latest l d g (hrecord ▸ List.mem_append_right _ (List.mem_cons_self ..)) with
            ⟨st', hst', hle, _⟩
          rw [hst, Option.some.injEq] at hst'
          rw [← hst'] at hle
          rw [hb] at hmem
          rcases List.mem_append.mp hmem with hmem | hmem
          · -- What was cleared before has been put again since, or it would not be cleared now.
            rcases h.cleared a l d g init hrecord hmem with ⟨st'', hst'', hlt | ⟨_, htrue, _⟩⟩
            · rw [hst, Option.some.injEq] at hst''
              exact .inl (hst'' ▸ hlt)
            · rw [hst, Option.some.injEq] at hst''
              rw [← hst'', ← hclearedAt] at htrue
              exact absurd htrue (by decide)
          · rcases Nat.lt_or_eq_of_le hle with hlt | heq
            · exact .inl hlt
            · refine .inr ⟨heq, rfl, fun lock hlock read hread => ?_⟩
              have hduring := List.mem_singleton.mp hmem
              injection hduring with hduring
              have hreads : lock.reads ≠ [] := List.ne_nil_of_mem hread
              exact absurd ⟨lock, hlock, hreads⟩ (of_decide_eq_false hduring.symm)
        · intro lock hlock
          refine ⟨(h.lock lock hlock).1, fun read hread => ?_⟩
          have hsince := (h.lock lock hlock).2 read hread
          rw [hdeadline] at hsince
          rcases hsince with ⟨old, hold, hrow, _⟩
          refine ⟨old, hold, ?_, fun _ => rfl⟩
          rw [hrow]
        · rw [List.countP_append, h.looks]
          rfl
        · exact fun run hrun =>
            ⟨(h.runs run hrun).1, List.mem_append_left _ (h.runs run hrun).2⟩
        · rw [DeadlineState.generation, hdeadline]
          exact Nat.le_refl _
      · exact .refl h

/-- How a generation is computed: it is the next, or the one of the same put. -/
theorem computeNextGeneration_cases {read : Option PersistedSandboxInstanceDeadline}
    {ownerLeaseId dueAt : String} {generation : Nat}
    (h : computeNextGeneration dates read ownerLeaseId dueAt = .ok generation) :
    (read = none ∧ generation = 1) ∨ ∃ old, read = some old ∧
      (generation = old.generation + 1 ∨
        (generation = old.generation ∧ old.clearedAt = none ∧ old.ownerLeaseId = ownerLeaseId ∧
          dates.toISOString old.dueAt = some dueAt)) := by
  cases read with
  | none => exact .inl ⟨rfl, (Except.ok.inj h).symm⟩
  | some old =>
      refine .inr ⟨old, rfl, ?_⟩
      simp only [computeNextGeneration] at h
      split at h
      · exact .inl (Except.ok.inj h).symm
      · rename_i hsame
        rw [not_or, not_not, not_not] at hsame
        unfold canonicalizePersistedDueAt at h
        cases hcanonical : dates.toISOString old.dueAt with
        | none =>
            rw [hcanonical] at h
            exact absurd h (by simp only [reduceCtorEq, not_false_eq_true])
        | some canonical =>
            rw [hcanonical] at h
            simp only [] at h
            by_cases hdue : canonical = dueAt
            · rw [if_neg (not_not.mpr hdue)] at h
              exact .inr ⟨(Except.ok.inj h).symm, hsame.1, hsame.2, hdue ▸ rfl⟩
            · rw [if_pos hdue] at h
              exact .inl (Except.ok.inj h).symm

/-- The generation that is computed from what a put has read under the lock follows those
    before it, though the deadline may have been cleared since. -/
theorem follows_next (h : DeadlineInv dates s) {lock : DeadlineWriteLock} (hlock : lock ∈ s.lock)
    {read : Option PersistedSandboxInstanceDeadline} (hread : read ∈ lock.reads)
    {ownerLeaseId dueAt : String} {generation : Nat}
    (hnext : computeNextGeneration dates read ownerLeaseId dueAt = .ok generation) :
    FollowsRecord s.record ownerLeaseId dueAt generation := by
  have hsince := (h.lock lock hlock).2 read hread
  have hstored := h.stored
  cases hdeadline : s.deadline with
  | none =>
      -- Nothing was put yet.
      rw [hdeadline] at hstored
      have hnone : ∀ l d g, .put l d g ∉ s.record := by
        intro l d g hmem
        rcases h.latest l d g hmem with ⟨st, hst, _⟩
        rw [hstored.of_none] at hst
        exact absurd hst (by simp only [reduceCtorEq, not_false_eq_true])
      exact {
        le := fun l d g hmem => absurd hmem (hnone l d g)
        same := fun l d g hmem => absurd hmem (hnone l d g)
        cleared := fun a l d g b hrecord _ => absurd
          (hrecord ▸ List.mem_append_right _ (List.mem_cons_self ..)) (hnone l d g) }
  | some row =>
      rw [hdeadline] at hsince hstored
      rcases hsince with ⟨old, hold, hrow, hkept⟩
      rcases hstored.of_row with ⟨st, hst, howner, hgeneration, htext, hclearedAt⟩
      have holdOwner : old.ownerLeaseId = st.ownerLeaseId := by rw [← howner, hrow]
      have holdGeneration : old.generation = st.generation := by rw [← hgeneration, hrow]
      have holdText : dates.stored st.dueAt = some old.dueAt := by rw [htext, hrow]
      have hlatest : ∀ l d g, .put l d g ∈ s.record →
          g ≤ st.generation ∧ (g = st.generation → l = st.ownerLeaseId ∧ d = st.dueAt) := by
        intro l d g hmem
        rcases h.latest l d g hmem with ⟨st', hst', hle⟩
        rw [hst, Option.some.injEq] at hst'
        rw [hst']
        exact hle
      rcases computeNextGeneration_cases hnext with
        ⟨hnone, _⟩ | ⟨old', hold', hgen | ⟨hgen, huncleared, hsame, hcanonical⟩⟩
      · rw [hold] at hnone
        exact absurd hnone (by simp only [reduceCtorEq, not_false_eq_true])
      · -- The next generation is above all that were.
        rw [hold, Option.some.injEq] at hold'
        rw [← hold', holdGeneration] at hgen
        have hlt : ∀ l d g, .put l d g ∈ s.record → g < generation := by
          intro l d g hmem
          have hle := (hlatest l d g hmem).1
          omega
        exact {
          le := fun l d g hmem => Nat.le_of_lt (hlt l d g hmem)
          same := fun l d g hmem heq => absurd heq (Nat.ne_of_lt (hlt l d g hmem))
          cleared := fun a l d g b hrecord _ => hlt l d g
            (hrecord ▸ List.mem_append_right _ (List.mem_cons_self ..)) }
      · -- The put of the generation that stands, over again.
        rw [hold, Option.some.injEq] at hold'
        rw [← hold'] at hgen huncleared hsame hcanonical
        rw [holdGeneration] at hgen
        have hdue : dates.toISOString old.dueAt = some st.dueAt :=
          h.readsBack _ _ _ (mem_of_standing hst) _ holdText
        rw [hcanonical, Option.some.injEq] at hdue
        refine ⟨?_, ?_, ?_⟩
        · intro l d g hmem
          rw [hgen]
          exact (hlatest l d g hmem).1
        · intro l d g hmem heq
          rw [← hsame, hdue, holdOwner]
          exact (hlatest l d g hmem).2 (hgen ▸ heq)
        · intro a l d g b hrecord hmem
          rw [hgen]
          rcases h.cleared a l d g b hrecord hmem with ⟨st', hst', hlt | ⟨_, htrue, hreads⟩⟩
          · rw [hst, Option.some.injEq] at hst'
            exact hst' ▸ hlt
          · -- It was cleared, and not since the read, so the read has found it cleared.
            rw [hst, Option.some.injEq] at hst'
            have hfound := hreads lock hlock read hread
            rw [hdeadline, hold, Option.some.injEq] at hfound
            rw [← hst', ← hclearedAt, ← hfound, huncleared] at htrue
            exact absurd htrue (by decide)

/-- A put is written, with a generation computed from what it has read. -/
theorem DeadlineInv.persist (h : DeadlineInv dates s) {ownerLeaseId dueAt text : String}
    {generation : Nat} (hfollows : FollowsRecord s.record ownerLeaseId dueAt generation)
    (hreadsBack : ReadsBack dates dueAt) (htext : dates.stored dueAt = some text) :
    DeadlineKeeps dates s { s with
      deadline := some ⟨ownerLeaseId, text, generation, none⟩
      lock := none
      record := s.record ++ [.put ownerLeaseId dueAt generation] } where
  inv := {
    stored := by
      show Stored dates _ (standing (s.record ++ [_]))
      rw [standing_snoc]
      exact ⟨rfl, rfl, htext, rfl⟩
    readsBack := by
      intro l d g hmem
      rcases List.mem_append.mp hmem with hmem | hmem
      · exact h.readsBack l d g hmem
      · have hput := List.mem_singleton.mp hmem
        injection hput with _ hd _
        rw [hd]
        exact hreadsBack
    justified := h.justified.snoc hfollows
    latest := by
      intro l d g hmem
      refine ⟨⟨ownerLeaseId, dueAt, generation, false⟩, standing_snoc _ _, ?_⟩
      rcases List.mem_append.mp hmem with hmem | hmem
      · exact ⟨hfollows.le l d g hmem, hfollows.same l d g hmem⟩
      · have hput := List.mem_singleton.mp hmem
        injection hput with hl hd hg
        exact ⟨Nat.le_of_eq hg, fun _ => ⟨hl, hd⟩⟩
    cleared := by
      intro a l d g b hrecord hmem
      refine ⟨⟨ownerLeaseId, dueAt, generation, false⟩, standing_snoc _ _, .inl ?_⟩
      rcases snoc_eq_split hrecord with ⟨hb, _, _⟩ | ⟨init, hb, hrecord⟩
      · rw [hb] at hmem
        exact absurd hmem List.not_mem_nil
      · rw [hb] at hmem
        rcases List.mem_append.mp hmem with hmem | hmem
        · exact hfollows.cleared a l d g init hrecord hmem
        · exact absurd (List.mem_singleton.mp hmem)
            (by simp only [reduceCtorEq, not_false_eq_true])
    lock := fun _ hlock => absurd hlock (Option.not_mem_none _)
    looks := by
      show s.looks = (s.record ++ [_]).countP _
      rw [List.countP_append, h.looks]
      rfl
    runs := fun run hrun => ⟨(h.runs run hrun).1, List.mem_append_left _ (h.runs run hrun).2⟩ }
  record := List.prefix_append _ _
  generation := by
    cases hst : standing s.record with
    | none =>
        have hstored := h.stored
        rw [hst] at hstored
        rw [DeadlineState.generation]
        cases hdeadline : s.deadline with
        | none => exact Nat.zero_le _
        | some row =>
            rw [hdeadline] at hstored
            exact absurd hstored id
    | some st =>
        rw [h.generation_eq hst]
        exact hfollows.le _ _ _ (mem_of_standing hst)
  purpose := rfl
  runs := fun _ hrun => hrun
  transactions := Nat.le_refl _
  lock := fun _ hlock => absurd hlock (Option.not_mem_none _)

theorem DeadlineInv.acquire (h : DeadlineInv dates s) :
    DeadlineKeeps dates s
      { s with lock := some ⟨s.transactions, []⟩, transactions := s.transactions + 1 } where
  inv := { h with
    cleared := by
      intro a l d g b hrecord hmem
      rcases h.cleared a l d g b hrecord hmem with ⟨st, hst, hlt | ⟨heq, hcleared, _⟩⟩
      · exact ⟨st, hst, .inl hlt⟩
      · refine ⟨st, hst, .inr ⟨heq, hcleared, fun lock hlock read hread => ?_⟩⟩
        rw [← Option.some.inj hlock] at hread
        exact absurd hread List.not_mem_nil
    lock := by
      intro lock hlock
      rw [← Option.some.inj hlock]
      exact ⟨Nat.lt_succ_self _, fun read hread => absurd hread List.not_mem_nil⟩ }
  record := List.prefix_refl _
  generation := Nat.le_refl _
  purpose := rfl
  runs := fun _ hrun => hrun
  transactions := Nat.le_succ _
  lock := by
    intro lock hlock hlt
    rw [← Option.some.inj hlock] at hlt
    exact absurd hlt (Nat.lt_irrefl _)

theorem DeadlineInv.read (h : DeadlineInv dates s) :
    DeadlineKeeps dates s { s with
      lock := s.lock.map fun lock => { lock with reads := lock.reads ++ [s.deadline] } } where
  inv := { h with
    cleared := by
      intro a l d g b hrecord hmem
      rcases h.cleared a l d g b hrecord hmem with ⟨st, hst, hlt | ⟨heq, hcleared, hreads⟩⟩
      · exact ⟨st, hst, .inl hlt⟩
      · refine ⟨st, hst, .inr ⟨heq, hcleared, fun lock hlock read hread => ?_⟩⟩
        rcases Option.map_eq_some_iff.mp hlock with ⟨old, hold, hnew⟩
        rw [← hnew] at hread
        rcases List.mem_append.mp hread with hread | hread
        · exact hreads old hold read hread
        · exact List.mem_singleton.mp hread
    lock := by
      intro lock hlock
      rcases Option.map_eq_some_iff.mp hlock with ⟨old, hold, hnew⟩
      rw [← hnew]
      refine ⟨(h.lock old hold).1, fun read hread => ?_⟩
      rcases List.mem_append.mp hread with hread | hread
      · exact (h.lock old hold).2 read hread
      · rw [List.mem_singleton.mp hread]
        exact .refl _ }
  record := List.prefix_refl _
  generation := Nat.le_refl _
  purpose := rfl
  runs := fun _ hrun => hrun
  transactions := Nat.le_refl _
  lock := by
    intro lock hlock _
    rcases Option.map_eq_some_iff.mp hlock with ⟨old, hold, hnew⟩
    refine ⟨old, hold, by rw [← hnew], fun read hread => ?_⟩
    rw [← hnew]
    exact List.mem_append_left _ hread

/-- A run is asked for, for a put that was committed. -/
theorem DeadlineInv.enqueue (h : DeadlineInv dates s)
    {input : HandleSandboxInstanceDeadlineWorkflowInput} (freshId : String)
    (hput : .put input.ownerLeaseId input.dueAt input.generation ∈ s.record) :
    DeadlineKeeps dates s { s with
      workflowRuns := (runWorkflow HandleSandboxInstanceDeadlineWorkflowName input
        (createDeadlineWorkflowIdempotencyKey input) freshId s.workflowRuns).1 } where
  inv := { h with
    runs := by
      intro run hrun
      show run.idempotencyKey = _ ∧ _ ∈ s.record
      unfold runWorkflow at hrun
      split at hrun
      · exact h.runs run hrun
      · rcases List.mem_append.mp hrun with hrun | hrun
        · exact h.runs run hrun
        · rw [List.mem_singleton.mp hrun]
          exact ⟨rfl, hput⟩ }
  record := List.prefix_refl _
  generation := Nat.le_refl _
  purpose := rfl
  runs := fun _ hrun => mem_runWorkflow hrun
  transactions := Nat.le_refl _
  lock := fun lock hlock _ => ⟨lock, hlock, rfl, fun _ hread => hread⟩

/-- Two puts of one generation are the same. -/
theorem DeadlineInv.put_unique (h : DeadlineInv dates s) {l d l' d' : String} {g : Nat}
    (hput : .put l d g ∈ s.record) (hput' : .put l' d' g ∈ s.record) : l = l' ∧ d = d' := by
  rcases List.append_of_mem hput with ⟨a, b, hrecord⟩
  rw [hrecord] at hput'
  rcases List.mem_append.mp hput' with hbefore | hafter
  · have hsame := (h.justified a _ b hrecord).same l' d' g hbefore rfl
    exact ⟨hsame.1.symm, hsame.2.symm⟩
  · rcases List.mem_cons.mp hafter with heq | hafter
    · injection heq with hl hd
      exact ⟨hl.symm, hd.symm⟩
    · rcases List.append_of_mem hafter with ⟨c, e, hb⟩
      rw [hb, ← List.cons_append, ← List.append_assoc] at hrecord
      exact (h.justified _ _ e hrecord).same l d g
        (List.mem_append_right _ (List.mem_cons_self ..)) rfl

/-- The run that is answered with is one for the put it was asked for. -/
theorem DeadlineInv.enqueued (h : DeadlineInv dates s)
    {input : HandleSandboxInstanceDeadlineWorkflowInput} (freshId : String)
    (hput : .put input.ownerLeaseId input.dueAt input.generation ∈ s.record) :
    (runWorkflow HandleSandboxInstanceDeadlineWorkflowName input
      (createDeadlineWorkflowIdempotencyKey input) freshId s.workflowRuns).2.input.standing =
      input.standing := by
  unfold runWorkflow
  cases hfind : findWorkflowRun HandleSandboxInstanceDeadlineWorkflowName
      (createDeadlineWorkflowIdempotencyKey input) s.workflowRuns with
  | none => rfl
  | some run =>
      have hrun := h.runs run (findWorkflowRun_mem hfind)
      have hgeneration : run.input.generation = input.generation :=
        key_generation (hrun.1.symm.trans (findWorkflowRun_key hfind).2)
      have hsame := h.put_unique (hgeneration ▸ hrun.2) hput
      simp only [HandleSandboxInstanceDeadlineWorkflowInput.standing, hsame.1, hsame.2,
        hgeneration]

/-- What a call knows where it makes a statement. -/
def DeadlineOp.Justified (dates : DateTexts) (s : DeadlineState) : DeadlineOp → Prop
  | .persistDeadline transaction ownerLeaseId dueAt generation =>
    ReadsBack dates dueAt ∧ ∀ lock ∈ s.lock, lock.transaction = transaction →
      ∃ read ∈ lock.reads,
        computeNextGeneration dates read ownerLeaseId dueAt = .ok generation
  | .runWorkflow input => .put input.ownerLeaseId input.dueAt input.generation ∈ s.record
  | .executeAction look _ => Mistle.Justified s.record (.acted look)
  | _ => True

theorem DeadlineState.LockedBy.lock {transaction : Nat} (h : s.LockedBy transaction) :
    ∃ lock ∈ s.lock, lock.transaction = transaction := by
  rcases Option.map_eq_some_iff.mp h with ⟨lock, hlock, htransaction⟩
  exact ⟨lock, hlock, htransaction⟩

theorem DeadlineOp.apply_keeps (h : DeadlineInv dates s) (c : DeadlineChoice) (op : DeadlineOp)
    (henabled : op.Enabled s) (hjustified : op.Justified dates s) :
    DeadlineKeeps dates s (op.apply dates c s).1 := by
  cases op with
  | acquireWriteLock => exact h.acquire
  | readCurrentDeadline transaction => exact h.read
  | persistDeadline transaction ownerLeaseId dueAt generation =>
      rcases DeadlineState.LockedBy.lock henabled with ⟨lock, hlock, htransaction⟩
      rcases hjustified.2 lock hlock htransaction with ⟨read, hread, hnext⟩
      simp only [DeadlineOp.apply]
      split
      · exact h.release
      · rename_i text htext
        exact h.persist (follows_next h hlock hread hnext) hjustified.1 htext
  | rollback transaction => exact h.release
  | runWorkflow input => exact h.enqueue c.freshId hjustified
  | deleteDeadline ownerLeaseId => exact h.clear c.now _
  | findDeadline input =>
      refine h.entry ?_ ?_ h.looks ?_
      · simp only [ne_eq, reduceCtorEq, not_false_eq_true, implies_true]
      · simp only [ne_eq, reduceCtorEq, not_false_eq_true, implies_true]
      · rw [List.countP_append, h.looks]
        rfl
  | findSandboxInstance => exact .refl h
  | executeAction look action =>
      refine h.entry ?_ ?_ hjustified ?_
      · simp only [ne_eq, reduceCtorEq, not_false_eq_true, implies_true]
      · simp only [ne_eq, reduceCtorEq, not_false_eq_true, implies_true]
      · rw [List.countP_append, h.looks]
        rfl

theorem DeadlineOp.abandon_keeps (h : DeadlineInv dates s) (op : DeadlineOp) :
    DeadlineKeeps dates s (op.abandon s) := by
  cases op with
  | acquireWriteLock => exact h.release
  | readCurrentDeadline transaction => exact h.release
  | persistDeadline transaction ownerLeaseId dueAt generation => exact h.release
  | rollback transaction => exact h.release
  | _ => exact .refl h

/-- A statement that is made, whatever becomes of it. -/
theorem DeadlineOp.perform_keeps (h : DeadlineInv dates s) {op : DeadlineOp} {c : DeadlineChoice}
    (hjustified : op.Justified dates s) {t : DeadlineState}
    {r : Fallible String DeadlineOp.Row op} (hperform : op.perform dates c s = some (t, r)) :
    DeadlineKeeps dates s t ∧ ∀ row, r = .ok row →
      op.Enabled s ∧ op.apply dates c s = (t, .ok row) := by
  rw [DeadlineOp.perform] at hperform
  split at hperform
  · rename_i henabled
    have hkeeps := DeadlineOp.apply_keeps h c op henabled hjustified
    cases hanswer : c.answer with
    | arrives =>
        rw [hanswer, Option.some.injEq] at hperform
        refine ⟨by rw [hperform] at hkeeps; exact hkeeps, fun row hrow => ⟨henabled, ?_⟩⟩
        rw [hperform, hrow]
    | fails message =>
        rw [hanswer, Option.some.injEq, Prod.mk.injEq] at hperform
        rw [← hperform.1, ← hperform.2]
        refine ⟨DeadlineOp.abandon_keeps h op, fun row hrow => ?_⟩
        exact absurd hrow (by simp only [reduceCtorEq, not_false_eq_true])
    | lost message =>
        rw [hanswer, Option.some.injEq, Prod.mk.injEq] at hperform
        rw [← hperform.1, ← hperform.2]
        refine ⟨hkeeps.trans (DeadlineOp.abandon_keeps hkeeps.inv op), fun row hrow => ?_⟩
        exact absurd hrow (by simp only [reduceCtorEq, not_false_eq_true])
  · exact absurd hperform (by simp only [reduceCtorEq, not_false_eq_true])

end

end Mistle
