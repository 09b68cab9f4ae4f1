import Mistle.Lifecycle.StatusEdges

/-!
# The Lock of the Row

A transaction that has selected the row for update has it to itself until it ends: others
that would write the row wait, and those that would lock it. So what the transaction has
read of the row is still so when it writes it.

A lock has the number of its transaction, and the call that has taken it has noted the
number. No two calls have noted the same, and a call ends transactions of its own only.

## Main definitions

* `LockInv`: The numbers of transactions in a state.

## Theorems

* `LifecycleOp.perform_locked`: What a statement of another leaves as it is.
* `lockInv_run`: The numbers in every run.
* `HoldsRow.step_other`: A step of another call leaves a locked row as it is.
-/

namespace Mistle

variable {sandboxInstanceId : String} {s t : LifecycleState} {transaction : Nat}

/-! ### Statements of others -/

/-- A statement that ends a transaction. -/
def LifecycleOp.Ends (transaction : Nat) : LifecycleOp → Prop
  | .commitStatus ended _ _ _ => ended = transaction
  | .endTransaction ended => ended = transaction
  | _ => False

theorem LifecycleOp.apply_locked {op : LifecycleOp} (c : LifecycleChoice)
    (hlock : s.lock = some transaction) {row : SandboxInstance} (hrow : s.row = some row)
    (henabled : op.Enabled s) (hends : ¬ op.Ends transaction) : (op.apply c s).1 = s := by
  have hblocked : s.lock = none ∨ op.target s = none → op.target s = none := by
    rintro (hfree | htarget)
    · exact absurd (hlock.symm.trans hfree) (Option.some_ne_none _)
    · exact htarget
  cases op with
  | updateStatus source target set =>
      have htarget : s.matching false (· = source) = none := hblocked henabled
      simp only [LifecycleOp.apply, htarget]
  | updateInstance withDeleted set =>
      have htarget : s.matching withDeleted (fun _ => true) = none := hblocked henabled
      simp only [LifecycleOp.apply, htarget]
  | updateFailed sources failureCode failureMessage =>
      have htarget : s.matching true (· ∈ sources) = none := hblocked henabled
      simp only [LifecycleOp.apply, htarget]
  | provision providerSandboxId =>
      have htarget : s.matching false (· = .starting) = none := hblocked henabled
      simp only [LifecycleOp.apply, htarget]
  | insertInstance organizationId purpose =>
      have htarget : s.row = none := hblocked henabled
      exact absurd (hrow.symm.trans htarget) (Option.some_ne_none _)
  | lockInstance => exact absurd (hlock.symm.trans henabled) (Option.some_ne_none _)
  | commitStatus ended source target set =>
      exact absurd (Option.some.inj (henabled.symm.trans hlock)) hends
  | endTransaction ended =>
      have hother : s.lock ≠ some ended := fun h => hends (Option.some.inj (h.symm.trans hlock))
      simp only [LifecycleOp.apply, if_neg hother]
  | _ => rfl

theorem LifecycleOp.abandon_locked {op : LifecycleOp} (hlock : s.lock = some transaction)
    (henabled : op.Enabled s) (hends : ¬ op.Ends transaction) : op.abandon s = s := by
  cases op with
  | lockInstance => exact absurd (hlock.symm.trans henabled) (Option.some_ne_none _)
  | commitStatus ended source target set =>
      exact absurd (Option.some.inj (henabled.symm.trans hlock)) hends
  | endTransaction ended =>
      have hother : s.lock ≠ some ended := fun h => hends (Option.some.inj (h.symm.trans hlock))
      simp only [LifecycleOp.abandon, if_neg hother]
  | _ => rfl

/-- While a row is locked, a statement that does not end the transaction changes nothing. -/
theorem LifecycleOp.perform_locked {op : LifecycleOp} {c : LifecycleChoice}
    {r : Program.Fallible LifecycleError LifecycleOp.Row op} (h : op.perform c s = some (t, r))
    (hlock : s.lock = some transaction) {row : SandboxInstance} (hrow : s.row = some row)
    (hends : ¬ op.Ends transaction) : t = s := by
  rcases perform_cases h with ⟨henabled, hends'⟩
  have happly := apply_locked c hlock hrow henabled hends
  have habandon := abandon_locked hlock henabled hends
  rcases hends' with ⟨_, ht, _⟩ | ⟨_, ht | ht, _⟩
  · rw [ht, happly]
  · rw [ht, habandon]
  · rw [ht, happly, habandon]

/-! ### The numbers of transactions -/

/-- Every number of a transaction that is known is one that was given, and no two calls have
    noted the same. -/
structure LockInv (x : LifecyclePool × List StatusNote) : Prop where
  lock : ∀ transaction, x.1.shared.lock = some transaction →
    transaction < x.1.shared.transactions
  noted : ∀ (n : Nat) (note : StatusNote) transaction, x.2[n]? = some note →
    note.transaction = some transaction → transaction < x.1.shared.transactions
  distinct : ∀ (n k : Nat) (note other : StatusNote) transaction, x.2[n]? = some note →
    x.2[k]? = some other → note.transaction = some transaction →
    other.transaction = some transaction → n = k

/-- A state whose lock was released, or is as it was. -/
def LockLeft (s t : LifecycleState) : Prop :=
  t.transactions = s.transactions ∧ (t.lock = s.lock ∨ t.lock = none)

theorem LockLeft.trans {u : LifecycleState} (hst : LockLeft s t) (htu : LockLeft t u) :
    LockLeft s u := by
  refine ⟨htu.1.trans hst.1, ?_⟩
  rcases htu.2 with hlock | hlock
  · rw [hlock]
    exact hst.2
  · exact .inr hlock

theorem LifecycleOp.apply_lockLeft {op : LifecycleOp} (hop : op ≠ .lockInstance)
    (c : LifecycleChoice) (s : LifecycleState) : LockLeft s (op.apply c s).1 := by
  cases op with
  | lockInstance => exact absurd rfl hop
  | updateStatus source target set =>
      simp only [LifecycleOp.apply]
      split <;> exact ⟨rfl, .inl rfl⟩
  | updateInstance withDeleted set =>
      simp only [LifecycleOp.apply]
      split <;> exact ⟨rfl, .inl rfl⟩
  | commitStatus ended source target set =>
      simp only [LifecycleOp.apply]
      split <;> exact ⟨rfl, .inr rfl⟩
  | endTransaction ended =>
      simp only [LifecycleOp.apply]
      split
      · exact ⟨rfl, .inr rfl⟩
      · exact ⟨rfl, .inl rfl⟩
  | updateFailed sources failureCode failureMessage =>
      simp only [LifecycleOp.apply]
      split <;> exact ⟨rfl, .inl rfl⟩
  | provision providerSandboxId =>
      simp only [LifecycleOp.apply]
      split
      · exact ⟨rfl, .inl rfl⟩
      · split <;> exact ⟨rfl, .inl rfl⟩
  | insertInstance organizationId purpose =>
      simp only [LifecycleOp.apply]
      split <;> exact ⟨rfl, .inl rfl⟩
  | _ => exact ⟨rfl, .inl rfl⟩

theorem LifecycleOp.abandon_lockLeft (op : LifecycleOp) (s : LifecycleState) :
    LockLeft s (op.abandon s) := by
  cases op with
  | lockInstance => exact ⟨rfl, .inr rfl⟩
  | commitStatus ended source target set => exact ⟨rfl, .inr rfl⟩
  | endTransaction ended =>
      simp only [LifecycleOp.abandon]
      split
      · exact ⟨rfl, .inr rfl⟩
      · exact ⟨rfl, .inl rfl⟩
  | _ => exact ⟨rfl, .inl rfl⟩

theorem noteStatus_transaction {op : LifecycleOp} (hop : op ≠ .lockInstance) (known : StatusNote)
    (r : Program.Fallible LifecycleError LifecycleOp.Row op) :
    (noteStatus known op r).transaction = known.transaction := by
  cases op with
  | lockInstance => exact absurd rfl hop
  | findInstance withDeleted organizationId =>
      rcases r with e | row
      · rfl
      · cases row <;> rfl
  | _ => rfl

/-- A statement leaves the numbers as they are, or it locks the row and gives the next number
    to its transaction. -/
theorem LifecycleOp.perform_numbers {op : LifecycleOp} {c : LifecycleChoice}
    {r : Program.Fallible LifecycleError LifecycleOp.Row op} (h : op.perform c s = some (t, r))
    (known : StatusNote) :
    (LockLeft s t ∧ (noteStatus known op r).transaction = known.transaction) ∨
      (t.transactions = s.transactions + 1 ∧ (t.lock = some s.transactions ∨ t.lock = none) ∧
        ((noteStatus known op r).transaction = some s.transactions ∨
          (noteStatus known op r).transaction = known.transaction)) := by
  by_cases hop : op = .lockInstance
  · subst hop
    rcases (perform_cases h).2 with ⟨_, ht, hr⟩ | ⟨_, ht | ht, e, hr⟩
    · right
      rw [ht, hr]
      refine ⟨rfl, .inl rfl, .inl ?_⟩
      simp only [LifecycleOp.apply]
      cases s.row <;> rfl
    · left
      rw [ht, hr]
      exact ⟨⟨rfl, .inr rfl⟩, rfl⟩
    · right
      rw [ht, hr]
      exact ⟨rfl, .inr rfl, .inr rfl⟩
  · left
    refine ⟨?_, noteStatus_transaction hop known r⟩
    rcases (perform_cases h).2 with ⟨_, ht, _⟩ | ⟨_, ht | ht, _⟩
    · rw [ht]
      exact apply_lockLeft hop c s
    · rw [ht]
      exact abandon_lockLeft op s
    · rw [ht]
      exact (apply_lockLeft hop c s).trans (abandon_lockLeft op _)

theorem GatewayEvent.apply_lock {e : GatewayEvent} (h : e.apply s = some t) :
    t.lock = s.lock ∧ t.transactions = s.transactions := by
  cases e with
  | admitLease ownerLeaseId =>
      rw [GatewayEvent.apply] at h
      split at h
      · exact absurd h (by simp only [reduceCtorEq, not_false_eq_true])
      · rw [← Option.some.inj h]
        exact ⟨rfl, rfl⟩
  | attach ownerLeaseId sessionId =>
      rw [GatewayEvent.apply] at h
      split at h
      · rw [← Option.some.inj h]
        exact ⟨rfl, rfl⟩
      · exact absurd h (by simp only [reduceCtorEq, not_false_eq_true])
  | detach ownerLeaseId => rw [← Option.some.inj h]; exact ⟨rfl, rfl⟩
  | expire => rw [← Option.some.inj h]; exact ⟨rfl, rfl⟩
  | deleteInstance => rw [← Option.some.inj h]; exact ⟨rfl, rfl⟩

/-- The notes stay, and the lock and the numbers. -/
theorem LockInv.same {x y : LifecyclePool × List StatusNote} (hx : LockInv x)
    (hlock : y.1.shared.lock = x.1.shared.lock)
    (htransactions : y.1.shared.transactions = x.1.shared.transactions) (hnotes : y.2 = x.2) :
    LockInv y := by
  refine ⟨?_, ?_, ?_⟩
  · rw [hlock, htransactions]
    exact hx.lock
  · rw [hnotes, htransactions]
    exact hx.noted
  · rw [hnotes]
    exact hx.distinct

theorem lockInv_step {x y : LifecyclePool × List StatusNote} {input : LifecycleInput}
    {out : List LifecycleStepEvent}
    (hstep : (lifecycleSystem sandboxInstanceId).stepNoting noteStatus {} x input = some (y, out))
    (hx : LockInv x) : LockInv y := by
  rcases System.stepNoting_step hstep with ⟨hpool, hnotes⟩
  cases input with
  | outside e =>
      rcases System.step_outside hpool with ⟨t, ht, hy, _⟩
      have hshared : y.1.shared = t := congrArg Pool.shared hy
      exact hx.same (hshared ▸ (GatewayEvent.apply_lock ht).1)
        (hshared ▸ (GatewayEvent.apply_lock ht).2) hnotes
  | finish n =>
      rcases System.step_finish hpool with ⟨call, answer, _, hy, _⟩
      exact hx.same (by rw [hy]) (by rw [hy]) hnotes
  | start call =>
      rcases System.step_start hpool with ⟨t, p, ht, hy, _⟩
      have hshared : y.1.shared = x.1.shared := by
        injection ht with ht
        injection ht with ht
        rw [congrArg Pool.shared hy, ht]
      have hfresh : ∀ (n : Nat) (note : StatusNote) transaction, y.2[n]? = some note →
          note.transaction = some transaction → x.2[n]? = some note := by
        intro n note transaction hnote htransaction
        have happend : y.2 = x.2 ++ [({} : StatusNote)] := hnotes
        rw [happend] at hnote
        by_cases hlt : n < x.2.length
        · rwa [List.getElem?_append_left hlt] at hnote
        · -- The call that has just started has noted nothing.
          rw [List.getElem?_append_right (Nat.le_of_not_lt hlt)] at hnote
          rw [List.mem_singleton.mp (List.mem_of_getElem? hnote)] at htransaction
          exact absurd htransaction (by simp only [reduceCtorEq, not_false_eq_true])
      refine ⟨hshared ▸ hx.lock, ?_, ?_⟩
      · intro n note transaction hnote htransaction
        rw [hshared]
        exact hx.noted n note transaction (hfresh n note transaction hnote htransaction) htransaction
      · intro n k note other transaction hn hk hnote hother
        exact hx.distinct n k note other transaction (hfresh n note transaction hn hnote)
          (hfresh k other transaction hk hother) hnote hother
  | advance n c =>
      rcases System.step_advance hpool with ⟨call, op, next, t, r, hcall, ht, hy, _⟩
      have hshared : y.1.shared = t := congrArg Pool.shared hy
      have hmodify : y.2 = x.2.modify n fun known => noteStatus known op r := by
        rw [hnotes, System.notesAfter_advance hcall ht]
      -- Who has noted a number has noted it before, or has just been given the next one.
      have hbefore : ∀ (k : Nat) (note : StatusNote) transaction, y.2[k]? = some note →
          note.transaction = some transaction →
          (∃ old, x.2[k]? = some old ∧ old.transaction = some transaction) ∨
            (k = n ∧ transaction = x.1.shared.transactions ∧
              t.transactions = x.1.shared.transactions + 1) := by
        intro k note transaction hnote htransaction
        rw [hmodify] at hnote
        by_cases hk : n = k
        · rw [← hk, List.getElem?_modify_eq] at hnote
          rcases Option.map_eq_some_iff.mp hnote with ⟨old, hold, hnote⟩
          rw [← hnote] at htransaction
          rcases LifecycleOp.perform_numbers ht old with ⟨_, hsame⟩ | ⟨hnext, _, hgiven | hsame⟩
          · exact .inl ⟨old, hk ▸ hold, hsame ▸ htransaction⟩
          · exact .inr ⟨hk.symm, Option.some.inj (htransaction.symm.trans hgiven), hnext⟩
          · exact .inl ⟨old, hk ▸ hold, hsame ▸ htransaction⟩
        · rw [List.getElem?_modify_ne _ _ hk] at hnote
          exact .inl ⟨note, hnote, htransaction⟩
      have hgrows : x.1.shared.transactions ≤ t.transactions := by
        rcases LifecycleOp.perform_numbers ht {} with ⟨hleft, _⟩ | ⟨hnext, _⟩
        · exact Nat.le_of_eq hleft.1.symm
        · omega
      refine ⟨?_, ?_, ?_⟩
      · intro transaction hlock
        rw [hshared] at hlock ⊢
        rcases LifecycleOp.perform_numbers ht {} with ⟨hleft, _⟩ | ⟨hnext, hlocked, _⟩
        · rcases hleft.2 with hsame | hfree
          · exact hleft.1 ▸ hx.lock transaction (hsame ▸ hlock)
          · exact absurd (hlock.symm.trans hfree) (Option.some_ne_none _)
        · rcases hlocked with hgiven | hfree
          · have heq := Option.some.inj (hgiven.symm.trans hlock)
            omega
          · exact absurd (hlock.symm.trans hfree) (Option.some_ne_none _)
      · intro k note transaction hnote htransaction
        rw [hshared]
        rcases hbefore k note transaction hnote htransaction with ⟨old, hold, hnumber⟩ |
          ⟨_, hgiven, hnext⟩
        · have hlt := hx.noted k old transaction hold hnumber
          omega
        · omega
      · intro k l note other transaction hk hl hnote hother
        rcases hbefore k note transaction hk hnote with ⟨old, hold, hnumber⟩ | ⟨hkn, hgiven, _⟩
        · rcases hbefore l other transaction hl hother with ⟨old', hold', hnumber'⟩ | ⟨_, hgiven, _⟩
          · exact hx.distinct k l old old' transaction hold hold' hnumber hnumber'
          · have hlt := hx.noted k old transaction hold hnumber
            omega
        · rcases hbefore l other transaction hl hother with ⟨old', hold', hnumber'⟩ | ⟨hln, _⟩
          · have hlt := hx.noted l old' transaction hold' hnumber'
            omega
          · exact hkn.trans hln.symm

theorem lockInv_run {x y : LifecyclePool × List StatusNote}
    {trace : List (Entry LifecycleInput LifecycleStepEvent)}
    (hrun : StatusRuns sandboxInstanceId x trace y) (hx : LockInv x) : LockInv y :=
  hrun.invariant hx fun _ _ _ _ ha hstep => lockInv_step hstep ha

theorem StatusRuns.lockInv {x : LifecyclePool × List StatusNote}
    {trace : List (Entry LifecycleInput LifecycleStepEvent)}
    (hrun : StatusRuns sandboxInstanceId (noInstance, []) trace x) : LockInv x := by
  refine lockInv_run hrun ⟨?_, ?_, ?_⟩
  · intro transaction hlock
    exact absurd hlock (by simp only [noInstance, reduceCtorEq, not_false_eq_true])
  · intro n note transaction hnote
    exact absurd hnote (by simp only [List.getElem?_nil, reduceCtorEq, not_false_eq_true])
  · intro n k note other transaction hnote
    exact absurd hnote (by simp only [List.getElem?_nil, reduceCtorEq, not_false_eq_true])

/-- The call `n` has the row locked, which has the status. -/
structure HoldsRow (x : LifecyclePool × List StatusNote) (n transaction : Nat)
    (status : SandboxInstanceStatus) : Prop where
  lock : x.1.shared.lock = some transaction
  noted : ∃ note, x.2[n]? = some note ∧ note.transaction = some transaction
  status : x.1.shared.status = some status

/-- While a call has the row locked, a step of another leaves it so. -/
theorem HoldsRow.step_other {x y : LifecyclePool × List StatusNote} {n : Nat}
    {status : SandboxInstanceStatus} {input : LifecycleInput} {out : List LifecycleStepEvent}
    (hstep : (lifecycleSystem sandboxInstanceId).stepNoting noteStatus {} x input = some (y, out))
    (hnoted : System.Noted noteStatus (fun call => WritesInOrder call.marked) x) (hinv : LockInv x)
    (hother : ∀ c, input ≠ .advance n c) (hholds : HoldsRow x n transaction status) :
    HoldsRow y n transaction status := by
  rcases System.stepNoting_step hstep with ⟨hpool, hnotes⟩
  rcases hholds with ⟨hlock, ⟨note, hnote, htransaction⟩, hstatus⟩
  cases input with
  | outside e =>
      rcases System.step_outside hpool with ⟨t, ht, hy, _⟩
      have hshared : y.1.shared = t := congrArg Pool.shared hy
      have hsame : y.2 = x.2 := hnotes
      refine ⟨hshared ▸ (GatewayEvent.apply_lock ht).1.trans hlock, ⟨note, hsame ▸ hnote, htransaction⟩,
        hshared ▸ (GatewayEvent.apply_status ht).trans hstatus⟩
  | finish k =>
      rcases System.step_finish hpool with ⟨call, answer, _, hy, _⟩
      have hsame : y.2 = x.2 := hnotes
      exact ⟨by rw [hy]; exact hlock, ⟨note, hsame ▸ hnote, htransaction⟩, by rw [hy]; exact hstatus⟩
  | start call =>
      rcases System.step_start hpool with ⟨t, p, ht, hy, _⟩
      have hshared : y.1.shared = x.1.shared := by
        injection ht with ht
        injection ht with ht
        rw [congrArg Pool.shared hy, ht]
      have happend : y.2 = x.2 ++ [({} : StatusNote)] := hnotes
      refine ⟨hshared ▸ hlock, ⟨note, ?_, htransaction⟩, hshared ▸ hstatus⟩
      rw [happend, List.getElem?_append_left (List.getElem?_eq_some_iff.mp hnote).1]
      exact hnote
  | advance k c =>
      rcases System.step_advance hpool with ⟨call, op, next, t, r, hcall, ht, hy, _⟩
      have hne : k ≠ n := fun h => hother c (h ▸ rfl)
      rcases hnoted.perform hcall with ⟨known, hknown, horder⟩
      have hends : ¬ op.Ends transaction := by
        intro hends
        refine hne (hinv.distinct k n known note transaction hknown hnote ?_ htransaction)
        cases op with
        | commitStatus ended source target set => exact hends ▸ horder.1
        | endTransaction ended => exact hends ▸ horder
        | _ => exact hends.elim
      rcases Option.map_eq_some_iff.mp hstatus with ⟨row, hrow, _⟩
      have hsame : t = x.1.shared := LifecycleOp.perform_locked ht hlock hrow hends
      have hmodify : y.2 = x.2.modify k fun known => noteStatus known op r := by
        rw [hnotes, System.notesAfter_advance hcall ht]
      have hshared : y.1.shared = x.1.shared := (congrArg Pool.shared hy).trans hsame
      refine ⟨hshared ▸ hlock, ⟨note, ?_, htransaction⟩, hshared ▸ hstatus⟩
      rw [hmodify, List.getElem?_modify_ne _ _ hne]
      exact hnote

end Mistle
