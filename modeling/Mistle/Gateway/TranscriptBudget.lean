import Mistle.Gateway.OperationIngress
import Mistle.Lib.Noting

/-!
# The Transcript Budget of an Operation

The service counts the bytes of transcript that it lets through for an operation, and
lets none through that would take the count over the budget. The count is dropped when
a stream of the operation ends, however it ends, while the operation goes on: sandboxd
opens its stream again over the next connection. So the budget bounds what is persisted
for an operation as long as no bytes are counted for it after its count was dropped, and
a sandbox that reopens its stream often enough has any number of bytes persisted.

Between counting bytes and inserting them a delivery waits, so the bound is proved with
what the deliveries hold between the two: what is persisted and what is on its way to be
persisted is what was counted, or less where an insert failed.

## Main definitions

* `persistedTranscriptBytes`: The bytes of transcript in an operation's rows.
* `Dropped`: A step of a trace dropped the bytes counted for an operation.
* `CountsOnlyUndropped`: No bytes are counted for an operation after that.
* `Claimed`: What a delivery has counted and not yet inserted.
* `recordLine`, `lineFrame`: A record of the transcript as a line, and its frame.
* `Idle`, `Streaming`: The service before the operation's stream is opened, and with it.

## Theorems

* `persistRecords_claims`: A delivery inserts what it has counted before.
* `Clears.trans`, `clears_processDelivery`: What does not count only drops counts.
* `recordedBytes_step`: What one step does to the bytes recorded and to those counted.
* `transcript_within_budget`: The bound on what is persisted.
* `exists_open`, `exists_data`, `exists_close`: What a delivery does that is alone.
* `transcript_exceeds_budget`: A run that persists more.
-/

namespace Mistle

namespace OperationIngress

open SandboxOperationIngress

/-- The bytes of transcript in the rows of an operation. -/
def persistedTranscriptBytes (s : SandboxOperationIngress) (sandboxInstanceId operationId : Text) :
    Nat :=
  ((s.sandboxOperationEvents.filter fun row =>
    row.sandboxInstanceId = sandboxInstanceId ∧ row.operationId = operationId).map
      fun row => row.record.transcriptBytes).sum

abbrev IngressInput : Type := PoolInput IngressEvent IngressCall StatementAnswer

abbrev IngressStepEvent : Type :=
  SystemEvent IngressEvent IngressCall StatementAnswer (Except String Unit) IngressOp

abbrev IngressTrace : Type := List (Entry IngressInput IngressStepEvent)

abbrev IngressPool : Type :=
  Pool SandboxOperationIngress IngressCall (Except String Unit) IngressOp IngressRes

abbrev IngressCalls : Type :=
  List (SystemCall IngressCall (Except String Unit) IngressOp IngressRes)

/-- A step of a trace dropped the bytes counted for an operation. -/
def Dropped (json : JsonLines) (trace : IngressTrace) (operationKey : Text) : Prop :=
  ∃ before input out after t u, trace = before ++ ⟨input, out⟩ :: after ∧
    (ingressSystem json).Runs ingressPool before t ∧
    (ingressSystem json).step t input = some (u, out) ∧
    0 < t.shared.countedBytes operationKey ∧ u.shared.countedBytes operationKey = 0

/-- No step of a trace counts bytes for an operation after its count was dropped. -/
def CountsOnlyUndropped (json : JsonLines) (trace : IngressTrace) (operationKey : Text) : Prop :=
  ∀ before input out after t u, trace = before ++ ⟨input, out⟩ :: after →
    (ingressSystem json).Runs ingressPool before t →
    (ingressSystem json).step t input = some (u, out) →
    t.shared.countedBytes operationKey < u.shared.countedBytes operationKey →
    ¬ Dropped json before operationKey

variable {json : JsonLines}

theorem Dropped.append {trace : IngressTrace} {operationKey : Text}
    (h : Dropped json trace operationKey) (more : IngressTrace) :
    Dropped json (trace ++ more) operationKey := by
  rcases h with ⟨before, input, out, after, t, u, htrace, hrest⟩
  refine ⟨before, input, out, after ++ more, t, u, ?_, hrest⟩
  rw [htrace, List.append_assoc, List.cons_append]

theorem CountsOnlyUndropped.init {trace more : IngressTrace} {operationKey : Text}
    (h : CountsOnlyUndropped json (trace ++ more) operationKey) :
    CountsOnlyUndropped json trace operationKey := by
  intro before input out after t u htrace
  refine h before input out (after ++ more) t u ?_
  rw [htrace, List.append_assoc, List.cons_append]

/-! ### What is counted and not yet inserted -/

/-- What a delivery has counted and not yet inserted: the instance, the stream and the
    record. -/
abbrev Claimed : Type := Option (Text × ActiveBootstrapOperationStream × OperationRecord)

def noteClaim (m : Claimed) : (op : IngressOp) → IngressRes op → Claimed
  | .claimRecord sandboxInstanceId stream _, .ok (some record) =>
    some (sandboxInstanceId, stream, record)
  | .insertSandboxOperationEvent .., _ => none
  | _, _ => m

/-- A record is read where nothing is claimed, and what is inserted was claimed. -/
def ByClaim (m : Claimed) : IngressOp → Prop
  | .claimRecord .. => m = none
  | .insertSandboxOperationEvent sandboxInstanceId stream record =>
    m = some (sandboxInstanceId, stream, record)
  | _ => True

theorem persistRecords_claims (sandboxInstanceId : Text) (stream : ActiveBootstrapOperationStream)
    (lines : List Text) :
    (persistRecords sandboxInstanceId stream lines).EveryNoting noteClaim ByClaim none := by
  induction lines with
  | nil => trivial
  | cons line lines ih =>
      refine ⟨rfl, fun claimed => ?_⟩
      match claimed with
      | .error _ => trivial
      | .ok none => exact ih
      | .ok (some record) =>
          refine ⟨rfl, fun inserted => ?_⟩
          cases inserted with
          | error message => trivial
          | ok _ => exact ih

theorem handleDelivery_claims (sandboxInstanceId : Text) (delivery : Nat) (previous : Option Nat) :
    (handleDelivery sandboxInstanceId delivery previous).EveryNoting noteClaim ByClaim none := by
  refine ⟨trivial, fun _ => ⟨trivial, fun r => ?_⟩⟩
  have hlast : ∀ (m : Claimed) (result : Except String Unit),
      Program.EveryNoting noteClaim ByClaim m
        (.perform (.settle delivery) fun _ => .perform (.unchain delivery) fun _ => .done result) :=
    fun _ _ => ⟨trivial, fun _ => ⟨trivial, fun _ => trivial⟩⟩
  refine Program.EveryNoting.bind hlast ?_
  cases r with
  | done => trivial
  | threw message => trivial
  | persisting ref stream lines =>
      refine Program.EveryNoting.bind (fun m ingested => ?_)
        (persistRecords_claims sandboxInstanceId stream lines)
      cases ingested with
      | error message => exact ⟨trivial, fun _ => trivial⟩
      | ok _ => exact ⟨trivial, fun _ => trivial⟩

/-- The bytes of an operation that a delivery has counted and not yet inserted. -/
def claimedBytes (sandboxInstanceId operationId : Text) : Claimed → Nat
  | none => 0
  | some (instance', stream, record) =>
    if instance' = sandboxInstanceId ∧ stream.operationId = operationId then record.transcriptBytes
    else 0

/-- The bytes of an operation that are persisted or on their way to be. -/
def recordedBytes (x : IngressPool × List Claimed) (sandboxInstanceId operationId : Text) : Nat :=
  persistedTranscriptBytes x.1.shared sandboxInstanceId operationId +
    (x.2.map (claimedBytes sandboxInstanceId operationId)).sum

theorem sum_map_modify {α : Type} (g : α → Nat) (f : α → α) (l : List α) :
    ∀ {n : Nat} {a : α}, l[n]? = some a →
      ((l.modify n f).map g).sum + g a = (l.map g).sum + g (f a) := by
  induction l with
  | nil =>
      intro n a h
      rw [List.getElem?_nil] at h
      exact absurd h (by simp only [reduceCtorEq, not_false_eq_true])
  | cons b l ih =>
      intro n a h
      cases n with
      | zero =>
          rw [List.getElem?_cons_zero, Option.some.injEq] at h
          rw [h, List.modify_zero_cons, List.map_cons, List.map_cons, List.sum_cons, List.sum_cons]
          omega
      | succ n =>
          rw [List.getElem?_cons_succ] at h
          have hrest := ih h
          rw [List.modify_succ_cons, List.map_cons, List.map_cons, List.sum_cons, List.sum_cons]
          omega

/-! ### What drops counts -/

/-- From `s` to `t` no row is inserted, and no count changes but by being dropped. -/
structure Clears (s t : SandboxOperationIngress) : Prop where
  rows : t.sandboxOperationEvents = s.sandboxOperationEvents
  counted : ∀ operationKey, t.countedBytes operationKey = s.countedBytes operationKey ∨
    t.countedBytes operationKey = 0

theorem Clears.refl (s : SandboxOperationIngress) : Clears s s :=
  ⟨rfl, fun _ => .inl rfl⟩

theorem Clears.trans {s t u : SandboxOperationIngress} (first : Clears s t) (rest : Clears t u) :
    Clears s u := by
  refine ⟨rest.rows.trans first.rows, fun operationKey => ?_⟩
  rcases rest.counted operationKey with hrest | hrest
  · rw [hrest]
    exact first.counted operationKey
  · exact .inr hrest

/-- What touches neither rows nor counts. -/
theorem Clears.of_eq {s t : SandboxOperationIngress}
    (hrows : t.sandboxOperationEvents = s.sandboxOperationEvents)
    (hcounted : t.persistedTranscriptBytesByOperation = s.persistedTranscriptBytesByOperation) :
    Clears s t :=
  ⟨hrows, fun operationKey => .inl (by rw [countedBytes, countedBytes, hcounted])⟩

theorem clears_sendControlMessage (s : SandboxOperationIngress) (input : SessionKeyInput)
    (message : OperationControlMessage) : Clears s (s.sendControlMessage input message) :=
  .of_eq rfl rfl

theorem clears_setObject (s : SandboxOperationIngress) (ref : Nat)
    (session : BootstrapOperationSession) : Clears s (s.setObject ref session) :=
  .of_eq rfl rfl

theorem clears_deleteSessionIfEmpty (s : SandboxOperationIngress) (sessionKey : Text) (ref : Nat) :
    Clears s (s.deleteSessionIfEmpty sessionKey ref) := by
  unfold deleteSessionIfEmpty
  split
  · exact .of_eq rfl rfl
  · exact .refl s

theorem clears_clearTranscriptBudget (s : SandboxOperationIngress) (sandboxInstanceId : Text)
    (stream : ActiveBootstrapOperationStream) :
    Clears s (s.clearTranscriptBudget sandboxInstanceId stream) := by
  refine ⟨rfl, fun operationKey => ?_⟩
  simp only [countedBytes, clearTranscriptBudget, Function.update_apply]
  split
  · exact .inr rfl
  · exact .inl rfl

theorem clears_clearClosed (s : SandboxOperationIngress) (sandboxInstanceId : Text)
    (closed : Option ActiveBootstrapOperationStream) :
    Clears s (s.clearClosed sandboxInstanceId closed) := by
  cases closed with
  | none => exact .refl s
  | some stream => exact clears_clearTranscriptBudget s sandboxInstanceId stream

theorem clears_closeStream (s : SandboxOperationIngress) (sandboxInstanceId : Text)
    (ref streamId : Nat) : Clears s (s.closeStream sandboxInstanceId ref streamId) :=
  (clears_setObject s ref _).trans (clears_clearClosed _ sandboxInstanceId _)

theorem clears_openIn (s : SandboxOperationIngress) (input : SessionKeyInput)
    (message : OperationOpen) (ref : Nat) : Clears s (s.openIn input message ref) := by
  unfold openIn
  split
  · exact (clears_sendControlMessage s input _).trans (clears_deleteSessionIfEmpty _ _ ref)
  · exact .of_eq rfl rfl

theorem clears_handleOpen (s : SandboxOperationIngress) (input : SessionKeyInput)
    (message : OperationOpen) : Clears s (s.handleOpen input message) := by
  have hsession : Clears s (s.sessionForOpen input).1 := by
    unfold sessionForOpen
    split
    · exact .refl s
    · exact .of_eq rfl rfl
  exact hsession.trans (clears_openIn _ input message _)

theorem clears_startData (s : SandboxOperationIngress) (input : SessionKeyInput)
    (payload : List UInt8) (streamId ref : Nat) :
    Clears s (s.startData json input payload streamId ref).1 := by
  unfold startData
  split
  · exact .refl s
  · split
    · exact (((clears_setObject s ref _).trans (clears_clearClosed _ _ _)).trans
        (clears_sendControlMessage _ input _)).trans (clears_deleteSessionIfEmpty _ _ ref)
    · exact clears_setObject s ref _

theorem clears_processDelivery (s : SandboxOperationIngress) (input : SessionKeyInput)
    (delivery : OperationDelivery) : Clears s (s.processDelivery json input delivery).1 := by
  cases delivery with
  | operationOpen message => exact clears_handleOpen s input message
  | operationClose streamId =>
      rw [processDelivery]
      split
      · exact .refl s
      · exact (clears_closeStream s input.sandboxInstanceId _ streamId).trans
          (clears_deleteSessionIfEmpty _ _ _)
  | operationData payload streamId =>
      rw [processDelivery]
      split
      · exact clears_sendControlMessage s input _
      · exact clears_startData s input payload streamId _
  | operationInvalidData payloadKind streamId =>
      rw [processDelivery]
      split
      · exact clears_sendControlMessage s input _
      · exact ((clears_closeStream s input.sandboxInstanceId _ streamId).trans
          (clears_sendControlMessage _ input _)).trans (clears_deleteSessionIfEmpty _ _ _)

theorem clears_ingestFailed (s : SandboxOperationIngress) (input : SessionKeyInput)
    (ref streamId : Nat) : Clears s (s.ingestFailed input ref streamId) :=
  ((clears_closeStream s input.sandboxInstanceId ref streamId).trans
    (clears_sendControlMessage _ input _)).trans (clears_deleteSessionIfEmpty _ _ ref)

theorem clears_replenishWindow (s : SandboxOperationIngress) (input : SessionKeyInput)
    (ref streamId : Nat) : Clears s (s.replenishWindow input ref streamId) := by
  unfold replenishWindow
  split
  · exact .of_eq rfl rfl
  · exact .of_eq rfl rfl

theorem clears_foldl (sandboxInstanceId : Text) (streams : List ActiveBootstrapOperationStream) :
    ∀ s : SandboxOperationIngress,
      Clears s (streams.foldl (clearTranscriptBudget · sandboxInstanceId ·) s) := by
  induction streams with
  | nil => exact Clears.refl
  | cons stream streams ih =>
      intro s
      exact (clears_clearTranscriptBudget s sandboxInstanceId stream).trans (ih _)

theorem clears_detachBootstrapSession (s : SandboxOperationIngress) (input : SessionKeyInput) :
    Clears s (s.detachBootstrapSession input) := by
  unfold detachBootstrapSession
  cases hsession : s.sessions (toSessionKey input) with
  | none => exact .of_eq rfl rfl
  | some ref =>
      exact (clears_foldl input.sandboxInstanceId (s.object ref).streamsById s).trans
        (.of_eq rfl rfl)

theorem clears_shutdown (s : SandboxOperationIngress) : Clears s s.shutdown :=
  ⟨rfl, fun _ => .inr rfl⟩

theorem clears_outside {event : IngressEvent} {s t : SandboxOperationIngress}
    (h : (ingressSystem json).outside event s = some t) : Clears s t := by
  have ht := Option.some.inj h
  rw [← ht]
  cases event with
  | detachBootstrapSession input => exact clears_detachBootstrapSession s input
  | shutdown => exact clears_shutdown s

/-! ### What a step records and counts -/

/-- A line that is let through has its bytes counted, within the budget. -/
theorem claimRecord_counts (s : SandboxOperationIngress) (sandboxInstanceId : Text)
    (stream : ActiveBootstrapOperationStream) (line : Text) :
    ((s.claimRecord json sandboxInstanceId stream line).1 = s ∧
      ∀ record, (s.claimRecord json sandboxInstanceId stream line).2 = .ok (some record) →
        record.transcriptBytes = 0) ∨
    ∃ record, (s.claimRecord json sandboxInstanceId stream line).2 = .ok (some record) ∧
      0 < record.transcriptBytes ∧
      s.countedBytes (toOperationKey sandboxInstanceId stream.operationId) + record.transcriptBytes
        ≤ maxPersistedTranscriptBytesPerOperation ∧
      (s.claimRecord json sandboxInstanceId stream line).1 = { s with
        persistedTranscriptBytesByOperation :=
          Function.update s.persistedTranscriptBytesByOperation
            (toOperationKey sandboxInstanceId stream.operationId)
            (some (s.countedBytes (toOperationKey sandboxInstanceId stream.operationId)
              + record.transcriptBytes)) } := by
  unfold claimRecord
  split
  · exact .inl ⟨rfl, fun record h => absurd h (by simp only [Except.ok.injEq, reduceCtorEq,
      not_false_eq_true])⟩
  split
  · exact .inl ⟨rfl, fun record h => absurd h (by simp only [reduceCtorEq, not_false_eq_true])⟩
  rename_i record hrecord
  dsimp only
  split
  · rename_i hbytes
    split
    · exact .inl ⟨rfl, fun record h => absurd h (by simp only [Except.ok.injEq, reduceCtorEq,
        not_false_eq_true])⟩
    · rename_i hbudget
      exact .inr ⟨record, rfl, hbytes, Nat.le_of_not_lt hbudget, rfl⟩
  · rename_i hbytes
    refine .inl ⟨rfl, fun other h => ?_⟩
    rw [Except.ok.injEq, Option.some.injEq] at h
    rw [← h]
    omega

theorem countedBytes_update (s : SandboxOperationIngress) (operationKey other : Text) (n : Nat) :
    ({ s with persistedTranscriptBytesByOperation :=
      Function.update s.persistedTranscriptBytesByOperation operationKey (some n)
      } : SandboxOperationIngress).countedBytes other =
      if other = operationKey then n else s.countedBytes other := by
  simp only [countedBytes, Function.update_apply]
  split
  · rfl
  · rfl

theorem persistedTranscriptBytes_insertRow (s : SandboxOperationIngress)
    (instance' : Text) (stream : ActiveBootstrapOperationStream) (record : OperationRecord)
    (sandboxInstanceId operationId : Text) :
    persistedTranscriptBytes (s.insertRow instance' stream record) sandboxInstanceId operationId =
      persistedTranscriptBytes s sandboxInstanceId operationId +
        claimedBytes sandboxInstanceId operationId (some (instance', stream, record)) := by
  simp only [persistedTranscriptBytes, insertRow, claimedBytes, List.filter_append,
    List.map_append, List.sum_append]
  by_cases h : instance' = sandboxInstanceId ∧ stream.operationId = operationId
  · simp only [List.filter_cons, h, and_self, decide_true, if_true, List.filter_nil, List.map_cons,
      List.map_nil, List.sum_singleton]
  · simp only [List.filter_cons, h, decide_false, Bool.false_eq_true, if_false, List.filter_nil,
      List.map_nil, List.sum_nil]

/-- The bytes counted for an operation. -/
def countedFor (x : IngressPool × List Claimed) (sandboxInstanceId operationId : Text) : Nat :=
  x.1.shared.countedBytes (toOperationKey sandboxInstanceId operationId)

/-- What a step may do to the bytes recorded of an operation and to those counted for it. -/
def Effect (x y : IngressPool × List Claimed) (sandboxInstanceId operationId : Text) : Prop :=
  (recordedBytes y sandboxInstanceId operationId ≤ recordedBytes x sandboxInstanceId operationId ∧
      (countedFor x sandboxInstanceId operationId ≤ countedFor y sandboxInstanceId operationId ∨
        countedFor y sandboxInstanceId operationId = 0) ∨
    ∃ n, 0 < n ∧
      countedFor y sandboxInstanceId operationId = countedFor x sandboxInstanceId operationId + n ∧
      recordedBytes y sandboxInstanceId operationId
        ≤ recordedBytes x sandboxInstanceId operationId + n) ∧
  countedFor y sandboxInstanceId operationId
    ≤ max (countedFor x sandboxInstanceId operationId) maxPersistedTranscriptBytesPerOperation

theorem Clears.effect {s t : SandboxOperationIngress} (h : Clears s t) {notes notes' : List Claimed}
    {calls calls' : IngressCalls}
    {sandboxInstanceId operationId : Text}
    (hnotes : (notes'.map (claimedBytes sandboxInstanceId operationId)).sum =
      (notes.map (claimedBytes sandboxInstanceId operationId)).sum) :
    Effect (⟨s, calls⟩, notes) (⟨t, calls'⟩, notes') sandboxInstanceId operationId := by
  have hrecorded : recordedBytes (⟨t, calls'⟩, notes') sandboxInstanceId operationId =
      recordedBytes (⟨s, calls⟩, notes) sandboxInstanceId operationId := by
    rw [recordedBytes, recordedBytes, persistedTranscriptBytes, persistedTranscriptBytes, h.rows,
      hnotes]
  rcases h.counted (toOperationKey sandboxInstanceId operationId) with hsame | hnone
  · exact ⟨.inl ⟨Nat.le_of_eq hrecorded, .inl (Nat.le_of_eq hsame.symm)⟩,
      Nat.le_trans (Nat.le_of_eq hsame) (Nat.le_max_left _ _)⟩
  · exact ⟨.inl ⟨Nat.le_of_eq hrecorded, .inr hnone⟩,
      Nat.le_trans (Nat.le_of_eq hnone) (Nat.zero_le _)⟩

/-- Reading a line. What it counts is on its way to be persisted. -/
theorem effect_claimRecord (s : SandboxOperationIngress) (instance' : Text)
    (stream : ActiveBootstrapOperationStream) (line : Text) (notes : List Claimed) (n : Nat)
    (calls calls' : IngressCalls)
    (hnote : notes[n]? = some none) (sandboxInstanceId operationId : Text) :
    Effect (⟨s, calls⟩, notes)
      (⟨(s.claimRecord json instance' stream line).1, calls'⟩,
        notes.modify n fun m => noteClaim m (.claimRecord instance' stream line)
          (s.claimRecord json instance' stream line).2) sandboxInstanceId operationId := by
  have hsum := sum_map_modify (claimedBytes sandboxInstanceId operationId)
    (fun m => noteClaim m (.claimRecord instance' stream line)
      (s.claimRecord json instance' stream line).2) notes hnote
  rw [show claimedBytes sandboxInstanceId operationId none = 0 from rfl, Nat.add_zero] at hsum
  rcases @claimRecord_counts json s instance' stream line with ⟨hsame, hnone⟩ |
    ⟨record, hrecord, hpos, hbudget, hcounts⟩
  · have hzero : claimedBytes sandboxInstanceId operationId
        (noteClaim none (.claimRecord instance' stream line)
          (s.claimRecord json instance' stream line).2) = 0 := by
      generalize hr : (s.claimRecord json instance' stream line).2 = r at hnone
      match r with
      | .error _ => rfl
      | .ok none => rfl
      | .ok (some record) =>
          simp only [noteClaim, claimedBytes, hnone record rfl, ite_self]
    rw [hzero, Nat.add_zero] at hsum
    rw [hsame]
    exact (Clears.refl s).effect hsum
  · -- The bytes are counted under the key of the operation they are claimed for.
    have hkey : ∀ other, SandboxOperationIngress.countedBytes
        (s.claimRecord json instance' stream line).1 other =
          if other = toOperationKey instance' stream.operationId then
            s.countedBytes (toOperationKey instance' stream.operationId) + record.transcriptBytes
          else s.countedBytes other := by
      intro other
      rw [hcounts, countedBytes_update]
    have hrows : persistedTranscriptBytes (s.claimRecord json instance' stream line).1
        sandboxInstanceId operationId =
          persistedTranscriptBytes s sandboxInstanceId operationId := by
      rw [hcounts]
      rfl
    rw [hrecord] at hsum
    simp only [noteClaim] at hsum
    simp only [Effect, countedFor, recordedBytes, hrows, hkey, hrecord, noteClaim, hsum]
    by_cases hsame : toOperationKey sandboxInstanceId operationId =
        toOperationKey instance' stream.operationId
    · have hbytes : claimedBytes sandboxInstanceId operationId (some (instance', stream, record)) ≤
          record.transcriptBytes := by
        rw [claimedBytes]
        split
        · exact Nat.le_refl _
        · exact Nat.zero_le _
      rw [if_pos hsame, hsame]
      exact ⟨.inr ⟨record.transcriptBytes, hpos, rfl, by omega⟩, by omega⟩
    · have hbytes : claimedBytes sandboxInstanceId operationId (some (instance', stream, record)) =
          0 := by
        rw [claimedBytes, if_neg]
        rintro ⟨hinstance, hoperation⟩
        exact hsame (by rw [hinstance, hoperation])
      rw [if_neg hsame, hbytes]
      exact ⟨.inl ⟨by omega, .inl (Nat.le_refl _)⟩, Nat.le_max_left _ _⟩

/-- Inserting a record that was claimed. -/
theorem effect_insert (s : SandboxOperationIngress) (instance' : Text)
    (stream : ActiveBootstrapOperationStream) (record : OperationRecord) (answer : StatementAnswer)
    (notes : List Claimed) (n : Nat)
    (calls calls' : IngressCalls)
    (hnote : notes[n]? = some (some (instance', stream, record)))
    (sandboxInstanceId operationId : Text) :
    Effect (⟨s, calls⟩, notes)
      (⟨(s.insertSandboxOperationEvent instance' stream record answer).1, calls'⟩,
        notes.modify n fun _ => none) sandboxInstanceId operationId := by
  have hsum := sum_map_modify (claimedBytes sandboxInstanceId operationId) (fun _ => none) notes
    hnote
  rw [show claimedBytes sandboxInstanceId operationId none = 0 from rfl, Nat.add_zero] at hsum
  have hcounted : ∀ operationKey, (s.insertSandboxOperationEvent instance' stream record
      answer).1.countedBytes operationKey = s.countedBytes operationKey := by
    intro operationKey
    cases answer with
    | arrives => rfl
    | fails message => rfl
    | lost message => rfl
  have hrows : persistedTranscriptBytes
      (s.insertSandboxOperationEvent instance' stream record answer).1 sandboxInstanceId operationId
        ≤ persistedTranscriptBytes s sandboxInstanceId operationId +
          claimedBytes sandboxInstanceId operationId (some (instance', stream, record)) := by
    cases answer with
    | arrives => exact Nat.le_of_eq (persistedTranscriptBytes_insertRow _ _ _ _ _ _)
    | fails message => exact Nat.le_add_right _ _
    | lost message => exact Nat.le_of_eq (persistedTranscriptBytes_insertRow _ _ _ _ _ _)
  simp only [Effect, countedFor, recordedBytes, hcounted]
  exact ⟨.inl ⟨by omega, .inl (Nat.le_refl _)⟩, Nat.le_max_left _ _⟩

/-- A line is read or a record inserted. -/
def IngressOp.ingests : IngressOp → Bool
  | .claimRecord .. => true
  | .insertSandboxOperationEvent .. => true
  | _ => false

theorem IngressOp.ingests_cases {op : IngressOp} (h : op.ingests = true) :
    (∃ sandboxInstanceId stream line, op = .claimRecord sandboxInstanceId stream line) ∨
      ∃ sandboxInstanceId stream record,
        op = .insertSandboxOperationEvent sandboxInstanceId stream record := by
  unfold IngressOp.ingests at h
  split at h
  · exact .inl ⟨_, _, _, rfl⟩
  · exact .inr ⟨_, _, _, rfl⟩
  · exact absurd h Bool.false_ne_true

theorem clears_perform {call : IngressCall} {answer : StatementAnswer}
    {s t : SandboxOperationIngress} {op : IngressOp} {r : IngressRes op}
    (h : performIngress json call answer s op = some (t, r)) (hop : op.ingests = false) :
    Clears s t ∧ ∀ m, noteClaim m op r = m := by
  cases op with
  | previousSettles previous =>
      rw [performIngress, Option.ite_none_right_eq_some, Option.some.injEq, Prod.mk.injEq] at h
      rw [← h.2.1]
      exact ⟨.refl s, fun _ => rfl⟩
  | processDelivery =>
      have ht : (s.processDelivery json call.key call.delivery).1 = t :=
        congrArg Prod.fst (Option.some.inj h)
      rw [← ht]
      exact ⟨clears_processDelivery s call.key call.delivery, fun _ => rfl⟩
  | claimRecord sandboxInstanceId stream line => exact absurd hop.symm Bool.false_ne_true
  | insertSandboxOperationEvent sandboxInstanceId stream record =>
      exact absurd hop.symm Bool.false_ne_true
  | ingestFailed ref streamId =>
      rw [performIngress, Option.some.injEq, Prod.mk.injEq] at h
      rw [← h.1]
      exact ⟨clears_ingestFailed s call.key ref streamId, fun _ => rfl⟩
  | replenishWindow ref streamId =>
      rw [performIngress, Option.some.injEq, Prod.mk.injEq] at h
      rw [← h.1]
      exact ⟨clears_replenishWindow s call.key ref streamId, fun _ => rfl⟩
  | settle delivery =>
      rw [performIngress, Option.some.injEq, Prod.mk.injEq] at h
      rw [← h.1]
      exact ⟨.of_eq rfl rfl, fun _ => rfl⟩
  | unchain delivery =>
      rw [performIngress] at h
      split at h
      · rw [Option.some.injEq, Prod.mk.injEq] at h
        rw [← h.1]
        exact ⟨.of_eq rfl rfl, fun _ => rfl⟩
      · rw [Option.some.injEq, Prod.mk.injEq] at h
        rw [← h.1]
        exact ⟨.refl s, fun _ => rfl⟩

theorem clears_start {call : IngressCall} {s t : SandboxOperationIngress}
    {p : IngressProgram (Except String Unit)}
    (h : (ingressSystem json).start call s = some (t, p)) : Clears s t := by
  have hstart := Option.some.inj h
  rw [Prod.mk.injEq] at hstart
  rw [← hstart.1]
  exact .of_eq rfl rfl

/-- Every delivery reads and inserts by what it has claimed. -/
abbrev ByClaims (x : IngressPool × List Claimed) : Prop :=
  System.Noted noteClaim (fun _ => ByClaim) x

abbrev claimStep (json : JsonLines) (x : IngressPool × List Claimed) :=
  (ingressSystem json).stepNoting noteClaim none x

theorem recordedBytes_step {x y : IngressPool × List Claimed}
    {input : IngressInput}
    {out : List IngressStepEvent}
    (hx : ByClaims x) (hstep : claimStep json x input = some (y, out))
    (sandboxInstanceId operationId : Text) : Effect x y sandboxInstanceId operationId := by
  rcases System.stepNoting_step hstep with ⟨hpool, hnotes⟩
  rcases x with ⟨⟨s, calls⟩, notes⟩
  rcases y with ⟨⟨t, calls'⟩, notes'⟩
  dsimp only at hpool hnotes
  cases input with
  | outside event =>
      rcases System.step_outside hpool with ⟨t', ht, hy, _⟩
      rw [Pool.mk.injEq] at hy
      rw [hy.1, hnotes]
      exact (clears_outside ht).effect rfl
  | start call =>
      rcases System.step_start hpool with ⟨t', p, ht, hy, _⟩
      rw [Pool.mk.injEq] at hy
      rw [hy.1, hnotes]
      refine (clears_start ht).effect ?_
      show ((notes ++ [none]).map _).sum = _
      rw [List.map_append, List.sum_append]
      rfl
  | advance n answer =>
      rcases System.step_advance hpool with ⟨call, op, next, t', r, hcall, hperform, hy, _⟩
      rw [Pool.mk.injEq] at hy
      rcases hx.perform hcall with ⟨m, hm, hclaim⟩
      rw [System.notesAfter_advance hcall hperform] at hnotes
      rw [hy.1, hnotes]
      cases hop : op.ingests with
      | false =>
          rcases clears_perform hperform hop with ⟨hclears, hsame⟩
          refine hclears.effect ?_
          have hsum := sum_map_modify (claimedBytes sandboxInstanceId operationId)
            (fun m => noteClaim m op r) notes hm
          rw [hsame m] at hsum
          exact Nat.add_right_cancel hsum
      | true =>
          rcases IngressOp.ingests_cases hop with ⟨i, stream, line, rfl⟩ | ⟨i, stream, record, rfl⟩
          · have ht : (s.claimRecord json i stream line).1 = t' :=
              congrArg Prod.fst (Option.some.inj hperform)
            have hr : (s.claimRecord json i stream line).2 = r :=
              congrArg Prod.snd (Option.some.inj hperform)
            have hnote : notes[n]? = some none := hclaim ▸ hm
            rw [← ht, ← hr]
            exact effect_claimRecord s i stream line notes n calls calls' hnote _ _
          · have ht : (s.insertSandboxOperationEvent i stream record answer).1 = t' :=
              congrArg Prod.fst (Option.some.inj hperform)
            have hnote : notes[n]? = some (some (i, stream, record)) := hclaim ▸ hm
            rw [← ht]
            exact effect_insert s i stream record answer notes n calls calls' hnote _ _
  | finish n =>
      rcases System.step_finish hpool with ⟨call, result, _, hy, _⟩
      rw [Pool.mk.injEq] at hy
      rw [hy.1, hnotes]
      exact (Clears.refl s).effect rfl

/-! ### A record -/

theorem toBase64_replicate (n : Nat) :
    toBase64 (List.replicate (3 * n) 0) = List.replicate (4 * n) 'A' := by
  induction n with
  | zero => rfl
  | succ n ih =>
      rw [Nat.mul_succ, Nat.mul_succ, List.replicate_succ, List.replicate_succ, List.replicate_succ,
        toBase64, ih, List.replicate_succ, List.replicate_succ, List.replicate_succ,
        List.replicate_succ]
      rfl

theorem fromBase64_replicate (n : Nat) :
    fromBase64 (List.replicate (4 * n) 'A') = List.replicate (3 * n) 0 := by
  induction n with
  | zero => rfl
  | succ n ih =>
      have hgroup : ∀ rest, fromBase64 ('A' :: 'A' :: 'A' :: 'A' :: rest) =
          0 :: 0 :: 0 :: fromBase64 rest := fun _ => rfl
      rw [Nat.mul_succ, Nat.mul_succ, List.replicate_succ, List.replicate_succ, List.replicate_succ,
        List.replicate_succ, hgroup, ih, List.replicate_succ, List.replicate_succ,
        List.replicate_succ]

/-- A record of the transcript, as a document and as a line. -/
def recordFields (payloadBase64 : Text) : Record :=
  [(lit "kind", .str (lit "transcript")), (lit "observedAt", .str (lit "2026-01-01T00:00:00Z")),
    (lit "phase", .null), (lit "stream", .str (lit "stdout")),
    (lit "payloadBase64", .str payloadBase64)]

def recordHead : Text :=
  lit ("\x7b\"kind\":\"transcript\",\"observedAt\":\"2026-01-01T00:00:00Z\",\"phase\":null," ++
    "\"stream\":\"stdout\",\"payloadBase64\":\"")

def recordTail : Text :=
  lit "\"\x7d"

def recordLine (payloadBase64 : Text) : Text :=
  recordHead ++ payloadBase64 ++ recordTail

/-- The text of ASCII bytes, and of JSON the one line. -/
def oneLine (payloadBase64 : Text) : JsonLines where
  decode bytes := bytes.map fun byte => Char.ofNat byte.toNat
  parse line :=
    if line = recordLine payloadBase64 then some (.obj (recordFields payloadBase64)) else none

def zeroRecord (n : Nat) : OperationRecord :=
  .transcript (lit "2026-01-01T00:00:00Z") (List.replicate (3 * n) 0) none none .stdout

theorem parse_recordLine {n : Nat} (hn : 0 < n) :
    parseOperationRecord (oneLine (List.replicate (4 * n) 'A'))
      (recordLine (List.replicate (4 * n) 'A')) = .ok (zeroRecord n) := by
  have hdecode : decodeBase64Payload (List.replicate (4 * n) 'A') =
      .ok (List.replicate (3 * n) 0) := by
    rw [decodeBase64Payload, fromBase64_replicate, toBase64_replicate, List.length_replicate]
    refine if_neg ?_
    rintro (h | h)
    · omega
    · exact h rfl
  have hread : readNonEmptyString (recordFields (List.replicate (4 * n) 'A')) "payloadBase64" =
      .ok (List.replicate (4 * n) 'A') := by
    have hlength : (List.replicate (4 * n) 'A').length ≠ 0 := by
      rw [List.length_replicate]
      omega
    show (if (List.replicate (4 * n) 'A').length = 0 then _ else _) = _
    rw [if_neg hlength]
    rfl
  have hparse : (oneLine (List.replicate (4 * n) 'A')).parse
      (recordLine (List.replicate (4 * n) 'A')) =
        some (.obj (recordFields (List.replicate (4 * n) 'A'))) := if_pos rfl
  rw [parseOperationRecord, hparse]
  show (readNonEmptyString (recordFields (List.replicate (4 * n) 'A')) "payloadBase64" >>= _) = _
  rw [hread]
  show (decodeBase64Payload (List.replicate (4 * n) 'A') >>= _) = _
  rw [hdecode]
  rfl

theorem recordLine_ascii (n : Nat) :
    ∀ c ∈ recordLine (List.replicate n 'A'), c.toNat < 128 ∧ c ≠ '\n' := by
  have hhead : (recordHead.all fun c => decide (c.toNat < 128 ∧ c ≠ '\n')) = true := by decide
  have htail : (recordTail.all fun c => decide (c.toNat < 128 ∧ c ≠ '\n')) = true := by decide
  intro c hc
  rcases List.mem_append.mp hc with hc | hc
  · rcases List.mem_append.mp hc with hc | hc
    · exact of_decide_eq_true (List.all_eq_true.mp hhead c hc)
    · rw [(List.mem_replicate.mp hc).2]
      decide
  · exact of_decide_eq_true (List.all_eq_true.mp htail c hc)

theorem utf8ByteLength_recordLine (n : Nat) :
    utf8ByteLength (recordLine (List.replicate n 'A')) = n + 107 := by
  have hhead : (recordHead.map Char.utf8Size).sum = 105 := by decide
  have htail : (recordTail.map Char.utf8Size).sum = 2 := by decide
  rw [utf8ByteLength, recordLine, List.map_append, List.map_append, List.map_replicate,
    List.sum_append, List.sum_append, List.sum_replicate_nat, hhead, htail,
    show Char.utf8Size 'A' = 1 from rfl]
  omega

/-- The frame of a line on the operation stream. -/
def lineFrame (line : Text) : List UInt8 :=
  [1, 255, 255, 255, 253, 1] ++ line.map fun c => .ofNat c.toNat

theorem decodeDataFrame_lineFrame (line : Text) :
    SessionProtocol.decodeDataFrame (lineFrame line) = .ok
      { frameKind := SessionProtocol.dataFrameKindData
        streamId := operationStreamId
        payloadKind := SessionProtocol.payloadKindRawBytes
        payload := line.map fun c => .ofNat c.toNat } := by
  have hlength : ¬ (lineFrame line).length < SessionProtocol.dataFrameHeaderByteLength := by
    rw [lineFrame, List.length_append]
    exact Nat.not_lt_of_le (Nat.le_add_right 6 _)
  have hframe : DataView.getUint8 (lineFrame line) 0 = SessionProtocol.dataFrameKindData := rfl
  have hstream : DataView.getUint32 (lineFrame line) 1 = operationStreamId := by
    show (255 : UInt8).toNat * 2 ^ 24 + (255 : UInt8).toNat * 2 ^ 16 + (255 : UInt8).toNat * 2 ^ 8
      + (253 : UInt8).toNat = operationStreamId
    decide
  have hkind : DataView.getUint8 (lineFrame line) 5 = SessionProtocol.payloadKindRawBytes := rfl
  have hid : SessionProtocol.validateStreamId (.int operationStreamId) = .ok operationStreamId := by
    decide
  have hpayload : SessionProtocol.validatePayloadKind (.int SessionProtocol.payloadKindRawBytes) =
      .ok SessionProtocol.payloadKindRawBytes := by
    decide
  rw [SessionProtocol.decodeDataFrame, if_neg hlength]
  simp only [hframe, hstream, hkind, hid, hpayload]
  rfl

def connection : SessionKeyInput where
  relaySessionId := lit "relay-1"
  sandboxInstanceId := lit "sbi_1"

def operationOpen : OperationOpen where
  streamId := operationStreamId
  operationId := lit "op_1"
  operationKind := .start
  format := operationStreamFormat

/-! ### Whole runs -/

theorem byClaims_step {x y : IngressPool × List Claimed}
    {input : IngressInput}
    {out : List IngressStepEvent}
    (hstep : claimStep json x input = some (y, out)) (hx : ByClaims x) : ByClaims y := by
  refine System.everyNoting_step (fun call s t p h => ?_) (fun _ _ _ _ h => ?_) hstep hx
  · have hstart := Option.some.inj h
    rw [Prod.mk.injEq] at hstart
    rw [← hstart.2]
    exact handleDelivery_claims _ _ _
  · rw [show (ingressSystem json).again _ _ = none from rfl] at h
    exact absurd h (by simp only [reduceCtorEq, not_false_eq_true])

/-- What holds behind a trace: the count is within the budget, and where no bytes were
    counted after it was dropped, so is what is recorded, which the count still covers
    unless it was dropped. -/
structure Within (json : JsonLines) (sandboxInstanceId operationId : Text) (trace : IngressTrace)
    (x : IngressPool × List Claimed) : Prop where
  claims : ByClaims x
  counted : countedFor x sandboxInstanceId operationId
    ≤ maxPersistedTranscriptBytesPerOperation
  recorded : CountsOnlyUndropped json trace (toOperationKey sandboxInstanceId operationId) →
    recordedBytes x sandboxInstanceId operationId ≤ maxPersistedTranscriptBytesPerOperation
  covered : CountsOnlyUndropped json trace (toOperationKey sandboxInstanceId operationId) →
    ¬ Dropped json trace (toOperationKey sandboxInstanceId operationId) →
    recordedBytes x sandboxInstanceId operationId
      ≤ countedFor x sandboxInstanceId operationId

theorem Within.snoc {sandboxInstanceId operationId : Text} {trace : IngressTrace}
    {x y : IngressPool × List Claimed}
    {input : IngressInput}
    {out : List IngressStepEvent}
    (hrun : (ingressSystem json).Runs ingressPool trace x.1)
    (hstep : claimStep json x input = some (y, out))
    (hx : Within json sandboxInstanceId operationId trace x) :
    Within json sandboxInstanceId operationId (trace ++ [⟨input, out⟩]) y := by
  have hpool : (ingressSystem json).step x.1 input = some (y.1, out) :=
    (System.stepNoting_step hstep).1
  rcases recordedBytes_step hx.claims hstep sandboxInstanceId operationId with ⟨heffect, hmax⟩
  have hcounted := hx.counted
  have hcovered : CountsOnlyUndropped json (trace ++ [⟨input, out⟩])
        (toOperationKey sandboxInstanceId operationId) →
      ¬ Dropped json (trace ++ [⟨input, out⟩]) (toOperationKey sandboxInstanceId operationId) →
      recordedBytes y sandboxInstanceId operationId
        ≤ countedFor y sandboxInstanceId operationId := by
    intro hcounts hdropped
    have hbefore := hx.covered hcounts.init fun h => hdropped (h.append _)
    rcases heffect with ⟨hrecorded, hkept | hnone⟩ | ⟨n, hpos, hcount, hrecorded⟩
    · omega
    · -- A count that was there would have been dropped in this step.
      have hzero : ¬ 0 < countedFor x sandboxInstanceId operationId :=
        fun hpos => hdropped ⟨trace, input, out, [], x.1, y.1, rfl, hrun, hpool, hpos, hnone⟩
      omega
    · omega
  refine ⟨byClaims_step hstep hx.claims, by omega, fun hcounts => ?_, hcovered⟩
  by_cases hdropped : Dropped json trace (toOperationKey sandboxInstanceId operationId)
  · -- Nothing is counted any more, so nothing more is recorded.
    have hraise : ¬ countedFor x sandboxInstanceId operationId <
        countedFor y sandboxInstanceId operationId :=
      fun hlt => hcounts trace input out [] x.1 y.1 rfl hrun hpool hlt hdropped
    have hbefore := hx.recorded hcounts.init
    rcases heffect with ⟨hrecorded, _⟩ | ⟨n, hpos, hcount, _⟩
    · omega
    · omega
  · have hbefore := hx.covered hcounts.init hdropped
    rcases heffect with ⟨hrecorded, _⟩ | ⟨n, hpos, hcount, hrecorded⟩
    · omega
    · omega

/-- What is persisted of an operation's transcript stays within the budget in every run
    that counts no bytes for the operation after its count was dropped. -/
theorem transcript_within_budget (json : JsonLines) {trace : IngressTrace} {pool : IngressPool}
    (hrun : (ingressSystem json).Runs ingressPool trace pool) (sandboxInstanceId operationId : Text)
    (hcounts : CountsOnlyUndropped json trace (toOperationKey sandboxInstanceId operationId)) :
    persistedTranscriptBytes pool.shared sandboxInstanceId operationId
      ≤ maxPersistedTranscriptBytesPerOperation := by
  rcases hrun.noting noteClaim none [] with ⟨notes, hnoting⟩
  have hwithin : Within json sandboxInstanceId operationId trace (pool, notes) := by
    refine hnoting.history (P := Within json sandboxInstanceId operationId) ?_
      fun trace a input out b hbefore ha hab =>
        Within.snoc (System.Runs.of_noting hbefore) hab ha
    have hnone : recordedBytes (ingressPool, []) sandboxInstanceId operationId = 0 := rfl
    refine ⟨⟨rfl, fun n call m p hcall => absurd hcall ?_⟩, Nat.zero_le _, fun _ => ?_,
      fun _ _ => ?_⟩
    · rw [show (ingressPool, ([] : List Claimed)).1.calls = [] from rfl, List.getElem?_nil]
      simp only [reduceCtorEq, not_false_eq_true]
    · rw [hnone]
      exact Nat.zero_le _
    · rw [hnone]
      exact Nat.zero_le _
  exact Nat.le_trans (Nat.le_add_right _ _) (hwithin.recorded hcounts)

/-- A step that does not drop the bytes counted for an operation. -/
def keepsCount (json : JsonLines) (operationKey : Text) (pool : IngressPool)
    (input : IngressInput) : Bool :=
  match (ingressSystem json).step pool input with
  | none => true
  | some (next, _) =>
    decide (¬ (0 < pool.shared.countedBytes operationKey ∧
      next.shared.countedBytes operationKey = 0))

/-- A stream is opened and a record written on it. -/
def recordInputs : List IngressInput :=
  [.start ⟨connection, .operationOpen operationOpen⟩,
    .start ⟨connection, .operationData (lineFrame (recordLine (lit "AAAA"))) operationStreamId⟩,
    .advance 0 .arrives, .advance 0 .arrives, .advance 0 .arrives, .advance 1 .arrives,
    .advance 0 .arrives, .advance 1 .arrives, .advance 1 .arrives, .advance 1 .arrives,
    .advance 1 .arrives, .finish 0]

theorem countsOnlyUndropped_of_keeps {trace : IngressTrace} {operationKey : Text}
    (h : EveryStep (fun t input out u => (ingressSystem json).step t input = some (u, out))
      ingressPool trace fun t input _ => keepsCount json operationKey t input = true) :
    CountsOnlyUndropped json trace operationKey := by
  intro before input out after t u htrace _ _ _ hdropped
  rcases hdropped with ⟨first, earlier, out', middle, a, b, hbefore, ha, hstep, hpos, hzero⟩
  have hkeeps : keepsCount json operationKey a earlier = true :=
    h first earlier out' (middle ++ ⟨input, out⟩ :: after) a (by
      rw [htrace, hbefore, List.append_assoc, List.cons_append]) ha
  unfold keepsCount at hkeeps
  rw [hstep] at hkeeps
  exact absurd ⟨hpos, hzero⟩ (of_decide_eq_true hkeeps)

/-- A run with one record, which no close comes behind. -/
theorem transcript_within_budget_of_record :
    ∃ trace pool, (ingressSystem (oneLine (lit "AAAA"))).Runs ingressPool trace pool ∧
      persistedTranscriptBytes pool.shared (lit "sbi_1") (lit "op_1") = 3 ∧
      persistedTranscriptBytes pool.shared (lit "sbi_1") (lit "op_1")
        ≤ maxPersistedTranscriptBytesPerOperation := by
  have hexecutes : executesTo (ingressSystem (oneLine (lit "AAAA"))).step ingressPool
      recordInputs (fun _ pool => persistedTranscriptBytes pool.shared (lit "sbi_1") (lit "op_1")
        == 3) = true := by
    decide +kernel
  have hkeeps : stepsPass (ingressSystem (oneLine (lit "AAAA"))).step
      (keepsCount (oneLine (lit "AAAA")) (toOperationKey (lit "sbi_1") (lit "op_1")))
      ingressPool recordInputs = true := by
    decide +kernel
  rcases exists_run_of_stepsPass hexecutes hkeeps with ⟨trace, pool, hrun, _, hbytes, hevery⟩
  exact ⟨trace, pool, hrun, beq_iff_eq.mp hbytes,
    transcript_within_budget _ hrun _ _ (countsOnlyUndropped_of_keeps hevery)⟩

/-! ### Too many bytes -/

/-- The service behind the start of a delivery. -/
def started (s : SandboxOperationIngress) : SandboxOperationIngress :=
  { s with
    deliveries := s.deliveries + 1
    deliveryChains :=
      Function.update s.deliveryChains (toSessionKey connection) (some s.deliveries) }

/-- The service behind the end of a delivery that no other waits for. -/
def ended (s : SandboxOperationIngress) (delivery : Nat) : SandboxOperationIngress :=
  { s with
    settled := delivery :: s.settled
    deliveryChains := Function.update s.deliveryChains (toSessionKey connection) none }

/-- A delivery that has the service for itself. -/
theorem exists_runs_of_delivery {delivery : OperationDelivery} {s t u : SandboxOperationIngress}
    {r : Processed} (answers : List StatementAnswer)
    (hchain : s.deliveryChains (toSessionKey connection) = none)
    (hprocess : (started s).processDelivery json connection delivery = (t, r))
    (hgoOn : (ingressSystem json).alone ⟨connection, delivery⟩
      (goOn connection.sandboxInstanceId r) answers t = some (u, .ok ()))
    (hkept : u.deliveryChains (toSessionKey connection) = some s.deliveries)
    (calls : IngressCalls) :
    ∃ trace calls', (ingressSystem json).Runs ⟨s, calls⟩ trace ⟨ended u s.deliveries, calls'⟩ := by
  have hstart : (ingressSystem json).start ⟨connection, delivery⟩ s =
      some (started s, handleDelivery connection.sandboxInstanceId s.deliveries none) := by
    show some (started s, handleDelivery connection.sandboxInstanceId s.deliveries
      (s.deliveryChains (toSessionKey connection))) = _
    rw [hchain]
  have hunchain : performIngress json ⟨connection, delivery⟩ .arrives
      { u with settled := s.deliveries :: u.settled } (.unchain s.deliveries) =
        some (ended u s.deliveries, ()) := if_pos hkept
  have hprevious : performIngress json ⟨connection, delivery⟩ .arrives (started s)
      (.previousSettles none) = some (started s, ()) := by
    rw [performIngress, if_pos]
    intro previous h
    exact absurd h (by simp only [Option.mem_def, reduceCtorEq, not_false_eq_true])
  have halone : (ingressSystem json).alone ⟨connection, delivery⟩
      (handleDelivery connection.sandboxInstanceId s.deliveries none)
      (.arrives :: .arrives :: (answers ++ [.arrives, .arrives])) (started s) =
        some (ended u s.deliveries, .ok ()) :=
    System.alone_perform hprevious (System.alone_perform (congrArg some hprocess)
      (System.alone_bind hgoOn (System.alone_perform rfl (System.alone_perform hunchain rfl))))
  rcases System.exists_runs_of_alone hstart halone calls with ⟨trace, hrun⟩
  exact ⟨trace, _, hrun⟩

/-- No stream of the connection is open and nothing is counted for the operation. -/
structure Idle (s : SandboxOperationIngress) : Prop where
  chain : s.deliveryChains (toSessionKey connection) = none
  session : s.sessions (toSessionKey connection) = none
  counted : s.countedBytes (toOperationKey (lit "sbi_1") (lit "op_1")) = 0

/-- The operation's stream is open on the connection, with a window. -/
structure Streaming (s : SandboxOperationIngress) (ref window : Nat) : Prop where
  chain : s.deliveryChains (toSessionKey connection) = none
  session : s.sessions (toSessionKey connection) = some ref
  object : ref < s.sessionObjects.length
  streams : ∃ stream, (s.object ref).streamsById = [stream] ∧
    stream.streamId = operationStreamId ∧ stream.operationId = lit "op_1" ∧
    stream.operationKind = .start ∧ window ≤ stream.remainingWindowBytes

theorem object_setObject {s : SandboxOperationIngress} {ref : Nat}
    (h : ref < s.sessionObjects.length) (session : BootstrapOperationSession) :
    (s.setObject ref session).object ref = session := by
  rw [object, setObject, List.getD_eq_getElem?_getD, List.getElem?_set_self h, Option.getD_some]

theorem update_chain (s : SandboxOperationIngress) (delivery : Nat) :
    (ended s delivery).deliveryChains (toSessionKey connection) = none := by
  simp only [ended, Function.update_self]

theorem exists_open {s : SandboxOperationIngress} (hs : Idle s)
    (calls : IngressCalls) :
    ∃ trace t calls' ref, (ingressSystem json).Runs ⟨s, calls⟩ trace ⟨t, calls'⟩ ∧
      Streaming t ref defaultStreamWindowBytes ∧
      t.countedBytes (toOperationKey (lit "sbi_1") (lit "op_1")) = 0 ∧
      t.sandboxOperationEvents = s.sandboxOperationEvents := by
  have hsession : (started s).sessionForOpen connection =
      ({ started s with sessionObjects := s.sessionObjects ++ [BootstrapOperationSession.new] },
        s.sessionObjects.length) := by
    rw [sessionForOpen, show (started s).sessions (toSessionKey connection) = none from hs.session]
    rfl
  let fresh : SandboxOperationIngress :=
    { started s with sessionObjects := s.sessionObjects ++ [BootstrapOperationSession.new] }
  let stream : ActiveBootstrapOperationStream :=
    { consumedSinceLastWindowGrantBytes := 0
      operationId := lit "op_1"
      operationKind := .start
      remainingWindowBytes := defaultStreamWindowBytes
      streamId := operationStreamId }
  have hobject : fresh.object s.sessionObjects.length = .new := by
    show (s.sessionObjects ++ [BootstrapOperationSession.new]).getD _ _ = _
    rw [List.getD_eq_getElem?_getD, List.getElem?_append_right (Nat.le_refl _), Nat.sub_self]
    rfl
  have hopened : BootstrapOperationSession.new.openStream operationOpen =
      .ok { BootstrapOperationSession.new with streamsById := [stream] } := by
    decide
  let opened : SandboxOperationIngress :=
    ({ fresh.setObject s.sessionObjects.length
        { BootstrapOperationSession.new with streamsById := [stream] } with
      sessions := Function.update s.sessions (toSessionKey connection)
        (some s.sessionObjects.length)
      }).sendControlMessage connection (.openOk operationStreamId defaultStreamWindowBytes)
  have hprocess : (started s).processDelivery json connection (.operationOpen operationOpen) =
      (opened, .done) := by
    rw [processDelivery, handleOpen, hsession]
    show (fresh.openIn connection operationOpen s.sessionObjects.length, _) = _
    rw [openIn, hobject, hopened]
    rfl
  have hlength : s.sessionObjects.length < fresh.sessionObjects.length := by
    show _ < (s.sessionObjects ++ [BootstrapOperationSession.new]).length
    rw [List.length_append]
    exact Nat.lt_succ_self _
  rcases exists_runs_of_delivery [] hs.chain hprocess rfl
    (Function.update_self (toSessionKey connection) _ s.deliveryChains) calls
    with ⟨trace, calls', hrun⟩
  refine ⟨trace, _, calls', s.sessionObjects.length, hrun, ⟨update_chain _ _,
    Function.update_self (toSessionKey connection) _ s.sessions, ?_, stream, ?_, rfl, rfl, rfl,
    Nat.le_refl _⟩, hs.counted, rfl⟩
  · show _ < (fresh.sessionObjects.set _ _).length
    rw [List.length_set]
    exact hlength
  · show ((fresh.setObject s.sessionObjects.length _).object _).streamsById = _
    rw [object_setObject hlength]

section

variable {session : BootstrapOperationSession} {stream : ActiveBootstrapOperationStream}

theorem stream?_one (hstreams : session.streamsById = [stream])
    (hid : stream.streamId = operationStreamId) :
    session.stream? operationStreamId = some stream := by
  rw [BootstrapOperationSession.stream?, findRow, hstreams, List.find?_cons_of_pos]
  exact decide_eq_true hid

theorem updateRows_one (hid : stream.streamId = operationStreamId)
    (update : ActiveBootstrapOperationStream → ActiveBootstrapOperationStream) :
    updateRows (fun other => other.streamId == operationStreamId) update [stream] =
      [update stream] := by
  rw [updateRows, List.map_cons, List.map_nil, if_pos (beq_iff_eq.mpr hid)]

theorem consumeWindow_one (hstreams : session.streamsById = [stream])
    (hid : stream.streamId = operationStreamId) {payloadByteLength : Nat}
    (hwindow : payloadByteLength ≤ stream.remainingWindowBytes) :
    ∃ consumed, session.consumeWindow payloadByteLength operationStreamId =
        ({ session with streamsById := [consumed] }, .ok consumed) ∧
      consumed.streamId = operationStreamId ∧ consumed.operationId = stream.operationId ∧
      consumed.operationKind = stream.operationKind := by
  rw [BootstrapOperationSession.consumeWindow, stream?_one hstreams hid]
  dsimp only
  rw [if_neg (Nat.not_lt_of_le hwindow), hstreams, updateRows_one hid]
  exact ⟨_, rfl, hid, rfl, rfl⟩

theorem grantWindowIfNeeded_one (hstreams : session.streamsById = [stream])
    (hid : stream.streamId = operationStreamId) :
    ∃ granted message, session.grantWindowIfNeeded operationStreamId =
        ({ session with streamsById := [granted] }, message) ∧
      granted.streamId = operationStreamId ∧ granted.operationId = stream.operationId ∧
      granted.operationKind = stream.operationKind := by
  rw [BootstrapOperationSession.grantWindowIfNeeded, stream?_one hstreams hid]
  dsimp only
  split
  · refine ⟨stream, none, ?_, hid, rfl, rfl⟩
    rw [← hstreams]
  · rw [hstreams, updateRows_one hid]
    exact ⟨_, _, rfl, hid, rfl, rfl⟩

theorem closeStream_one (hstreams : session.streamsById = [stream])
    (hid : stream.streamId = operationStreamId) :
    session.closeStream operationStreamId = ({ session with streamsById := [] }, some stream) := by
  rw [BootstrapOperationSession.closeStream, stream?_one hstreams hid, hstreams,
    List.filter_cons_of_neg, List.filter_nil]
  rw [hid, bne_self_eq_false]
  exact Bool.false_ne_true

end

/-- A record that is within the budget. -/
theorem claimRecord_zeroRecord {n : Nat} (hpos : 0 < n)
    (hline : 4 * n + 107 ≤ maxOperationRecordBytes) {s : SandboxOperationIngress}
    {stream : ActiveBootstrapOperationStream} {operationKey : Text}
    (hkey : toOperationKey (lit "sbi_1") stream.operationId = operationKey)
    (hcounted : s.countedBytes operationKey + 3 * n ≤ maxPersistedTranscriptBytesPerOperation) :
    s.claimRecord (oneLine (List.replicate (4 * n) 'A')) (lit "sbi_1") stream
      (recordLine (List.replicate (4 * n) 'A')) =
        ({ s with
            persistedTranscriptBytesByOperation :=
              Function.update s.persistedTranscriptBytesByOperation operationKey
                (some (s.countedBytes operationKey + 3 * n)) }, .ok (some (zeroRecord n))) := by
  have hbytes : (zeroRecord n).transcriptBytes = 3 * n := List.length_replicate
  have hsize : ¬ utf8ByteLength (recordLine (List.replicate (4 * n) 'A')) >
      maxOperationRecordBytes := by
    rw [utf8ByteLength_recordLine]
    omega
  rw [claimRecord, if_neg hsize, parse_recordLine hpos]
  dsimp only
  rw [hkey, hbytes, if_pos (by omega), if_neg (by omega)]

/-- A frame with one record of the transcript, within the budget. -/
theorem exists_data {n ref : Nat} {s : SandboxOperationIngress} (hpos : 0 < n)
    (hline : 4 * n + 107 ≤ maxOperationRecordBytes)
    (hcounted : s.countedBytes (toOperationKey (lit "sbi_1") (lit "op_1")) + 3 * n
      ≤ maxPersistedTranscriptBytesPerOperation)
    (hs : Streaming s ref (4 * n + 107))
    (calls : IngressCalls) :
    ∃ trace t calls', (ingressSystem (oneLine (List.replicate (4 * n) 'A'))).Runs ⟨s, calls⟩ trace
        ⟨t, calls'⟩ ∧
      Streaming t ref 0 ∧
      persistedTranscriptBytes t (lit "sbi_1") (lit "op_1") =
        persistedTranscriptBytes s (lit "sbi_1") (lit "op_1") + 3 * n := by
  rcases hs.streams with ⟨stream, hstreams, hid, hoperation, hkind, hwindow⟩
  have hlength : ((recordLine (List.replicate (4 * n) 'A')).map fun c => UInt8.ofNat c.toNat).length
      = 4 * n + 107 := by
    have hhead : recordHead.length = 105 := by decide
    have htail : recordTail.length = 2 := by decide
    rw [List.length_map, recordLine, List.length_append, List.length_append,
      List.length_replicate, hhead, htail]
    omega
  have hdecode : (oneLine (List.replicate (4 * n) 'A')).decode
      ((recordLine (List.replicate (4 * n) 'A')).map fun c => UInt8.ofNat c.toNat) =
        recordLine (List.replicate (4 * n) 'A') := by
    show List.map _ (List.map _ _) = _
    rw [List.map_map]
    refine (List.map_congr_left fun c hc => ?_).trans (List.map_id _)
    have hascii := (recordLine_ascii (4 * n) c hc).1
    show Char.ofNat (UInt8.ofNat c.toNat).toNat = c
    rw [UInt8.toNat_ofNat', Nat.mod_eq_of_lt (by omega), Char.ofNat_toNat]
  have hsplit : (recordLine (List.replicate (4 * n) 'A')).splitOn '\n' =
      [recordLine (List.replicate (4 * n) 'A')] :=
    List.splitOn_eq_singleton fun h => (recordLine_ascii (4 * n) _ h).2 rfl
  have hnonempty : (recordLine (List.replicate (4 * n) 'A')).length > 0 := by
    rw [← List.length_map (f := fun c => UInt8.ofNat c.toNat), hlength]
    omega
  rcases consumeWindow_one hstreams hid (Nat.le_trans (Nat.le_of_eq hlength) hwindow) with
    ⟨consumed, hconsume, hconsumedId, hconsumedOperation, hconsumedKind⟩
  let consuming : SandboxOperationIngress :=
    (started s).setObject ref { s.object ref with streamsById := [consumed] }
  have hprocess : (started s).processDelivery (oneLine (List.replicate (4 * n) 'A')) connection
      (.operationData (lineFrame (recordLine (List.replicate (4 * n) 'A'))) operationStreamId) =
        (consuming, .persisting ref consumed [recordLine (List.replicate (4 * n) 'A')]) := by
    rw [processDelivery, show (started s).sessions (toSessionKey connection) = some ref from
      hs.session]
    dsimp only
    rw [startData, decodeDataFrame_lineFrame]
    dsimp only
    rw [show (started s).object ref = s.object ref from rfl, hconsume]
    dsimp only
    rw [hdecode, hsplit]
    simp only [List.filter_cons, hnonempty, decide_true, if_true, List.filter_nil]
    rfl
  have hobject : ref < (started s).sessionObjects.length := hs.object
  let claimed : SandboxOperationIngress :=
    { consuming with
      persistedTranscriptBytesByOperation := Function.update s.persistedTranscriptBytesByOperation
          (toOperationKey (lit "sbi_1") (lit "op_1"))
          (some (s.countedBytes (toOperationKey (lit "sbi_1") (lit "op_1")) + 3 * n)) }
  have hkey : toOperationKey (lit "sbi_1") consumed.operationId =
      toOperationKey (lit "sbi_1") (lit "op_1") := by
    rw [hconsumedOperation, hoperation]
  have hclaim : consuming.claimRecord (oneLine (List.replicate (4 * n) 'A')) (lit "sbi_1") consumed
      (recordLine (List.replicate (4 * n) 'A')) = (claimed, .ok (some (zeroRecord n))) :=
    claimRecord_zeroRecord hpos hline hkey hcounted
  let inserted : SandboxOperationIngress := claimed.insertRow (lit "sbi_1") consumed (zeroRecord n)
  have hinserted : inserted.object ref = { s.object ref with streamsById := [consumed] } :=
    object_setObject hobject _
  have hinsertedStreams : (inserted.object ref).streamsById = [consumed] := by
    rw [hinserted]
  rcases grantWindowIfNeeded_one hinsertedStreams hconsumedId with
    ⟨granted, message, hgrant, hgrantedId, hgrantedOperation, hgrantedKind⟩
  have hreplenish : ∃ sent, inserted.replenishWindow connection ref operationStreamId =
      { inserted.setObject ref { inserted.object ref with streamsById := [granted] } with
        sent := sent } := by
    rw [replenishWindow, hgrant]
    cases message with
    | none => exact ⟨_, rfl⟩
    | some message => exact ⟨_, rfl⟩
  rcases hreplenish with ⟨sent, hreplenish⟩
  have hgoOn : (ingressSystem (oneLine (List.replicate (4 * n) 'A'))).alone
      ⟨connection, .operationData (lineFrame (recordLine (List.replicate (4 * n) 'A')))
        operationStreamId⟩
      (goOn connection.sandboxInstanceId
        (.persisting ref consumed [recordLine (List.replicate (4 * n) 'A')]))
      ([.arrives, .arrives] ++ [.arrives]) consuming =
        some (inserted.replenishWindow connection ref operationStreamId, .ok ()) := by
    refine System.alone_bind (System.alone_perform (congrArg some hclaim)
      (System.alone_perform rfl rfl)) ?_
    rw [← hconsumedId]
    exact System.alone_perform rfl rfl
  rcases exists_runs_of_delivery _ hs.chain hprocess hgoOn (by
    rw [hreplenish]
    exact Function.update_self (toSessionKey connection) _ s.deliveryChains) calls with
    ⟨trace, calls', hrun⟩
  rw [hreplenish] at hrun
  refine ⟨trace, _, calls', hrun, ⟨update_chain _ _, hs.session, ?_, granted, ?_, hgrantedId, ?_,
    ?_, Nat.zero_le _⟩, ?_⟩
  · show ref < ((s.sessionObjects.set ref _).set ref _).length
    rw [List.length_set, List.length_set]
    exact hs.object
  · have hlast : ref < inserted.sessionObjects.length := by
      show ref < (s.sessionObjects.set ref _).length
      rw [List.length_set]
      exact hs.object
    show ((inserted.setObject ref _).object ref).streamsById = _
    rw [object_setObject hlast]
  · rw [hgrantedOperation, hconsumedOperation, hoperation]
  · rw [hgrantedKind, hconsumedKind, hkind]
  · show persistedTranscriptBytes inserted _ _ = _
    rw [persistedTranscriptBytes_insertRow, claimedBytes, if_pos ⟨rfl, by
      rw [hconsumedOperation, hoperation]⟩]
    exact congrArg _ List.length_replicate

/-- Closing the stream drops the count, and leaves what is persisted. -/
theorem exists_close {ref window : Nat} {s : SandboxOperationIngress} (hs : Streaming s ref window)
    (calls : IngressCalls) :
    ∃ trace t calls', (ingressSystem json).Runs ⟨s, calls⟩ trace ⟨t, calls'⟩ ∧ Idle t ∧
      t.sandboxOperationEvents = s.sandboxOperationEvents := by
  rcases hs.streams with ⟨stream, hstreams, hid, hoperation, _, _⟩
  have hobject : ref < (started s).sessionObjects.length := hs.object
  let emptied : SandboxOperationIngress :=
    (started s).setObject ref { s.object ref with streamsById := [] }
  let closed : SandboxOperationIngress := emptied.clearTranscriptBudget (lit "sbi_1") stream
  have hclose : (started s).closeStream (lit "sbi_1") ref operationStreamId = closed := by
    rw [closeStream, show (started s).object ref = s.object ref from rfl,
      closeStream_one hstreams hid]
    rfl
  have hempty : (closed.object ref).streamCount = 0 := by
    have hclosed : closed.object ref = { s.object ref with streamsById := [] } :=
      object_setObject hobject _
    rw [hclosed]
    rfl
  have hprocess : (started s).processDelivery json connection (.operationClose operationStreamId) =
      (closed.deleteSession (toSessionKey connection), .done) := by
    rw [processDelivery, show (started s).sessions (toSessionKey connection) = some ref from
      hs.session]
    show (((started s).closeStream (lit "sbi_1") ref operationStreamId).deleteSessionIfEmpty _ ref,
      Processed.done) = _
    rw [hclose, deleteSessionIfEmpty, if_pos hempty]
  rcases exists_runs_of_delivery [] hs.chain hprocess rfl
    (Function.update_self (toSessionKey connection) _ s.deliveryChains) calls
    with ⟨trace, calls', hrun⟩
  refine ⟨trace, _, calls', hrun, ⟨update_chain _ _, ?_, ?_⟩, rfl⟩
  · simp only [ended, deleteSession, Function.update_self]
  · show (Function.update s.persistedTranscriptBytesByOperation
      (toOperationKey (lit "sbi_1") stream.operationId) none _).getD 0 = 0
    rw [hoperation, Function.update_self]
    rfl

/-- Opening the stream, writing a record and closing it, over and over. -/
theorem exists_rounds {n : Nat} (hpos : 0 < n) (hline : 4 * n + 107 ≤ maxOperationRecordBytes)
    (rounds : Nat) :
    ∃ trace t calls, (ingressSystem (oneLine (List.replicate (4 * n) 'A'))).Runs ingressPool trace
        ⟨t, calls⟩ ∧
      Idle t ∧ persistedTranscriptBytes t (lit "sbi_1") (lit "op_1") = rounds * (3 * n) := by
  have hline' : 4 * n + 107 ≤ 64 * 1024 := hline
  induction rounds with
  | zero => exact ⟨[], .new, [], .nil, ⟨rfl, rfl, rfl⟩, by rw [Nat.zero_mul]; rfl⟩
  | succ rounds ih =>
      rcases ih with ⟨before, s, calls, hbefore, hs, hbytes⟩
      rcases exists_open hs calls with ⟨opening, t, calls', ref, hopening, ht, hcounted, hopened⟩
      have hwindow : 4 * n + 107 ≤ defaultStreamWindowBytes := by
        rw [defaultStreamWindowBytes]
        omega
      have hstreaming : Streaming t ref (4 * n + 107) := by
        rcases ht.streams with ⟨stream, hstreams, hid, hoperation, hkind, hdefault⟩
        exact ⟨ht.chain, ht.session, ht.object, stream, hstreams, hid, hoperation, hkind,
          Nat.le_trans hwindow hdefault⟩
      have hbudget : t.countedBytes (toOperationKey (lit "sbi_1") (lit "op_1")) + 3 * n
          ≤ maxPersistedTranscriptBytesPerOperation := by
        rw [hcounted, maxPersistedTranscriptBytesPerOperation]
        omega
      rcases exists_data hpos hline hbudget hstreaming calls' with
        ⟨writing, u, calls'', hwriting, hu, hwritten⟩
      rcases exists_close hu calls'' with ⟨closing, v, calls''', hclosing, hv, hclosed⟩
      refine ⟨_, v, calls''', (hbefore.trans hopening).trans (hwriting.trans hclosing), hv, ?_⟩
      have hopenedBytes : persistedTranscriptBytes t (lit "sbi_1") (lit "op_1") =
          persistedTranscriptBytes s (lit "sbi_1") (lit "op_1") := by
        rw [persistedTranscriptBytes, persistedTranscriptBytes, hopened]
      have hclosedBytes : persistedTranscriptBytes v (lit "sbi_1") (lit "op_1") =
          persistedTranscriptBytes u (lit "sbi_1") (lit "op_1") := by
        rw [persistedTranscriptBytes, persistedTranscriptBytes, hclosed]
      rw [hclosedBytes, hwritten, hopenedBytes, hbytes, Nat.add_mul rounds 1,
        Nat.one_mul]

/-- Twenty-two streams of one operation, with 48000 bytes of transcript each. -/
theorem transcript_exceeds_budget :
    ∃ trace pool, (ingressSystem (oneLine (List.replicate (4 * 16000) 'A'))).Runs ingressPool trace
        pool ∧
      ¬ persistedTranscriptBytes pool.shared (lit "sbi_1") (lit "op_1")
        ≤ maxPersistedTranscriptBytesPerOperation := by
  have hline : 4 * 16000 + 107 ≤ maxOperationRecordBytes := by
    rw [maxOperationRecordBytes]
    omega
  rcases exists_rounds (by omega) hline 22 with ⟨trace, t, calls, hrun, _, hbytes⟩
  refine ⟨trace, ⟨t, calls⟩, hrun, ?_⟩
  rw [hbytes, maxPersistedTranscriptBytesPerOperation]
  omega

end OperationIngress

end Mistle
