import Mathlib.Data.Finset.Card
import Mistle.Lib.InsertionMap
import Mistle.SessionProtocol.DataFrame

/-!
# The Bindings of a Tunnel Session

The gateway multiplexes the streams of its clients onto one tunnel. A binding ties
a client's stream to a stream of the tunnel and is looked up from both sides, so
it is kept in two maps, and a third map counts the bindings of each client. Other
parts of the gateway reserve streams of the tunnel without binding them.

The maps change together: what an operation removes from one it removes from the
other, by the client's key and by the stream id that the binding itself holds.
Stream ids are handed out by a counter that only moves up, which is what keeps
them apart over the whole life of a session, released ones included. The search
for an id that is not taken never has to skip one. The counter is a natural number
here, as it is in the source for the first `2 ^ 53` ids.

## Main definitions

* `SandboxTunnelSession`: The maps, the counts, the reserved ids and the counter.
* `allocateTunnelStreamId`: The first id from the counter on that is not taken.
* `TunnelSessionOperation`, `SandboxTunnelSession.perform`: The operations, with the ids
  that they hand out.
* `Represents`: What the collections of a session say about each other.

## Theorems

* `SandboxTunnelSession.Sound.perform`: Every operation keeps the collections sound.
* `represents_of_operations`: After any operations the collections agree, and no id was
  handed out twice.
-/

namespace Mistle

namespace Gateway

open SessionProtocol (JsNumber)

/-- The kinds of stream channels. -/
inductive StreamChannelKind where
  | agent
  | processes
  | fileUpload
  | exec
  | fileSearch
  deriving DecidableEq

structure ClientStreamBinding where
  channelKind : StreamChannelKind
  clientSessionId : String
  clientStreamId : JsNumber
  tunnelStreamId : Nat
  deriving DecidableEq

def toClientBindingKey (clientSessionId : String) (clientStreamId : JsNumber) : String :=
  s!"{clientSessionId}:{clientStreamId}"

/-- The key of a binding. -/
def ClientStreamBinding.key (binding : ClientStreamBinding) : String :=
  toClientBindingKey binding.clientSessionId binding.clientStreamId

structure SandboxTunnelSession where
  maxBindingCount : Option Nat
  bindingsByClientKey : InsertionMap String ClientStreamBinding
  bindingsByTunnelStreamId : InsertionMap Nat ClientStreamBinding
  bindingCountsByClientSessionId : InsertionMap String Nat
  reservedTunnelStreamIds : Finset Nat
  nextTunnelStreamId : Nat

namespace SandboxTunnelSession

def new (maxBindingCount : Option Nat) : SandboxTunnelSession where
  maxBindingCount
  bindingsByClientKey := .empty
  bindingsByTunnelStreamId := .empty
  bindingCountsByClientSessionId := .empty
  reservedTunnelStreamIds := ∅
  nextTunnelStreamId := 1

/-- The loop over the ids that are taken. -/
def skipTaken (taken : Finset Nat) (nextTunnelStreamId : Nat) : Nat :=
  if nextTunnelStreamId ∈ taken then skipTaken taken (nextTunnelStreamId + 1)
  else nextTunnelStreamId
  termination_by (taken.filter (nextTunnelStreamId ≤ ·)).card
  decreasing_by
    -- The id that is skipped is one less to come.
    rename_i htaken
    refine Finset.card_lt_card (Finset.ssubset_iff_of_subset ?_ |>.mpr ?_)
    · intro id hid
      rw [Finset.mem_filter] at hid ⊢
      exact ⟨hid.1, by omega⟩
    · refine ⟨nextTunnelStreamId, ?_, ?_⟩
      · rw [Finset.mem_filter]
        exact ⟨htaken, Nat.le_refl _⟩
      · rw [Finset.mem_filter]
        omega

theorem skipTaken_of_notMem {taken : Finset Nat} {id : Nat} (h : id ∉ taken) :
    skipTaken taken id = id := by
  rw [skipTaken, if_neg h]

/-- The id that is handed out, and the session with its counter behind it. -/
def allocateTunnelStreamId (session : SandboxTunnelSession) : Nat × SandboxTunnelSession :=
  let taken := session.bindingsByTunnelStreamId.keys.toFinset ∪ session.reservedTunnelStreamIds
  let tunnelStreamId := skipTaken taken session.nextTunnelStreamId
  (tunnelStreamId, { session with nextTunnelStreamId := tunnelStreamId + 1 })

inductive BindError where
  | invalidClientStreamId
  | bindingLimitExceeded (maxBindingCount : Nat)
  | bindingExists (clientSessionId : String) (clientStreamId : JsNumber)
  deriving DecidableEq

def BindError.message : BindError → String
  | .invalidClientStreamId => "Client stream id must be a positive integer."
  | .bindingLimitExceeded maxBindingCount =>
    s!"Bootstrap tunnel session already has the maximum {maxBindingCount} active interactive stream bindings."
  | .bindingExists clientSessionId clientStreamId =>
    s!"Client stream binding already exists for session '{clientSessionId}' stream {clientStreamId}."

/-- `Number.isInteger(n) && n > 0` -/
def isPositiveInteger : JsNumber → Bool
  | .int n => 0 < n
  | .frac _ => false

/-- Add a binding to both maps and count it. -/
def addBinding (session : SandboxTunnelSession) (binding : ClientStreamBinding) :
    SandboxTunnelSession :=
  { session with
    bindingsByClientKey := session.bindingsByClientKey.set binding.key binding
    bindingsByTunnelStreamId :=
      session.bindingsByTunnelStreamId.set binding.tunnelStreamId binding
    bindingCountsByClientSessionId :=
      session.bindingCountsByClientSessionId.set binding.clientSessionId
        ((session.bindingCountsByClientSessionId.get? binding.clientSessionId).getD 0 + 1) }

def bindClientStream (session : SandboxTunnelSession) (channelKind : StreamChannelKind)
    (clientSessionId : String) (clientStreamId : JsNumber) :
    Except BindError (ClientStreamBinding × SandboxTunnelSession) :=
  if !isPositiveInteger clientStreamId then .error .invalidClientStreamId
  else
    match session.maxBindingCount.filter (session.bindingsByTunnelStreamId.size ≥ ·) with
    | some maxBindingCount => .error (.bindingLimitExceeded maxBindingCount)
    | none =>
      if session.bindingsByClientKey.has (toClientBindingKey clientSessionId clientStreamId) then
        .error (.bindingExists clientSessionId clientStreamId)
      else
        let (tunnelStreamId, session) := session.allocateTunnelStreamId
        let binding := { channelKind, clientSessionId, clientStreamId, tunnelStreamId }
        .ok (binding, session.addBinding binding)

def reserveTunnelStream (session : SandboxTunnelSession) : Nat × SandboxTunnelSession :=
  let (tunnelStreamId, session) := session.allocateTunnelStreamId
  (tunnelStreamId, { session with
    reservedTunnelStreamIds := insert tunnelStreamId session.reservedTunnelStreamIds })

def releaseReservedTunnelStream (session : SandboxTunnelSession) (tunnelStreamId : Nat) :
    Bool × SandboxTunnelSession :=
  (tunnelStreamId ∈ session.reservedTunnelStreamIds, { session with
    reservedTunnelStreamIds := session.reservedTunnelStreamIds.erase tunnelStreamId })

def getBindingByClientStream (session : SandboxTunnelSession) (clientSessionId : String)
    (clientStreamId : JsNumber) : Option ClientStreamBinding :=
  session.bindingsByClientKey.get? (toClientBindingKey clientSessionId clientStreamId)

def getBindingByTunnelStreamId (session : SandboxTunnelSession) (tunnelStreamId : Nat) :
    Option ClientStreamBinding :=
  session.bindingsByTunnelStreamId.get? tunnelStreamId

/-- One binding less of a client; the count is deleted with the last one. -/
def discount (counts : InsertionMap String Nat) (clientSessionId : String) :
    InsertionMap String Nat :=
  let nextBindingCount := (counts.get? clientSessionId).getD 1 - 1
  if nextBindingCount ≤ 0 then counts.delete clientSessionId
  else counts.set clientSessionId nextBindingCount

def unbindClientStream (session : SandboxTunnelSession) (clientSessionId : String)
    (clientStreamId : JsNumber) : Option ClientStreamBinding × SandboxTunnelSession :=
  let clientBindingKey := toClientBindingKey clientSessionId clientStreamId
  match session.bindingsByClientKey.get? clientBindingKey with
  | none => (none, session)
  | some binding =>
    (some binding, { session with
      bindingsByClientKey := session.bindingsByClientKey.delete clientBindingKey
      bindingsByTunnelStreamId :=
        session.bindingsByTunnelStreamId.delete binding.tunnelStreamId
      bindingCountsByClientSessionId :=
        discount session.bindingCountsByClientSessionId binding.clientSessionId })

def releaseAllBindings (session : SandboxTunnelSession) :
    List ClientStreamBinding × SandboxTunnelSession :=
  (session.bindingsByTunnelStreamId.values, { session with
    bindingsByClientKey := .empty
    bindingsByTunnelStreamId := .empty
    bindingCountsByClientSessionId := .empty
    reservedTunnelStreamIds := ∅ })

def releaseClientSessionBindings (session : SandboxTunnelSession) (clientSessionId : String) :
    List ClientStreamBinding × SandboxTunnelSession :=
  let releasedBindings :=
    session.bindingsByTunnelStreamId.values.filter (·.clientSessionId = clientSessionId)
  (releasedBindings, { session with
    bindingsByClientKey :=
      session.bindingsByClientKey.deleteAll (releasedBindings.map ClientStreamBinding.key)
    bindingsByTunnelStreamId :=
      session.bindingsByTunnelStreamId.deleteAll (releasedBindings.map (·.tunnelStreamId))
    bindingCountsByClientSessionId :=
      if releasedBindings.length > 0 then
        session.bindingCountsByClientSessionId.delete clientSessionId
      else session.bindingCountsByClientSessionId })

def bindingCount (session : SandboxTunnelSession) : Nat :=
  session.bindingsByTunnelStreamId.size

end SandboxTunnelSession

inductive TunnelSessionOperation where
  | bind (channelKind : StreamChannelKind) (clientSessionId : String) (clientStreamId : JsNumber)
  | reserve
  | release (tunnelStreamId : Nat)
  | unbind (clientSessionId : String) (clientStreamId : JsNumber)
  | releaseClientSession (clientSessionId : String)
  | releaseAll

/-- The session after an operation, and the ids that were handed out. -/
def SandboxTunnelSession.perform (session : SandboxTunnelSession) :
    TunnelSessionOperation → SandboxTunnelSession × List Nat
  | .bind channelKind clientSessionId clientStreamId =>
    match session.bindClientStream channelKind clientSessionId clientStreamId with
    | .error _ => (session, [])
    | .ok (binding, session) => (session, [binding.tunnelStreamId])
  | .reserve =>
    let (tunnelStreamId, session) := session.reserveTunnelStream
    (session, [tunnelStreamId])
  | .release tunnelStreamId => ((session.releaseReservedTunnelStream tunnelStreamId).2, [])
  | .unbind clientSessionId clientStreamId =>
    ((session.unbindClientStream clientSessionId clientStreamId).2, [])
  | .releaseClientSession clientSessionId =>
    ((session.releaseClientSessionBindings clientSessionId).2, [])
  | .releaseAll => (session.releaseAllBindings.2, [])

/-- The session after operations, and the ids that were handed out, in order. -/
def SandboxTunnelSession.performAll (session : SandboxTunnelSession) :
    List TunnelSessionOperation → SandboxTunnelSession × List Nat
  | [] => (session, [])
  | operation :: operations =>
    let (next, first) := session.perform operation
    let (last, rest) := next.performAll operations
    (last, first ++ rest)

/-- What the collections of a session say about each other. -/
structure Represents (session : SandboxTunnelSession) : Prop where
  client_tunnel : ∀ key binding, session.bindingsByClientKey.get? key = some binding →
    key = binding.key ∧
      session.bindingsByTunnelStreamId.get? binding.tunnelStreamId = some binding
  tunnel_client : ∀ tunnelStreamId binding,
    session.bindingsByTunnelStreamId.get? tunnelStreamId = some binding →
    tunnelStreamId = binding.tunnelStreamId ∧
      session.bindingsByClientKey.get? binding.key = some binding
  client_injective : ∀ key key' binding, session.bindingsByClientKey.get? key = some binding →
    session.bindingsByClientKey.get? key' = some binding → key = key'
  tunnel_injective : ∀ tunnelStreamId tunnelStreamId' binding,
    session.bindingsByTunnelStreamId.get? tunnelStreamId = some binding →
    session.bindingsByTunnelStreamId.get? tunnelStreamId' = some binding →
    tunnelStreamId = tunnelStreamId'
  counts : ∀ clientSessionId,
    (session.bindingCountsByClientSessionId.get? clientSessionId).getD 0
      = session.bindingsByTunnelStreamId.values.countP (·.clientSessionId = clientSessionId)
  counts_pos : ∀ clientSessionId count,
    session.bindingCountsByClientSessionId.get? clientSessionId = some count → 0 < count
  disjoint : ∀ tunnelStreamId ∈ session.reservedTunnelStreamIds,
    session.bindingsByTunnelStreamId.get? tunnelStreamId = none

namespace SandboxTunnelSession

/-- The bindings of a client among the entries by tunnel stream. -/
def countOf (session : SandboxTunnelSession) (clientSessionId : String) : Nat :=
  session.bindingsByTunnelStreamId.entries.countP (·.2.clientSessionId = clientSessionId)

/-- The invariant of a session that has handed out ids: the collections agree, and the counter
    is above everything that was handed out. -/
structure Sound (session : SandboxTunnelSession) (handedOut : List Nat) : Prop where
  clientEntry : ∀ {key binding}, (key, binding) ∈ session.bindingsByClientKey.entries →
    key = binding.key ∧
      (binding.tunnelStreamId, binding) ∈ session.bindingsByTunnelStreamId.entries
  tunnelEntry : ∀ {id binding}, (id, binding) ∈ session.bindingsByTunnelStreamId.entries →
    id = binding.tunnelStreamId ∧ (binding.key, binding) ∈ session.bindingsByClientKey.entries
  counted : ∀ clientSessionId,
    (session.bindingCountsByClientSessionId.get? clientSessionId).getD 0
      = session.countOf clientSessionId
  positive : ∀ {clientSessionId count},
    session.bindingCountsByClientSessionId.get? clientSessionId = some count → 0 < count
  bound_lt : ∀ id ∈ session.bindingsByTunnelStreamId.keys, id < session.nextTunnelStreamId
  reserved_lt : ∀ id ∈ session.reservedTunnelStreamIds, id < session.nextTunnelStreamId
  disjoint : ∀ id ∈ session.reservedTunnelStreamIds, id ∉ session.bindingsByTunnelStreamId.keys
  handedOut_lt : ∀ id ∈ handedOut, id < session.nextTunnelStreamId
  nodup : handedOut.Nodup

variable {session : SandboxTunnelSession} {handedOut : List Nat}

theorem sound_new (maxBindingCount : Option Nat) : (new maxBindingCount).Sound [] where
  clientEntry := fun h => absurd h List.not_mem_nil
  tunnelEntry := fun h => absurd h List.not_mem_nil
  counted := fun _ => rfl
  positive := fun h => absurd h (by simp [new])
  bound_lt := fun _ h => absurd h List.not_mem_nil
  reserved_lt := fun _ h => absurd h (Finset.notMem_empty _)
  disjoint := fun _ h => absurd h (Finset.notMem_empty _)
  handedOut_lt := fun _ h => absurd h List.not_mem_nil
  nodup := List.nodup_nil

theorem Sound.represents (h : session.Sound handedOut) : Represents session where
  client_tunnel := by
    intro key binding hget
    have hentry := h.clientEntry (InsertionMap.get?_eq_some_iff.mp hget)
    exact ⟨hentry.1, InsertionMap.get?_eq_some_iff.mpr hentry.2⟩
  tunnel_client := by
    intro id binding hget
    have hentry := h.tunnelEntry (InsertionMap.get?_eq_some_iff.mp hget)
    exact ⟨hentry.1, InsertionMap.get?_eq_some_iff.mpr hentry.2⟩
  client_injective := by
    intro key key' binding hget hget'
    have hkey := (h.clientEntry (InsertionMap.get?_eq_some_iff.mp hget)).1
    have hkey' := (h.clientEntry (InsertionMap.get?_eq_some_iff.mp hget')).1
    rw [hkey, hkey']
  tunnel_injective := by
    intro id id' binding hget hget'
    have hid := (h.tunnelEntry (InsertionMap.get?_eq_some_iff.mp hget)).1
    have hid' := (h.tunnelEntry (InsertionMap.get?_eq_some_iff.mp hget')).1
    rw [hid, hid']
  counts := by
    intro clientSessionId
    rw [h.counted, countOf, InsertionMap.values, List.countP_map]
    rfl
  counts_pos := fun _ _ hget => h.positive hget
  disjoint := fun id hid => InsertionMap.get?_eq_none_iff.mpr (h.disjoint id hid)

/-- The counter is never at an id that is taken. -/
theorem Sound.allocate (h : session.Sound handedOut) :
    session.allocateTunnelStreamId =
      (session.nextTunnelStreamId,
        { session with nextTunnelStreamId := session.nextTunnelStreamId + 1 }) := by
  have hfree : session.nextTunnelStreamId ∉
      session.bindingsByTunnelStreamId.keys.toFinset ∪ session.reservedTunnelStreamIds := by
    rw [Finset.mem_union, List.mem_toFinset]
    rintro (hbound | hreserved)
    · have hlt := h.bound_lt _ hbound
      omega
    · have hlt := h.reserved_lt _ hreserved
      omega
  unfold allocateTunnelStreamId
  simp only [skipTaken_of_notMem hfree]

/-- An id from the counter was not handed out before. -/
theorem Sound.nodup_append (h : session.Sound handedOut) :
    (handedOut ++ [session.nextTunnelStreamId]).Nodup := by
  refine List.nodup_append.mpr ⟨h.nodup, List.nodup_singleton _, ?_⟩
  intro a ha b hb heq
  have hlt := h.handedOut_lt a ha
  rw [List.mem_singleton] at hb
  omega

theorem Sound.handedOut_append_lt (h : session.Sound handedOut) :
    ∀ id ∈ handedOut ++ [session.nextTunnelStreamId], id < session.nextTunnelStreamId + 1 := by
  intro id hid
  rcases List.mem_append.mp hid with hold | hnew
  · have hlt := h.handedOut_lt id hold
    omega
  · rw [List.mem_singleton] at hnew
    omega

/-- A binding with the next id and a key that is free. -/
theorem Sound.addBinding (h : session.Sound handedOut) {binding : ClientStreamBinding}
    (hkey : binding.key ∉ session.bindingsByClientKey.keys)
    (hid : binding.tunnelStreamId = session.nextTunnelStreamId) :
    ({ session with nextTunnelStreamId := session.nextTunnelStreamId + 1 }.addBinding
      binding).Sound (handedOut ++ [binding.tunnelStreamId]) := by
  have hnew : binding.tunnelStreamId ∉ session.bindingsByTunnelStreamId.keys := by
    intro hmem
    have hlt := h.bound_lt _ hmem
    omega
  have hclient : ∀ {key b}, (key, b) ∈
      (session.bindingsByClientKey.set binding.key binding).entries ↔
        (key, b) ∈ session.bindingsByClientKey.entries ∨ (key = binding.key ∧ b = binding) := by
    intro key b
    rw [InsertionMap.entries_set_of_new hkey, List.mem_append, List.mem_singleton, Prod.mk.injEq]
  have htunnel : ∀ {id b}, (id, b) ∈
      (session.bindingsByTunnelStreamId.set binding.tunnelStreamId binding).entries ↔
        (id, b) ∈ session.bindingsByTunnelStreamId.entries ∨
          (id = binding.tunnelStreamId ∧ b = binding) := by
    intro id b
    rw [InsertionMap.entries_set_of_new hnew, List.mem_append, List.mem_singleton, Prod.mk.injEq]
  refine
    { clientEntry := ?_, tunnelEntry := ?_, counted := ?_, positive := ?_, bound_lt := ?_,
      reserved_lt := ?_, disjoint := ?_, handedOut_lt := ?_, nodup := ?_ }
  · intro key b hmem
    rcases hclient.mp hmem with hold | ⟨hk, hb⟩
    · exact ⟨(h.clientEntry hold).1, htunnel.mpr (.inl (h.clientEntry hold).2)⟩
    · rw [hb]
      exact ⟨hk, htunnel.mpr (.inr ⟨rfl, rfl⟩)⟩
  · intro id b hmem
    rcases htunnel.mp hmem with hold | ⟨hi, hb⟩
    · exact ⟨(h.tunnelEntry hold).1, hclient.mpr (.inl (h.tunnelEntry hold).2)⟩
    · rw [hb]
      exact ⟨hi, hclient.mpr (.inr ⟨rfl, rfl⟩)⟩
  · intro clientSessionId
    unfold SandboxTunnelSession.addBinding countOf
    simp only [InsertionMap.get?_set]
    rw [InsertionMap.entries_set_of_new hnew, List.countP_append]
    have hcounted := h.counted clientSessionId
    unfold countOf at hcounted
    by_cases hsame : clientSessionId = binding.clientSessionId
    · rw [if_pos hsame, ← hsame, Option.getD_some, hcounted]
      simp [hsame]
    · rw [if_neg hsame, hcounted]
      simp [Ne.symm hsame]
  · intro clientSessionId count hget
    unfold SandboxTunnelSession.addBinding at hget
    simp only [InsertionMap.get?_set] at hget
    split at hget
    · injection hget with hget
      omega
    · exact h.positive hget
  · intro id hmem
    rcases InsertionMap.exists_of_mem_keys hmem with ⟨b, hb⟩
    change id < session.nextTunnelStreamId + 1
    rcases htunnel.mp hb with hold | ⟨hi, _⟩
    · have hlt := h.bound_lt id (InsertionMap.mem_keys_of_mem hold)
      omega
    · omega
  · intro id hmem
    have hlt := h.reserved_lt id hmem
    change id < session.nextTunnelStreamId + 1
    omega
  · intro id hmem hbound
    rcases InsertionMap.exists_of_mem_keys hbound with ⟨b, hb⟩
    rcases htunnel.mp hb with hold | ⟨hi, _⟩
    · exact h.disjoint id hmem (InsertionMap.mem_keys_of_mem hold)
    · have hlt := h.reserved_lt id hmem
      omega
  · rw [hid]
    exact h.handedOut_append_lt
  · rw [hid]
    exact h.nodup_append

theorem Sound.bind (h : session.Sound handedOut) (channelKind : StreamChannelKind)
    (clientSessionId : String) (clientStreamId : JsNumber) :
    (session.perform (.bind channelKind clientSessionId clientStreamId)).1.Sound
      (handedOut ++ (session.perform (.bind channelKind clientSessionId clientStreamId)).2) := by
  unfold SandboxTunnelSession.perform bindClientStream
  simp only []
  split
  · rename_i herror
    rw [List.append_nil]
    exact h
  · rename_i binding next hok
    split at hok
    · exact absurd hok (by simp only [reduceCtorEq, not_false_eq_true])
    split at hok
    · exact absurd hok (by simp only [reduceCtorEq, not_false_eq_true])
    split at hok
    · exact absurd hok (by simp only [reduceCtorEq, not_false_eq_true])
    · rename_i hfree
      rw [h.allocate] at hok
      simp only [Except.ok.injEq, Prod.mk.injEq] at hok
      rw [← hok.2, ← hok.1]
      refine h.addBinding ?_ rfl
      rw [← InsertionMap.has_iff]
      exact hfree

theorem Sound.reserve (h : session.Sound handedOut) :
    (session.perform .reserve).1.Sound (handedOut ++ (session.perform .reserve).2) := by
  unfold SandboxTunnelSession.perform reserveTunnelStream
  rw [h.allocate]
  refine
    { clientEntry := h.clientEntry, tunnelEntry := h.tunnelEntry, counted := h.counted,
      positive := h.positive, bound_lt := ?_, reserved_lt := ?_, disjoint := ?_,
      handedOut_lt := h.handedOut_append_lt, nodup := h.nodup_append }
  · intro id hid
    exact Nat.lt_succ_of_lt (h.bound_lt id hid)
  · intro id hid
    change id < session.nextTunnelStreamId + 1
    rcases Finset.mem_insert.mp hid with hnew | hold
    · omega
    · exact Nat.lt_succ_of_lt (h.reserved_lt id hold)
  · intro id hid hbound
    rcases Finset.mem_insert.mp hid with hnew | hold
    · have hlt := h.bound_lt id hbound
      omega
    · exact h.disjoint id hold hbound

theorem Sound.release (h : session.Sound handedOut) (tunnelStreamId : Nat) :
    (session.releaseReservedTunnelStream tunnelStreamId).2.Sound handedOut where
  clientEntry := h.clientEntry
  tunnelEntry := h.tunnelEntry
  counted := h.counted
  positive := h.positive
  bound_lt := h.bound_lt
  reserved_lt := fun id hid => h.reserved_lt id (Finset.mem_of_mem_erase hid)
  disjoint := fun id hid => h.disjoint id (Finset.mem_of_mem_erase hid)
  handedOut_lt := h.handedOut_lt
  nodup := h.nodup

/-- A binding is the only one with its key, and the only one with its id. -/
theorem Sound.eq_of_key (h : session.Sound handedOut) {key key' : String}
    {binding binding' : ClientStreamBinding}
    (hmem : (key, binding) ∈ session.bindingsByClientKey.entries)
    (hmem' : (key', binding') ∈ session.bindingsByClientKey.entries) :
    key = key' ↔ binding.tunnelStreamId = binding'.tunnelStreamId := by
  constructor
  · intro hkey
    rw [InsertionMap.eq_of_mem hmem (hkey ▸ hmem')]
  · intro hid
    have heq := InsertionMap.eq_of_mem (h.clientEntry hmem).2 (hid ▸ (h.clientEntry hmem').2)
    rw [(h.clientEntry hmem).1, (h.clientEntry hmem').1, heq]

/-- The count of a client after one of its bindings was deleted. -/
theorem discount_getD {counts : InsertionMap String Nat} {client : String} (other : String)
    (hpos : 0 < (counts.get? client).getD 0) :
    ((discount counts client).get? other).getD 0
      = if other = client then (counts.get? client).getD 0 - 1
        else (counts.get? other).getD 0 := by
  have hone : (counts.get? client).getD 1 = (counts.get? client).getD 0 := by
    cases hget : counts.get? client with
    | none =>
        rw [hget, Option.getD_none] at hpos
        omega
    | some n => rfl
  unfold discount
  simp only [hone]
  split
  · rw [InsertionMap.get?_delete]
    split
    · rw [Option.getD_none]
      omega
    · rfl
  · rw [InsertionMap.get?_set]
    split
    · rfl
    · rfl

theorem discount_pos {counts : InsertionMap String Nat} {client other : String} {n : Nat}
    (hcounts : ∀ {c n}, counts.get? c = some n → 0 < n)
    (h : (discount counts client).get? other = some n) : 0 < n := by
  unfold discount at h
  simp only [] at h
  split at h
  · rw [InsertionMap.get?_delete] at h
    split at h
    · exact absurd h (by simp only [reduceCtorEq, not_false_eq_true])
    · exact hcounts h
  · rw [InsertionMap.get?_set] at h
    split at h
    · injection h with h
      omega
    · exact hcounts h

theorem Sound.unbind (h : session.Sound handedOut) (clientSessionId : String)
    (clientStreamId : JsNumber) :
    (session.unbindClientStream clientSessionId clientStreamId).2.Sound handedOut := by
  unfold unbindClientStream
  simp only []
  split
  · exact h
  · rename_i binding hget
    have hclient := InsertionMap.get?_eq_some_iff.mp hget
    have htunnel := (h.clientEntry hclient).2
    have hcount := fun client => InsertionMap.countP_delete htunnel
      fun entry => entry.2.clientSessionId = client
    refine
      { clientEntry := ?_, tunnelEntry := ?_, counted := ?_, positive := ?_, bound_lt := ?_,
        reserved_lt := h.reserved_lt, disjoint := ?_, handedOut_lt := h.handedOut_lt,
        nodup := h.nodup }
    · intro key b hmem
      rcases InsertionMap.mem_delete_iff.mp hmem with ⟨hold, hne⟩
      refine ⟨(h.clientEntry hold).1,
        InsertionMap.mem_delete_iff.mpr ⟨(h.clientEntry hold).2, ?_⟩⟩
      exact fun hid => hne ((h.eq_of_key hold hclient).mpr hid)
    · intro id b hmem
      rcases InsertionMap.mem_delete_iff.mp hmem with ⟨hold, hne⟩
      refine ⟨(h.tunnelEntry hold).1,
        InsertionMap.mem_delete_iff.mpr ⟨(h.tunnelEntry hold).2, ?_⟩⟩
      intro hkey
      rw [(h.tunnelEntry hold).1] at hne
      exact hne ((h.eq_of_key (h.tunnelEntry hold).2 hclient).mp hkey)
    · intro client
      have hpos : 0 < (session.bindingCountsByClientSessionId.get?
          binding.clientSessionId).getD 0 := by
        rw [h.counted, countOf]
        exact List.countP_pos_iff.mpr ⟨_, htunnel, by simp⟩
      rw [discount_getD client hpos]
      have hdeleted := hcount client
      have hcounted := h.counted client
      unfold countOf at hcounted ⊢
      split
      · rename_i hsame
        rw [← hsame, hcounted]
        simp only [← hsame, decide_true, if_true] at hdeleted
        simp only []
        omega
      · rename_i hother
        rw [hcounted]
        simp only [Ne.symm hother, decide_false, Bool.false_eq_true, if_false] at hdeleted
        simp only []
        omega
    · intro client n hn
      exact discount_pos (fun hget => h.positive hget) hn
    · intro id hid
      rcases InsertionMap.exists_of_mem_keys hid with ⟨b, hb⟩
      exact h.bound_lt id (InsertionMap.mem_keys_of_mem (InsertionMap.mem_delete_iff.mp hb).1)
    · intro id hid hbound
      rcases InsertionMap.exists_of_mem_keys hbound with ⟨b, hb⟩
      exact h.disjoint id hid
        (InsertionMap.mem_keys_of_mem (InsertionMap.mem_delete_iff.mp hb).1)

theorem Sound.releaseAll (h : session.Sound handedOut) :
    session.releaseAllBindings.2.Sound handedOut where
  clientEntry := fun hmem => absurd hmem List.not_mem_nil
  tunnelEntry := fun hmem => absurd hmem List.not_mem_nil
  counted := fun _ => rfl
  positive := fun hget => absurd hget (by simp [releaseAllBindings])
  bound_lt := fun _ hid => absurd hid List.not_mem_nil
  reserved_lt := fun _ hid => absurd hid (Finset.notMem_empty _)
  disjoint := fun _ hid => absurd hid (Finset.notMem_empty _)
  handedOut_lt := h.handedOut_lt
  nodup := h.nodup

/-- The bindings that a client's release collects. -/
theorem mem_released_iff {clientSessionId : String} {binding : ClientStreamBinding} :
    binding ∈ session.bindingsByTunnelStreamId.values.filter
        (·.clientSessionId = clientSessionId) ↔
      (∃ id, (id, binding) ∈ session.bindingsByTunnelStreamId.entries) ∧
        binding.clientSessionId = clientSessionId := by
  rw [List.mem_filter, InsertionMap.mem_values_iff, decide_eq_true_eq]

theorem length_released (clientSessionId : String) :
    (session.releaseClientSessionBindings clientSessionId).1.length
      = session.countOf clientSessionId := by
  change (session.bindingsByTunnelStreamId.values.filter _).length = _
  rw [← List.countP_eq_length_filter, InsertionMap.values, List.countP_map]
  rfl

theorem Sound.mem_releasedIds_iff (h : session.Sound handedOut) {id : Nat}
    {binding : ClientStreamBinding} {clientSessionId : String}
    (hmem : (id, binding) ∈ session.bindingsByTunnelStreamId.entries) :
    id ∈ (session.releaseClientSessionBindings clientSessionId).1.map (·.tunnelStreamId) ↔
      binding.clientSessionId = clientSessionId := by
  rw [List.mem_map]
  constructor
  · rintro ⟨b, hb, hid⟩
    rcases mem_released_iff.mp hb with ⟨⟨id', hmem'⟩, hclient⟩
    rw [(h.tunnelEntry hmem').1, hid] at hmem'
    rw [InsertionMap.eq_of_mem hmem hmem']
    exact hclient
  · intro hclient
    exact ⟨binding, mem_released_iff.mpr ⟨⟨id, hmem⟩, hclient⟩, (h.tunnelEntry hmem).1.symm⟩

theorem Sound.mem_releasedKeys_iff (h : session.Sound handedOut) {key : String}
    {binding : ClientStreamBinding} {clientSessionId : String}
    (hmem : (key, binding) ∈ session.bindingsByClientKey.entries) :
    key ∈ (session.releaseClientSessionBindings clientSessionId).1.map ClientStreamBinding.key ↔
      binding.clientSessionId = clientSessionId := by
  rw [List.mem_map]
  constructor
  · rintro ⟨b, hb, hkey⟩
    rcases mem_released_iff.mp hb with ⟨⟨id, hmem'⟩, hclient⟩
    have hentry := (h.tunnelEntry hmem').2
    rw [hkey] at hentry
    rw [InsertionMap.eq_of_mem hmem hentry]
    exact hclient
  · intro hclient
    exact ⟨binding, mem_released_iff.mpr ⟨⟨_, (h.clientEntry hmem).2⟩, hclient⟩,
      (h.clientEntry hmem).1.symm⟩

theorem Sound.releaseClientSession (h : session.Sound handedOut) (clientSessionId : String) :
    (session.releaseClientSessionBindings clientSessionId).2.Sound handedOut := by
  have hentries : (session.releaseClientSessionBindings
        clientSessionId).2.bindingsByTunnelStreamId.entries
      = session.bindingsByTunnelStreamId.entries.filter
          fun entry => entry.2.clientSessionId ≠ clientSessionId := by
    change (session.bindingsByTunnelStreamId.deleteAll _).entries = _
    rw [InsertionMap.entries_deleteAll]
    refine List.filter_congr fun entry hentry => ?_
    rw [decide_eq_decide]
    have hreleased : entry.1 ∈
        (session.releaseClientSessionBindings clientSessionId).1.map (·.tunnelStreamId) ↔
          entry.2.clientSessionId = clientSessionId := h.mem_releasedIds_iff hentry
    exact not_congr hreleased
  refine
    { clientEntry := ?_, tunnelEntry := ?_, counted := ?_, positive := ?_, bound_lt := ?_,
      reserved_lt := h.reserved_lt, disjoint := ?_, handedOut_lt := h.handedOut_lt,
      nodup := h.nodup }
  · intro key b hmem
    rcases InsertionMap.mem_deleteAll_iff.mp hmem with ⟨hold, hkept⟩
    refine ⟨(h.clientEntry hold).1,
      InsertionMap.mem_deleteAll_iff.mpr ⟨(h.clientEntry hold).2, ?_⟩⟩
    intro hid
    exact hkept ((h.mem_releasedKeys_iff hold).mpr
      ((h.mem_releasedIds_iff (h.clientEntry hold).2).mp hid))
  · intro id b hmem
    rcases InsertionMap.mem_deleteAll_iff.mp hmem with ⟨hold, hkept⟩
    refine ⟨(h.tunnelEntry hold).1,
      InsertionMap.mem_deleteAll_iff.mpr ⟨(h.tunnelEntry hold).2, ?_⟩⟩
    intro hkey
    exact hkept ((h.mem_releasedIds_iff hold).mpr
      ((h.mem_releasedKeys_iff (h.tunnelEntry hold).2).mp hkey))
  · intro client
    have hrest : (session.releaseClientSessionBindings clientSessionId).2.countOf client
        = if client = clientSessionId then 0 else session.countOf client := by
      rw [countOf, hentries, List.countP_filter]
      split
      · rename_i hsame
        rw [List.countP_eq_zero]
        simp [hsame]
      · rename_i hother
        unfold countOf
        refine List.countP_congr fun entry _ => ?_
        simp only [Bool.and_eq_true, decide_eq_true_eq]
        exact ⟨And.left, fun hclient => ⟨hclient, fun heq => hother (hclient.symm.trans heq)⟩⟩
    rw [hrest]
    change ((if (session.releaseClientSessionBindings clientSessionId).1.length > 0 then
      session.bindingCountsByClientSessionId.delete clientSessionId
      else session.bindingCountsByClientSessionId).get? client).getD 0 = _
    have hcounted := h.counted client
    split
    · rw [InsertionMap.get?_delete]
      split
      · rfl
      · exact hcounted
    · -- A client that had nothing released had nothing counted.
      rename_i hnone
      rw [length_released] at hnone
      split
      · rename_i hsame
        rw [hcounted, hsame]
        omega
      · exact hcounted
  · intro client n hn
    change (if (session.releaseClientSessionBindings clientSessionId).1.length > 0 then
      session.bindingCountsByClientSessionId.delete clientSessionId
      else session.bindingCountsByClientSessionId).get? client = some n at hn
    split at hn
    · rw [InsertionMap.get?_delete] at hn
      split at hn
      · exact absurd hn (by simp only [reduceCtorEq, not_false_eq_true])
      · exact h.positive hn
    · exact h.positive hn
  · intro id hid
    rcases InsertionMap.exists_of_mem_keys hid with ⟨b, hb⟩
    exact h.bound_lt id (InsertionMap.mem_keys_of_mem (InsertionMap.mem_deleteAll_iff.mp hb).1)
  · intro id hid hbound
    rcases InsertionMap.exists_of_mem_keys hbound with ⟨b, hb⟩
    exact h.disjoint id hid
      (InsertionMap.mem_keys_of_mem (InsertionMap.mem_deleteAll_iff.mp hb).1)

/-- Every operation keeps the collections sound, with the ids that it hands out. -/
theorem Sound.perform (h : session.Sound handedOut) (operation : TunnelSessionOperation) :
    (session.perform operation).1.Sound (handedOut ++ (session.perform operation).2) := by
  cases operation with
  | bind channelKind clientSessionId clientStreamId =>
      exact h.bind channelKind clientSessionId clientStreamId
  | reserve => exact h.reserve
  | release tunnelStreamId =>
      rw [SandboxTunnelSession.perform, List.append_nil]
      exact h.release tunnelStreamId
  | unbind clientSessionId clientStreamId =>
      rw [SandboxTunnelSession.perform, List.append_nil]
      exact h.unbind clientSessionId clientStreamId
  | releaseClientSession clientSessionId =>
      rw [SandboxTunnelSession.perform, List.append_nil]
      exact h.releaseClientSession clientSessionId
  | releaseAll =>
      rw [SandboxTunnelSession.perform, List.append_nil]
      exact h.releaseAll

theorem Sound.performAll (operations : List TunnelSessionOperation) :
    ∀ {session : SandboxTunnelSession} {handedOut : List Nat}, session.Sound handedOut →
      (session.performAll operations).1.Sound (handedOut ++ (session.performAll operations).2) := by
  induction operations with
  | nil =>
      intro session handedOut h
      rw [SandboxTunnelSession.performAll, List.append_nil]
      exact h
  | cons operation operations ih =>
      intro session handedOut h
      have hrest := ih (h.perform operation)
      rw [List.append_assoc] at hrest
      exact hrest

end SandboxTunnelSession

/-- After any operations on a new session the collections agree with each other, and the ids
    that were handed out are all different. -/
theorem represents_of_operations (maxBindingCount : Option Nat)
    (operations : List TunnelSessionOperation) :
    Represents ((SandboxTunnelSession.new maxBindingCount).performAll operations).1 ∧
      ((SandboxTunnelSession.new maxBindingCount).performAll operations).2.Nodup := by
  have hsound := SandboxTunnelSession.Sound.performAll operations
    (SandboxTunnelSession.sound_new maxBindingCount)
  rw [List.nil_append] at hsound
  exact ⟨hsound.represents, hsound.nodup⟩

end Gateway

end Mistle
