import Mistle.Gateway.CredentialKey
import Mistle.Lib.Program
import Mistle.Lib.Text
import Mathlib.Data.List.Dedup
import Mathlib.Data.List.Sort

/-!
# The Credential Cache

Credentials are kept in a cache of single keys, each with the time it expires at. For an
integration connection there is one more value, the index of the keys that are kept for
it, so that all of them can be deleted when the connection is authorized anew. The index
is read and written back like any other value. Requests of several calls come between
each other, so what a call writes back may be older than what it replaces.

A call is a program of `get`, `set` and `delete`. The deletes of an invalidation are sent
at once and happen in any order.

## Main definitions

* `CacheOp`, `CacheValue`: The operations of the cache and its values.
* `CredentialCache.set`, `CredentialCache.getWithResult`,
  `CredentialCache.invalidateIntegrationConnection`: The calls.
* `credentialCacheSystem`: Calls for one connection on one cache.

## Theorems

* `toCacheKey_ne_indexKey`: An entry and an index are never kept under the same key.
-/

namespace Mistle

inductive CachedCredential where
  | value (value : String) (expiresAt : Option String)
  | awsSession (accessKeyId secretAccessKey sessionToken expiresAt : String)

def CachedCredential.expiresAt : CachedCredential → Option String
  | .value _ expiresAt => expiresAt
  | .awsSession _ _ _ expiresAt => some expiresAt

structure CredentialCacheRecord where
  credential : CachedCredential
  expiresAtMs : Int

/-- What a key of the cache holds: a credential, or the index of a connection. -/
inductive CacheValue where
  | record (record : CredentialCacheRecord)
  | index (keys : List String)

/-- The settings of the cache. `dateParse` is `Date.parse`, with `none` for a text that
    is no date. -/
structure CredentialCacheConfig where
  defaultTtlSeconds : Nat
  refreshSkewSeconds : Nat
  dateParse : String → Option Int

structure IntegrationConnectionKey where
  testEnvironmentId : Option String
  connectionId : String

def toConnectionIndexKey (connection : IntegrationConnectionKey) : String :=
  "gateway-egress-credential-index:" ++ String.intercalate ":"
    [connection.testEnvironmentId.getD "", "integration_connection", connection.connectionId]

def toConnectionIndexKeyForCacheKey (input : CredentialCacheKeyInput) : Option String :=
  match input.resolver with
  | .integrationConnection connectionId _ _ _ =>
    some (toConnectionIndexKey ⟨input.testEnvironmentId, connectionId⟩)
  | _ => none

/-- `none` where the expiry timestamp is invalid. -/
def resolveExpiryMs (config : CredentialCacheConfig) (credential : CachedCredential) (nowMs : Nat) :
    Option Int :=
  match credential.expiresAt with
  | none => some (nowMs + config.defaultTtlSeconds * 1000)
  | some expiresAt => config.dateParse expiresAt

/-- The operations of the cache. `deleteOneOf` is the next of several deletes that were
    sent together. -/
inductive CacheOp where
  | get (key : String)
  | set (key : String) (value : CacheValue) (ttlMs : Option Int)
  | delete (key : String)
  | deleteOneOf (keys : List String)

/-- What an operation answers. A call that has got a value goes on to look at the clock. -/
abbrev CacheOp.Res : CacheOp → Type
  | .get _ => Option CacheValue × Nat
  | .set _ _ _ => Unit
  | .delete _ => Unit
  | .deleteOneOf _ => String

inductive CredentialCacheResult where
  | hit (credential : CachedCredential)
  | miss
  | refreshSkewExpired
  | stored
  | invalidated (deletedEntryCount : Nat)
  /-- The call throws, at a date or a value that cannot be read. -/
  | failed

abbrev CacheProgram := Program CacheOp CacheOp.Res CredentialCacheResult

/-- An index that was read, with none as an empty one. -/
def parseCredentialIndex : Option CacheValue → Option (List String)
  | none => some []
  | some (.index keys) => some keys
  | some (.record _) => none

/-- Keys in the order of their code units. -/
def sortKeys (keys : List String) : List String :=
  keys.insertionSort fun a b => toJs a ≤ toJs b

/-- `#addToConnectionIndex` with the index of the connection. -/
def addToIndex (indexKey cacheKey : String) (result : CredentialCacheResult) : CacheProgram :=
  .perform (.get indexKey) fun found =>
    match parseCredentialIndex found.1 with
    | none => .done .failed
    | some indexKeys =>
      if cacheKey ∈ indexKeys then .done result
      else .perform (.set indexKey (.index (sortKeys (indexKeys ++ [cacheKey]))) none)
        fun _ => .done result

/-- `#removeFromConnectionIndex` with the index of the connection. -/
def removeFromIndex (indexKey cacheKey : String) (result : CredentialCacheResult) : CacheProgram :=
  .perform (.get indexKey) fun found =>
    match found.1 with
    | none => .done result
    | some (.record _) => .done .failed
    | some (.index indexKeys) =>
      let nextIndexKeys := indexKeys.filter fun key => key ≠ cacheKey
      if nextIndexKeys = [] then .perform (.delete indexKey) fun _ => .done result
      else .perform (.set indexKey (.index nextIndexKeys) none) fun _ => .done result

def addToConnectionIndex (input : CredentialCacheKeyInput) (cacheKey : String)
    (result : CredentialCacheResult) : CacheProgram :=
  match toConnectionIndexKeyForCacheKey input with
  | none => .done result
  | some indexKey => addToIndex indexKey cacheKey result

def removeFromConnectionIndex (input : CredentialCacheKeyInput) (cacheKey : String)
    (result : CredentialCacheResult) : CacheProgram :=
  match toConnectionIndexKeyForCacheKey input with
  | none => .done result
  | some indexKey => removeFromIndex indexKey cacheKey result

/-- `CredentialCache.set`. -/
def CredentialCache.set (config : CredentialCacheConfig) (input : CredentialCacheKeyInput)
    (credential : CachedCredential) (nowMs : Nat) : CacheProgram :=
  let key := toCacheKey input
  match resolveExpiryMs config credential nowMs with
  | none => .done .failed
  | some expiresAtMs =>
    if expiresAtMs ≤ nowMs then
      .perform (.delete key) fun _ => removeFromConnectionIndex input key .stored
    else
      .perform (.set key (.record ⟨credential, expiresAtMs⟩) (some (expiresAtMs - nowMs)))
        fun _ => addToConnectionIndex input key .stored

/-- `CredentialCache.getWithResult`. -/
def CredentialCache.getWithResult (config : CredentialCacheConfig)
    (input : CredentialCacheKeyInput) : CacheProgram :=
  let key := toCacheKey input
  .perform (.get key) fun found =>
    match found.1 with
    | none => .done .miss
    | some (.index _) => .done .failed
    | some (.record entry) =>
      if entry.expiresAtMs - config.refreshSkewSeconds * 1000 ≤ found.2 then
        .perform (.delete key) fun _ => removeFromConnectionIndex input key .refreshSkewExpired
      else .done (.hit entry.credential)

/-- The deletes of an invalidation, and the index last. -/
def deleteKeys (indexKey : String) (deletedEntryCount : Nat) : Nat → List String → CacheProgram
  | 0, _ => .perform (.delete indexKey) fun _ => .done (.invalidated deletedEntryCount)
  | n + 1, keys =>
    .perform (.deleteOneOf keys) fun key =>
      deleteKeys indexKey deletedEntryCount n (keys.erase key)

/-- `CredentialCache.invalidateIntegrationConnection` with the index of the connection. -/
def invalidateIndex (indexKey : String) : CacheProgram :=
  .perform (.get indexKey) fun found =>
    match found.1 with
    | none => .done (.invalidated 0)
    | some (.record _) => .done .failed
    | some (.index indexKeys) =>
      deleteKeys indexKey indexKeys.dedup.length indexKeys.dedup.length indexKeys.dedup

def CredentialCache.invalidateIntegrationConnection (connection : IntegrationConnectionKey) :
    CacheProgram :=
  invalidateIndex (toConnectionIndexKey connection)

/-! ### Calls on one cache -/

inductive CredentialCacheCall where
  | set (input : CredentialCacheKeyInput) (credential : CachedCredential) (nowMs : Nat)
  | getWithResult (input : CredentialCacheKeyInput)
  | invalidateIntegrationConnection

/-- A call with its number, in the order of their starts. -/
structure NumberedCacheCall where
  number : Nat
  call : CredentialCacheCall

/-- A value with the call that wrote it. Only a value with a time to live goes by itself. -/
structure StoredCacheValue where
  value : CacheValue
  ttlMs : Option Int
  writer : Option Nat

structure CredentialCacheState where
  values : String → Option StoredCacheValue
  calls : Nat

/-- What the operations leave open: the time, and which of several deletes is the next. -/
structure CacheChoice where
  nowMs : Nat := 0
  key : String := ""

/-- The cache key input of a call for the connection. -/
def CredentialCacheKeyInput.OfConnection (connection : IntegrationConnectionKey)
    (input : CredentialCacheKeyInput) : Prop :=
  toConnectionIndexKeyForCacheKey input = some (toConnectionIndexKey connection)

instance (connection : IntegrationConnectionKey) (input : CredentialCacheKeyInput) :
    Decidable (input.OfConnection connection) :=
  inferInstanceAs (Decidable (_ = _))

def CredentialCacheCall.OfConnection (connection : IntegrationConnectionKey) :
    CredentialCacheCall → Prop
  | .set input _ _ => input.OfConnection connection
  | .getWithResult input => input.OfConnection connection
  | .invalidateIntegrationConnection => True

instance (connection : IntegrationConnectionKey) (call : CredentialCacheCall) :
    Decidable (call.OfConnection connection) :=
  match call with
  | .set input _ _ => inferInstanceAs (Decidable (input.OfConnection connection))
  | .getWithResult input => inferInstanceAs (Decidable (input.OfConnection connection))
  | .invalidateIntegrationConnection => inferInstanceAs (Decidable True)

def CredentialCacheCall.program (config : CredentialCacheConfig)
    (connection : IntegrationConnectionKey) : CredentialCacheCall → CacheProgram
  | .set input credential nowMs => CredentialCache.set config input credential nowMs
  | .getWithResult input => CredentialCache.getWithResult config input
  | .invalidateIntegrationConnection =>
    CredentialCache.invalidateIntegrationConnection connection

/-- An operation of the call with a number. -/
def CacheOp.perform (number : Nat) (c : CacheChoice) (values : String → Option StoredCacheValue) :
    (op : CacheOp) → Option ((String → Option StoredCacheValue) × op.Res)
  | .get key => some (values, (values key).map StoredCacheValue.value, c.nowMs)
  | .set key value ttlMs =>
    some (Function.update values key (some ⟨value, ttlMs, some number⟩), ())
  | .delete key => some (Function.update values key none, ())
  | .deleteOneOf keys =>
    if c.key ∈ keys then some (Function.update values c.key none, c.key) else none

/-- Outside of the calls, a value whose time to live is over goes. -/
def expireKey (key : String) (values : String → Option StoredCacheValue) :
    Option (String → Option StoredCacheValue) :=
  match values key with
  | some ⟨_, some _, _⟩ => some (Function.update values key none)
  | _ => none

def credentialCacheSystem (config : CredentialCacheConfig)
    (connection : IntegrationConnectionKey) :
    System CredentialCacheState String NumberedCacheCall CacheChoice CredentialCacheResult CacheOp
      CacheOp.Res where
  outside key s := (expireKey key s.values).map fun values => { s with values }
  start i s :=
    if i.number = s.calls ∧ i.call.OfConnection connection then
      some ({ s with calls := s.calls + 1 }, i.call.program config connection)
    else none
  perform i op c s :=
    (op.perform i.number c s.values).map fun (values, r) => ({ s with values }, r)
  again _ _ := none

abbrev CachePool :=
  Pool CredentialCacheState NumberedCacheCall CredentialCacheResult CacheOp CacheOp.Res

abbrev CacheEvent :=
  SystemEvent String NumberedCacheCall CacheChoice CredentialCacheResult CacheOp

abbrev CacheTrace := List (Entry (PoolInput String NumberedCacheCall CacheChoice) CacheEvent)

/-! ### Keys -/

theorem credentialPrefix_ne (parts parts' : String) :
    "gateway-egress-credential:" ++ parts ≠ "gateway-egress-credential-index:" ++ parts' := by
  intro h
  have hentry : "gateway-egress-credential:" = "gateway-egress-credential" ++ ":" := by decide
  have hindex : "gateway-egress-credential-index:" = "gateway-egress-credential" ++ "-index:" := by
    decide
  -- Behind their common beginning the one goes on with a colon and the other with a dash.
  rw [hentry, hindex, String.append_assoc, String.append_assoc, String.append_right_inj] at h
  have hlist := congrArg String.toList h
  rw [String.toList_append, String.toList_append,
    show (":" : String).toList = [':'] from by decide,
    show ("-index:" : String).toList = ['-', 'i', 'n', 'd', 'e', 'x', ':'] from by decide] at hlist
  exact absurd (List.head_eq_of_cons_eq hlist) (by decide)

/-- An entry and an index are never kept under the same key. -/
theorem toCacheKey_ne_indexKey (input : CredentialCacheKeyInput)
    (connection : IntegrationConnectionKey) : toCacheKey input ≠ toConnectionIndexKey connection :=
  credentialPrefix_ne _ _

end Mistle
