import Mistle.Integrations.McpConfig
import Mistle.Lib.Fallible

/-!
# The Table of Servers

Setting a value at a path gives the document the value there and leaves what is elsewhere,
unless a date is on the way: the value is then set on the date and never written. Names that
are distinct, and none of which is `__proto__`, make a table that has each server under its
own name, and the config of a server is read as the settings that it has for its transport.

## Main definitions

* `DateOnTheWay`: A path leads through a date.
* `SetsAt`: What setting a value at a path changes.
* `ReadsSettings`: A config is read as the settings of a server.

## Theorems

* `setObjectValueAtPath_ok`: What setting a value changes.
* `readsSettings_createMcpServerConfig`: The config of a server has its settings.
* `look_createMcpConfigValue`: The table has each server under its name.
* `look_createMcpConfigValue_proto`: Nothing of the table is an object under `__proto__`.
-/

namespace Mistle

open Fallible

/-- A path leads through a date. -/
def DateOnTheWay (path : List String) (document : ConfigValue) : Prop :=
  ∃ way, way <+: path ∧ way ≠ path ∧
    ∃ value, document.look way = some (.leaf value) ∧ value.isDate = true

/-! ### Setting a value -/

/-- No date is on the way out of a record but one behind the first key. -/
theorem dateOnTheWay_record {key : String} {rest : List String}
    {fields : List (String × ConfigValue)} :
    DateOnTheWay (key :: rest) (.record fields) ↔
      ∃ child, (ConfigValue.record fields).child? key = some child ∧ DateOnTheWay rest child := by
  constructor
  · rintro ⟨way, hway, hne, value, hlook, hdate⟩
    cases way with
    | nil => exact nomatch hlook
    | cons key' way =>
        rcases List.cons_prefix_cons.mp hway with ⟨hkey, hpre⟩
        rw [KeyTree.look_cons, hkey] at hlook
        rcases Option.bind_eq_some_iff.mp hlook with ⟨child, hchild, hlook⟩
        refine ⟨child, hchild, way, hpre, fun heq => hne ?_, value, hlook, hdate⟩
        rw [hkey, heq]
  · rintro ⟨child, hchild, way, hpre, hne, value, hlook, hdate⟩
    refine ⟨key :: way, List.cons_prefix_cons.mpr ⟨rfl, hpre⟩, ?_, value, ?_, hdate⟩
    · exact fun heq => hne (List.cons.inj heq).2
    · rw [KeyTree.look_cons, hchild]
      exact hlook

theorem dateOnTheWay_date (key : String) (rest : List String) {value : ConfigScalar}
    (h : value.isDate = true) : DateOnTheWay (key :: rest) (.leaf value) :=
  ⟨[], List.nil_prefix, (List.cons_ne_nil _ _).symm, value, rfl, h⟩

theorem not_dateOnTheWay_nil (document : ConfigValue) : ¬ DateOnTheWay [] document := by
  rintro ⟨way, hway, hne, _⟩
  exact hne (List.prefix_nil.mp hway)

/-- An object is a record or a date. -/
theorem isObjectRecord_cases {document : ConfigValue} (h : isObjectRecord document = true) :
    (∃ fields, document = .record fields) ∨
      ∃ value : ConfigScalar, document = .leaf value ∧ value.isDate = true := by
  cases document with
  | leaf value => exact .inr ⟨value, rfl, h⟩
  | node kind fields =>
      cases kind with
      | record => exact .inl ⟨fields, rfl⟩
      | array => exact nomatch h

theorem look_empty {q : List String} (h : q ≠ []) : (ConfigValue.record []).look q = none := by
  cases q with
  | nil => exact absurd rfl h
  | cons key rest => rfl

theorem assertSafeObjectPath_singleton {key : String} (h : assertSafeObjectPath [key] = true) :
    key ∉ forbiddenObjectPathKeys := by
  simpa [assertSafeObjectPath] using h

/-- What setting a value at a path does, in one word: the value is there, or a date on the way
    took it. -/
structure SetsAt (value : ConfigValue) (path : List String) (root after : ConfigValue) :
    Prop where
  safe : ∀ key ∈ path, key ∉ forbiddenObjectPathKeys
  taken : DateOnTheWay path root → ∀ q, after.look q = root.look q
  written : ¬ DateOnTheWay path root → Overwrites .record path value root after

/-- A date that is given a key is written out as before. -/
theorem SetsAt.date {value next : ConfigValue} {key : String} {rest : List String}
    {date : ConfigScalar} (hdate : date.isDate = true)
    (hsafe : ∀ k ∈ key :: rest, k ∉ forbiddenObjectPathKeys) :
    SetsAt value (key :: rest) (.leaf date) ((KeyTree.leaf date).assign key next) where
  safe := hsafe
  taken _ _ := rfl
  written hfree := absurd (dateOnTheWay_date key rest hdate) hfree

/-- Setting a value behind a key that a record has. -/
theorem SetsAt.own {value old next : ConfigValue} {key : String} {rest : List String}
    {fields : List (String × ConfigValue)} (hkey : key ∉ forbiddenObjectPathKeys)
    (hold : (ConfigValue.record fields).child? key = some old) (h : SetsAt value rest old next) :
    SetsAt value (key :: rest) (.record fields) ((ConfigValue.record fields).assign key next) where
  safe := List.forall_mem_cons.mpr ⟨hkey, h.safe⟩
  taken hdate q := by
    rcases dateOnTheWay_record.mp hdate with ⟨child, hchild, hdate⟩
    rw [hold, Option.some.injEq] at hchild
    cases q with
    | nil => rfl
    | cons k q =>
        rw [KeyTree.look_cons, KeyTree.look_cons, ConfigValue.record, KeyTree.child?_assign]
        by_cases hk : k = key
        · rw [if_pos hk, hk]
          rw [ConfigValue.record] at hold
          rw [hold]
          exact h.taken (hchild ▸ hdate) q
        · rw [if_neg hk]
  written hfree := by
    have hsame : ∀ q, ¬ Comparable q rest → old.look q
        = ((ConfigValue.record fields).child? key).bind (KeyTree.look q) := by
      intro q _
      rw [hold]
      rfl
    exact Overwrites.cons hsame (h.written fun hdate =>
      hfree (dateOnTheWay_record.mpr ⟨old, hold, hdate⟩))

/-- Setting a value behind a key that a record lacks. -/
theorem SetsAt.fresh {value next : ConfigValue} {key : String} {rest : List String}
    {fields : List (String × ConfigValue)} (hkey : key ∉ forbiddenObjectPathKeys)
    (hnone : (ConfigValue.record fields).child? key = none)
    (h : SetsAt value rest (.record []) next) :
    SetsAt value (key :: rest) (.record fields) ((ConfigValue.record fields).assign key next) where
  safe := List.forall_mem_cons.mpr ⟨hkey, h.safe⟩
  taken hdate := by
    rcases dateOnTheWay_record.mp hdate with ⟨child, hchild, _⟩
    rw [hnone] at hchild
    exact nomatch hchild
  written _ := by
    have hold : ∀ q, ¬ Comparable q rest → (ConfigValue.record []).look q
        = ((ConfigValue.record fields).child? key).bind (KeyTree.look q) := by
      intro q hq
      rw [hnone, look_empty]
      · rfl
      · intro hnil
        rw [hnil] at hq
        exact hq (.inl List.nil_prefix)
    refine Overwrites.cons hold (h.written ?_)
    · intro hdate
      cases rest with
      | nil => exact not_dateOnTheWay_nil _ hdate
      | cons k rest =>
          rcases dateOnTheWay_record.mp hdate with ⟨child, hchild, _⟩
          exact nomatch hchild

theorem SetsAt.last (value : ConfigValue) {key : String} {root : ConfigValue}
    (hkey : key ∉ forbiddenObjectPathKeys) (hroot : isObjectRecord root = true) :
    SetsAt value [key] root (root.assign key value) := by
  have hsafe : ∀ k ∈ [key], k ∉ forbiddenObjectPathKeys := List.forall_mem_singleton.mpr hkey
  rcases isObjectRecord_cases hroot with ⟨fields, hfields⟩ | ⟨date, hleaf, hdate⟩
  · rw [hfields]
    refine ⟨hsafe, fun hdate => ?_, fun _ => Overwrites.single _ _ _ _⟩
    rcases dateOnTheWay_record.mp hdate with ⟨child, _, hdate⟩
    exact absurd hdate (not_dateOnTheWay_nil child)
  · rw [hleaf]
    exact SetsAt.date hdate hsafe

theorem property_own {library : DocumentLibrary} {root value : ConfigValue} {key : String}
    (h : library.property root key = .own value) : root.child? key = some value := by
  unfold DocumentLibrary.property at h
  cases hchild : root.child? key with
  | some child =>
      rw [hchild] at h
      rw [PropertyValue.own.inj h]
  | none =>
      rw [hchild] at h
      grind

theorem property_undefined {library : DocumentLibrary} {root : ConfigValue} {key : String}
    (h : library.property root key = .undefined) : root.child? key = none := by
  unfold DocumentLibrary.property at h
  cases hchild : root.child? key with
  | some child =>
      rw [hchild] at h
      exact nomatch h
  | none => rfl

/-- Setting a value changes what is at the path and nothing else, or nothing where a date is on
    the way. -/
theorem setObjectValueAtPath_ok {library : DocumentLibrary} {value : ConfigValue}
    {message : String} {path : List String} {root after : ConfigValue}
    (hroot : isObjectRecord root = true)
    (h : setObjectValueAtPath library value message path root = .ok after) :
    SetsAt value path root after := by
  induction path generalizing root after with
  | nil => exact nomatch h
  | cons firstKey remainingPath ih =>
      rw [setObjectValueAtPath] at h
      by_cases hsafe : assertSafeObjectPath [firstKey] = true
      · rw [if_pos hsafe] at h
        have hkey := assertSafeObjectPath_singleton hsafe
        by_cases hlast : remainingPath = []
        · rw [if_pos hlast] at h
          rw [hlast, ← Except.ok.inj h]
          exact SetsAt.last value hkey hroot
        · rw [if_neg hlast] at h
          rcases isObjectRecord_cases hroot with ⟨fields, hfields⟩ | ⟨date, hleaf, hdate⟩
          · rw [hfields] at h ⊢
            cases hproperty : library.property (.record fields) firstKey with
            | inherited =>
                rw [hproperty] at h
                exact nomatch h
            | undefined =>
                rw [hproperty] at h
                rcases bind_ok_iff.mp h with ⟨next, hnext, hafter⟩
                rw [← Except.ok.inj hafter]
                exact (ih rfl hnext).fresh hkey (property_undefined hproperty)
            | own existingValue =>
                rw [hproperty] at h
                dsimp only at h
                by_cases hobject : isObjectRecord existingValue = true
                · rw [if_pos hobject] at h
                  rcases bind_ok_iff.mp h with ⟨next, hnext, hafter⟩
                  rw [← Except.ok.inj hafter]
                  exact (ih hobject hnext).own hkey (property_own hproperty)
                · rw [if_neg hobject] at h
                  exact nomatch h
          · rw [hleaf] at h ⊢
            cases hproperty : library.property (.leaf date) firstKey with
            | inherited =>
                rw [hproperty] at h
                exact nomatch h
            | undefined =>
                rw [hproperty] at h
                rcases bind_ok_iff.mp h with ⟨next, hnext, hafter⟩
                rw [← Except.ok.inj hafter]
                exact SetsAt.date hdate (List.forall_mem_cons.mpr ⟨hkey, (ih rfl hnext).safe⟩)
            | own existingValue => exact nomatch property_own hproperty
      · rw [if_neg hsafe] at h
        exact nomatch h

/-! ### The table -/

/-- All leaves of a document are texts. -/
def AllTexts (document : ConfigValue) : Prop :=
  ∀ path value, document.look path = some (.leaf value) → ∃ text, value = .text text

theorem allTexts_text (s : String) : AllTexts (.text s) := by
  intro path value hlook
  cases path with
  | nil =>
      rw [KeyTree.look_nil, Option.some.injEq] at hlook
      exact ⟨s, (Reading.leaf.inj hlook).symm⟩
  | cons key rest => exact nomatch hlook

theorem mem_of_child? {kind : ConfigNode} {fields : List (String × ConfigValue)} {key : String}
    {child : ConfigValue} (h : (KeyTree.node kind fields).child? key = some child) :
    (key, child) ∈ fields := by
  rcases Option.map_eq_some_iff.mp h with ⟨⟨k, v⟩, hfind, hv⟩
  have hk : k = key := by simpa using List.find?_some hfind
  rw [← hk, ← hv]
  exact List.mem_of_find?_eq_some hfind

theorem allTexts_node {kind : ConfigNode} {fields : List (String × ConfigValue)}
    (h : ∀ entry ∈ fields, AllTexts entry.2) : AllTexts (.node kind fields) := by
  intro path value hlook
  cases path with
  | nil => exact nomatch hlook
  | cons key rest =>
      rw [KeyTree.look_cons] at hlook
      rcases Option.bind_eq_some_iff.mp hlook with ⟨child, hchild, hlook⟩
      exact h (key, child) (mem_of_child? hchild) rest value hlook

theorem mem_array {items : List String} {entry : String × ConfigValue}
    (h : entry ∈ (items.map ConfigValue.text).zipIdx.map fun (item, index) => (toString index, item)) :
    ∃ text, entry.2 = .text text := by
  rcases List.mem_map.mp h with ⟨⟨item, index⟩, hmem, rfl⟩
  rcases List.mem_map.mp (List.fst_mem_of_mem_zipIdx hmem) with ⟨text, _, rfl⟩
  exact ⟨text, rfl⟩

/-- A value that has texts only and no object within another. -/
inductive Flat : ConfigValue → Prop
  | text (s : String) : Flat (ConfigValue.text s)
  | node (kind : ConfigNode) (fields : List (String × ConfigValue))
      (h : ∀ entry ∈ fields, ∃ s, entry.2 = .text s) : Flat (.node kind fields)

theorem flat_array (items : List String) : Flat (.array (items.map ConfigValue.text)) :=
  .node _ _ fun _ hentry => mem_array hentry

theorem flat_spreadRecord (record : InsertionMap String String) : Flat (spreadRecord record) := by
  refine .node _ _ fun entry hentry => ?_
  rcases List.mem_map.mp hentry with ⟨⟨key, text⟩, _, rfl⟩
  exact ⟨text, rfl⟩

theorem Flat.allTexts {value : ConfigValue} (h : Flat value) : AllTexts value := by
  cases h with
  | text s => exact allTexts_text s
  | node kind fields hfields =>
      refine allTexts_node fun entry hentry => ?_
      rcases hfields entry hentry with ⟨s, hs⟩
      rw [hs]
      exact allTexts_text s

theorem Flat.eq_nil_of_look {value : ConfigValue} (h : Flat value) {path : List String}
    {kind : ConfigNode} (hlook : value.look path = some (.node kind)) : path = [] := by
  cases path with
  | nil => rfl
  | cons key rest =>
      rw [KeyTree.look_cons] at hlook
      rcases Option.bind_eq_some_iff.mp hlook with ⟨child, hchild, hrest⟩
      cases h with
      | text s => exact nomatch hchild
      | node kind' fields hfields =>
          rcases hfields _ (mem_of_child? hchild) with ⟨s, hs⟩
          dsimp only at hs
          rw [hs] at hrest
          cases rest with
          | nil => exact nomatch hrest
          | cons key rest => exact nomatch hrest

/-- What the config of a server is made of. -/
theorem createMcpServerConfig_fields (server : IntegrationMcpServer)
    (format : IntegrationMcpConfigFormat) :
    ∃ fields, createMcpServerConfig server format = .record fields ∧
      ∀ entry ∈ fields, entry.1 ≠ "__proto__" ∧ Flat entry.2 := by
  have hfield : ∀ {α : Type} {key : String} {f : α → ConfigValue} (field : Option α),
      key ≠ "__proto__" → (∀ a, Flat (f a)) →
      ∀ entry ∈ (field.map fun a => (key, f a)).toList, entry.1 ≠ "__proto__" ∧ Flat entry.2 := by
    intro α key f field hkey hflat entry hentry
    rcases Option.map_eq_some_iff.mp (Option.mem_toList.mp hentry) with ⟨a, _, rfl⟩
    exact ⟨hkey, hflat a⟩
  unfold createMcpServerConfig
  cases server.transport with
  | stdio =>
      refine ⟨_, rfl, fun entry hentry => ?_⟩
      rcases List.mem_append.mp hentry with hentry | hentry
      · rcases List.mem_append.mp hentry with hentry | hentry
        · exact hfield _ (by decide) .text entry hentry
        · exact hfield _ (by decide) flat_array entry hentry
      · exact hfield _ (by decide) flat_spreadRecord entry hentry
  | streamableHttp =>
      refine ⟨_, rfl, fun entry hentry => ?_⟩
      rcases List.mem_append.mp hentry with hentry | hentry
      · exact hfield _ (by decide) .text entry hentry
      · refine hfield _ ?_ flat_spreadRecord entry hentry
        cases format with
        | toml => decide
        | json => decide

theorem allTexts_createMcpServerConfig (server : IntegrationMcpServer)
    (format : IntegrationMcpConfigFormat) : AllTexts (createMcpServerConfig server format) := by
  rcases createMcpServerConfig_fields server format with ⟨fields, hconfig, hfields⟩
  rw [hconfig]
  exact allTexts_node fun entry hentry => (hfields entry hentry).2.allTexts

theorem look_createMcpServerConfig_nil (server : IntegrationMcpServer)
    (format : IntegrationMcpConfigFormat) :
    (createMcpServerConfig server format).look [] = some (.node .record) := by
  rcases createMcpServerConfig_fields server format with ⟨fields, hconfig, _⟩
  rw [hconfig]
  rfl

/-! ### Settings in a config -/

def textReading (text : String) : Reading ConfigScalar ConfigNode := .leaf (.text text)

/-- The key of the headers, which differs between the formats. -/
def headersKey (format : IntegrationMcpConfigFormat) : String :=
  if format = .toml then "http_headers" else "httpHeaders"

/-- What is read of a config is what the server has for its transport. -/
structure ReadsSettings (server : IntegrationMcpServer) (format : IntegrationMcpConfigFormat)
    (config : ConfigValue) : Prop where
  url : server.transport = .streamableHttp → config.look ["url"] = server.url.map textReading
  httpHeaders : server.transport = .streamableHttp → ∀ name,
    config.look [headersKey format, name]
      = (server.httpHeaders.bind fun record => record.get? name).map textReading
  command : server.transport = .stdio → config.look ["command"] = server.command.map textReading
  args : server.transport = .stdio → ∀ index : Nat, config.look ["args", toString index]
    = (server.args.bind fun args => args[index]?).map textReading
  env : server.transport = .stdio → ∀ name, config.look ["env", name]
    = (server.env.bind fun record => record.get? name).map textReading

theorem toString_nat_injective {m n : Nat} (h : toString m = toString n) : m = n := by
  have hdigits : Nat.toDigits 10 m = Nat.toDigits 10 n := by
    rw [← Nat.toList_repr, ← Nat.toList_repr]
    exact congrArg String.toList h
  rw [← Nat.ofDigitChars_ten_toDigits (n := m), hdigits, Nat.ofDigitChars_ten_toDigits]

theorem find?_array (items : List String) (start index : Nat) :
    (((items.map ConfigValue.text).zipIdx start).map fun (item, index) =>
      (toString index, item)).find? (fun entry => entry.1 = toString (start + index))
      = items[index]?.map fun text => (toString (start + index), ConfigValue.text text) := by
  induction items generalizing start index with
  | nil => rfl
  | cons text rest ih =>
      rw [List.map_cons, List.zipIdx_cons, List.map_cons]
      cases index with
      | zero =>
          rw [List.find?_cons_of_pos (by simp)]
          rfl
      | succ index =>
          have hne : toString start ≠ toString (start + (index + 1)) := fun heq =>
            absurd (toString_nat_injective heq) (by omega)
          rw [List.find?_cons_of_neg (by simpa using hne), ← Nat.add_assoc, Nat.add_right_comm, ih]
          rfl

theorem look_array (items : List String) (index : Nat) :
    (ConfigValue.array (items.map ConfigValue.text)).look [toString index]
      = items[index]?.map textReading := by
  have hfind := find?_array items 0 index
  rw [Nat.zero_add] at hfind
  rw [KeyTree.look_singleton, ConfigValue.array, KeyTree.child?, hfind, Option.map_map,
    Option.map_map]
  rfl

theorem look_spreadRecord (record : InsertionMap String String) (name : String) :
    (spreadRecord record).look [name] = (record.get? name).map textReading := by
  have hchild : (spreadRecord record).child? name = (record.mapValues ConfigValue.text).get? name :=
    rfl
  rw [KeyTree.look_singleton, hchild, InsertionMap.get?_mapValues, Option.map_map]
  rfl

/-- The config of a server has its settings. -/
theorem readsSettings_createMcpServerConfig (server : IntegrationMcpServer)
    (format : IntegrationMcpConfigFormat) :
    ReadsSettings server format (createMcpServerConfig server format) where
  url htransport := by
    rw [createMcpServerConfig, htransport, KeyTree.look_singleton]
    cases server.url <;> cases server.httpHeaders <;> cases format <;> rfl
  httpHeaders htransport name := by
    have hchild : (createMcpServerConfig server format).child? (headersKey format)
        = server.httpHeaders.map spreadRecord := by
      rw [createMcpServerConfig, htransport]
      cases server.url <;> cases server.httpHeaders <;> cases format <;> rfl
    rw [KeyTree.look_cons, hchild]
    cases server.httpHeaders with
    | none => rfl
    | some record => exact look_spreadRecord record name
  command htransport := by
    rw [createMcpServerConfig, htransport, KeyTree.look_singleton]
    cases server.command <;> cases server.args <;> cases server.env <;> rfl
  args htransport index := by
    have hchild : (createMcpServerConfig server format).child? "args"
        = server.args.map fun args => ConfigValue.array (args.map ConfigValue.text) := by
      rw [createMcpServerConfig, htransport]
      cases server.command <;> cases server.args <;> cases server.env <;> rfl
    rw [KeyTree.look_cons, hchild]
    cases server.args with
    | none => rfl
    | some args => exact look_array args index
  env htransport name := by
    have hchild : (createMcpServerConfig server format).child? "env"
        = server.env.map spreadRecord := by
      rw [createMcpServerConfig, htransport]
      cases server.command <;> cases server.args <;> cases server.env <;> rfl
    rw [KeyTree.look_cons, hchild]
    cases server.env with
    | none => rfl
    | some record => exact look_spreadRecord record name

/-- No object of a config is under the key `__proto__`. -/
theorem not_mem_of_look_createMcpServerConfig {server : IntegrationMcpServer}
    {format : IntegrationMcpConfigFormat} {path : List String} {kind : ConfigNode}
    (h : (createMcpServerConfig server format).look path = some (.node kind)) :
    "__proto__" ∉ path := by
  rcases createMcpServerConfig_fields server format with ⟨fields, hconfig, hfields⟩
  rw [hconfig] at h
  cases path with
  | nil => exact List.not_mem_nil
  | cons key rest =>
      rw [KeyTree.look_cons] at h
      rcases Option.bind_eq_some_iff.mp h with ⟨child, hchild, hlook⟩
      rcases hfields _ (mem_of_child? hchild) with ⟨hkey, hflat⟩
      rw [hflat.eq_nil_of_look hlook, List.mem_singleton]
      exact hkey.symm

/-! ### The servers of the table -/

/-- The names of servers, in order. -/
def serverNames (mcpServers : List ResolvedIntegrationMcpServer) : List String :=
  mcpServers.map fun mcpServer => mcpServer.server.serverName

theorem get?_setProperty {α : Type} (object : InsertionMap String α) (key other : String)
    (value : α) : (setProperty object key value).get? other
      = if other = key ∧ key ≠ "__proto__" then some value else object.get? other := by
  unfold setProperty
  by_cases hkey : key = "__proto__"
  · rw [if_pos hkey, if_neg fun h => h.2 hkey]
  · rw [if_neg hkey, InsertionMap.get?_set]
    by_cases hother : other = key
    · rw [if_pos hother, if_pos ⟨hother, hkey⟩]
    · rw [if_neg hother, if_neg fun h => hother h.1]

/-- A key of the table is the name of a server, with its config. -/
theorem exists_of_child?_createMcpConfigValue {mcpServers : List ResolvedIntegrationMcpServer}
    {format : IntegrationMcpConfigFormat} {name : String} {config : ConfigValue}
    (h : (createMcpConfigValue mcpServers format).child? name = some config) :
    name ≠ "__proto__" ∧ ∃ mcpServer ∈ mcpServers, mcpServer.server.serverName = name ∧
      config = createMcpServerConfig mcpServer.server format := by
  change InsertionMap.get? (mcpServers.foldl _ _) name = some config at h
  induction mcpServers using List.reverseRecOn with
  | nil => exact nomatch h
  | append_singleton mcpServers mcpServer ih =>
      rw [List.foldl_append, List.foldl_cons, List.foldl_nil, get?_setProperty] at h
      by_cases hname : name = mcpServer.server.serverName ∧
          mcpServer.server.serverName ≠ "__proto__"
      · rw [if_pos hname, Option.some.injEq] at h
        refine ⟨hname.1 ▸ hname.2, mcpServer, ?_, hname.1.symm, h.symm⟩
        exact List.mem_append_right _ List.mem_cons_self
      · rw [if_neg hname] at h
        rcases ih h with ⟨hproto, other, hmem, hother⟩
        exact ⟨hproto, other, List.mem_append_left _ hmem, hother⟩

/-- A server is in the table under its name, unless the name adds no key. -/
theorem child?_createMcpConfigValue_ne_none {mcpServers : List ResolvedIntegrationMcpServer}
    (format : IntegrationMcpConfigFormat) {name : String} (hname : name ∈ serverNames mcpServers)
    (hproto : name ≠ "__proto__") :
    (createMcpConfigValue mcpServers format).child? name ≠ none := by
  change InsertionMap.get? (mcpServers.foldl _ _) name ≠ none
  induction mcpServers using List.reverseRecOn with
  | nil => exact absurd hname List.not_mem_nil
  | append_singleton mcpServers mcpServer ih =>
      rw [List.foldl_append, List.foldl_cons, List.foldl_nil, get?_setProperty]
      by_cases hlast : name = mcpServer.server.serverName
      · rw [if_pos ⟨hlast, hlast ▸ hproto⟩]
        exact Option.some_ne_none _
      · rw [if_neg fun h => hlast h.1]
        refine ih ?_
        rw [serverNames, List.map_append] at hname
        rcases List.mem_append.mp hname with hmem | hmem
        · exact hmem
        · exact absurd (List.mem_singleton.mp hmem) hlast

theorem allTexts_createMcpConfigValue (mcpServers : List ResolvedIntegrationMcpServer)
    (format : IntegrationMcpConfigFormat) :
    AllTexts (createMcpConfigValue mcpServers format) := by
  intro path value hlook
  cases path with
  | nil => exact nomatch hlook
  | cons name rest =>
      rw [KeyTree.look_cons] at hlook
      rcases Option.bind_eq_some_iff.mp hlook with ⟨config, hchild, hlook⟩
      rcases exists_of_child?_createMcpConfigValue hchild with ⟨_, mcpServer, _, _, hconfig⟩
      rw [hconfig] at hlook
      exact allTexts_createMcpServerConfig _ _ rest value hlook

/-- No object of the table is under the key `__proto__`. -/
theorem look_createMcpConfigValue_proto (mcpServers : List ResolvedIntegrationMcpServer)
    (format : IntegrationMcpConfigFormat) (path : List String) (kind : ConfigNode) :
    (createMcpConfigValue mcpServers format).look (path ++ ["__proto__"])
      ≠ some (.node kind) := by
  intro hlook
  have hmem : "__proto__" ∈ path ++ ["__proto__"] :=
    List.mem_append_right _ List.mem_cons_self
  cases hpath : path ++ ["__proto__"] with
  | nil => exact absurd hpath (List.append_ne_nil_of_right_ne_nil _ (List.cons_ne_nil _ _))
  | cons name rest =>
      rw [hpath, KeyTree.look_cons] at hlook
      rw [hpath] at hmem
      rcases Option.bind_eq_some_iff.mp hlook with ⟨config, hchild, hlook⟩
      rcases exists_of_child?_createMcpConfigValue hchild with ⟨hname, mcpServer, _, _, hconfig⟩
      rw [hconfig] at hlook
      rcases List.mem_cons.mp hmem with hmem | hmem
      · exact hname hmem.symm
      · exact not_mem_of_look_createMcpServerConfig hlook hmem

section

variable {mcpServers : List ResolvedIntegrationMcpServer}
variable (hnodup : (serverNames mcpServers).Nodup) (hproto : "__proto__" ∉ serverNames mcpServers)

include hnodup hproto

/-- Names that are distinct make a table that has each server under its own name. -/
theorem look_createMcpConfigValue (format : IntegrationMcpConfigFormat)
    {mcpServer : ResolvedIntegrationMcpServer} (hmem : mcpServer ∈ mcpServers)
    (path : List String) :
    (createMcpConfigValue mcpServers format).look (mcpServer.server.serverName :: path)
      = (createMcpServerConfig mcpServer.server format).look path := by
  have hname : mcpServer.server.serverName ∈ serverNames mcpServers :=
    List.mem_map_of_mem (f := fun s : ResolvedIntegrationMcpServer => s.server.serverName) hmem
  rw [KeyTree.look_cons]
  cases hchild : (createMcpConfigValue mcpServers format).child? mcpServer.server.serverName with
  | none =>
      exact absurd hchild (child?_createMcpConfigValue_ne_none format hname
        fun h => hproto (h ▸ hname))
  | some config =>
      rcases exists_of_child?_createMcpConfigValue hchild with ⟨_, other, hother, hsame, hconfig⟩
      have heq : other = mcpServer := List.inj_on_of_nodup_map hnodup hother hmem hsame
      rw [hconfig, heq]
      rfl

theorem look_createMcpConfigValue_ne_none_iff (format : IntegrationMcpConfigFormat)
    (name : String) :
    (createMcpConfigValue mcpServers format).look [name] ≠ none
      ↔ name ∈ serverNames mcpServers := by
  constructor
  · intro hlook
    rw [KeyTree.look_cons] at hlook
    cases hchild : (createMcpConfigValue mcpServers format).child? name with
    | none => exact absurd (by rw [hchild]; rfl) hlook
    | some config =>
        rcases exists_of_child?_createMcpConfigValue hchild with ⟨_, mcpServer, hmem, hname, _⟩
        rw [← hname]
        exact List.mem_map_of_mem (f := fun s : ResolvedIntegrationMcpServer => s.server.serverName)
          hmem
  · intro hname
    rcases List.mem_map.mp hname with ⟨mcpServer, hmem, rfl⟩
    rw [look_createMcpConfigValue hnodup hproto format hmem, look_createMcpServerConfig_nil]
    exact Option.some_ne_none _

end

end Mistle
