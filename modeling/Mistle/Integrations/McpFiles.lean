import Mistle.Integrations.McpTable

/-!
# Configs of a File

One config replaces what one write replaces, so a file that several configs are for goes
through a chain of writes of the same table. All of them are of one format, as no file can be
read in both. What the file holds at the end is told by the paths of the configs and by the
dates and the numbers of the file at first.

## Main definitions

* `mcpRewriting`: The table of servers as one to be written.
* `HoldsServers`, `SameElsewhere`: What a file should be like when servers were written into it.
* `StaysAt`, `ReadsAsWritten`: When it is.

## Theorems

* `replaceMcpConfigContent_ok`: One config is one write.
* `chain_of_foldlM`: Several configs are a chain of writes.
* `holdsServers_iff`, `sameElsewhere_iff`: What they leave in the file.
* `not_holdsServers_of_missing`: A server that is not in the table is not in the file.
-/

namespace Mistle

open Fallible

variable {library : DocumentLibrary}

/-- The table of servers as one to be written, where dates swallow writes. -/
def mcpRewriting (hlawful : library.Lawful) (mcpServers : List ResolvedIntegrationMcpServer)
    (format : IntegrationMcpConfigFormat) : Rewriting ConfigScalar ConfigNode where
  table := createMcpConfigValue mcpServers format
  onTheWay := .record
  blocks := ConfigScalar.isDate
  reread := library.reread format
  blocks_reread := hlawful.isDate_reread format
  reread_reread := hlawful.reread_reread format
  table_free path value hlook := by
    rcases allTexts_createMcpConfigValue mcpServers format path value hlook with ⟨text, htext⟩
    rw [htext]
    rfl
  reread_eq_table_iff path r := by
    cases htable : (createMcpConfigValue mcpServers format).look path with
    | none => rw [Option.map_eq_none_iff]
    | some reading =>
        cases reading with
        | node kind =>
            rw [Option.map_eq_some_iff]
            constructor
            · rintro ⟨x, hx, hnode⟩
              cases x with
              | leaf value => exact nomatch hnode
              | node kind' => rw [hx, ← hnode]; rfl
            · intro hr
              exact ⟨.node kind, hr, rfl⟩
        | leaf value =>
            rcases allTexts_createMcpConfigValue mcpServers format path value htable with
              ⟨text, htext⟩
            rw [htext, Option.map_eq_some_iff]
            constructor
            · rintro ⟨x, hx, hleaf⟩
              cases x with
              | node kind' => exact nomatch hleaf
              | leaf value' =>
                  rw [hx, (hlawful.reread_eq_text_iff format value' text).mp (Reading.leaf.inj hleaf)]
            · intro hr
              refine ⟨.leaf (.text text), hr, congrArg Reading.leaf ?_⟩
              exact (hlawful.reread_eq_text_iff format _ text).mpr rfl

/-! ### One config -/

/-- A file was read as an object in the format of a config, and written in it. -/
structure ReplacedIn (library : DocumentLibrary) (mcpConfig : IntegrationMcpConfig)
    (content content' : String) (before after : ConfigValue) : Prop where
  parsed : library.parse mcpConfig.format content = some before
  object : isObjectRecord before = true
  reparsed : library.parse mcpConfig.format content' = some after
  written : ∃ document text, isObjectRecord document = true ∧
    library.stringify mcpConfig.format document = some text ∧
    content' = text ++ mcpConfig.format.trailing
  safe : ∀ key ∈ mcpConfig.path, key ∉ forbiddenObjectPathKeys

theorem replaceMcpConfigContent_cases {content content' : String}
    {mcpConfig : IntegrationMcpConfig} {mcpServers : List ResolvedIntegrationMcpServer}
    (h : replaceMcpConfigContent library content mcpConfig mcpServers = .ok content') :
    mcpConfig.path ≠ [] ∧ ∃ formatName documentName, replaceParsedMcpConfig library formatName
      documentName mcpConfig.format content mcpConfig mcpServers = .ok content' := by
  unfold replaceMcpConfigContent at h
  by_cases hpath : mcpConfig.path = []
  · rw [if_pos hpath] at h
    exact nomatch h
  · rw [if_neg hpath] at h
    refine ⟨hpath, ?_⟩
    cases hformat : mcpConfig.format with
    | json =>
        rw [hformat] at h
        exact ⟨_, _, h⟩
    | toml =>
        rw [hformat] at h
        exact ⟨_, _, h⟩

theorem isObjectRecord_of_look {document other : ConfigValue}
    (h : other.look [] = document.look []) (hobject : isObjectRecord document = true) :
    isObjectRecord other = true := by
  rw [KeyTree.look_nil, KeyTree.look_nil, Option.some.injEq] at h
  cases document with
  | leaf value =>
      cases other with
      | leaf value' =>
          rw [Reading.leaf.inj h]
          exact hobject
      | node kind fields => exact nomatch h
  | node kind fields =>
      cases other with
      | leaf value' => exact nomatch h
      | node kind' fields' =>
          cases kind with
          | array => exact nomatch hobject
          | record => rw [Reading.node.inj h]; rfl

/-- A document with the table in it is an object that can be written. -/
theorem SetsAt.object {value root after : ConfigValue} {path : List String}
    (h : SetsAt value path root after) (hpath : path ≠ []) (hroot : isObjectRecord root = true) :
    isObjectRecord after = true := by
  by_cases hdate : DateOnTheWay path root
  · exact isObjectRecord_of_look (h.taken hdate []) hroot
  · have habove : after.look [] = (ConfigValue.record []).look [] :=
      (h.written hdate).above [] List.nil_prefix hpath.symm
    exact isObjectRecord_of_look habove rfl

theorem SetsAt.expressible {value root after : ConfigValue} {path : List String}
    {format : IntegrationMcpConfigFormat} (h : SetsAt value path root after)
    (htexts : AllTexts value) (hroot : Expressible format root) : Expressible format after := by
  intro q leaf hlook
  by_cases hdate : DateOnTheWay path root
  · rw [h.taken hdate] at hlook
    exact hroot q leaf hlook
  · have hwrite := h.written hdate
    by_cases hinside : path <+: q
    · rcases hinside with ⟨rest, hrest⟩
      rw [← hrest, hwrite.inside] at hlook
      rcases htexts rest leaf hlook with ⟨text, htext⟩
      rw [htext]
      cases format with
      | toml => rfl
      | json => rfl
    · by_cases habove : q <+: path
      · have hne : q ≠ path := fun heq => hinside (heq ▸ List.prefix_rfl)
        rw [hwrite.above q habove hne] at hlook
        exact nomatch hlook
      · rw [hwrite.elsewhere q fun hcomparable => hcomparable.elim habove hinside] at hlook
        exact hroot q leaf hlook

/-- One config is one write. -/
theorem replaceMcpConfigContent_ok (hlawful : library.Lawful) {content content' : String}
    {mcpConfig : IntegrationMcpConfig} {mcpServers : List ResolvedIntegrationMcpServer}
    (h : replaceMcpConfigContent library content mcpConfig mcpServers = .ok content') :
    ∃ before after, ReplacedIn library mcpConfig content content' before after ∧
      (mcpRewriting hlawful mcpServers mcpConfig.format).Step mcpConfig.path before after := by
  rcases replaceMcpConfigContent_cases h with ⟨hpath, formatName, documentName, h⟩
  unfold replaceParsedMcpConfig at h
  dsimp only at h
  cases hparse : library.parse mcpConfig.format content with
  | none =>
      rw [hparse] at h
      exact nomatch h
  | some before =>
      rw [hparse] at h
      dsimp only at h
      by_cases hobject : isObjectRecord before = true
      · rw [if_pos hobject] at h
        rcases bind_ok_iff.mp h with ⟨root, hset, h⟩
        have hsets := setObjectValueAtPath_ok hobject hset
        cases hstringify : library.stringify mcpConfig.format root with
        | none =>
            rw [hstringify] at h
            exact nomatch h
        | some text =>
            rw [hstringify] at h
            have hcontent : content' = text ++ mcpConfig.format.trailing := (Except.ok.inj h).symm
            have hexpressible : Expressible mcpConfig.format root :=
              hsets.expressible (allTexts_createMcpConfigValue _ _)
                (hlawful.expressible_of_parse _ _ _ hparse)
            rcases hlawful.parse_stringify _ _ _ hexpressible hstringify with
              ⟨after, hafter, hread⟩
            rw [← hcontent] at hafter
            have hroot := hsets.object hpath hobject
            refine ⟨before, after, ⟨hparse, hobject, hafter, ⟨root, text, hroot, hstringify,
              hcontent⟩, hsets.safe⟩, ?_⟩
            by_cases hdate : DateOnTheWay mcpConfig.path before
            · refine .swallowed hdate fun q => ?_
              rw [hread q, hsets.taken hdate]
              rfl
            · exact .written root hdate (hsets.written hdate) hread
      · rw [if_neg hobject] at h
        exact nomatch h

/-! ### Several configs -/

/-- A file with the tables of several configs written into it. -/
def replaceAllMcpConfigs (library : DocumentLibrary)
    (mcpServers : List ResolvedIntegrationMcpServer) (mcpConfigs : List IntegrationMcpConfig)
    (content : String) : Compiler String :=
  mcpConfigs.foldlM (fun content mcpConfig =>
    replaceMcpConfigContent library content mcpConfig mcpServers) content

theorem replaceAllMcpConfigs_one_iff {mcpServers : List ResolvedIntegrationMcpServer}
    {mcpConfig : IntegrationMcpConfig} {content content' : String} :
    replaceAllMcpConfigs library mcpServers [mcpConfig] content = .ok content' ↔
      replaceMcpConfigContent library content mcpConfig mcpServers = .ok content' := by
  rw [replaceAllMcpConfigs, List.foldlM_cons, bind_ok_iff]
  constructor
  · rintro ⟨written, hwritten, hlast⟩
    rw [← Except.ok.inj hlast]
    exact hwritten
  · intro h
    exact ⟨content', h, rfl⟩

def configPaths (mcpConfigs : List IntegrationMcpConfig) : List (List String) :=
  mcpConfigs.map fun mcpConfig => mcpConfig.path

/-- A file went through a chain of writes, all in one format. -/
structure ChainIn (hlawful : library.Lawful) (mcpServers : List ResolvedIntegrationMcpServer)
    (mcpConfigs : List IntegrationMcpConfig) (format : IntegrationMcpConfigFormat)
    (content content' : String) (first last : ConfigValue) : Prop where
  formats : ∀ mcpConfig ∈ mcpConfigs, mcpConfig.format = format
  parsed : library.parse format content = some first
  reparsed : library.parse format content' = some last
  written : ∃ document text, isObjectRecord document = true ∧
    library.stringify format document = some text ∧ content' = text ++ format.trailing
  safe : ∀ mcpConfig ∈ mcpConfigs, ∀ key ∈ mcpConfig.path, key ∉ forbiddenObjectPathKeys
  chain : (mcpRewriting hlawful mcpServers format).Chain first (configPaths mcpConfigs) last

theorem ChainIn.single {hlawful : library.Lawful} {mcpServers : List ResolvedIntegrationMcpServer}
    {mcpConfig : IntegrationMcpConfig} {content content' : String} {before after : ConfigValue}
    (hreplaced : ReplacedIn library mcpConfig content content' before after)
    (hstep : (mcpRewriting hlawful mcpServers mcpConfig.format).Step mcpConfig.path before after) :
    ChainIn hlawful mcpServers [mcpConfig] mcpConfig.format content content' before after where
  formats := List.forall_mem_singleton.mpr rfl
  parsed := hreplaced.parsed
  reparsed := hreplaced.reparsed
  written := hreplaced.written
  safe := List.forall_mem_singleton.mpr hreplaced.safe
  chain := .snoc .nil hstep

/-- A file that was written in a format is an object in no other. -/
theorem ChainIn.format_eq {hlawful : library.Lawful}
    {mcpServers : List ResolvedIntegrationMcpServer} {mcpConfigs : List IntegrationMcpConfig}
    {format : IntegrationMcpConfigFormat} {mcpConfig : IntegrationMcpConfig}
    {content middle content' : String} {first last before after : ConfigValue}
    (h : ChainIn hlawful mcpServers mcpConfigs format content middle first last)
    (hreplaced : ReplacedIn library mcpConfig middle content' before after) :
    format = mcpConfig.format := by
  rcases h.written with ⟨document, text, hobject, hstringify, hmiddle⟩
  by_contra hne
  have hparsed := hreplaced.parsed
  rw [hmiddle] at hparsed
  have hnone := hlawful.formats_apart _ _ _ _ _ hne hobject hstringify hparsed
  rw [hreplaced.object] at hnone
  exact nomatch hnone

theorem ChainIn.snoc {hlawful : library.Lawful} {mcpServers : List ResolvedIntegrationMcpServer}
    {mcpConfigs : List IntegrationMcpConfig} {format : IntegrationMcpConfigFormat}
    {mcpConfig : IntegrationMcpConfig} {content middle content' : String}
    {first last before after : ConfigValue}
    (h : ChainIn hlawful mcpServers mcpConfigs format content middle first last)
    (hreplaced : ReplacedIn library mcpConfig middle content' before after)
    (hstep : (mcpRewriting hlawful mcpServers mcpConfig.format).Step mcpConfig.path before after) :
    ChainIn hlawful mcpServers (mcpConfigs ++ [mcpConfig]) format content content' first after := by
  have hformat := h.format_eq hreplaced
  have hlast : last = before := by
    have hparsed := hreplaced.parsed
    rw [← hformat, h.reparsed, Option.some.injEq] at hparsed
    exact hparsed
  rw [← hformat, ← hlast] at hstep
  refine ⟨?_, h.parsed, ?_, ?_, ?_, ?_⟩
  · rw [List.forall_mem_append]
    exact ⟨h.formats, List.forall_mem_singleton.mpr hformat.symm⟩
  · rw [hformat]
    exact hreplaced.reparsed
  · rw [hformat]
    exact hreplaced.written
  · rw [List.forall_mem_append]
    exact ⟨h.safe, List.forall_mem_singleton.mpr hreplaced.safe⟩
  · rw [configPaths, List.map_append]
    exact .snoc h.chain hstep

/-- Several configs are a chain of writes. -/
theorem chain_of_foldlM (hlawful : library.Lawful) {mcpServers : List ResolvedIntegrationMcpServer}
    {mcpConfigs : List IntegrationMcpConfig} {content content' : String} (hne : mcpConfigs ≠ [])
    (h : replaceAllMcpConfigs library mcpServers mcpConfigs content = .ok content') :
    ∃ format first last,
      ChainIn hlawful mcpServers mcpConfigs format content content' first last := by
  induction mcpConfigs using List.reverseRecOn generalizing content' with
  | nil => exact absurd rfl hne
  | append_singleton mcpConfigs mcpConfig ih =>
      rcases foldlM_concat_ok_iff.mp h with ⟨middle, hbefore, hlast⟩
      rcases replaceMcpConfigContent_ok hlawful hlast with ⟨before, after, hreplaced, hstep⟩
      by_cases hnil : mcpConfigs = []
      · rw [hnil] at hbefore ⊢
        have hsame : content = middle := Except.ok.inj hbefore
        rw [hsame]
        exact ⟨_, _, _, ChainIn.single hreplaced hstep⟩
      · rcases ih hnil hbefore with ⟨format, first, last, hchain⟩
        exact ⟨format, first, after, hchain.snoc hreplaced hstep⟩

/-! ### What is in the file at the end -/

/-- Each server is read in the file under its name at the path of the config, with its
    settings. -/
def HoldsServers (library : DocumentLibrary) (mcpConfig : IntegrationMcpConfig)
    (mcpServers : List ResolvedIntegrationMcpServer) (content : String) : Prop :=
  ∀ mcpServer ∈ mcpServers, ∃ document, library.parse mcpConfig.format content = some document ∧
    ∀ path, document.look (mcpConfig.path ++ mcpServer.server.serverName :: path)
      = (createMcpServerConfig mcpServer.server mcpConfig.format).look path

/-- What is read away from the paths of the configs is what it was. -/
def SameElsewhere (library : DocumentLibrary) (mcpConfigs : List IntegrationMcpConfig)
    (content content' : String) : Prop :=
  ∀ mcpConfig ∈ mcpConfigs, ∀ before, library.parse mcpConfig.format content = some before →
    ∃ after, library.parse mcpConfig.format content' = some after ∧
      ∀ path, (∀ e ∈ configPaths mcpConfigs, ¬ Comparable path e) →
        after.look path = before.look path

/-- The last config at the path whose way is free of dates is behind every one that comes near
    the servers. -/
def StaysAt (names : List String) (paths : List (List String)) (path : List String)
    (document : ConfigValue) : Prop :=
  ∃ before after, paths = before ++ path :: after ∧
    (∀ way, way <+: path → way ≠ path →
      (∃ value, document.look way = some (.leaf value) ∧ value.isDate = true) →
        ∃ e ∈ before, e <+: way) ∧
    ∀ e ∈ after, ∀ name ∈ names, ¬ Comparable e (path ++ [name])

/-- The leaves away from the paths are read as they were when they are written. -/
def ReadsAsWritten (library : DocumentLibrary) (format : IntegrationMcpConfigFormat)
    (paths : List (List String)) (document : ConfigValue) : Prop :=
  ∀ path value, (∀ e ∈ paths, ¬ Comparable path e) → document.look path = some (.leaf value) →
    library.reread format value = value

theorem StaysAt.congr {names names' : List String} (h : ∀ name, name ∈ names ↔ name ∈ names')
    {paths : List (List String)} {path : List String} {document : ConfigValue} :
    StaysAt names paths path document ↔ StaysAt names' paths path document := by
  unfold StaysAt
  simp only [h]

namespace ChainIn

variable {hlawful : library.Lawful} {mcpServers : List ResolvedIntegrationMcpServer}
variable {mcpConfigs : List IntegrationMcpConfig} {format : IntegrationMcpConfigFormat}
variable {content content' : String} {first last : ConfigValue}
variable {mcpConfig : IntegrationMcpConfig}

theorem reparsed_iff
    (h : ChainIn hlawful mcpServers mcpConfigs format content content' first last)
    (hmem : mcpConfig ∈ mcpConfigs) (document : ConfigValue) :
    library.parse mcpConfig.format content' = some document ↔ document = last := by
  rw [h.formats mcpConfig hmem, h.reparsed, Option.some.injEq, eq_comm]

theorem parsed_iff
    (h : ChainIn hlawful mcpServers mcpConfigs format content content' first last)
    (hmem : mcpConfig ∈ mcpConfigs) (document : ConfigValue) :
    library.parse mcpConfig.format content = some document ↔ document = first := by
  rw [h.formats mcpConfig hmem, h.parsed, Option.some.injEq, eq_comm]

theorem mem_paths (hmem : mcpConfig ∈ mcpConfigs) : mcpConfig.path ∈ configPaths mcpConfigs :=
  List.mem_map_of_mem (f := fun mcpConfig : IntegrationMcpConfig => mcpConfig.path) hmem

/-- Where all servers are in the table, they are in the file exactly where the table stays. -/
theorem holdsServers_iff
    (h : ChainIn hlawful mcpServers mcpConfigs format content content' first last)
    (hnodup : (serverNames mcpServers).Nodup) (hproto : "__proto__" ∉ serverNames mcpServers)
    (hne : mcpServers ≠ []) (hmem : mcpConfig ∈ mcpConfigs) :
    HoldsServers library mcpConfig mcpServers content' ↔
      StaysAt (serverNames mcpServers) (configPaths mcpConfigs) mcpConfig.path first := by
  have hnames : serverNames mcpServers ≠ [] := fun hnil => hne (List.map_eq_nil_iff.mp hnil)
  have hkeeps := Rewriting.Chain.keeps_iff
    (look_createMcpConfigValue_ne_none_iff hnodup hproto format) hnames h.chain (mem_paths hmem)
  refine Iff.trans ?_ hkeeps
  constructor
  · intro hholds name hname path
    rcases List.mem_map.mp hname with ⟨mcpServer, hserver, rfl⟩
    rcases hholds mcpServer hserver with ⟨document, hparse, hlook⟩
    rw [(h.reparsed_iff hmem document).mp hparse, h.formats mcpConfig hmem] at hlook
    rw [hlook]
    exact (look_createMcpConfigValue hnodup hproto format hserver path).symm
  · intro hkeeps mcpServer hserver
    refine ⟨last, (h.reparsed_iff hmem last).mpr rfl, fun path => ?_⟩
    rw [hkeeps _ (List.mem_map_of_mem
      (f := fun s : ResolvedIntegrationMcpServer => s.server.serverName) hserver)]
    rw [h.formats mcpConfig hmem]
    exact look_createMcpConfigValue hnodup hproto format hserver path

/-- A server of the name `__proto__` is in no file. -/
theorem not_holdsServers_of_proto
    (h : ChainIn hlawful mcpServers mcpConfigs format content content' first last)
    (hmem : mcpConfig ∈ mcpConfigs) {all : List ResolvedIntegrationMcpServer}
    (hproto : "__proto__" ∈ serverNames all) : ¬ HoldsServers library mcpConfig all content' := by
  intro hholds
  rcases List.mem_map.mp hproto with ⟨mcpServer, hserver, hname⟩
  rcases hholds mcpServer hserver with ⟨document, hparse, hlook⟩
  have hnode := hlook []
  rw [(h.reparsed_iff hmem document).mp hparse, look_createMcpServerConfig_nil, hname] at hnode
  refine h.chain.look_ne_of_key (fun q => ?_) (fun e he hkey => ?_) (mem_paths hmem) hnode
  · exact look_createMcpConfigValue_proto mcpServers format q .record
  · rcases List.mem_map.mp he with ⟨other, hother, rfl⟩
    exact h.safe other hother _ hkey List.mem_cons_self

/-- What is read elsewhere is what it was exactly where leaves are read as written. -/
theorem sameElsewhere_iff
    (h : ChainIn hlawful mcpServers mcpConfigs format content content' first last)
    (hmem : mcpConfig ∈ mcpConfigs) :
    SameElsewhere library mcpConfigs content content' ↔
      ReadsAsWritten library format (configPaths mcpConfigs) first := by
  have hpaths : configPaths mcpConfigs ≠ [] := List.ne_nil_of_mem (mem_paths hmem)
  have hread : ∀ path, (∀ e ∈ configPaths mcpConfigs, ¬ Comparable path e) →
      last.look path = (first.look path).map (Reading.map (library.reread format)) :=
    fun path hpath => h.chain.look_elsewhere hpaths hpath
  constructor
  · intro hsame path value hpath hlook
    rcases hsame mcpConfig hmem first ((h.parsed_iff hmem first).mpr rfl) with
      ⟨after, hafter, hlooks⟩
    have hleaf := hlooks path hpath
    rw [(h.reparsed_iff hmem after).mp hafter, hread path hpath, hlook] at hleaf
    exact Reading.leaf.inj (Option.some.inj hleaf)
  · intro hreads other hother before hparse
    refine ⟨last, (h.reparsed_iff hother last).mpr rfl, fun path hpath => ?_⟩
    rw [hread path hpath, (h.parsed_iff hother before).mp hparse]
    cases hlook : first.look path with
    | none => rfl
    | some reading =>
        cases reading with
        | node kind => rfl
        | leaf value =>
            rw [Option.map_some, Reading.map, hreads path value hpath hlook]

end ChainIn

/-- A server that one config did not write under its name is not in the file. -/
theorem not_holdsServers_of_missing (hlawful : library.Lawful) {content content' : String}
    {mcpConfig : IntegrationMcpConfig} {mcpServers all : List ResolvedIntegrationMcpServer}
    {mcpServer : ResolvedIntegrationMcpServer}
    (h : replaceMcpConfigContent library content mcpConfig mcpServers = .ok content')
    (hserver : mcpServer ∈ all)
    (hmissing : mcpServer.server.serverName ∉ serverNames mcpServers) :
    ¬ HoldsServers library mcpConfig all content' := by
  intro hholds
  rcases replaceMcpConfigContent_ok hlawful h with ⟨before, after, hreplaced, hstep⟩
  rcases hholds mcpServer hserver with ⟨document, hparse, hlook⟩
  have hnode := hlook []
  rw [hreplaced.reparsed, Option.some.injEq] at hparse
  rw [← hparse, look_createMcpServerConfig_nil] at hnode
  by_cases hblocked : (mcpRewriting hlawful mcpServers mcpConfig.format).Blocked mcpConfig.path before
  · rw [hstep.look_eq_none_of_blocked hblocked (List.prefix_append _ _)] at hnode
    exact nomatch hnode
  · rw [hstep.look_inside hblocked] at hnode
    have htable : (createMcpConfigValue mcpServers mcpConfig.format).look
        [mcpServer.server.serverName] = some (.node .record) := hnode
    rw [KeyTree.look_cons] at htable
    rcases Option.bind_eq_some_iff.mp htable with ⟨config, hchild, _⟩
    rcases exists_of_child?_createMcpConfigValue hchild with ⟨_, other, hother, hname, _⟩
    refine hmissing ?_
    rw [← hname]
    exact List.mem_map_of_mem (f := fun s : ResolvedIntegrationMcpServer => s.server.serverName)
      hother

/-! ### Files that are as they should be -/

/-- A file is as it should be behind its configs: all servers are in it, and the rest of it is
    what it was. -/
structure FileKeeps (library : DocumentLibrary) (all : List ResolvedIntegrationMcpServer)
    (mcpConfigs : List IntegrationMcpConfig) (content content' : String) : Prop where
  holds : ∀ mcpConfig ∈ mcpConfigs, HoldsServers library mcpConfig all content'
  same : SameElsewhere library mcpConfigs content content'

/-- When the configs of a file make it so, if they write the servers of these names. -/
structure FileSuits (library : DocumentLibrary) (names : List String)
    (mcpConfigs : List IntegrationMcpConfig) (content : String) : Prop where
  noProto : "__proto__" ∉ names
  stays : ∀ mcpConfig ∈ mcpConfigs, ∀ document,
    library.parse mcpConfig.format content = some document →
      StaysAt names (configPaths mcpConfigs) mcpConfig.path document ∧
      ReadsAsWritten library mcpConfig.format (configPaths mcpConfigs) document

/-- Configs that write all servers leave the file as it should be exactly where they suit it. -/
theorem fileKeeps_iff (hlawful : library.Lawful) {mcpServers : List ResolvedIntegrationMcpServer}
    {mcpConfigs : List IntegrationMcpConfig} {content content' : String}
    (hnodup : (serverNames mcpServers).Nodup) (hservers : mcpServers ≠ [])
    (hconfigs : mcpConfigs ≠ [])
    (h : replaceAllMcpConfigs library mcpServers mcpConfigs content = .ok content') :
    FileKeeps library mcpServers mcpConfigs content content' ↔
      FileSuits library (serverNames mcpServers) mcpConfigs content := by
  rcases chain_of_foldlM hlawful hconfigs h with ⟨format, first, last, hchain⟩
  rcases List.exists_mem_of_ne_nil mcpConfigs hconfigs with ⟨one, hone⟩
  constructor
  · intro hkeeps
    have hproto : "__proto__" ∉ serverNames mcpServers := fun hproto =>
      hchain.not_holdsServers_of_proto hone hproto (hkeeps.holds one hone)
    refine ⟨hproto, fun mcpConfig hmem document hparse => ?_⟩
    rw [(hchain.parsed_iff hmem document).mp hparse, hchain.formats mcpConfig hmem]
    refine ⟨?_, (hchain.sameElsewhere_iff hmem).mp hkeeps.same⟩
    exact (hchain.holdsServers_iff hnodup hproto hservers hmem).mp (hkeeps.holds mcpConfig hmem)
  · intro hsuits
    have hstays := fun mcpConfig hmem =>
      hsuits.stays mcpConfig hmem first ((hchain.parsed_iff hmem first).mpr rfl)
    refine ⟨fun mcpConfig hmem => ?_, ?_⟩
    · refine (hchain.holdsServers_iff hnodup hsuits.noProto hservers hmem).mpr ?_
      exact (hstays mcpConfig hmem).1
    · refine (hchain.sameElsewhere_iff hone).mpr ?_
      rw [← hchain.formats one hone]
      exact (hstays one hone).2

theorem HoldsServers.congr {mcpConfig : IntegrationMcpConfig} {content : String}
    {mcpServers others : List ResolvedIntegrationMcpServer}
    (h : ∀ mcpServer, mcpServer ∈ mcpServers ↔ mcpServer ∈ others) :
    HoldsServers library mcpConfig mcpServers content ↔
      HoldsServers library mcpConfig others content := by
  unfold HoldsServers
  simp only [h]

theorem FileKeeps.congr {mcpConfigs : List IntegrationMcpConfig} {content content' : String}
    {mcpServers others : List ResolvedIntegrationMcpServer}
    (h : ∀ mcpServer, mcpServer ∈ mcpServers ↔ mcpServer ∈ others) :
    FileKeeps library mcpServers mcpConfigs content content' ↔
      FileKeeps library others mcpConfigs content content' := by
  constructor
  · intro hkeeps
    exact ⟨fun mcpConfig hmem => (HoldsServers.congr h).mp (hkeeps.holds mcpConfig hmem),
      hkeeps.same⟩
  · intro hkeeps
    exact ⟨fun mcpConfig hmem => (HoldsServers.congr h).mpr (hkeeps.holds mcpConfig hmem),
      hkeeps.same⟩

theorem FileSuits.congr {mcpConfigs : List IntegrationMcpConfig} {content : String}
    {names others : List String} (h : ∀ name, name ∈ names ↔ name ∈ others) :
    FileSuits library names mcpConfigs content ↔ FileSuits library others mcpConfigs content := by
  have hstays : ∀ {paths path document},
      StaysAt names paths path document ↔ StaysAt others paths path document := StaysAt.congr h
  constructor
  · intro hsuits
    refine ⟨fun hproto => hsuits.noProto ((h _).mpr hproto), fun mcpConfig hmem document hparse => ?_⟩
    exact (hsuits.stays mcpConfig hmem document hparse).imp_left hstays.mp
  · intro hsuits
    refine ⟨fun hproto => hsuits.noProto ((h _).mp hproto), fun mcpConfig hmem document hparse => ?_⟩
    exact (hsuits.stays mcpConfig hmem document hparse).imp_left hstays.mpr

/-! ### Files that servers were handed to -/

/-- A file went through its configs, unless there are no servers to write. -/
def FilePassed (library : DocumentLibrary) (mcpServers : List ResolvedIntegrationMcpServer)
    (mcpConfigs : List IntegrationMcpConfig) (content content' : String) : Prop :=
  if mcpServers = [] then content' = content
  else replaceAllMcpConfigs library mcpServers mcpConfigs content = .ok content'

/-- A file that nothing was written into is as it should be where it has the servers already. -/
theorem fileKeeps_same_iff {all : List ResolvedIntegrationMcpServer}
    {mcpConfigs : List IntegrationMcpConfig} {content : String} :
    FileKeeps library all mcpConfigs content content ↔
      ∀ mcpConfig ∈ mcpConfigs, HoldsServers library mcpConfig all content := by
  refine ⟨FileKeeps.holds, fun hholds => ⟨hholds, fun mcpConfig _ before hparse => ?_⟩⟩
  exact ⟨before, hparse, fun _ _ => rfl⟩

/-- When a file is as it should be that all servers were handed to. -/
theorem FilePassed.keeps_iff (hlawful : library.Lawful) {all : List ResolvedIntegrationMcpServer}
    {mcpConfigs : List IntegrationMcpConfig} {content content' : String}
    (hnodup : (serverNames all).Nodup) (hconfigs : mcpConfigs ≠ [])
    (h : FilePassed library all mcpConfigs content content') :
    FileKeeps library all mcpConfigs content content' ↔
      all = [] ∨ FileSuits library (serverNames all) mcpConfigs content := by
  unfold FilePassed at h
  by_cases hnone : all = []
  · rw [if_pos hnone] at h
    rw [h, hnone, fileKeeps_same_iff]
    exact ⟨fun _ => .inl rfl, fun _ _ _ _ hmem => absurd hmem List.not_mem_nil⟩
  · rw [if_neg hnone] at h
    rw [fileKeeps_iff hlawful hnodup hnone hconfigs h, or_iff_right hnone]

/-- When a file is as it should be that only the first of the servers were handed to. -/
theorem FilePassed.keeps_iff_of_some (hlawful : library.Lawful)
    {all handed rest : List ResolvedIntegrationMcpServer} {mcpConfig : IntegrationMcpConfig}
    {content content' : String} (hall : all.Perm (handed ++ rest))
    (hnodup : (serverNames all).Nodup)
    (h : FilePassed library handed [mcpConfig] content content') :
    FileKeeps library all [mcpConfig] content content' ↔
      (handed = [] ∧ HoldsServers library mcpConfig rest content) ∨
        (handed ≠ [] ∧ rest = [] ∧ FileSuits library (serverNames handed) [mcpConfig] content) := by
  have hnodup' : (serverNames handed ++ serverNames rest).Nodup := by
    have hnames : (serverNames all).Perm (serverNames handed ++ serverNames rest) := by
      unfold serverNames
      rw [← List.map_append]
      exact hall.map _
    exact hnames.nodup_iff.mp hnodup
  unfold FilePassed at h
  by_cases hnone : handed = []
  · rw [if_pos hnone] at h
    rw [hnone, List.nil_append] at hall
    rw [h, fileKeeps_same_iff, List.forall_mem_singleton, and_iff_right hnone,
      HoldsServers.congr fun mcpServer => hall.mem_iff]
    exact ⟨.inl, fun hcases => hcases.resolve_right fun hhanded => hhanded.1 hnone⟩
  · rw [if_neg hnone] at h
    rw [and_iff_right hnone, or_iff_right fun hhanded => hnone hhanded.1]
    cases rest with
    | nil =>
        rw [List.append_nil] at hall
        rw [and_iff_right rfl, FileKeeps.congr fun mcpServer => hall.mem_iff]
        exact fileKeeps_iff hlawful (List.nodup_append.mp hnodup').1 hnone (List.cons_ne_nil _ _) h
    | cons mcpServer rest =>
        refine ⟨fun hkeeps => ?_, fun hsuits => nomatch hsuits.1⟩
        -- The file has no server of the name, as no other server has it.
        have hreplace := replaceAllMcpConfigs_one_iff.mp h
        refine absurd (hkeeps.holds mcpConfig List.mem_cons_self) ?_
        have hmem : mcpServer ∈ all :=
          hall.mem_iff.mpr (List.mem_append_right _ List.mem_cons_self)
        refine not_holdsServers_of_missing hlawful hreplace hmem fun hname => ?_
        exact (List.nodup_append.mp hnodup').2.2 _ hname _ List.mem_cons_self rfl

end Mistle
