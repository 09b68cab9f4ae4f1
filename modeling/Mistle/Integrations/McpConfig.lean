import Mistle.Integrations.RuntimeClient
import Mistle.Lib.PathWrites

/-!
# MCP Servers in Config Files

The servers of a plan are written into config files of the runtime clients: the file is
parsed, a table of the servers under their names replaces what is at the configured path,
and the document is written out again. JSON and TOML are read and written by libraries that
are not part of the repository, so what is known of them is stated (`DocumentLibrary`), and
the documents are trees.

Objects here are those of the language. A key that only the prototype has reads as a function.
A date of a TOML document is an object like any other, to which keys can be given, but it is
written out as a date.

## Main definitions

* `ConfigValue`: JSON and TOML documents.
* `DocumentLibrary`, `DocumentLibrary.Lawful`: The parsers and writers of documents.
* `setObjectValueAtPath`, `createMcpServerConfig`, `createMcpConfigValue`: A table and where
  it goes.
* `replaceJsonMcpConfig`, `replaceTomlMcpConfig`, `replaceMcpConfigContent`: One file.
* `applyMcpConfigToRuntimeClients`: The files of the clients of a plan.
-/

namespace Mistle

/-! ### Documents -/

/-- The values that are no objects, with a number as its text. A date is one of TOML. -/
inductive ConfigScalar where
  | null
  | bool (b : Bool)
  | number (text : String)
  | text (text : String)
  | date (text : String)
  deriving DecidableEq

def ConfigScalar.isDate : ConfigScalar → Bool
  | .date _ => true
  | _ => false

inductive ConfigNode where
  | record
  | array
  deriving DecidableEq

/-- A JSON or TOML document. The keys of an array are its indices. -/
abbrev ConfigValue := KeyTree ConfigScalar ConfigNode

namespace ConfigValue

def text (s : String) : ConfigValue := .leaf (.text s)

def record (fields : List (String × ConfigValue)) : ConfigValue := .node .record fields

def array (items : List ConfigValue) : ConfigValue :=
  .node .array (items.zipIdx.map fun (item, index) => (toString index, item))

end ConfigValue

def isObjectRecord : ConfigValue → Bool
  | .node .record _ => true
  | .leaf value => value.isDate
  | .node .array _ => false

inductive IntegrationMcpConfigFormat where
  | toml
  | json
  deriving DecidableEq

/-- What the writers of a format can express. There is no null in TOML, and no date in JSON. -/
def IntegrationMcpConfigFormat.expresses : IntegrationMcpConfigFormat → ConfigScalar → Bool
  | .toml, .null => false
  | .json, .date _ => false
  | _, _ => true

/-- The end of line that a file is written with behind its document. -/
def IntegrationMcpConfigFormat.trailing : IntegrationMcpConfigFormat → String
  | .toml => ""
  | .json => "\n"

/-- The parsers and writers of the two formats. What a scalar is read as after it was written
    is its value, but for numbers without a text of their own. -/
structure DocumentLibrary where
  parse : IntegrationMcpConfigFormat → String → Option ConfigValue
  stringify : IntegrationMcpConfigFormat → ConfigValue → Option String
  reread : IntegrationMcpConfigFormat → ConfigScalar → ConfigScalar
  /-- The names of the methods of dates. -/
  dateHas : String → Bool

/-- All leaves of a document can be written. -/
def Expressible (format : IntegrationMcpConfigFormat) (document : ConfigValue) : Prop :=
  ∀ path value, document.look path = some (.leaf value) → format.expresses value = true

/-- What is known of the parsers and writers. -/
structure DocumentLibrary.Lawful (library : DocumentLibrary) : Prop where
  /-- A document that is written is read again, up to the order of keys. -/
  parse_stringify : ∀ format document content, Expressible format document →
    library.stringify format document = some content →
    ∃ after, library.parse format (content ++ format.trailing) = some after ∧
      ∀ path, after.look path
        = (document.look path).map (Reading.map (library.reread format))
  /-- What is read can be written. -/
  expressible_of_parse : ∀ format content document,
    library.parse format content = some document → Expressible format document
  /-- A text, and only a text, is read as that text. -/
  reread_eq_text_iff : ∀ format value text,
    library.reread format value = .text text ↔ value = .text text
  isDate_reread : ∀ format value, (library.reread format value).isDate = value.isDate
  reread_reread : ∀ format value,
    library.reread format (library.reread format value) = library.reread format value
  /-- An object written in one format is none in the other. -/
  formats_apart : ∀ format other document content after, format ≠ other →
    isObjectRecord document = true → library.stringify format document = some content →
    library.parse other (content ++ format.trailing) = some after → isObjectRecord after = false

/-! ### Setting a value at a path -/

def forbiddenObjectPathKeys : List String := ["__proto__", "constructor", "prototype"]

/-- `false` where the source throws. -/
def assertSafeObjectPath (path : List String) : Bool :=
  path.all fun key => !forbiddenObjectPathKeys.contains key

/-- The names that every object has from its prototype, but for the forbidden ones. -/
def objectPrototypeKeys : List String :=
  ["__defineGetter__", "__defineSetter__", "hasOwnProperty", "__lookupGetter__",
    "__lookupSetter__", "isPrototypeOf", "propertyIsEnumerable", "toLocaleString", "toString",
    "valueOf"]

/-- What reading a key of an object gives. -/
inductive PropertyValue where
  | undefined
  | inherited
  | own (value : ConfigValue)

def DocumentLibrary.property (library : DocumentLibrary) (root : ConfigValue) (key : String) :
    PropertyValue :=
  match root.child? key with
  | some value => .own value
  | none =>
    if objectPrototypeKeys.contains key then .inherited
    else match root with
      | .leaf (.date _) => if library.dateHas key then .inherited else .undefined
      | _ => .undefined

/-- The object with the value at the path. The object that the source changes in place is the
    one that is returned; a date that is given a key is written out as before. -/
def setObjectValueAtPath (library : DocumentLibrary) (value : ConfigValue)
    (invalidPathMessage : String) : (path : List String) → (root : ConfigValue) →
      Compiler ConfigValue
  | [], _ => mcpConflict invalidPathMessage
  | firstKey :: remainingPath, root =>
    if assertSafeObjectPath [firstKey] then
      if remainingPath = [] then .ok (root.assign firstKey value)
      else match library.property root firstKey with
        | .undefined => do
          let nextValue ← setObjectValueAtPath library value invalidPathMessage remainingPath
            (.record [])
          return root.assign firstKey nextValue
        | .inherited => mcpConflict invalidPathMessage
        | .own existingValue =>
          if isObjectRecord existingValue then do
            let existingValue ← setObjectValueAtPath library value invalidPathMessage
              remainingPath existingValue
            return root.assign firstKey existingValue
          else mcpConflict invalidPathMessage
    else mcpConflict invalidPathMessage

/-! ### Servers -/

inductive IntegrationMcpTransport where
  | streamableHttp
  | stdio
  deriving DecidableEq

structure IntegrationMcpServer where
  serverId : String
  serverName : String
  transport : IntegrationMcpTransport
  description : Option String
  url : Option String
  command : Option String
  args : Option (List String)
  env : Option (InsertionMap String String)
  httpHeaders : Option (InsertionMap String String)

structure IntegrationBindingMcpServerSource where
  bindingId : String
  connectionId : String
  targetKey : String
  familyId : String
  variantId : String
  deriving DecidableEq

/-- A server comes from a binding, or from the profile. -/
inductive ResolvedIntegrationMcpServerSource where
  | integration (source : IntegrationBindingMcpServerSource)
  | mistle
  deriving DecidableEq

structure ResolvedIntegrationMcpServer where
  source : ResolvedIntegrationMcpServerSource
  server : IntegrationMcpServer

structure IntegrationMcpConfig where
  clientId : String
  fileId : String
  format : IntegrationMcpConfigFormat
  path : List String
  deriving DecidableEq

/-- A copy of a record of texts. -/
def spreadRecord (record : InsertionMap String String) : ConfigValue :=
  .record (record.mapValues ConfigValue.text).entries

def createMcpServerConfig (server : IntegrationMcpServer) (format : IntegrationMcpConfigFormat) :
    ConfigValue :=
  match server.transport with
  | .stdio => .record <|
      (server.command.map fun command => ("command", ConfigValue.text command)).toList ++
      (server.args.map fun args => ("args", ConfigValue.array (args.map ConfigValue.text))).toList ++
      (server.env.map fun env => ("env", spreadRecord env)).toList
  | .streamableHttp => .record <|
      (server.url.map fun url => ("url", ConfigValue.text url)).toList ++
      (server.httpHeaders.map fun httpHeaders =>
        (if format = .toml then "http_headers" else "httpHeaders", spreadRecord httpHeaders)).toList

/-- The table of the servers under their names. -/
def createMcpConfigValue (mcpServers : List ResolvedIntegrationMcpServer)
    (format : IntegrationMcpConfigFormat) : ConfigValue :=
  .record (mcpServers.foldl (fun value mcpServer =>
    setProperty value mcpServer.server.serverName (createMcpServerConfig mcpServer.server format))
    InsertionMap.empty).entries

/-! ### One file -/

section

variable (library : DocumentLibrary)

/-- Replace what is at the configured path of a document, with the format's own words in the
    errors. -/
def replaceParsedMcpConfig (formatName documentName : String)
    (format : IntegrationMcpConfigFormat) (content : String) (mcpConfig : IntegrationMcpConfig)
    (mcpServers : List ResolvedIntegrationMcpServer) : Compiler String := do
  let pathText := ".".intercalate mcpConfig.path
  let invalidPathMessage :=
    s!"MCP config path '{pathText}' is not writable in '{mcpConfig.fileId}'."
  match library.parse format content with
  | none => mcpConflict s!"MCP config target '{mcpConfig.fileId}' contains invalid {formatName}."
  | some root =>
    if isObjectRecord root then do
      let root ← setObjectValueAtPath library (createMcpConfigValue mcpServers mcpConfig.format)
        invalidPathMessage mcpConfig.path root
      match library.stringify format root with
      | none => .error .thrown
      | some content => return content ++ format.trailing
    else
      mcpConflict s!"MCP config target '{mcpConfig.fileId}' must contain a {documentName}."

def replaceJsonMcpConfig := replaceParsedMcpConfig library "JSON" "JSON object" .json

def replaceTomlMcpConfig := replaceParsedMcpConfig library "TOML" "TOML table" .toml

def replaceMcpConfigContent (content : String) (mcpConfig : IntegrationMcpConfig)
    (mcpServers : List ResolvedIntegrationMcpServer) : Compiler String :=
  if mcpConfig.path = [] then
    mcpConflict s!"MCP config for file '{mcpConfig.fileId}' must define a non-empty path."
  else match mcpConfig.format with
    | .json => replaceJsonMcpConfig library content mcpConfig mcpServers
    | .toml => replaceTomlMcpConfig library content mcpConfig mcpServers

end

/-! ### The clients of a plan -/

section

variable (library : DocumentLibrary)

/-- A config is for a file of a client. -/
def IntegrationMcpConfig.Targets (mcpConfig : IntegrationMcpConfig) (client : RuntimeClient)
    (file : RuntimeClientSetupFile) : Prop :=
  client.clientId = mcpConfig.clientId ∧ file.fileId = mcpConfig.fileId

instance (mcpConfig : IntegrationMcpConfig) (client : RuntimeClient)
    (file : RuntimeClientSetupFile) : Decidable (mcpConfig.Targets client file) :=
  inferInstanceAs (Decidable (_ ∧ _))

def applyMcpConfigToFile (mcpConfig : IntegrationMcpConfig)
    (mcpServers : List ResolvedIntegrationMcpServer) (file : RuntimeClientSetupFile) :
    Compiler RuntimeClientSetupFile :=
  if file.fileId = mcpConfig.fileId then do
    let content ← replaceMcpConfigContent library file.content mcpConfig mcpServers
    return { file with content }
  else return file

def applyMcpConfigToClient (mcpConfig : IntegrationMcpConfig)
    (mcpServers : List ResolvedIntegrationMcpServer) (client : RuntimeClient) :
    Compiler RuntimeClient :=
  if client.clientId = mcpConfig.clientId then do
    let files ← client.setup.files.mapM (applyMcpConfigToFile library mcpConfig mcpServers)
    return { client with setup := { client.setup with files } }
  else return client

def applyMcpConfigToRuntimeClients (runtimeClients : List RuntimeClient)
    (mcpConfig : IntegrationMcpConfig) (mcpServers : List ResolvedIntegrationMcpServer) :
    Compiler (List RuntimeClient) :=
  if mcpServers = [] then .ok runtimeClients
  else do
    let applied ← runtimeClients.mapM (applyMcpConfigToClient library mcpConfig mcpServers)
    let found := runtimeClients.filter fun client => client.clientId = mcpConfig.clientId
    if found = [] then
      mcpConflict s!"MCP config target client '{mcpConfig.clientId}' was not found."
    else if (found.flatMap fun client => client.setup.files).all
        fun file => file.fileId ≠ mcpConfig.fileId then
      mcpConflict (s!"MCP config target file '{mcpConfig.fileId}' was not found on client " ++
        s!"'{mcpConfig.clientId}'.")
    else return applied

end

end Mistle
