import McServerNap.Deadlines
import McServerNap.Encoding.Base64
import McServerNap.Encoding.Path
import McServerNap.Endpoints
import McServerNap.Rcon
import McServerNap.Responder

/-!
# The configuration document

The document as it is deserialized, and the checks that look at nothing but the document.
Server ids are the keys of a map, so they are distinct and come in order.
-/

namespace McServerNap

open Encoding

/-! ## Schema -/

/-- `CommandSchema`. -/
structure CommandSchema where
  program : List Char
  arguments : List (List Char)
  workingDirectory : List Char
  deriving DecidableEq, Repr

/-- `StyledTextSchema`. -/
structure StyledTextSchema where
  text : List Char
  color : List Char
  bold : Bool
  deriving DecidableEq, Repr

/-- A `ServerSchema` with its other fields. -/
structure ServerEntry extends ServerSchema where
  minecraftVersion : MinecraftVersion
  iconPath : Option (List Char)
  command : CommandSchema
  timeouts : TimeoutsSchema
  motd : StyledTextSchema
  startupMessage : StyledTextSchema

/-- `ConfigDocument`. -/
structure ConfigDocument where
  schemaVersion : UInt32
  maxConnections : Nat
  servers : List (String × ServerEntry)
  ordered : (servers.map Prod.fst).Pairwise (· < ·)

/-- What `validate_endpoints` looks at. -/
def endpointsOf (servers : List (String × ServerEntry)) : Servers :=
  servers.map fun entry => (entry.1, entry.2.toServerSchema)

/-! ## Errors -/

/-- An `OsString` of the Unix platforms is any sequence of bytes. -/
abbrev OsString := Bytes

/-- `std::io::ErrorKind`, as far as the configuration tells kinds apart. -/
inductive FileError where
  | notFound
  | other
  deriving DecidableEq, Repr

/-- Why a document is not one of this schema. -/
inductive SchemaError where
  /-- "configuration is not valid TOML" -/
  | notToml
  /-- "unsupported schema_version {version}; expected 3" -/
  | unsupportedVersion (version : Int)
  /-- "unsupported schema_version: missing or non-integer; expected 3" -/
  | versionMissing
  /-- what the deserializer reports -/
  | document
  deriving DecidableEq, Repr

/-- "{description} must not use a Windows drive-relative or root-relative path" -/
structure AmbiguousPath where
  description : String
  deriving DecidableEq, Repr

/-- Why `RconSecret::new` fails. -/
inductive SecretError where
  | body (cause : Rcon.Error)
  /-- "RCON password must not be empty" -/
  | empty
  deriving DecidableEq, Repr

/-- Why loading a configuration fails. -/
inductive ConfigError where
  /-- "configuration path base must be absolute" -/
  | baseNotAbsolute
  | ambiguousPath (cause : AmbiguousPath)
  /-- "listener configuration {} is missing; create a schema-v3 configuration from
  config.example.toml" -/
  | missing (path : Path)
  /-- "failed to read configuration at {}" -/
  | unreadable (path : Path)
  /-- "invalid configuration at {}" -/
  | invalid (path : Path) (cause : SchemaError)
  /-- "servers must contain at least one configured server" -/
  | noServers
  /-- "max_connections must be between 1 and {}" -/
  | maxConnections
  /-- "invalid server ID {server_id:?}; expected nonempty lowercase ASCII kebab case" -/
  | invalidServerId (serverId : String)
  | endpoints (cause : EndpointError)
  /-- "configuration path must name a file" -/
  | nameless
  /-- "failed to resolve configuration directory for {}" -/
  | directoryUnresolved (path : Path)
  /-- "[server={server_id}] working_directory {} does not exist or is unreadable" -/
  | workingDirectoryMissing (serverId : String) (path : Path)
  /-- "[server={server_id}] working_directory {} is not a directory" -/
  | workingDirectoryNotDirectory (serverId : String) (path : Path)
  /-- "[server={server_id}] failed to canonicalize working_directory {}" -/
  | workingDirectoryUnresolved (serverId : String) (path : Path)
  /-- "servers {existing:?} and {server_id:?} use the same canonical working directory {}" -/
  | sameWorkingDirectory (existing serverId : String) (path : Path)
  /-- "[server={server_id}] command.program must not be empty" -/
  | programEmpty (serverId : String)
  /-- "[server={server_id}] invalid command.program" -/
  | programInvalid (serverId : String) (cause : AmbiguousPath)
  /-- "[server={server_id}] path-like command.program {} does not resolve to a file" -/
  | programMissing (serverId : String) (path : Path)
  /-- "[server={server_id}] path-like command.program {} is not a file" -/
  | programNotFile (serverId : String) (path : Path)
  /-- "failed to canonicalize command.program {}" -/
  | programUnresolved (path : Path)
  /-- "[server={context}] failed to read configured icon at {}" -/
  | iconUnread (serverId : String) (path : Path)
  /-- "[server={context}] icon at {} exceeds the {} MiB limit" -/
  | iconTooLarge (serverId : String) (path : Path)
  /-- "[server={context}] icon at {} is not a valid PNG" -/
  | iconNotPng (serverId : String) (path : Path)
  /-- "[server={context}] icon at {} exceeds the 4096x4096 dimension limit" -/
  | iconTooWide (serverId : String) (path : Path)
  /-- "failed to encode the server icon" -/
  | iconNotEncoded
  /-- "[server={server_id}] failed to construct Minecraft responder" -/
  | responder (serverId : String) (cause : ClientError)
  | timeout (cause : TimeoutError)
  /-- "[server={server_id}] invalid RCON password_env" -/
  | passwordEnv (serverId : String) (cause : EnvironmentNameError)
  /-- "[server={server_id}] RCON password environment variable {} is missing" -/
  | passwordMissing (serverId : String) (name : List Char)
  /-- "[server={server_id}] RCON password environment variable {} is not Unicode" -/
  | passwordNotUnicode (serverId : String) (name : List Char)
  /-- "[server={server_id}] invalid RCON password in environment variable {}" -/
  | passwordInvalid (serverId : String) (name : List Char) (cause : SecretError)
  | listener (cause : ListenerError)
  | target (cause : TargetError)
  deriving DecidableEq, Repr

/-! ## Checks of the document -/

/-- The bytes that a server id may begin and end with. -/
def edgeIsValid (letter : Char) : Bool := letter.isLower || letter.isDigit

/-- `validate_server_id`. Bytes beyond ASCII are not valid, so letters are not either. -/
def validateServerId (serverId : String) : Except ConfigError Unit :=
  if serverId.toList.head?.any edgeIsValid && serverId.toList.getLast?.any edgeIsValid &&
      serverId.toList.all fun letter => edgeIsValid letter || letter = '-' then .ok ()
  else .error (.invalidServerId serverId)

/-- `Semaphore::MAX_PERMITS`. -/
def maxPermits : Nat := 2 ^ 61 - 1

/-- `validate_document`. -/
def validateDocument (document : ConfigDocument) : Except ConfigError Unit := do
  if document.servers = [] then throw .noServers
  if ¬ (1 ≤ document.maxConnections ∧ document.maxConnections ≤ maxPermits) then
    throw .maxConnections
  document.servers.forM fun entry => validateServerId entry.1
  (validateEndpoints (endpointsOf document.servers)).mapError .endpoints

end McServerNap
