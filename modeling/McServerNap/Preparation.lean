import McServerNap.ConfigDocument

/-!
# Loading a configuration

A configuration is loaded once, before anything is started. Everything that it refers to is
resolved then: directories and programs to canonical paths, icons to texts, passwords to the
values of their variables. The file system does not change meanwhile; what it answers, and
what the TOML and image libraries make of their input, comes from outside.
-/

namespace McServerNap

open Encoding

/-! ## Surroundings -/

/-- What `fs::metadata` tells of a path. -/
inductive FileType where
  | file
  | dir
  | other
  deriving DecidableEq, Repr

/-- The process that loads the configuration. -/
structure Machine where
  /-- `fs::read` -/
  read : Path → Except FileError Bytes
  /-- `fs::metadata` -/
  metadata : Path → Except FileError FileType
  /-- `Path::canonicalize` -/
  canonicalize : Path → Except FileError Path
  /-- `std::env::var_os` -/
  environment : List Char → Option OsString
  /-- What the clock shows, and the instant it ends with. -/
  loaded : Instant
  last : Instant

/-- `toml::Value`, as far as `inspect_schema_version` tells values apart. -/
inductive TomlValue where
  | integer (value : Int)
  | other
  deriving DecidableEq, Repr

/-- The libraries that read documents and images. -/
structure Libraries where
  /-- `toml::from_str`, into a table -/
  table : List Char → Option (String → Option TomlValue)
  /-- `toml::from_str`, into the document -/
  document : List Char → Option ConfigDocument
  /-- `DynamicImage` -/
  Image : Type
  /-- `ImageReader::into_dimensions`, for PNG -/
  dimensions : Bytes → Option (Nat × Nat)
  /-- `image::load_from_memory_with_format`, for PNG -/
  decode : Bytes → Option Image
  /-- `resize_exact`, with the filter CatmullRom -/
  resizeExact : Image → (width height : Nat) → Image
  /-- `write_to`, as PNG -/
  encode : Image → Option Bytes

/-! ## Paths -/

/-- The first letters of a drive-relative path. A path that is no text has other bytes there,
which is also what they are replaced by before this is asked. -/
def isDriveRelative : Path → Bool
  | drive :: colon :: rest =>
    (Char.ofNat drive.toNat).isAlpha && colon = 58 &&
      rest.head?.all fun byte => byte ≠ Path.slash ∧ byte ≠ 92
  | _ => false

/-- `reject_ambiguous_windows_path`. Root-relative paths are ambiguous on Windows only. -/
def rejectAmbiguousWindowsPath (path : Path) (description : String) : Except AmbiguousPath Unit :=
  if isDriveRelative path then .error ⟨description⟩ else .ok ()

/-- A path as it is, where it is absolute, or under the base. -/
def resolvePath (path base : Path) : Path :=
  if Path.isAbsolute path then path else Path.join base path

/-- `resolve_config_path`. -/
def resolveConfigPath (path base : Path) (description : String) : Except ConfigError Path := do
  (rejectAmbiguousWindowsPath path description).mapError .ambiguousPath
  return resolvePath path base

/-- `resolve_working_directory`. -/
def resolveWorkingDirectory (machine : Machine) (path base : Path) (serverId : String) :
    Except ConfigError Path := do
  let resolved ← resolveConfigPath path base "working_directory"
  let metadata ← (machine.metadata resolved).mapError fun _ =>
    ConfigError.workingDirectoryMissing serverId resolved
  if metadata ≠ .dir then throw (.workingDirectoryNotDirectory serverId resolved)
  (machine.canonicalize resolved).mapError fun _ => .workingDirectoryUnresolved serverId resolved

/-- `is_path_like`. -/
def isPathLike (program : OsString) : Bool :=
  Path.slash ∈ program ∨ 92 ∈ program ∨ Path.isAbsolute program

/-- `resolve_program`. A bare name is left to be searched for at every launch. -/
def resolveProgram (machine : Machine) (program : OsString) (base : Path) (serverId : String) :
    Except ConfigError OsString := do
  if program = [] then throw (.programEmpty serverId)
  (rejectAmbiguousWindowsPath program "command.program").mapError (.programInvalid serverId)
  if isPathLike program then
    let resolved := resolvePath program base
    let metadata ← (machine.metadata resolved).mapError fun _ =>
      ConfigError.programMissing serverId resolved
    if metadata ≠ .file then throw (.programNotFile serverId resolved)
    (machine.canonicalize resolved).mapError fun _ => .programUnresolved resolved
  else return program

/-! ## Icons -/

/-- `MAX_ICON_FILE_SIZE`. -/
def maxIconFileSize : Nat := 8 * 1024 * 1024
/-- `MAX_ICON_DIMENSION`. -/
def maxIconDimension : Nat := 4096
/-- `ICON_SIZE`. -/
def iconSize : Nat := 64

/-- "data:image/png;base64,{}" -/
def dataUrl (png : Bytes) : List Char := "data:image/png;base64,".toList ++ toBase64 png

/-- `load_server_icon`. The second `notPng` stands for an image that is cut off behind its
dimensions. -/
def loadServerIcon (libraries : Libraries) (machine : Machine) (path : Path) (context : String) :
    Except ConfigError (List Char) := do
  let bytes ← (machine.read path).mapError fun _ => ConfigError.iconUnread context path
  if maxIconFileSize < bytes.length then throw (.iconTooLarge context path)
  match libraries.dimensions bytes with
  | none => throw (.iconNotPng context path)
  | some (width, height) =>
    if ¬ (width ≤ maxIconDimension ∧ height ≤ maxIconDimension) then
      throw (.iconTooWide context path)
    match libraries.decode bytes with
    | none => throw (.iconNotPng context path)
    | some image =>
      let image :=
        if width = iconSize ∧ height = iconSize then image
        else libraries.resizeExact image iconSize iconSize
      match libraries.encode image with
      | none => throw .iconNotEncoded
      | some output => return dataUrl output

/-! ## Secrets -/

/-- `RconSecret`: a password that an RCON packet can carry. -/
structure RconSecret where
  value : List Char
  checked : Rcon.validateBody value = .ok ()
  nonempty : value ≠ []
  deriving DecidableEq, Repr

/-- `RconSecret::new`. -/
def RconSecret.new (value : List Char) : Except SecretError RconSecret :=
  match checked : Rcon.validateBody value with
  | .error cause => .error (.body cause)
  | .ok () => if empty : value = [] then .error .empty else .ok ⟨value, checked, empty⟩

/-- `RconConfig`. -/
structure RconConfig where
  endpoint : Endpoint
  password : RconSecret
  deriving DecidableEq, Repr

/-- `prepare_rcon`. -/
def prepareRcon (serverId : String) (raw : RconSchema)
    (environment : List Char → Option OsString) : Except ConfigError RconConfig := do
  (validateEnvironmentName raw.passwordEnv).mapError (.passwordEnv serverId)
  match environment raw.passwordEnv with
  | none => throw (.passwordMissing serverId raw.passwordEnv)
  | some value =>
    match fromUtf8 value with
    | none => throw (.passwordNotUnicode serverId raw.passwordEnv)
    | some value =>
      let password ← (RconSecret.new value).mapError (.passwordInvalid serverId raw.passwordEnv)
      let endpoint ← (targetEndpoint raw.target).mapError .target
      return { endpoint, password }

/-! ## Servers -/

/-- `LaunchCommand`. -/
structure LaunchCommand where
  program : OsString
  arguments : List OsString
  workingDirectory : Path
  removedEnvironment : List OsString
  deriving DecidableEq, Repr

/-- A `PreparedServerConfig` with its `ServerRuntimeConfig` and `SupervisorConfig`. -/
structure PreparedServer where
  context : String
  responder : MinecraftResponder
  bindEndpoint : Endpoint
  backendEndpoint : Endpoint
  launch : LaunchCommand
  rcon : Option RconConfig
  timeouts : PreparedTimeouts

/-- `PreparedConfig`. -/
structure PreparedConfig where
  maxConnections : Nat
  servers : List (String × PreparedServer)

/-- The password variables of all servers, each once and in order. -/
def secretNames (servers : List (String × ServerEntry)) : List OsString :=
  let names := servers.filterMap fun entry => entry.2.rcon.map fun rcon => utf8 rcon.passwordEnv
  names.dedup.mergeSort

/-- `icon` of `prepare_document`. -/
def prepareIcon (libraries : Libraries) (machine : Machine) (directory : Path)
    (serverId : String) : Option (List Char) → Except ConfigError (Option (List Char))
  | some path => do
    let path ← resolveConfigPath (utf8 path) directory "icon_path"
    let icon ← loadServerIcon libraries machine path serverId
    return some icon
  | none => return none

/-- The settings of a server's responder. -/
def responderSettings (server : ServerEntry) (icon : Option (List Char)) :
    MinecraftResponderSettings where
  minecraftVersion := server.minecraftVersion
  sleepingMotdText := server.motd.text
  sleepingMotdColor := server.motd.color
  sleepingMotdBold := server.motd.bold
  startupMessageText := server.startupMessage.text
  startupMessageColor := server.startupMessage.color
  startupMessageBold := server.startupMessage.bold
  serverIcon := icon

/-- The body of the loop of `prepare_document`, behind the check of the working directory. -/
def prepareServer (libraries : Libraries) (machine : Machine) (directory : Path)
    (secrets : List OsString) (serverId : String) (server : ServerEntry)
    (workingDirectory : Path) : Except ConfigError PreparedServer := do
  let program ← resolveProgram machine (utf8 server.command.program) directory serverId
  let icon ← prepareIcon libraries machine directory serverId server.iconPath
  let responder ← (MinecraftResponder.new (responderSettings server icon)).mapError
    (.responder serverId)
  let timeouts ← (prepareTimeouts machine.last machine.loaded serverId server.timeouts).mapError
    .timeout
  let rcon ← server.rcon.mapM fun raw => prepareRcon serverId raw machine.environment
  let arguments := server.command.arguments.map utf8
  let bindEndpoint ← (listenerEndpoint server.listener).mapError .listener
  let backendEndpoint ← (targetEndpoint server.backend).mapError .target
  return {
    context := serverId
    launch := { program, arguments, workingDirectory, removedEnvironment := secrets }
    responder, bindEndpoint, backendEndpoint, rcon, timeouts }

/-- The loop of `prepare_document`. The server ids come in order, so a server is inserted
behind the others. -/
def prepareServers (libraries : Libraries) (machine : Machine) (directory : Path)
    (secrets : List OsString) :
    List (String × ServerEntry) → (workingDirectories : List (List Path.Component × String)) →
      List (String × PreparedServer) → Except ConfigError (List (String × PreparedServer))
  | [], _, servers => return servers
  | (serverId, server) :: rest, workingDirectories, servers => do
    let workingDirectory ← resolveWorkingDirectory machine (utf8 server.command.workingDirectory)
      directory serverId
    match workingDirectories.lookup (Path.components workingDirectory) with
    | some existing => throw (.sameWorkingDirectory existing serverId workingDirectory)
    | none =>
      let prepared ← prepareServer libraries machine directory secrets serverId server
        workingDirectory
      prepareServers libraries machine directory secrets rest
        ((Path.components workingDirectory, serverId) :: workingDirectories)
        (servers ++ [(serverId, prepared)])

/-- `prepare_document`. -/
def prepareDocument (libraries : Libraries) (machine : Machine) (document : ConfigDocument)
    (directory : Path) : Except ConfigError PreparedConfig := do
  let secrets := secretNames document.servers
  let servers ← prepareServers libraries machine directory secrets document.servers [] []
  return { maxConnections := document.maxConnections, servers }

/-! ## Loading -/

/-- `inspect_schema_version`. -/
def inspectSchemaVersion (libraries : Libraries) (contents : List Char) :
    Except SchemaError Unit :=
  match libraries.table contents with
  | none => .error .notToml
  | some table =>
    match table "schema_version" with
    | some (.integer 3) => .ok ()
    | some (.integer version) => .error (.unsupportedVersion version)
    | some .other | none => .error .versionMissing

/-- `fs::read_to_string`, and what becomes of its failures. -/
def readConfiguration (machine : Machine) (path : Path) : Except ConfigError (List Char) :=
  match machine.read path with
  | .ok bytes =>
    match fromUtf8 bytes with
    | some contents => .ok contents
    | none => .error (.unreadable path)
  | .error .notFound => .error (.missing path)
  | .error .other => .error (.unreadable path)

/-- `load_with`. -/
def loadWith (libraries : Libraries) (machine : Machine) (path base : Path) :
    Except ConfigError PreparedConfig := do
  if ¬ Path.isAbsolute base then throw .baseNotAbsolute
  (rejectAmbiguousWindowsPath path "configuration path").mapError .ambiguousPath
  let absolutePath := resolvePath path base
  let contents ← readConfiguration machine absolutePath
  (inspectSchemaVersion libraries contents).mapError (.invalid absolutePath)
  match libraries.document contents with
  | none => throw (.invalid absolutePath .document)
  | some document =>
    validateDocument document
    match Path.parent absolutePath with
    | none => throw .nameless
    | some parent =>
      let directory ← (machine.canonicalize parent).mapError fun _ =>
        ConfigError.directoryUnresolved absolutePath
      prepareDocument libraries machine document directory

end McServerNap
