import McServerNap.ConfigAcceptance
import McServerNap.EndpointRules

/-!
# What an accepted configuration guarantees

The daemon trusts its configuration once it is loaded. What it relies on later is collected
here as one property: the timeouts are positive and fit behind the clock, the endpoints in use
do not clash, every server has a directory of its own, and the ids name the servers.
-/

namespace McServerNap

open Encoding

/-! ## Endpoints in use -/

/-- A listener by the endpoint it is bound to. -/
def Endpoint.listening (endpoint : Endpoint) : Listening :=
  ⟨canonicalAddress endpoint.host, endpoint.port⟩

/-- A target by the endpoint that is connected to. -/
def Endpoint.aim (endpoint : Endpoint) : Aim := ⟨canonicalHost endpoint.host, endpoint.port⟩

/-- The endpoints that a server connects to. -/
def PreparedServer.targets (server : PreparedServer) : List Endpoint :=
  server.backendEndpoint :: server.rcon.toList.map RconConfig.endpoint

/-- The endpoint in use means what was configured. -/
theorem listenerEndpoint_listening {listener : ListenerSchema} {endpoint : Endpoint}
    (computed : listenerEndpoint listener = .ok endpoint) :
    endpoint.listening = listener.listening := by
  obtain ⟨address, accepted, -⟩ := except_map_eq_ok.mp computed
  obtain ⟨same, again, port, revalidates⟩ := listenerEndpoint_revalidates accepted
  obtain rfl := Except.ok.inj (computed.symm.trans again)
  have spelled := (validateListener_eq_ok.mp accepted).2
  have respelled := (validateListener_eq_ok.mp revalidates).2
  simp only [Endpoint.listening, ListenerSchema.listening, spelled, respelled, port]

/-- The endpoint computed for a target has the target's own address and port, so rules on
endpoints can be read off the document. -/
theorem targetEndpoint_aim {target : TargetSchema} {endpoint : Endpoint}
    (computed : targetEndpoint target = .ok endpoint) : endpoint.aim = target.aim := by
  obtain ⟨host, accepted, -⟩ := except_map_eq_ok.mp computed
  obtain ⟨same, again, port, revalidates⟩ := targetEndpoint_revalidates accepted
  obtain rfl := Except.ok.inj (computed.symm.trans again)
  have named := validateTarget_canonical accepted
  have renamed := validateTarget_canonical revalidates
  simp only [Endpoint.aim, TargetSchema.aim, ← named, ← renamed, port]

/-! ## Soundness -/

/-- Every timeout is positive. -/
structure PreparedTimeouts.Positive (timeouts : PreparedTimeouts) : Prop where
  computed : ∀ computation : Computation, 0 < computation.timeout timeouts
  shutdown : 0 < timeouts.shutdown

/-- A prepared server by itself: its id is in kebab case, its timeouts are positive and fit
behind the instant at which they were loaded, its working directory exists, and so does its
program where it is given as a path. A bare program name is left to the search at launch. -/
structure PreparedServer.Sound (machine : Machine) (serverId : String) (server : PreparedServer) :
    Prop where
  context : server.context = serverId
  kebab : validateServerId serverId = .ok ()
  positive : server.timeouts.Positive
  fits : machine.loaded + server.timeouts.longest ≤ machine.last
  shutdownFits : machine.loaded + server.timeouts.shutdown ≤ machine.last
  workingDirectory : ∃ path, machine.metadata path = .ok .dir ∧
    machine.canonicalize path = .ok server.launch.workingDirectory
  program : server.launch.program ≠ [] ∧ isPathLike server.launch.program = false ∨
    ∃ path, machine.metadata path = .ok .file ∧
      machine.canonicalize path = .ok server.launch.program

/-- The servers of a configuration together. -/
structure PreparedConfig.Sound (machine : Machine) (config : PreparedConfig) : Prop where
  nonempty : config.servers ≠ []
  connections : 1 ≤ config.maxConnections ∧ config.maxConnections ≤ maxPermits
  ordered : (config.servers.map Prod.fst).Pairwise (· < ·)
  servers : ∀ server ∈ config.servers, server.2.Sound machine server.1
  directories : (config.servers.map workingDirectoryOf).Nodup
  listeners : (config.servers.map fun server => server.2.bindEndpoint.listening).Pairwise
    fun left right => ¬ left.Clashes right
  targets : ((config.servers.flatMap fun server => server.2.targets).map Endpoint.aim).Pairwise
    fun left right => left ≠ right
  loops : ∀ server ∈ config.servers, ∀ other ∈ config.servers, ∀ target ∈ server.2.targets,
    ¬ target.aim.Reaches other.2.bindEndpoint.listening

/-- Accepted timeouts are positive, each of them having been checked by itself. -/
theorem prepareTimeouts_positive {last loaded : Instant} {serverId : String} {raw : TimeoutsSchema}
    {timeouts : PreparedTimeouts}
    (accepted : prepareTimeouts last loaded serverId raw = .ok timeouts) : timeouts.Positive := by
  constructor
  · intro computation
    obtain ⟨count, admitted⟩ := computation.admitted accepted
    exact admitted.duration_pos
  · exact (prepareTimeouts_eq_ok.mp accepted).2.2.2.2.2.1.duration_pos

/-! ## What the steps of loading check -/

section Steps

variable {libraries : Libraries} {machine : Machine} {directory : Path} {secrets : List OsString}

/-- A document passes exactly when it lists a server, its connection limit is one the semaphore
takes, every id is a valid one, and no two endpoints clash. -/
theorem validateDocument_eq_ok {document : ConfigDocument} :
    validateDocument document = .ok () ↔
      document.servers ≠ [] ∧
      (1 ≤ document.maxConnections ∧ document.maxConnections ≤ maxPermits) ∧
      (∀ entry ∈ document.servers, validateServerId entry.1 = .ok ()) ∧
      validateEndpoints (endpointsOf document.servers) = .ok () := by
  unfold validateDocument
  by_cases empty : document.servers = []
  · simp [empty, except_bind_eq_ok]
  · by_cases limited : 1 ≤ document.maxConnections ∧ document.maxConnections ≤ maxPermits
    · simp only [empty, limited, and_self, not_true_eq_false, ↓reduceIte, except_bind_eq_ok,
        except_mapError_eq_ok, List.forM_eq_forM, ne_eq, not_false_eq_true, true_and]
      constructor
      · rintro ⟨⟨⟩, ids, endpoints⟩
        exact ⟨except_forM_eq_ok.mp ids, endpoints⟩
      · rintro ⟨ids, endpoints⟩
        exact ⟨(), except_forM_eq_ok.mpr ids, endpoints⟩
    · simp [empty, limited, except_bind_eq_ok]

/-- An accepted working directory was a directory when it was looked up, and is kept under its
canonical name. -/
theorem resolveWorkingDirectory_eq_ok {path base resolved : Path} {serverId : String}
    (accepted : resolveWorkingDirectory machine path base serverId = .ok resolved) :
    ∃ path, machine.metadata path = .ok .dir ∧ machine.canonicalize path = .ok resolved := by
  simp only [resolveWorkingDirectory, except_bind_eq_ok, except_mapError_eq_ok] at accepted
  obtain ⟨absolute, -, metadata, found, accepted⟩ := accepted
  by_cases isDir : metadata = .dir
  · subst isDir
    exact ⟨absolute, found, by simpa using accepted⟩
  · simp [isDir, except_bind_eq_ok] at accepted

/-- An accepted program is either a bare command, which is left to the search path and not looked
up at all, or the canonical name of a file that was there. -/
theorem resolveProgram_eq_ok {program base resolved : Path} {serverId : String}
    (accepted : resolveProgram machine program base serverId = .ok resolved) :
    resolved ≠ [] ∧ isPathLike resolved = false ∨
      ∃ path, machine.metadata path = .ok .file ∧ machine.canonicalize path = .ok resolved := by
  simp only [resolveProgram] at accepted
  by_cases empty : program = []
  · simp [empty, except_bind_eq_ok] at accepted
  · simp only [empty, ↓reduceIte, except_bind_eq_ok, except_mapError_eq_ok] at accepted
    obtain ⟨-, -, accepted⟩ := accepted
    by_cases pathLike : isPathLike program
    · simp only [pathLike, ↓reduceIte, except_bind_eq_ok, except_mapError_eq_ok] at accepted
      obtain ⟨metadata, found, accepted⟩ := accepted
      by_cases isFile : metadata = .file
      · subst isFile
        exact .inr ⟨_, found, by simpa using accepted⟩
      · simp [isFile, except_bind_eq_ok] at accepted
    · simp only [pathLike, Bool.false_eq_true, ↓reduceIte, except_pure_eq_ok] at accepted
      subst accepted
      exact .inl ⟨empty, by simpa using pathLike⟩

/-- RCON is prepared exactly when the variable has a valid name and holds UTF-8 that a password
may be, and the target has an endpoint. -/
theorem prepareRcon_eq_ok {serverId : String} {raw : RconSchema}
    {environment : List Char → Option OsString} {rcon : RconConfig} :
    prepareRcon serverId raw environment = .ok rcon ↔
      validateEnvironmentName raw.passwordEnv = .ok () ∧
      ∃ value letters, environment raw.passwordEnv = some value ∧ fromUtf8 value = some letters ∧
        RconSecret.new letters = .ok rcon.password ∧
        targetEndpoint raw.target = .ok rcon.endpoint := by
  simp only [prepareRcon, except_bind_eq_ok, except_mapError_eq_ok]
  constructor
  · rintro ⟨⟨⟩, named, accepted⟩
    cases found : environment raw.passwordEnv with
    | none => simp [found] at accepted
    | some value =>
      cases text : fromUtf8 value with
      | none => simp [found, text] at accepted
      | some letters =>
        simp only [found, text, except_bind_eq_ok, except_mapError_eq_ok, except_pure_eq_ok]
          at accepted
        obtain ⟨password, checked, endpoint, computed, rfl⟩ := accepted
        exact ⟨named, value, letters, rfl, text, checked, computed⟩
  · rintro ⟨named, value, letters, found, text, checked, computed⟩
    refine ⟨(), named, ?_⟩
    simp only [found, text, except_bind_eq_ok, except_mapError_eq_ok, except_pure_eq_ok]
    exact ⟨_, checked, _, computed, rfl⟩

/-- A configuration file is read exactly when it can be read and is UTF-8. -/
theorem readConfiguration_eq_ok {path : Path} {contents : List Char} :
    readConfiguration machine path = .ok contents ↔
      ∃ bytes, machine.read path = .ok bytes ∧ fromUtf8 bytes = some contents := by
  unfold readConfiguration
  cases found : machine.read path with
  | error error => cases error <;> simp
  | ok bytes =>
    cases text : fromUtf8 bytes with
    | none => simp [text]
    | some letters => simp [text]

/-- A resolved server is sound by itself. -/
theorem Resolved.sound {entry : String × ServerEntry} {prepared : String × PreparedServer}
    (resolved : Resolved libraries machine directory secrets entry prepared)
    (kebab : validateServerId entry.1 = .ok ()) : prepared.2.Sound machine prepared.1 where
  context := resolved.context.trans resolved.named.symm
  kebab := resolved.named ▸ kebab
  positive := prepareTimeouts_positive resolved.timeouts
  fits := prepareTimeouts_fits resolved.timeouts
  shutdownFits := (prepareTimeouts_eq_ok.mp resolved.timeouts).2.2.2.2.2.1.duration_fits
  workingDirectory := resolveWorkingDirectory_eq_ok resolved.workingDirectory
  program := resolveProgram_eq_ok resolved.program

/-- A resolved server listens where its entry says. -/
theorem Resolved.listening {entry : String × ServerEntry} {prepared : String × PreparedServer}
    (resolved : Resolved libraries machine directory secrets entry prepared) :
    prepared.2.bindEndpoint.listening = entry.2.listener.listening :=
  listenerEndpoint_listening resolved.bindEndpoint

/-- Its endpoints in use mean what the entry says. RCON adds a second one where it is configured,
and the others are carried over unchanged. -/
theorem Resolved.aims {entry : String × ServerEntry} {prepared : String × PreparedServer}
    (resolved : Resolved libraries machine directory secrets entry prepared) :
    prepared.2.targets.map Endpoint.aim = entry.2.targets.map TargetSchema.aim := by
  have consoles {raws : Option RconSchema} {rcons : Option RconConfig}
      (secured : Option.Rel (fun raw rcon => prepareRcon entry.1 raw machine.environment = .ok rcon)
        raws rcons) :
      rcons.toList.map (Endpoint.aim ∘ RconConfig.endpoint) =
        raws.toList.map (TargetSchema.aim ∘ RconSchema.target) := by
    cases secured with
    | none => rfl
    | some accepted =>
      obtain ⟨-, _, _, -, -, -, computed⟩ := prepareRcon_eq_ok.mp accepted
      have aims := targetEndpoint_aim computed
      simpa using aims
  simp only [PreparedServer.targets, ServerSchema.targets, List.map_cons, List.map_map,
    targetEndpoint_aim resolved.backendEndpoint, consoles (except_mapM_eq_ok.mp resolved.rcon)]

end Steps

section Related

variable {α β γ : Type} {Related : α → β → Prop} {first : List α} {second : List β}

/-- Two lists whose elements are related agree in what related elements agree in. -/
theorem map_eq_of_forall₂ (related : List.Forall₂ Related first second) {left : α → γ}
    {right : β → γ} (agree : ∀ one other, Related one other → left one = right other) :
    first.map left = second.map right := by
  have mapped : List.Forall₂ (· = ·) (first.map left) (second.map right) :=
    List.rel_map (fun one other => agree one other) related
  rwa [List.forall₂_eq_eq_eq] at mapped

/-- Each member of the second list is related to one of the first, so a property of all entries
reaches every prepared server. -/
theorem mem_of_forall₂ (related : List.Forall₂ Related first second) {other : β}
    (mem : other ∈ second) : ∃ one ∈ first, Related one other := by
  induction related with
  | nil => cases mem
  | cons one _ inductionHypothesis =>
    rcases List.mem_cons.mp mem with rfl | mem
    · exact ⟨_, List.mem_cons_self, one⟩
    · obtain ⟨found, inFirst, relates⟩ := inductionHypothesis mem
      exact ⟨found, List.mem_cons_of_mem _ inFirst, relates⟩

end Related

/-- What is loaded comes from a document that passed the checks. This lists every step of
`load_with` in its order, so that later proofs take from it the step they need. -/
theorem loadWith_eq_ok {libraries : Libraries} {machine : Machine} {path base : Path}
    {config : PreparedConfig} :
    loadWith libraries machine path base = .ok config ↔
      Path.isAbsolute base = true ∧
      rejectAmbiguousWindowsPath path "configuration path" = .ok () ∧
      ∃ contents document parent directory,
        readConfiguration machine (resolvePath path base) = .ok contents ∧
        inspectSchemaVersion libraries contents = .ok () ∧
        libraries.document contents = some document ∧
        validateDocument document = .ok () ∧
        Path.parent (resolvePath path base) = some parent ∧
        machine.canonicalize parent = .ok directory ∧
        prepareDocument libraries machine document directory = .ok config := by
  unfold loadWith
  by_cases absolute : Path.isAbsolute base
  · simp only [absolute, not_true_eq_false, ↓reduceIte, except_bind_eq_ok,
      except_mapError_eq_ok, true_and]
    constructor
    · rintro ⟨⟨⟩, plain, contents, read, ⟨⟩, version, loaded⟩
      cases parsed : libraries.document contents with
      | none => simp [parsed] at loaded
      | some document =>
        simp only [parsed, except_bind_eq_ok] at loaded
        obtain ⟨⟨⟩, valid, loaded⟩ := loaded
        cases named : Path.parent (resolvePath path base) with
        | none => simp [named] at loaded
        | some parent =>
          simp only [named, except_bind_eq_ok, except_mapError_eq_ok] at loaded
          obtain ⟨directory, found, prepared⟩ := loaded
          exact ⟨plain, contents, document, parent, directory, read, version, parsed, valid, rfl,
            found, prepared⟩
    · rintro ⟨plain, contents, document, parent, directory, read, version, parsed, valid, named,
        found, prepared⟩
      refine ⟨(), plain, contents, read, (), version, ?_⟩
      simp only [parsed, named, except_bind_eq_ok, except_mapError_eq_ok]
      exact ⟨(), valid, directory, found, prepared⟩
  · simp [absolute, except_bind_eq_ok]

/-- Whatever is loaded is sound: the daemon never runs on timeouts that are zero or too long,
on endpoints that clash or on a directory that two servers share. -/
theorem loaded_configurations_are_sound {libraries : Libraries} {machine : Machine}
    {path base : Path} {config : PreparedConfig}
    (loaded : loadWith libraries machine path base = .ok config) : config.Sound machine := by
  obtain ⟨-, -, _, document, _, directory, -, -, -, valid, -, -, prepared⟩ :=
    loadWith_eq_ok.mp loaded
  obtain ⟨nonempty, connections, ids, endpoints⟩ := validateDocument_eq_ok.mp valid
  obtain ⟨-, separate⟩ := (validateEndpoints_eq_ok _).mp endpoints
  simp only [prepareDocument, except_bind_eq_ok, except_pure_eq_ok, prepareServers_eq_ok]
    at prepared
  obtain ⟨servers, ⟨_, rfl, resolved, distinct, -⟩, rfl⟩ := prepared
  have listening : servers.map (fun server => server.2.bindEndpoint.listening) =
      listenings ((endpointsOf document.servers).map Prod.snd) := by
    simp only [listenings, endpointsOf, List.map_map]
    exact (map_eq_of_forall₂ resolved fun _ _ same => same.listening.symm).symm
  have aiming : (servers.flatMap fun server => server.2.targets).map Endpoint.aim =
      aims ((endpointsOf document.servers).map Prod.snd) := by
    simp only [aims, endpointsOf, List.map_flatMap, List.flatMap_map, List.map_map]
    rw [List.flatMap_def, List.flatMap_def]
    exact congrArg List.flatten (map_eq_of_forall₂ resolved fun _ _ same => same.aims.symm).symm
  constructor
  · rintro none
    refine nonempty (List.length_eq_zero_iff.mp ?_)
    have counted := resolved.length_eq
    rw [show servers = [] from none] at counted
    exact counted
  · exact connections
  · have named := map_eq_of_forall₂ resolved fun _ _ same => same.named.symm
    exact named ▸ document.ordered
  · intro server mem
    obtain ⟨entry, inDocument, same⟩ := mem_of_forall₂ resolved mem
    exact same.sound (ids entry inDocument)
  · exact distinct
  · exact listening ▸ separate.listeners
  · exact aiming ▸ separate.targets
  · intro server mem other otherMem target aimed
    refine separate.loops _ ?_ _ ?_
    · rw [← aiming]
      exact List.mem_map_of_mem (List.mem_flatMap.mpr ⟨server, mem, aimed⟩)
    · rw [← listening]
      exact List.mem_map_of_mem (f := fun server : String × PreparedServer =>
        server.2.bindEndpoint.listening) otherMem

/-! ## A configuration of one server -/

/-- A server that a bare `java` starts in the directory of its configuration file, with RCON and
timeouts that fit. -/
def exampleEntry : ServerEntry where
  listener := ⟨"127.0.0.1".toList, 25565⟩
  backend := ⟨"localhost".toList, 25566⟩
  rcon := some ⟨"127.0.0.1".toList, 25575, "RCON_SECRET".toList⟩
  minecraftVersion := ⟨⟨"1.21", 767, .requiredUuidAndTransfer⟩, by decide⟩
  iconPath := none
  command := ⟨"java".toList, ["-jar".toList, "server.jar".toList], ".".toList⟩
  timeouts := ⟨60, 600, 600, 2, 10, 30, 5, 10⟩
  motd := ⟨"Sleeping".toList, "aqua".toList, true⟩
  startupMessage := ⟨"Starting".toList, "gold".toList, false⟩

/-- A document with that server only, and room for four connections. -/
def exampleDocument : ConfigDocument where
  schemaVersion := 3
  maxConnections := 4
  servers := [("survival", exampleEntry)]
  ordered := by simp

/-- The contents of the file, which the library reads as the document. -/
def exampleText : List Char :=
  "schema_version = 3
max_connections = 4
[servers.survival]
minecraft_version = '1.21'
listener.address = '127.0.0.1'
listener.port = 25565
backend.host = 'localhost'
backend.port = 25566
rcon.host = '127.0.0.1'
rcon.port = 25575
rcon.password_env = 'RCON_SECRET'
command.program = 'java'
command.arguments = ['-jar', 'server.jar']
command.working_directory = '.'
timeouts.poll_interval_seconds = 60
timeouts.idle_timeout_seconds = 600
timeouts.startup_timeout_seconds = 600
timeouts.retry_interval_seconds = 2
timeouts.command_timeout_seconds = 10
timeouts.shutdown_timeout_seconds = 30
timeouts.handshake_timeout_seconds = 5
timeouts.proxy_connect_timeout_seconds = 10
motd.text = 'Sleeping'
motd.color = 'aqua'
motd.bold = true
startup_message.text = 'Starting'
startup_message.color = 'gold'
startup_message.bold = false
".toList

/-- The libraries, on the text of the document. -/
def exampleLibraries : Libraries where
  table := fun _ => some fun name =>
    if name = "schema_version" then some (.integer 3)
    else if name = "max_connections" then some (.integer 4)
    else if name = "servers" then some .other
    else none
  document := fun _ => some exampleDocument
  Image := Unit
  dimensions := fun _ => none
  decode := fun _ => none
  resizeExact := fun _ _ _ => ()
  encode := fun _ => none

/-- The directory of the file and of the server. -/
def exampleDirectory : Path := utf8 "/srv".toList

/-- Where the file lies. -/
def exampleFile : Path := utf8 "/srv/cfg.toml".toList

/-- A file in a directory, and a process that has the password. -/
def exampleMachine : Machine where
  read := fun path => if path = exampleFile then .ok (utf8 exampleText) else .error .notFound
  metadata := fun path =>
    if Path.components path = Path.components exampleDirectory then .ok .dir else .error .notFound
  canonicalize := fun path =>
    if Path.components path = Path.components exampleDirectory then .ok exampleDirectory
    else .error .notFound
  environment := fun name =>
    if name = "RCON_SECRET".toList then some (utf8 "secret".toList) else none
  loaded := 0
  last := seconds 1000000

/-- The machine holds this one file. -/
theorem exampleMachine_read (path : Path) :
    exampleMachine.read path =
      if path = exampleFile then .ok (utf8 exampleText) else .error .notFound := rfl

/-- The machine has this one directory, however it is spelled. -/
theorem exampleMachine_canonicalize (path : Path) :
    exampleMachine.canonicalize path =
      if Path.components path = Path.components exampleDirectory then .ok exampleDirectory
      else .error .notFound := rfl

/-- The machine's environment sets the variable of the password only. -/
theorem exampleMachine_environment (name : List Char) :
    exampleMachine.environment name =
      if name = "RCON_SECRET".toList then some (utf8 "secret".toList) else none := rfl

/-- The document passes every rule on the document as a whole. -/
theorem exampleDocument_valid : validateDocument exampleDocument = .ok () := by
  decide +kernel

/-- The responder of the server can be built: its texts are short, and it has no icon. -/
theorem exampleResponder_built :
    ∃ responder, MinecraftResponder.new (responderSettings exampleEntry none) = .ok responder := by
  rw [MinecraftResponder.new_ok_iff]
  decide +kernel

/-- RCON on the loopback address, with the password of the machine's environment. -/
def exampleRcon : RconConfig :=
  ⟨⟨"127.0.0.1".toList, 25575⟩, ⟨"secret".toList, by decide, by decide⟩⟩

/-- The server that the entry is resolved to. -/
def exampleServer (responder : MinecraftResponder) : PreparedServer where
  context := "survival"
  responder := responder
  bindEndpoint := ⟨"127.0.0.1".toList, 25565⟩
  backendEndpoint := ⟨"localhost".toList, 25566⟩
  launch := ⟨utf8 "java".toList, [utf8 "-jar".toList, utf8 "server.jar".toList],
    exampleDirectory, [utf8 "RCON_SECRET".toList]⟩
  rcon := some exampleRcon
  timeouts := ⟨seconds 60, seconds 600, seconds 600, seconds 2, seconds 10, seconds 30, seconds 5,
    seconds 10⟩

/-- The password is found and accepted, so RCON is prepared as written. -/
theorem exampleRcon_prepared :
    prepareRcon "survival" ⟨"127.0.0.1".toList, 25575, "RCON_SECRET".toList⟩
      exampleMachine.environment = .ok exampleRcon := by
  have named : validateEnvironmentName "RCON_SECRET".toList = .ok () := by decide +kernel
  have found := (exampleMachine_environment "RCON_SECRET".toList).trans (if_pos rfl)
  have password : RconSecret.new "secret".toList = .ok exampleRcon.password := by decide +kernel
  have endpoint : targetEndpoint ⟨"127.0.0.1".toList, 25575⟩ = .ok exampleRcon.endpoint := by
    decide +kernel
  exact prepareRcon_eq_ok.mpr ⟨named, _, _, found, fromUtf8_utf8 _, password, endpoint⟩

/-- The server of the document resolves, whichever responder was built for it: its program is a
bare command, which is taken as it stands, and its working directory is one of the machine. -/
theorem exampleServer_resolved {responder : MinecraftResponder}
    (built : MinecraftResponder.new (responderSettings exampleEntry none) = .ok responder) :
    Resolved exampleLibraries exampleMachine exampleDirectory
      (secretNames exampleDocument.servers) ("survival", exampleEntry)
      ("survival", exampleServer responder) where
  named := rfl
  context := rfl
  workingDirectory := by
    have resolved : resolveWorkingDirectory exampleMachine (utf8 ".".toList) exampleDirectory
        "survival" = .ok exampleDirectory := by decide +kernel
    exact resolved
  program := by
    have bare : resolveProgram exampleMachine (utf8 "java".toList) exampleDirectory "survival" =
        .ok (utf8 "java".toList) := by decide +kernel
    exact bare
  arguments := rfl
  removed := by
    have single : secretNames exampleDocument.servers = [utf8 "RCON_SECRET".toList] := by
      decide +kernel
    exact single.symm
  responder := ⟨none, rfl, built⟩
  timeouts := rfl
  rcon := except_mapM_eq_ok.mpr (.some exampleRcon_prepared)
  bindEndpoint := by
    have bound : listenerEndpoint ⟨"127.0.0.1".toList, 25565⟩ = .ok ⟨"127.0.0.1".toList, 25565⟩ := by
      decide +kernel
    exact bound
  backendEndpoint := by
    have target : targetEndpoint ⟨"localhost".toList, 25566⟩ = .ok ⟨"localhost".toList, 25566⟩ := by
      decide +kernel
    exact target

/-- The whole document is prepared, with its one server under its id. -/
theorem exampleDocument_prepared : ∃ responder,
    prepareDocument exampleLibraries exampleMachine exampleDocument exampleDirectory =
      .ok ⟨4, [("survival", exampleServer responder)]⟩ := by
  obtain ⟨responder, built⟩ := exampleResponder_built
  refine ⟨responder, ?_⟩
  simp only [prepareDocument, except_bind_eq_ok, except_pure_eq_ok, prepareServers_eq_ok]
  exact ⟨_, ⟨[("survival", exampleServer responder)], rfl,
    .cons (exampleServer_resolved built) .nil, by simp, by simp⟩, rfl⟩

/-- The configuration is loaded and sound: every hypothesis that the soundness of a loaded
configuration needs is met by a document that an operator could write. -/
theorem example_is_loaded : ∃ config, loadWith exampleLibraries exampleMachine
    (utf8 "cfg.toml".toList) exampleDirectory = .ok config ∧ config.Sound exampleMachine := by
  obtain ⟨responder, prepared⟩ := exampleDocument_prepared
  have path : resolvePath (utf8 "cfg.toml".toList) exampleDirectory = exampleFile := by
    decide +kernel
  have file := (exampleMachine_read exampleFile).trans (if_pos rfl)
  have read : readConfiguration exampleMachine exampleFile = .ok exampleText :=
    readConfiguration_eq_ok.mpr ⟨_, file, fromUtf8_utf8 _⟩
  have found := (exampleMachine_canonicalize exampleDirectory).trans (if_pos rfl)
  have version : inspectSchemaVersion exampleLibraries exampleText = .ok () := by
    simp [inspectSchemaVersion, exampleLibraries]
  have loaded : loadWith exampleLibraries exampleMachine (utf8 "cfg.toml".toList)
      exampleDirectory = .ok ⟨4, [("survival", exampleServer responder)]⟩ := by
    rw [loadWith_eq_ok, path]
    exact ⟨by decide +kernel, by decide +kernel, exampleText, exampleDocument, exampleDirectory,
      exampleDirectory, read, version, rfl, exampleDocument_valid, by decide +kernel, found,
      prepared⟩
  exact ⟨_, loaded, loaded_configurations_are_sound loaded⟩

end McServerNap
