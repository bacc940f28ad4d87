import McServerNap.Encoding.Fallible
import McServerNap.Preparation

/-!
# Which documents are prepared

The loop over the servers resolves each of them on its own, and refuses a canonical working
directory that an earlier one has. So it succeeds exactly when every server resolves and no
two of them share a directory, and the result is what the servers resolve to.
-/

namespace McServerNap

open Encoding

variable {libraries : Libraries} {machine : Machine} {directory : Path} {secrets : List OsString}

/-- What a server of the document is resolved to. -/
structure Resolved (libraries : Libraries) (machine : Machine) (directory : Path)
    (secrets : List OsString) (entry : String × ServerEntry) (prepared : String × PreparedServer) :
    Prop where
  named : prepared.1 = entry.1
  context : prepared.2.context = entry.1
  workingDirectory : resolveWorkingDirectory machine (utf8 entry.2.command.workingDirectory)
    directory entry.1 = .ok prepared.2.launch.workingDirectory
  program : resolveProgram machine (utf8 entry.2.command.program) directory entry.1 =
    .ok prepared.2.launch.program
  arguments : prepared.2.launch.arguments = entry.2.command.arguments.map utf8
  removed : prepared.2.launch.removedEnvironment = secrets
  responder : ∃ icon, prepareIcon libraries machine directory entry.1 entry.2.iconPath = .ok icon ∧
    MinecraftResponder.new (responderSettings entry.2 icon) = .ok prepared.2.responder
  timeouts : prepareTimeouts machine.last machine.loaded entry.1 entry.2.timeouts =
    .ok prepared.2.timeouts
  rcon : entry.2.rcon.mapM (fun raw => prepareRcon entry.1 raw machine.environment) =
    .ok prepared.2.rcon
  bindEndpoint : listenerEndpoint entry.2.listener = .ok prepared.2.bindEndpoint
  backendEndpoint : targetEndpoint entry.2.backend = .ok prepared.2.backendEndpoint

/-- What the working directories of two servers must not have in common. -/
def workingDirectoryOf (prepared : String × PreparedServer) : List Path.Component :=
  Path.components prepared.2.launch.workingDirectory

/-- A prepared server is resolved from its entry exactly when the id is kept, the directory
resolves, and `prepare_server` succeeds with it: the other fields are what its steps yield. -/
theorem resolved_iff {entry : String × ServerEntry} {prepared : String × PreparedServer} :
    Resolved libraries machine directory secrets entry prepared ↔
      prepared.1 = entry.1 ∧
      resolveWorkingDirectory machine (utf8 entry.2.command.workingDirectory) directory entry.1 =
        .ok prepared.2.launch.workingDirectory ∧
      prepareServer libraries machine directory secrets entry.1 entry.2
        prepared.2.launch.workingDirectory = .ok prepared.2 := by
  simp only [prepareServer, except_bind_eq_ok, except_mapError_eq_ok, except_pure_eq_ok]
  constructor
  · intro resolved
    obtain ⟨icon, loaded, built⟩ := resolved.responder
    refine ⟨resolved.named, resolved.workingDirectory, _, resolved.program, icon, loaded, _, built,
      _, resolved.timeouts, _, resolved.rcon, _, resolved.bindEndpoint, _,
      resolved.backendEndpoint, ?_⟩
    rw [← resolved.arguments, ← resolved.removed, ← resolved.context]
  · rintro ⟨named, workingDirectory, program, resolves, icon, loaded, responder, built, timeouts,
      timed, rcon, secured, bindEndpoint, bound, backendEndpoint, targets, same⟩
    exact {
      named
      workingDirectory
      context := (congrArg PreparedServer.context same).symm
      program := resolves.trans (congrArg (fun server => Except.ok server.launch.program) same)
      arguments := (congrArg (fun server => server.launch.arguments) same).symm
      removed := (congrArg (fun server => server.launch.removedEnvironment) same).symm
      responder := ⟨icon, loaded, built.trans (congrArg (fun server => Except.ok server.responder) same)⟩
      timeouts := timed.trans (congrArg (fun server => Except.ok server.timeouts) same)
      rcon := secured.trans (congrArg (fun server => Except.ok server.rcon) same)
      bindEndpoint := bound.trans (congrArg (fun server => Except.ok server.bindEndpoint) same)
      backendEndpoint := targets.trans (congrArg (fun server => Except.ok server.backendEndpoint) same) }

/-- The directory that was checked is the one that the server is launched in. -/
theorem prepareServer_workingDirectory {serverId : String} {server : ServerEntry}
    {workingDirectory : Path} {prepared : PreparedServer}
    (body : prepareServer libraries machine directory secrets serverId server workingDirectory =
      .ok prepared) : prepared.launch.workingDirectory = workingDirectory := by
  simp only [prepareServer, except_bind_eq_ok, except_pure_eq_ok] at body
  obtain ⟨_, -, _, -, _, -, _, -, _, -, _, -, _, -, rfl⟩ := body
  rfl

/-- One round of the loop: the first server resolves, its directory was not taken by an earlier
one, and the loop goes on with that directory marked as taken. -/
theorem prepareServers_cons {entry : String × ServerEntry} {rest : List (String × ServerEntry)}
    {taken : List (List Path.Component × String)} {before servers : List (String × PreparedServer)} :
    prepareServers libraries machine directory secrets (entry :: rest) taken before = .ok servers ↔
      ∃ prepared, Resolved libraries machine directory secrets entry prepared ∧
        taken.lookup (workingDirectoryOf prepared) = none ∧
        prepareServers libraries machine directory secrets rest
          ((workingDirectoryOf prepared, entry.1) :: taken) (before ++ [prepared]) = .ok servers := by
  obtain ⟨serverId, server⟩ := entry
  simp only [prepareServers, except_bind_eq_ok]
  constructor
  · rintro ⟨workingDirectory, resolved, looped⟩
    cases found : taken.lookup (Path.components workingDirectory) with
    | some existing =>
      rw [found] at looped
      cases looped
    | none =>
      simp only [found, except_bind_eq_ok] at looped
      obtain ⟨prepared, body, looped⟩ := looped
      obtain rfl := prepareServer_workingDirectory body
      exact ⟨(serverId, prepared), resolved_iff.mpr ⟨rfl, resolved, body⟩, found, looped⟩
  · rintro ⟨⟨named, prepared⟩, resolved, free, looped⟩
    obtain ⟨rfl, workingDirectory, body⟩ := resolved_iff.mp resolved
    refine ⟨_, workingDirectory, ?_⟩
    rw [show taken.lookup (Path.components prepared.launch.workingDirectory) = none from free]
    simp only [except_bind_eq_ok]
    exact ⟨prepared, body, looped⟩

/-- A key is missing from a list exactly when it is neither the first key nor in the
rest. -/
theorem lookup_cons_none {α β : Type} [BEq α] [LawfulBEq α] {key first : α} {value : β}
    {rest : List (α × β)} :
    ((first, value) :: rest).lookup key = none ↔ key ≠ first ∧ rest.lookup key = none := by
  rw [List.lookup_cons]
  by_cases same : key = first
  · simp [same]
  · have differs : (key == first) = false := beq_eq_false_iff_ne.mpr same
    simp [differs, same]

/-- The whole loop, from any directories taken by earlier servers. The induction is on the entries
that are left, with what was taken and prepared before generalized. -/
theorem prepareServers_eq_ok {entries : List (String × ServerEntry)}
    {taken : List (List Path.Component × String)} {before servers : List (String × PreparedServer)} :
    prepareServers libraries machine directory secrets entries taken before = .ok servers ↔
      ∃ prepared, servers = before ++ prepared ∧
        List.Forall₂ (Resolved libraries machine directory secrets) entries prepared ∧
        (prepared.map workingDirectoryOf).Nodup ∧
        ∀ server ∈ prepared, taken.lookup (workingDirectoryOf server) = none := by
  induction entries generalizing taken before with
  | nil =>
    simp only [prepareServers, except_pure_eq_ok]
    constructor
    · rintro rfl
      exact ⟨[], by simp⟩
    · rintro ⟨prepared, rfl, resolved, -⟩
      cases resolved
      simp
  | cons entry rest inductionHypothesis =>
    rw [prepareServers_cons]
    constructor
    · rintro ⟨first, resolved, free, looped⟩
      obtain ⟨later, rfl, others, distinct, untaken⟩ := inductionHypothesis.mp looped
      have apart := fun server mem => lookup_cons_none.mp (untaken server mem)
      refine ⟨first :: later, by rw [List.append_assoc, List.singleton_append],
        .cons resolved others, ?_, ?_⟩
      · rw [List.map_cons, List.nodup_cons]
        refine ⟨fun mem => ?_, distinct⟩
        obtain ⟨server, mem, same⟩ := List.mem_map.mp mem
        exact (apart server mem).1 same
      · exact List.forall_mem_cons.mpr ⟨free, fun server mem => (apart server mem).2⟩
    · rintro ⟨prepared, rfl, resolved, distinct, untaken⟩
      cases resolved with
      | @cons _ first _ later resolved others =>
        obtain ⟨free, untaken⟩ := List.forall_mem_cons.mp untaken
        rw [List.map_cons, List.nodup_cons] at distinct
        refine ⟨first, resolved, free, inductionHypothesis.mpr ⟨later,
          by rw [List.append_assoc, List.singleton_append], others, distinct.2, ?_⟩⟩
        intro server mem
        refine lookup_cons_none.mpr ⟨fun same => distinct.1 ?_, untaken server mem⟩
        rw [← same]
        exact List.mem_map_of_mem mem

/-- A document is prepared exactly when each of its servers can be resolved and no two of them
end up in one working directory. The result is what the servers resolve to. -/
theorem documents_are_prepared_when_their_servers_resolve (libraries : Libraries)
    (machine : Machine) (document : ConfigDocument) (directory : Path) (config : PreparedConfig) :
    prepareDocument libraries machine document directory = .ok config ↔
      config.maxConnections = document.maxConnections ∧
      List.Forall₂ (Resolved libraries machine directory (secretNames document.servers))
        document.servers config.servers ∧
      (config.servers.map workingDirectoryOf).Nodup := by
  simp only [prepareDocument, except_bind_eq_ok, except_pure_eq_ok, prepareServers_eq_ok]
  constructor
  · rintro ⟨servers, ⟨prepared, rfl, resolved, distinct, -⟩, rfl⟩
    exact ⟨rfl, resolved, distinct⟩
  · rintro ⟨counted, resolved, distinct⟩
    refine ⟨config.servers, ⟨config.servers, rfl, resolved, distinct, fun _ _ => rfl⟩, ?_⟩
    rw [← counted]

/-! ## Icons -/

/-- What a client makes of a favicon: the bytes of the PNG that the data URL spells in Base64. -/
def dataUrlPng (url : List Char) : Option Bytes :=
  let scheme := "data:image/png;base64,".toList
  if scheme <+: url then fromBase64 (url.drop scheme.length) else none

/-- The data URL of a PNG gives its reader that PNG back, byte for byte. -/
theorem dataUrlPng_dataUrl (png : Bytes) : dataUrlPng (dataUrl png) = some png := by
  have behind (scheme spelled : List Char) :
      (if scheme <+: scheme ++ spelled then fromBase64 ((scheme ++ spelled).drop scheme.length)
        else none) = fromBase64 spelled := by
    rw [if_pos (List.prefix_append scheme spelled), List.drop_left]
  have opened := behind "data:image/png;base64,".toList (toBase64 png)
  exact opened.trans (fromBase64_toBase64 png)

/-- The PNG that is shown for an icon file of admitted size: its image, resized where it has not
the size of an icon, and encoded again. -/
def ShownFor (libraries : Libraries) (machine : Machine) (path : Path) (png : Bytes) : Prop :=
  ∃ bytes width height image, machine.read path = .ok bytes ∧ bytes.length ≤ maxIconFileSize ∧
    libraries.dimensions bytes = some (width, height) ∧
    (width ≤ maxIconDimension ∧ height ≤ maxIconDimension) ∧
    libraries.decode bytes = some image ∧
    libraries.encode (if width = iconSize ∧ height = iconSize then image
      else libraries.resizeExact image iconSize iconSize) = some png

/-- An icon is loaded exactly when it can be shown, and then as the data URL of its PNG. -/
theorem loadServerIcon_eq_ok {path : Path} {context : String} {icon : List Char} :
    loadServerIcon libraries machine path context = .ok icon ↔
      ∃ png, ShownFor libraries machine path png ∧ icon = dataUrl png := by
  simp only [loadServerIcon, except_bind_eq_ok, except_mapError_eq_ok]
  constructor
  · rintro ⟨bytes, read, loaded⟩
    by_cases large : maxIconFileSize < bytes.length
    · simp [large, except_bind_eq_ok] at loaded
    simp only [large, ↓reduceIte] at loaded
    cases found : libraries.dimensions bytes with
    | none => simp [found] at loaded
    | some size =>
      obtain ⟨width, height⟩ := size
      by_cases wide : width ≤ maxIconDimension ∧ height ≤ maxIconDimension
      · simp only [found, wide, and_self, not_true_eq_false, ↓reduceIte] at loaded
        cases decoded : libraries.decode bytes with
        | none => simp [decoded] at loaded
        | some image =>
          simp only [decoded] at loaded
          split at loaded
          · simp at loaded
          · rename_i output encoded
            exact ⟨output, ⟨bytes, width, height, image, read, Nat.le_of_not_lt large, found, wide,
              decoded, encoded⟩, (except_pure_eq_ok.mp loaded).symm⟩
      · simp [found, wide, except_bind_eq_ok] at loaded
  · rintro ⟨png, ⟨bytes, width, height, image, read, small, found, wide, decoded, encoded⟩, rfl⟩
    refine ⟨bytes, read, ?_⟩
    simp only [Nat.not_lt.mpr small, ↓reduceIte, found, wide, and_self, not_true_eq_false, decoded,
      encoded, except_pure_eq_ok]

/-- A client that reads the status response of the prepared server finds no favicon where no icon
is configured, and otherwise one that gives it the PNG of the icon file. -/
def ShowsIcon (libraries : Libraries) (machine : Machine) (directory : Path)
    (entry : String × ServerEntry) (prepared : String × PreparedServer) : Prop :=
  ∃ status, Carries prepared.2.responder.statusResponse status ∧
    match entry.2.iconPath with
    | none => status.find ["favicon"] = none
    | some path => ∃ url png, status.find ["favicon"] = some (.text url) ∧
        dataUrlPng url = some png ∧
        ShownFor libraries machine (resolvePath (utf8 path) directory) png

/-- A server that is resolved shows the icon it is configured with: the bytes of the file come
back when the favicon in its status packet is decoded, and without an icon there is none. -/
theorem Resolved.showsIcon {entry : String × ServerEntry} {prepared : String × PreparedServer}
    (resolved : Resolved libraries machine directory secrets entry prepared) :
    ShowsIcon libraries machine directory entry prepared := by
  obtain ⟨icon, loaded, built⟩ := resolved.responder
  obtain ⟨-, status, -⟩ := MinecraftResponder.new_eq_ok.mp built
  refine ⟨_, carries_encoded status, ?_⟩
  have shown := (responderSettings entry.2 icon).statusResponse_favicon
  unfold prepareIcon at loaded
  cases configured : entry.2.iconPath with
  | none =>
    simp only [configured, except_pure_eq_ok] at loaded
    subst loaded
    exact shown
  | some path =>
    simp only [configured, resolveConfigPath, except_bind_eq_ok, except_mapError_eq_ok,
      except_pure_eq_ok] at loaded
    obtain ⟨_, ⟨-, -, rfl⟩, url, loaded, rfl⟩ := loaded
    obtain ⟨png, shows, rfl⟩ := loadServerIcon_eq_ok.mp loaded
    exact ⟨_, png, shown, dataUrlPng_dataUrl png, shows⟩

/-- Whatever document is prepared, each of its servers shows its clients exactly the icon that
the document configures for it. -/
theorem prepared_servers_show_their_icons {document : ConfigDocument} {config : PreparedConfig}
    (prepared : prepareDocument libraries machine document directory = .ok config) :
    List.Forall₂ (ShowsIcon libraries machine directory) document.servers config.servers := by
  simp only [prepareDocument, except_bind_eq_ok, except_pure_eq_ok, prepareServers_eq_ok] at prepared
  obtain ⟨servers, ⟨_, rfl, resolved, -, -⟩, rfl⟩ := prepared
  exact resolved.imp fun _ _ one => one.showsIcon

end McServerNap
