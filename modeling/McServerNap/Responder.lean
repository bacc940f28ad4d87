import McServerNap.Encoding.Fallible
import McServerNap.Encoding.Json
import McServerNap.RoundTrip

/-!
# The packets of a responder

A responder is built once, with every packet it will ever send. The packets hold JSON texts;
the names of the `json!` components come in the order of a map, those of the status response
in the order of its fields.
-/

namespace McServerNap

open Encoding

/-- `MinecraftResponderSettings`. -/
structure MinecraftResponderSettings where
  minecraftVersion : MinecraftVersion
  sleepingMotdText : List Char
  sleepingMotdColor : List Char
  sleepingMotdBold : Bool
  startupMessageText : List Char
  startupMessageColor : List Char
  startupMessageBold : Bool
  serverIcon : Option (List Char)

/-- `CONFLICT_DISCONNECT_MESSAGE`. -/
def conflictDisconnectMessage : String :=
  "MCServerNap cannot safely start the server because the backend state is uncertain. Try again later or contact the server administrator."

/-- `StatusVersion`. -/
def statusVersion (version : MinecraftVersion) : Json :=
  Json.ofFields
    [("name", .text version.name.toList), ("protocol", .integer version.protocol.toInt)]

/-- `StatusPlayers`, as a sleeping server has them. -/
def statusPlayers : Json :=
  Json.ofFields [("max", .integer 0), ("online", .integer 0), ("sample", .array [])]

/-- `StatusDescription`. -/
def statusDescription (text color : List Char) (bold : Bool) : Json :=
  Json.ofFields [("text", .text text), ("color", .text color), ("bold", .boolean bold)]

/-- `StatusResponse`. There is no favicon without an icon. -/
def MinecraftResponderSettings.statusResponse (settings : MinecraftResponderSettings) : Json :=
  Json.ofFields
    ([("version", statusVersion settings.minecraftVersion), ("players", statusPlayers),
      ("description", statusDescription settings.sleepingMotdText settings.sleepingMotdColor
        settings.sleepingMotdBold)] ++
      match settings.serverIcon with
      | some icon => [("favicon", .text icon)]
      | none => [])

/-- The component of `login_disconnect`. -/
def MinecraftResponderSettings.disconnectComponent (settings : MinecraftResponderSettings) :
    Json :=
  Json.ofFields
    [("bold", .boolean settings.startupMessageBold),
      ("color", .text settings.startupMessageColor), ("text", .text settings.startupMessageText)]

/-- The component of `conflict_disconnect`. -/
def conflictComponent : Json :=
  Json.ofFields
    [("color", .text "red".toList), ("text", .text conflictDisconnectMessage.toList)]

/-- "This server requires Minecraft Java {} (protocol {})." -/
def incompatibleMessage (version : MinecraftVersion) : List Char :=
  "This server requires Minecraft Java ".toList ++ version.name.toList ++
    " (protocol ".toList ++ printInteger version.protocol.toInt ++ ").".toList

/-- The component of `incompatible_disconnect`. -/
def incompatibleComponent (version : MinecraftVersion) : Json :=
  Json.ofFields
    [("bold", .boolean true), ("color", .text "red".toList),
      ("text", .text (incompatibleMessage version))]

/-- `MinecraftResponder::new`. -/
def MinecraftResponder.new (settings : MinecraftResponderSettings) :
    Except ClientError MinecraftResponder := do
  let statusResponse ← encodeStringPacket 0 settings.statusResponse.print
  let loginDisconnect ← encodeStringPacket 0 settings.disconnectComponent.print
  let conflictDisconnect ← encodeStringPacket 0 conflictComponent.print
  let incompatibleDisconnect ←
    encodeStringPacket 0 (incompatibleComponent settings.minecraftVersion).print
  return {
    minecraftVersion := settings.minecraftVersion
    statusResponse
    loginDisconnect
    conflictDisconnect
    incompatibleDisconnect }

/-- The text about a conflict fits a packet, by counting. -/
theorem conflictComponent_short : utf16Units conflictComponent.print ≤ 32767 := by
  decide +kernel

/-- The text about a version is short, whichever of the catalogue's versions it names. -/
theorem incompatibleMessage_short (version : MinecraftVersion) :
    (incompatibleMessage version).length ≤ 64 := by
  have all : ∀ entry ∈ supportedVersions.attach,
      (incompatibleMessage ⟨entry.1, entry.2⟩).length ≤ 64 := by
    decide +kernel
  exact all ⟨version.profile, version.supported⟩ (List.mem_attach _ _)

/-- So its component fits a packet as well. The text around the message is fixed, and the message
is short for every release that has a name. -/
theorem incompatibleComponent_short (version : MinecraftVersion) :
    utf16Units (incompatibleComponent version).print ≤ 32767 := by
  have printed : (incompatibleComponent version).print =
      ('{' :: "\"bold\":true,\"color\":\"red\",\"text\":".toList ++
        quote (incompatibleMessage version)) ++ ['}'] := by
    simp only [incompatibleComponent, Json.ofFields, List.map_cons, List.map_nil, Json.print,
      printMembers_eq, joinWith]
    rw [List.append_assoc]
    rfl
  have quoted := utf16Units_quote (incompatibleMessage version)
  have short := incompatibleMessage_short version
  have opening : utf16Units ('{' :: "\"bold\":true,\"color\":\"red\",\"text\":".toList) = 34 := by
    decide +kernel
  have closing : utf16Units ['}'] = 1 := by decide
  rw [printed, utf16Units_append, utf16Units_append, opening, closing]
  omega

/-- The status response shows the configured icon as its favicon, and has none without one. -/
theorem MinecraftResponderSettings.statusResponse_favicon
    (settings : MinecraftResponderSettings) :
    settings.statusResponse.find ["favicon"] = settings.serverIcon.map .text := by
  simp only [statusResponse, statusVersion, statusPlayers, statusDescription]
  cases settings.serverIcon <;> simp [List.lookup_cons]

/-! ## What clients read -/

/-- The packet brings its reader this value, as the text of a packet with id 0, and takes
nothing of what follows it. -/
def Carries (packet : Bytes) (value : Json) : Prop :=
  ∃ (body : Bytes) (text : List Char),
    readPacketFields readStringBody body = .ok (0, text) ∧ parseJson text = some value ∧
    ∀ (limit : Nat) (socket : Socket) (rest : Bytes), body.length ≤ limit →
      socket.stream = packet ++ rest →
        ∃ later, outcome (readPacket limit) socket = (.ok body, later) ∧ later.stream = rest

/-- A value that was encoded as the text of a packet is carried by it: the packet reads back, and
its text parses. -/
theorem carries_encoded {value : Json} {packet : Bytes}
    (encoded : encodeStringPacket 0 value.print = .ok packet) : Carries packet value := by
  have units := (encodeStringPacket_ok_iff 0 value.print).mp ⟨packet, encoded⟩
  obtain ⟨same, -, -⟩ := encodeStringPacket_eq 0 value.print units
  obtain ⟨-, size, -⟩ := writeVarint_spec 0
  refine ⟨stringBody 0 value.print, value.print, readStringBody_stringBody 0 _ units,
    parseJson_print value, fun limit socket rest admitted stream => ?_⟩
  rw [stringBody, List.length_append, size] at admitted
  exact ((readPacket_reads limit).iff socket _ rest).mpr
    ⟨packet, stream, encodePacket_isFrame (same ▸ encoded) admitted⟩

/-- The packets of a responder, one by one, as `new` encodes them in its order. Later proofs take
from it the packet they are about. -/
theorem MinecraftResponder.new_eq_ok {settings : MinecraftResponderSettings}
    {responder : MinecraftResponder} :
    MinecraftResponder.new settings = .ok responder ↔
      responder.minecraftVersion = settings.minecraftVersion ∧
      encodeStringPacket 0 settings.statusResponse.print = .ok responder.statusResponse ∧
      encodeStringPacket 0 settings.disconnectComponent.print = .ok responder.loginDisconnect ∧
      encodeStringPacket 0 conflictComponent.print = .ok responder.conflictDisconnect ∧
      encodeStringPacket 0 (incompatibleComponent settings.minecraftVersion).print =
        .ok responder.incompatibleDisconnect := by
  simp only [MinecraftResponder.new, except_bind_eq_ok, except_pure_eq_ok]
  constructor
  · rintro ⟨_, status, _, login, _, conflict, _, incompatible, rfl⟩
    exact ⟨rfl, status, login, conflict, incompatible⟩
  · rintro ⟨version, status, login, conflict, incompatible⟩
    exact ⟨_, status, _, login, _, conflict, _, incompatible, by rw [← version]⟩

/-- Only the configured texts can be too long. The other two packets carry fixed texts, of which
the longest with the name of a release is still short. -/
theorem MinecraftResponder.new_ok_iff (settings : MinecraftResponderSettings) :
    (∃ responder, MinecraftResponder.new settings = .ok responder) ↔
      utf16Units settings.statusResponse.print ≤ 32767 ∧
        utf16Units settings.disconnectComponent.print ≤ 32767 := by
  constructor
  · rintro ⟨responder, built⟩
    obtain ⟨-, status, login, -, -⟩ := MinecraftResponder.new_eq_ok.mp built
    exact ⟨(encodeStringPacket_ok_iff 0 _).mp ⟨_, status⟩,
      (encodeStringPacket_ok_iff 0 _).mp ⟨_, login⟩⟩
  · rintro ⟨statusFits, loginFits⟩
    obtain ⟨statusResponse, status⟩ := (encodeStringPacket_ok_iff 0 _).mpr statusFits
    obtain ⟨loginDisconnect, login⟩ := (encodeStringPacket_ok_iff 0 _).mpr loginFits
    obtain ⟨conflictDisconnect, conflict⟩ :=
      (encodeStringPacket_ok_iff 0 _).mpr conflictComponent_short
    obtain ⟨incompatibleDisconnect, incompatible⟩ := (encodeStringPacket_ok_iff 0 _).mpr
      (incompatibleComponent_short settings.minecraftVersion)
    exact ⟨⟨_, _, _, _, _⟩,
      MinecraftResponder.new_eq_ok.mpr ⟨rfl, status, login, conflict, incompatible⟩⟩

/-- The status response shows clients exactly what was configured, and each of the three
disconnects carries its own text. The responder can be built exactly when the two texts that are
configured fit into a string. -/
theorem responder_packets_are_read_as_configured (settings : MinecraftResponderSettings) :
    ((∃ responder, MinecraftResponder.new settings = .ok responder) ↔
      utf16Units settings.statusResponse.print ≤ 32767 ∧
        utf16Units settings.disconnectComponent.print ≤ 32767) ∧
    ∀ responder, MinecraftResponder.new settings = .ok responder →
      (∃ status, Carries responder.statusResponse status ∧
        status.find ["version", "name"] = some (.text settings.minecraftVersion.name.toList) ∧
        status.find ["version", "protocol"] =
          some (.integer settings.minecraftVersion.protocol.toInt) ∧
        status.find ["players", "max"] = some (.integer 0) ∧
        status.find ["players", "online"] = some (.integer 0) ∧
        status.find ["description", "text"] = some (.text settings.sleepingMotdText) ∧
        status.find ["description", "color"] = some (.text settings.sleepingMotdColor) ∧
        status.find ["description", "bold"] = some (.boolean settings.sleepingMotdBold) ∧
        status.find ["favicon"] = settings.serverIcon.map .text) ∧
      (∃ disconnect, Carries responder.loginDisconnect disconnect ∧
        disconnect.find ["text"] = some (.text settings.startupMessageText) ∧
        disconnect.find ["color"] = some (.text settings.startupMessageColor) ∧
        disconnect.find ["bold"] = some (.boolean settings.startupMessageBold)) ∧
      (∃ conflict, Carries responder.conflictDisconnect conflict ∧
        conflict.find ["text"] = some (.text conflictDisconnectMessage.toList)) ∧
      ∃ incompatible, Carries responder.incompatibleDisconnect incompatible ∧
        incompatible.find ["text"] =
          some (.text (incompatibleMessage settings.minecraftVersion)) := by
  constructor
  · exact MinecraftResponder.new_ok_iff settings
  · intro responder built
    obtain ⟨-, status, login, conflict, incompatible⟩ := MinecraftResponder.new_eq_ok.mp built
    refine ⟨⟨_, carries_encoded status, ?_⟩, ⟨_, carries_encoded login, ?_⟩,
      ⟨_, carries_encoded conflict, ?_⟩, ⟨_, carries_encoded incompatible, ?_⟩⟩
    · simp only [MinecraftResponderSettings.statusResponse, statusVersion, statusPlayers,
        statusDescription]
      cases settings.serverIcon <;> simp [List.lookup_cons]
    · simp [MinecraftResponderSettings.disconnectComponent, List.lookup_cons]
    · simp [conflictComponent, List.lookup_cons]
    · simp [incompatibleComponent, List.lookup_cons]

end McServerNap
