import McServerNap.Encoding.Address

/-!
# Endpoints of the configuration

Every server listens on one endpoint and connects to one or two others. They are checked for
conflicts on canonical addresses: a mapped IPv4 address counts as the IPv4 address, a DNS name
by its lower case. The endpoints in use later are computed from the configuration once more.
-/

namespace McServerNap

open Encoding

/-! ## Configuration -/

/-- `ListenerSchema`. -/
structure ListenerSchema where
  address : List Char
  port : UInt16
  deriving DecidableEq, Repr

/-- `TargetSchema`. -/
structure TargetSchema where
  host : List Char
  port : UInt16
  deriving DecidableEq, Repr

/-- `RconSchema`. -/
structure RconSchema where
  host : List Char
  port : UInt16
  passwordEnv : List Char
  deriving DecidableEq, Repr

/-- The endpoints of a `ServerSchema`. -/
structure ServerSchema where
  listener : ListenerSchema
  backend : TargetSchema
  rcon : Option RconSchema
  deriving DecidableEq, Repr

/-- The entries of the map of servers, in the order of their keys. -/
abbrev Servers := List (String × ServerSchema)

/-- `Endpoint`. -/
structure Endpoint where
  host : List Char
  port : UInt16
  deriving DecidableEq, Repr

/-- `Endpoint::new`. A host is stored without brackets. -/
def Endpoint.new (host : List Char) (port : UInt16) : Endpoint :=
  match host with
  | '[' :: value => if value.getLast? = some ']' then ⟨value.dropLast, port⟩ else ⟨host, port⟩
  | _ => ⟨host, port⟩

/-- `CanonicalHost`. -/
inductive CanonicalHost where
  | ip (address : IpAddr)
  | dns (hostname : List Char)
  deriving DecidableEq, Repr

/-! ## Errors -/

/-- Why `validate_listener` fails. -/
inductive ListenerError where
  /-- "listener port must not be zero" -/
  | portZero
  /-- "listener address must be an unbracketed numeric IP literal" -/
  | bracketed
  /-- "listener address must be an unbracketed numeric IPv4 or IPv6 literal" -/
  | notNumeric
  deriving DecidableEq, Repr

/-- Why `validate_target` fails. -/
inductive TargetError where
  /-- "target port must not be zero" -/
  | portZero
  /-- "target host must not be empty" -/
  | empty
  /-- "target host must be an unbracketed IP literal or portable ASCII hostname" -/
  | notUnbracketed
  /-- "target IP address must not be unspecified or multicast" -/
  | unspecifiedOrMulticast
  /-- "target hostname must be at most 253 characters and must not have a trailing dot" -/
  | tooLongOrTrailingDot
  /-- "target host is not a portable ASCII hostname" -/
  | notPortable
  deriving DecidableEq, Repr

/-- "password_env must match [A-Za-z_][A-Za-z0-9_]*" -/
inductive EnvironmentNameError where
  | noMatch
  deriving DecidableEq, Repr

/-- What a server connects to. -/
inductive TargetRole where
  /-- "backend" -/
  | backend
  /-- "rcon" -/
  | rcon
  deriving DecidableEq, Repr

/-- Why `validate_endpoints` fails, with the servers it names. -/
inductive EndpointError where
  /-- "[server={server_id}] invalid listener endpoint" -/
  | invalidListener (serverId : String) (cause : ListenerError)
  /-- "[server={server_id}] invalid backend endpoint" -/
  | invalidBackend (serverId : String) (cause : TargetError)
  /-- "[server={server_id}] invalid RCON endpoint" -/
  | invalidRcon (serverId : String) (cause : TargetError)
  /-- "[server={server_id}] invalid RCON password_env" -/
  | invalidPasswordEnv (serverId : String) (cause : EnvironmentNameError)
  /-- "endpoint conflict: [server={}] listener and [server={}] listener both own port {} on
  overlapping addresses" -/
  | listenersOverlap (left right : String) (port : UInt16)
  /-- "endpoint conflict: [server={}] {} and [server={}] {} resolve to the same endpoint" -/
  | sameEndpoint (left : String) (leftRole : TargetRole) (right : String) (rightRole : TargetRole)
  /-- "endpoint conflict: [server={}] {} may target [server={}] listener on port {}" -/
  | targetsListener (target : String) (role : TargetRole) (listener : String) (port : UInt16)
  deriving DecidableEq, Repr

/-! ## One endpoint -/

/-- `canonicalize_ip`. -/
def canonicalizeIp : IpAddr → IpAddr
  | .v6 address =>
    match address.toIpv4Mapped with
    | some ipv4 => .v4 ipv4
    | none => .v6 address
  | .v4 address => .v4 address

/-- `char::is_ascii`. -/
def isAscii (letter : Char) : Bool := letter.toNat < 128

/-- `u8::is_ascii_whitespace`. -/
def isAsciiWhitespace (letter : Char) : Bool :=
  letter = ' ' ∨ letter = '\t' ∨ letter = '\n' ∨ letter = '\x0c' ∨ letter = '\r'

/-- `validate_listener`. -/
def validateListener (listener : ListenerSchema) : Except ListenerError IpAddr :=
  if listener.port = 0 then .error .portZero
  else if listener.address.head? = some '[' ∨ listener.address.getLast? = some ']' then
    .error .bracketed
  else
    match parseIpAddr listener.address with
    | some address => .ok (canonicalizeIp address)
    | none => .error .notNumeric

/-- A label of a hostname, as the loop of `validate_hostname` asks for it. -/
def isPortableLabel (label : List Char) : Bool :=
  1 ≤ label.length ∧ label.length ≤ 63 ∧
    (label.all fun letter => letter.isAlphanum || letter = '-') ∧
    label.head?.any Char.isAlphanum ∧ label.getLast?.any Char.isAlphanum

/-- `validate_hostname`. The host is ASCII, so it has as many bytes as letters. -/
def validateHostname (host : List Char) : Except TargetError Unit :=
  if ¬ (host.length ≤ 253 ∧ host.getLast? ≠ some '.') then .error .tooLongOrTrailingDot
  else if (host.splitOn '.').all isPortableLabel then .ok ()
  else .error .notPortable

/-- `validate_target`. -/
def validateTarget (target : TargetSchema) : Except TargetError CanonicalHost :=
  if target.port = 0 then .error .portZero
  else if target.host = [] then .error .empty
  else if ¬ (target.host.all isAscii ∧ ¬ target.host.any isAsciiWhitespace ∧
      target.host.head? ≠ some '[' ∧ target.host.getLast? ≠ some ']') then
    .error .notUnbracketed
  else
    match parseIpAddr target.host with
    | some address =>
      let address := canonicalizeIp address
      if !address.isUnspecified && !address.isMulticast then .ok (.ip address)
      else .error .unspecifiedOrMulticast
    | none => (validateHostname target.host).map fun _ => .dns (target.host.map Char.toLower)

/-- `validate_environment_name`. -/
def validateEnvironmentName (name : List Char) : Except EnvironmentNameError Unit :=
  if (name.head?.any fun letter => letter.isAlpha || letter = '_') &&
      name.tail.all fun letter => letter.isAlphanum || letter = '_' then .ok ()
  else .error .noMatch

/-- `listener_endpoint`. -/
def listenerEndpoint (listener : ListenerSchema) : Except ListenerError Endpoint :=
  (validateListener listener).map fun address => Endpoint.new address.toText listener.port

/-- `target_endpoint`. -/
def targetEndpoint (target : TargetSchema) : Except TargetError Endpoint :=
  (validateTarget target).map fun host =>
    match host with
    | .ip address => Endpoint.new address.toText target.port
    | .dns hostname => Endpoint.new hostname target.port

/-! ## All endpoints -/

/-- `ListenerRecord`. -/
structure ListenerRecord where
  serverId : String
  address : IpAddr
  port : UInt16
  deriving DecidableEq, Repr

/-- `TargetRecord`. -/
structure TargetRecord where
  serverId : String
  role : TargetRole
  host : CanonicalHost
  port : UInt16
  deriving DecidableEq, Repr

/-- The target of `rcon`. -/
def RconSchema.target (rcon : RconSchema) : TargetSchema := ⟨rcon.host, rcon.port⟩

/-- The first loop of `validate_endpoints`: the records of all servers. -/
def collectEndpoints : Servers → List ListenerRecord → List TargetRecord →
    Except EndpointError (List ListenerRecord × List TargetRecord)
  | [], listeners, targets => .ok (listeners, targets)
  | (serverId, server) :: servers, listeners, targets => do
    let address ← (validateListener server.listener).mapError (.invalidListener serverId)
    let listeners := listeners ++ [⟨serverId, address, server.listener.port⟩]
    let host ← (validateTarget server.backend).mapError (.invalidBackend serverId)
    let targets := targets ++ [⟨serverId, .backend, host, server.backend.port⟩]
    match server.rcon with
    | some rcon =>
      let host ← (validateTarget rcon.target).mapError (.invalidRcon serverId)
      let targets := targets ++ [⟨serverId, .rcon, host, rcon.port⟩]
      let _ ← (validateEnvironmentName rcon.passwordEnv).mapError (.invalidPasswordEnv serverId)
      collectEndpoints servers listeners targets
    | none => collectEndpoints servers listeners targets

/-- `same_ip_family`. -/
def sameIpFamily : IpAddr → IpAddr → Bool
  | .v4 _, .v4 _ => true
  | .v6 _, .v6 _ => true
  | _, _ => false

/-- Every element with every later one, until a pair is in conflict. -/
def firstConflict {α ε : Type} (conflict : α → α → Option ε) : List α → Option ε
  | [] => none
  | left :: rest =>
    match rest.findSome? (conflict left) with
    | some error => some error
    | none => firstConflict conflict rest

/-- The body of the loop over pairs of listeners. -/
def listenerConflict (left right : ListenerRecord) : Option EndpointError :=
  if left.port = right.port ∧ (left.address = right.address ∨
      left.address.isUnspecified ∧ sameIpFamily left.address right.address ∨
      right.address.isUnspecified ∧ sameIpFamily left.address right.address) then
    some (.listenersOverlap left.serverId right.serverId left.port)
  else none

/-- The body of the loop over pairs of targets. -/
def targetConflict (left right : TargetRecord) : Option EndpointError :=
  if left.port = right.port ∧ left.host = right.host then
    some (.sameEndpoint left.serverId left.role right.serverId right.role)
  else none

/-- The body of the loop over targets and listeners. -/
def loopConflict (target : TargetRecord) (listener : ListenerRecord) : Option EndpointError :=
  if target.port ≠ listener.port then none
  else
    let conflicts :=
      match target.host with
      | .dns _ => true
      | .ip address => address = listener.address || listener.address.isUnspecified
    if conflicts then
      some (.targetsListener target.serverId target.role listener.serverId listener.port)
    else none

/-- `validate_endpoints`. -/
def validateEndpoints (servers : Servers) : Except EndpointError Unit := do
  let (listeners, targets) ← collectEndpoints servers [] []
  match firstConflict listenerConflict listeners with
  | some error => .error error
  | none =>
    match firstConflict targetConflict targets with
    | some error => .error error
    | none =>
      match targets.findSome? fun target => listeners.findSome? (loopConflict target) with
      | some error => .error error
      | none => .ok ()

end McServerNap
