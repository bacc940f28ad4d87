import Mathlib.Data.List.Forall2
import McServerNap.EndpointTexts

/-!
# Conflicts between endpoints

The three loops visit every pair of listeners, every pair of targets and every target with
every listener. So the verdict says that no two of them clash, whatever the order of the
servers, and it depends on the meaning of the texts only.
-/

namespace McServerNap

open Encoding

/-! ## Clashes -/

/-- A listener by what its text spells. -/
structure Listening where
  address : Option IpAddr
  port : UInt16
  deriving DecidableEq, Repr

/-- A target by what its text names. -/
structure Aim where
  host : CanonicalHost
  port : UInt16
  deriving DecidableEq, Repr

/-- What a listener of the document listens at: the canonical form of its address, and its
port. -/
def ListenerSchema.listening (listener : ListenerSchema) : Listening :=
  ⟨canonicalAddress listener.address, listener.port⟩

/-- What a target of the document aims at: the canonical form of its host, and its port. -/
def TargetSchema.aim (target : TargetSchema) : Aim := ⟨canonicalHost target.host, target.port⟩

/-- The backend of a server and its RCON target. -/
def ServerSchema.targets (server : ServerSchema) : List TargetSchema :=
  server.backend :: server.rcon.toList.map RconSchema.target

/-- Two listeners own one port: on equal addresses, or one of them on every address of the
family. -/
def Listening.Clashes (left right : Listening) : Prop :=
  left.port = right.port ∧
    ∃ first ∈ left.address, ∃ second ∈ right.address,
      first = second ∨ (first.isUnspecified ∨ second.isUnspecified) ∧ sameIpFamily first second

/-- The target may be the listener: a DNS name may resolve to any address, and an unspecified
listener is behind every address. -/
def Aim.Reaches (aim : Aim) (listening : Listening) : Prop :=
  aim.port = listening.port ∧
    ∃ listened ∈ listening.address,
      (∃ hostname, aim.host = .dns hostname) ∨ aim.host = .ip listened ∨ listened.isUnspecified

/-- Where the servers listen, in their order. -/
def listenings (servers : List ServerSchema) : List Listening :=
  servers.map fun server => server.listener.listening

/-- What the servers aim at: the backend of each, and the RCON endpoint where there is one. -/
def aims (servers : List ServerSchema) : List Aim :=
  (servers.flatMap ServerSchema.targets).map TargetSchema.aim

/-- No two endpoints of the servers are in conflict. -/
structure Separate (servers : List ServerSchema) : Prop where
  listeners : (listenings servers).Pairwise fun left right => ¬ left.Clashes right
  targets : (aims servers).Pairwise fun left right => left ≠ right
  loops : ∀ aim ∈ aims servers, ∀ listening ∈ listenings servers, ¬ aim.Reaches listening

/-- The endpoints of the server and its `password_env` are valid by themselves. -/
structure ServerSchema.Valid (server : ServerSchema) : Prop where
  listener : ∃ address, validateListener server.listener = .ok address
  backend : ∃ host, validateTarget server.backend = .ok host
  rcon : ∀ rcon ∈ server.rcon, (∃ host, validateTarget rcon.target = .ok host) ∧
    validateEnvironmentName rcon.passwordEnv = .ok ()

/-- Every target of a valid server is accepted by itself. -/
theorem ServerSchema.Valid.target {server : ServerSchema} (valid : server.Valid)
    {target : TargetSchema} (mem : target ∈ server.targets) :
    ∃ host, validateTarget target = .ok host := by
  rcases List.mem_cons.mp mem with rfl | mem
  · exact valid.backend
  · obtain ⟨rcon, configured, rfl⟩ := List.mem_map.mp mem
    exact (valid.rcon rcon (Option.mem_toList.mp configured)).1

/-! ## Loops over pairs -/

/-- The loop over pairs finds nothing when no pair is in conflict. Each element is compared with
those behind it, which is what being pairwise apart says. -/
theorem firstConflict_eq_none {α ε : Type} (conflict : α → α → Option ε) (elements : List α) :
    firstConflict conflict elements = none ↔
      elements.Pairwise fun left right => conflict left right = none := by
  induction elements with
  | nil => simp [firstConflict]
  | cons left rest inductionHypothesis =>
    rw [List.pairwise_cons, ← inductionHypothesis, firstConflict]
    cases found : rest.findSome? (conflict left) with
    | none =>
      have clear := List.findSome?_eq_none_iff.mp found
      simp only [and_iff_right clear]
    | some error =>
      have some_conflict : ¬ ∀ right ∈ rest, conflict left right = none := by
        rw [← List.findSome?_eq_none_iff, found]
        exact Option.some_ne_none error
      simp only [reduceCtorEq, false_iff, not_and]
      intro clear
      exact absurd clear some_conflict

/-! ## Records -/

/-- What a collected listener listens at. -/
def ListenerRecord.listening (record : ListenerRecord) : Listening :=
  ⟨some record.address, record.port⟩

/-- What a collected target aims at. -/
def TargetRecord.aim (record : TargetRecord) : Aim := ⟨record.host, record.port⟩

/-- Two listeners are reported exactly when they clash, whichever message is chosen. The function
compares records; the clash is about the ports and addresses in them. -/
theorem listenerConflict_eq_none (left right : ListenerRecord) :
    listenerConflict left right = none ↔ ¬ left.listening.Clashes right.listening := by
  have same : left.listening.Clashes right.listening ↔
      left.port = right.port ∧ (left.address = right.address ∨
        left.address.isUnspecified ∧ sameIpFamily left.address right.address ∨
        right.address.isUnspecified ∧ sameIpFamily left.address right.address) := by
    simp only [Listening.Clashes, ListenerRecord.listening, Option.mem_def, Option.some.injEq,
      exists_eq_left', or_and_right]
  rw [same, listenerConflict]
  split
  · rename_i conflict
    simp only [reduceCtorEq, false_iff, not_not]
    exact conflict
  · rename_i clear
    simp only [true_iff]
    exact clear

/-- Two targets are reported exactly when they aim at the same: at one port of one canonical
host. -/
theorem targetConflict_eq_none (left right : TargetRecord) :
    targetConflict left right = none ↔ left.aim ≠ right.aim := by
  have same : left.aim = right.aim ↔ left.port = right.port ∧ left.host = right.host := by
    simp only [TargetRecord.aim, Aim.mk.injEq]
    exact and_comm
  rw [ne_eq, same, targetConflict]
  split
  · rename_i conflict
    simp only [reduceCtorEq, false_iff, not_not]
    exact conflict
  · rename_i clear
    simp only [true_iff]
    exact clear

/-- A target and a listener are reported exactly when one reaches the other. A name may resolve to
any address, so it reaches every listener of its port. -/
theorem loopConflict_eq_none (target : TargetRecord) (listener : ListenerRecord) :
    loopConflict target listener = none ↔ ¬ target.aim.Reaches listener.listening := by
  unfold loopConflict
  by_cases port : target.port = listener.port
  · have reaches : target.aim.Reaches listener.listening ↔
        (∃ hostname, target.host = .dns hostname) ∨ target.host = .ip listener.address ∨
          listener.address.isUnspecified := by
      simp only [Aim.Reaches, TargetRecord.aim, ListenerRecord.listening, port, true_and,
        Option.mem_def, Option.some.injEq, exists_eq_left']
    rw [reaches, if_neg (not_not.mpr port)]
    cases target.host with
    | dns hostname => simp
    | ip address => simp
  · rw [if_pos port]
    simp only [true_iff]
    exact fun reaches => port reaches.1

/-- The records of the servers say what their texts mean. -/
structure Recorded (servers : Servers) (listeners : List ListenerRecord)
    (targets : List TargetRecord) : Prop where
  listeners : listeners.map ListenerRecord.listening = listenings (servers.map Prod.snd)
  targets : targets.map TargetRecord.aim = aims (servers.map Prod.snd)

/-- A valid server adds its records: one for its listener, and one for each of its targets, with
RCON only where that is configured. The loop goes on behind it. -/
theorem collectEndpoints_valid (serverId : String) {server : ServerSchema} (valid : server.Valid)
    (servers : Servers) (listeners : List ListenerRecord) (targets : List TargetRecord) :
    ∃ newListeners newTargets,
      collectEndpoints ((serverId, server) :: servers) listeners targets =
        collectEndpoints servers (listeners ++ newListeners) (targets ++ newTargets) ∧
      newListeners.map ListenerRecord.listening = [server.listener.listening] ∧
      newTargets.map TargetRecord.aim = server.targets.map TargetSchema.aim := by
  obtain ⟨listener, backend, rcon⟩ := server
  obtain ⟨⟨address, listens⟩, ⟨host, aimed⟩, console⟩ := valid
  have spelled : canonicalAddress listener.address = some address :=
    (validateListener_eq_ok.mp listens).2
  have named := validateTarget_canonical aimed
  dsimp only at listens aimed console named
  cases rcon with
  | none =>
    refine ⟨[⟨serverId, address, listener.port⟩], [⟨serverId, .backend, host, backend.port⟩],
      ?_, ?_, ?_⟩
    · simp only [collectEndpoints, listens, aimed]
      rfl
    · simp only [List.map_cons, List.map_nil, ListenerRecord.listening, ListenerSchema.listening,
        spelled]
    · simp only [ServerSchema.targets, List.map_cons, TargetRecord.aim, TargetSchema.aim, named]
      rfl
  | some rcon =>
    obtain ⟨⟨consoleHost, reached⟩, secret⟩ := console rcon rfl
    have consoleNamed := validateTarget_canonical reached
    refine ⟨[⟨serverId, address, listener.port⟩],
      [⟨serverId, .backend, host, backend.port⟩, ⟨serverId, .rcon, consoleHost, rcon.port⟩],
      ?_, ?_, ?_⟩
    · simp only [collectEndpoints, listens, aimed, reached, secret]
      show collectEndpoints servers _ (targets ++ [_] ++ [_]) = _
      rw [List.append_assoc]
      rfl
    · simp only [List.map_cons, List.map_nil, ListenerRecord.listening, ListenerSchema.listening,
        spelled]
    · simp only [ServerSchema.targets, List.map_cons, TargetRecord.aim, TargetSchema.aim, named,
        consoleNamed]
      rfl

/-- An invalid server ends the loop, at the first of its listener, backend and RCON endpoint that
is not valid, whatever was recorded before. -/
theorem collectEndpoints_invalid (serverId : String) {server : ServerSchema}
    (invalid : ¬ server.Valid) (servers : Servers) (listeners : List ListenerRecord)
    (targets : List TargetRecord) :
    ∃ error, collectEndpoints ((serverId, server) :: servers) listeners targets =
      .error error := by
  obtain ⟨listener, backend, rcon⟩ := server
  cases listens : validateListener listener with
  | error cause =>
    simp only [collectEndpoints, listens]
    exact ⟨_, rfl⟩
  | ok address =>
    cases aimed : validateTarget backend with
    | error cause =>
      simp only [collectEndpoints, listens, aimed]
      exact ⟨_, rfl⟩
    | ok host =>
      cases rcon with
      | none =>
        have valid : ServerSchema.Valid ⟨listener, backend, none⟩ :=
          ⟨⟨address, listens⟩, ⟨host, aimed⟩, nofun⟩
        exact absurd valid invalid
      | some rcon =>
        cases reached : validateTarget rcon.target with
        | error cause =>
          simp only [collectEndpoints, listens, aimed, reached]
          exact ⟨_, rfl⟩
        | ok consoleHost =>
          cases secret : validateEnvironmentName rcon.passwordEnv with
          | error cause =>
            simp only [collectEndpoints, listens, aimed, reached, secret]
            exact ⟨_, rfl⟩
          | ok matched =>
            have valid : ServerSchema.Valid ⟨listener, backend, some rcon⟩ := by
              refine ⟨⟨address, listens⟩, ⟨host, aimed⟩, fun other same => ?_⟩
              obtain rfl := Option.some.inj same
              exact ⟨⟨consoleHost, reached⟩, secret⟩
            exact absurd valid invalid

/-- The first loop passes when every server is valid, and then records all of them. The induction
is on the servers left, with the records so far generalized. -/
theorem collectEndpoints_records (servers : Servers) (valid : ∀ entry ∈ servers, entry.2.Valid)
    (listeners : List ListenerRecord) (targets : List TargetRecord) :
    ∃ newListeners newTargets,
      collectEndpoints servers listeners targets =
        .ok (listeners ++ newListeners, targets ++ newTargets) ∧
      Recorded servers newListeners newTargets := by
  induction servers generalizing listeners targets with
  | nil => exact ⟨[], [], by simp [collectEndpoints], ⟨rfl, rfl⟩⟩
  | cons entry servers inductionHypothesis =>
    obtain ⟨serverId, server⟩ := entry
    obtain ⟨first, others⟩ := List.forall_mem_cons.mp valid
    obtain ⟨frontListeners, frontTargets, step, listening, aim⟩ :=
      collectEndpoints_valid serverId first servers listeners targets
    obtain ⟨backListeners, backTargets, collected, recorded⟩ :=
      inductionHypothesis others (listeners ++ frontListeners) (targets ++ frontTargets)
    refine ⟨frontListeners ++ backListeners, frontTargets ++ backTargets, ?_, ?_, ?_⟩
    · rw [step, collected, List.append_assoc, List.append_assoc]
    · rw [List.map_append, listening, recorded.listeners]
      rfl
    · rw [List.map_append, aim, recorded.targets]
      simp only [aims, List.map_cons, List.flatMap_cons, List.map_append]

/-- Collecting succeeds only when every endpoint is valid by itself, so conflicts are looked for
among valid ones. -/
theorem collectEndpoints_all_valid {servers : Servers} {listeners : List ListenerRecord}
    {targets : List TargetRecord} {records : List ListenerRecord × List TargetRecord}
    (collected : collectEndpoints servers listeners targets = .ok records) :
    ∀ entry ∈ servers, entry.2.Valid := by
  induction servers generalizing listeners targets with
  | nil => exact nofun
  | cons entry servers inductionHypothesis =>
    obtain ⟨serverId, server⟩ := entry
    by_cases valid : server.Valid
    · obtain ⟨_, _, step, -, -⟩ :=
        collectEndpoints_valid serverId valid servers listeners targets
      rw [step] at collected
      exact List.forall_mem_cons.mpr ⟨valid, inductionHypothesis collected⟩
    · obtain ⟨error, failed⟩ :=
        collectEndpoints_invalid serverId valid servers listeners targets
      rw [failed] at collected
      cases collected

/-! ## The verdict -/

/-- The loops over the records find nothing exactly when nothing clashes: each of the three rules
is one loop, over pairs of listeners, pairs of targets, and both. -/
theorem Recorded.separate_iff {servers : Servers} {listeners : List ListenerRecord}
    {targets : List TargetRecord} (recorded : Recorded servers listeners targets) :
    Separate (servers.map Prod.snd) ↔
      firstConflict listenerConflict listeners = none ∧
      firstConflict targetConflict targets = none ∧
      (targets.findSome? fun target => listeners.findSome? (loopConflict target)) = none := by
  have first : (listenings (servers.map Prod.snd)).Pairwise (fun left right => ¬ left.Clashes right) ↔
      firstConflict listenerConflict listeners = none := by
    rw [← recorded.listeners, List.pairwise_map, firstConflict_eq_none]
    simp only [listenerConflict_eq_none]
  have second : (aims (servers.map Prod.snd)).Pairwise (fun left right => left ≠ right) ↔
      firstConflict targetConflict targets = none := by
    rw [← recorded.targets, List.pairwise_map, firstConflict_eq_none]
    simp only [targetConflict_eq_none]
  have third : (∀ aim ∈ aims (servers.map Prod.snd),
      ∀ listening ∈ listenings (servers.map Prod.snd), ¬ aim.Reaches listening) ↔
      (targets.findSome? fun target => listeners.findSome? (loopConflict target)) = none := by
    rw [← recorded.targets, ← recorded.listeners]
    simp only [List.forall_mem_map, List.findSome?_eq_none_iff, loopConflict_eq_none]
  rw [← first, ← second, ← third]
  exact ⟨fun separate => ⟨separate.listeners, separate.targets, separate.loops⟩,
    fun ⟨listeners, targets, loops⟩ => ⟨listeners, targets, loops⟩⟩

/-- The servers are accepted exactly when each is valid and no two endpoints clash: the first loop
decides about the servers alone, the loops behind it about pairs. -/
theorem validateEndpoints_eq_ok (servers : Servers) :
    validateEndpoints servers = .ok () ↔
      (∀ entry ∈ servers, entry.2.Valid) ∧ Separate (servers.map Prod.snd) := by
  by_cases valid : ∀ entry ∈ servers, entry.2.Valid
  · obtain ⟨listeners, targets, collected, recorded⟩ := collectEndpoints_records servers valid [] []
    rw [and_iff_right valid, recorded.separate_iff]
    rw [validateEndpoints, collected]
    simp only [List.nil_append, bind, Except.bind]
    cases firstConflict listenerConflict listeners with
    | some error => simp
    | none =>
      cases firstConflict targetConflict targets with
      | some error => simp
      | none =>
        cases targets.findSome? fun target => listeners.findSome? (loopConflict target) with
        | some error => simp
        | none => simp
  · rw [iff_false_right fun accepted => valid accepted.1]
    intro accepted
    cases collected : collectEndpoints servers [] [] with
    | ok records => exact valid (collectEndpoints_all_valid collected)
    | error error =>
      rw [validateEndpoints, collected] at accepted
      cases accepted

/-- A backend in mapped form that is the server's own listener. -/
example : validateEndpoints [("survival",
      ⟨⟨"127.0.0.1".toList, 25566⟩, ⟨"::ffff:127.0.0.1".toList, 25566⟩, none⟩)] =
    .error (.targetsListener "survival" .backend "survival" 25566) := by
  decide

/-! ## Order -/

/-- Being of one family is symmetric. -/
theorem sameIpFamily_comm (left right : IpAddr) : sameIpFamily left right = sameIpFamily right left := by
  cases left <;> cases right <;> rfl

/-- Two listeners clash with each other, in whichever order they are compared. -/
theorem Listening.Clashes.symm {left right : Listening} (clashes : left.Clashes right) :
    right.Clashes left := by
  obtain ⟨port, first, spelled, second, named, conflict⟩ := clashes
  refine ⟨port.symm, second, named, first, spelled, ?_⟩
  rcases conflict with same | ⟨wide, family⟩
  · exact .inl same.symm
  · rw [sameIpFamily_comm] at family
    exact .inr ⟨wide.symm, family⟩

/-- The order of the servers does not matter. -/
theorem Separate.perm {servers permuted : List ServerSchema} (separate : Separate servers)
    (same : servers.Perm permuted) : Separate permuted := by
  have listenersSame : (listenings servers).Perm (listenings permuted) := same.map _
  have aimsSame : (aims servers).Perm (aims permuted) :=
    (same.flatMap_right ServerSchema.targets).map TargetSchema.aim
  constructor
  · exact separate.listeners.perm listenersSame fun apart clashes => apart clashes.symm
  · exact separate.targets.perm aimsSame Ne.symm
  · intro aim aimed listening listened
    exact separate.loops aim (aimsSame.mem_iff.mpr aimed) listening
      (listenersSame.mem_iff.mpr listened)

/-- The verdict depends on the servers only, not on their keys or their order. -/
theorem validateEndpoints_perm {servers renamed : Servers}
    (same : (servers.map Prod.snd).Perm (renamed.map Prod.snd))
    (accepted : validateEndpoints servers = .ok ()) : validateEndpoints renamed = .ok () := by
  rw [validateEndpoints_eq_ok] at accepted ⊢
  obtain ⟨valid, separate⟩ := accepted
  have all : ∀ server ∈ servers.map Prod.snd, server.Valid := List.forall_mem_map.mpr valid
  have others : ∀ server ∈ renamed.map Prod.snd, server.Valid :=
    fun server mem => all server (same.mem_iff.mpr mem)
  exact ⟨List.forall_mem_map.mp others, separate.perm same⟩

/-! ## Spellings -/

/-- The same ports, and hosts that are spelled alike. -/
structure ServerSchema.SpelledAlike (left right : ServerSchema) : Prop where
  listener : McServerNap.SpelledAlike left.listener.address right.listener.address ∧
    left.listener.port = right.listener.port
  backend : McServerNap.SpelledAlike left.backend.host right.backend.host ∧
    left.backend.port = right.backend.port
  rcon : Option.Rel (fun left right => McServerNap.SpelledAlike left.host right.host ∧
    left.port = right.port ∧ left.passwordEnv = right.passwordEnv) left.rcon right.rcon

/-- The first loop finds the same records or the same error: it looks at a text only through its
canonical address or host, and these are equal on both sides. -/
theorem collectEndpoints_alike {servers rewritten : Servers}
    (alike : List.Forall₂ (fun left right => left.1 = right.1 ∧ left.2.SpelledAlike right.2)
      servers rewritten) (listeners : List ListenerRecord) (targets : List TargetRecord) :
    collectEndpoints servers listeners targets = collectEndpoints rewritten listeners targets := by
  induction alike generalizing listeners targets with
  | nil => rfl
  | cons first others inductionHypothesis =>
    rename_i left right _ _
    obtain ⟨serverId, ⟨listenerAddress, listenerPort⟩, ⟨backendHost, backendPort⟩, rcon⟩ := left
    obtain ⟨_, ⟨_, _⟩, ⟨_, _⟩, otherRcon⟩ := right
    obtain ⟨rfl, ⟨listens, rfl⟩, ⟨aims, rfl⟩, console⟩ := first
    dsimp only at listens aims console
    have listening := listens.listener listenerPort
    have aiming := aims.target backendPort
    cases console with
    | none => simp only [collectEndpoints, listening, aiming, inductionHypothesis]
    | some same =>
      rename_i console other
      obtain ⟨consoleHost, consolePort, secret⟩ := console
      obtain ⟨_, _, _⟩ := other
      obtain ⟨reaches, rfl, rfl⟩ := same
      have reaching := reaches.target consolePort
      simp only [collectEndpoints, listening, aiming, RconSchema.target, reaching,
        inductionHypothesis]

/-- Servers that are spelled alike are accepted or refused alike, down to the message, since each
of their endpoints validates to the same value. -/
theorem validateEndpoints_alike {servers rewritten : Servers}
    (alike : List.Forall₂ (fun left right => left.1 = right.1 ∧ left.2.SpelledAlike right.2)
      servers rewritten) : validateEndpoints servers = validateEndpoints rewritten := by
  rw [validateEndpoints, validateEndpoints, collectEndpoints_alike alike]

/-! ## Summary -/

/-- For valid servers the verdict says that no two endpoints clash. It is the same for other
keys, another order and other spellings of the hosts, in particular for the mapped form of an
IPv4 address and for the case of a DNS name. The endpoints of accepted servers can be computed,
and they are accepted as the same canonical addresses. -/
theorem endpoints_are_accepted_when_none_clash :
    (∀ servers : Servers, (∀ entry ∈ servers, entry.2.Valid) →
      (validateEndpoints servers = .ok () ↔ Separate (servers.map Prod.snd))) ∧
    (∀ servers renamed : Servers, (servers.map Prod.snd).Perm (renamed.map Prod.snd) →
      (validateEndpoints servers = .ok () ↔ validateEndpoints renamed = .ok ())) ∧
    (∀ servers rewritten : Servers,
      List.Forall₂ (fun left right => left.1 = right.1 ∧ left.2.SpelledAlike right.2)
        servers rewritten →
      validateEndpoints servers = validateEndpoints rewritten) ∧
    (∀ text address, parseIpAddr text = some (.v4 address) →
      SpelledAlike text ("::ffff:".toList ++ text)) ∧
    (∀ left right : List Char, left.map Char.toLower = right.map Char.toLower →
      SpelledAlike left right) ∧
    (∀ servers : Servers, validateEndpoints servers = .ok () → ∀ entry ∈ servers,
      (∃ endpoint address, listenerEndpoint entry.2.listener = .ok endpoint ∧
        validateListener entry.2.listener = .ok address ∧
        validateListener ⟨endpoint.host, endpoint.port⟩ = .ok address ∧
        endpoint.port = entry.2.listener.port) ∧
      ∀ target ∈ entry.2.targets, ∃ endpoint host, targetEndpoint target = .ok endpoint ∧
        validateTarget target = .ok host ∧
        validateTarget ⟨endpoint.host, endpoint.port⟩ = .ok host ∧
        endpoint.port = target.port) := by
  refine ⟨?_, ?_, ?_, ?_, ?_, ?_⟩
  · intro servers valid
    rw [validateEndpoints_eq_ok, and_iff_right valid]
  · intro servers renamed same
    exact ⟨validateEndpoints_perm same, validateEndpoints_perm same.symm⟩
  · intro servers rewritten alike
    exact validateEndpoints_alike alike
  · intro text address spells
    exact SpelledAlike.mapped spells
  · intro left right folded
    exact SpelledAlike.case folded
  · intro servers accepted entry mem
    have valid := ((validateEndpoints_eq_ok servers).mp accepted).1 entry mem
    constructor
    · obtain ⟨address, listens⟩ := valid.listener
      obtain ⟨endpoint, computed, port, again⟩ := listenerEndpoint_revalidates listens
      exact ⟨endpoint, address, computed, listens, again, port⟩
    · intro target aimed
      obtain ⟨host, aims⟩ := valid.target aimed
      obtain ⟨endpoint, computed, port, again⟩ := targetEndpoint_revalidates aims
      exact ⟨endpoint, host, computed, aims, again, port⟩

/-- Two servers on one machine, the second of them with an RCON console. -/
def neighbours : Servers :=
  [("creative", ⟨⟨"127.0.0.1".toList, 25565⟩, ⟨"localhost".toList, 25566⟩, none⟩),
    ("survival", ⟨⟨"127.0.0.1".toList, 25567⟩, ⟨"localhost".toList, 25568⟩,
      some ⟨"127.0.0.1".toList, 25575, "RCON_SECRET".toList⟩⟩)]

/-- Each server of the example is valid by itself. -/
theorem neighbours_valid : ∀ entry ∈ neighbours, entry.2.Valid := by
  intro entry mem
  rcases List.mem_pair.mp mem with rfl | rfl
  · exact ⟨⟨_, rfl⟩, ⟨_, rfl⟩, nofun⟩
  · refine ⟨⟨_, rfl⟩, ⟨_, rfl⟩, fun rcon configured => ?_⟩
    cases Option.mem_some.mp configured
    exact ⟨⟨_, rfl⟩, rfl⟩

/-- The first server with its listener as a mapped IPv4 address and its backend in capitals. -/
def respelledNeighbours : Servers :=
  [("creative", ⟨⟨"::ffff:127.0.0.1".toList, 25565⟩, ⟨"LOCALHOST".toList, 25566⟩, none⟩),
    ("survival", ⟨⟨"127.0.0.1".toList, 25567⟩, ⟨"localhost".toList, 25568⟩,
      some ⟨"127.0.0.1".toList, 25575, "RCON_SECRET".toList⟩⟩)]

/-- They do not clash, in either order and in other spellings, and what each of them listens on
can be computed. -/
theorem neighbours_are_accepted :
    Separate (neighbours.map Prod.snd) ∧
    validateEndpoints neighbours.reverse = .ok () ∧
    validateEndpoints respelledNeighbours = .ok () ∧
    ∀ entry ∈ neighbours, ∃ endpoint, listenerEndpoint entry.2.listener = .ok endpoint := by
  obtain ⟨separates, reorders, respells, maps, folds, computes⟩ :=
    endpoints_are_accepted_when_none_clash
  have accepted : validateEndpoints neighbours = .ok () := by decide
  refine ⟨(separates neighbours neighbours_valid).mp accepted,
    (reorders neighbours neighbours.reverse
      (neighbours.reverse_perm.symm.map Prod.snd)).mp accepted, ?_, ?_⟩
  · rw [← respells neighbours respelledNeighbours ?_]
    · exact accepted
    · refine .cons ⟨rfl, ⟨maps _ ⟨127, 0, 0, 1⟩ (by decide), rfl⟩,
        ⟨folds _ _ (by decide), rfl⟩, .none⟩ (.cons ⟨rfl, ⟨folds _ _ rfl, rfl⟩,
          ⟨folds _ _ rfl, rfl⟩, .some ⟨folds _ _ rfl, rfl, rfl⟩⟩ .nil)
  · intro entry mem
    obtain ⟨⟨endpoint, -, computed, -⟩, -⟩ := computes neighbours accepted entry mem
    exact ⟨endpoint, computed⟩

end McServerNap
