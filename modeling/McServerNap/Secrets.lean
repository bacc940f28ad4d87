import Mathlib.Data.List.Dedup
import McServerNap.ConfigSoundness

/-!
# Passwords stay with the daemon

Passwords come from environment variables, which children would inherit. Every launch command
removes the password variables of all servers from the environment of its child, and leaves the
other variables alone. The values themselves reach the RCON configuration and nothing else.
-/

namespace McServerNap

open Encoding

/-- The variables of a process. -/
abbrev Environment := OsString → Option OsString

/-- `Command::env_remove`. -/
def Environment.remove (environment : Environment) (name : OsString) : Environment :=
  fun other => if other = name then none else environment other

/-- The environment that `process::launch` gives to the child, from that of the daemon. -/
def LaunchCommand.childEnvironment (launch : LaunchCommand) (environment : Environment) :
    Environment :=
  launch.removedEnvironment.foldl Environment.remove environment

/-- The child sees a variable as it is set, unless its name is one of those removed. -/
theorem childEnvironment_apply (launch : LaunchCommand) (environment : Environment)
    (name : OsString) :
    launch.childEnvironment environment name =
      if name ∈ launch.removedEnvironment then none else environment name := by
  unfold LaunchCommand.childEnvironment
  induction launch.removedEnvironment generalizing environment with
  | nil => simp
  | cons first others inductionHypothesis =>
    rw [List.foldl_cons, inductionHypothesis]
    by_cases later : name ∈ others
    · simp [later]
    · by_cases same : name = first
      · simp [Environment.remove, same]
      · simp [Environment.remove, later, same]

/-- The variable holds the password of some server. -/
def ConfigDocument.IsSecret (document : ConfigDocument) (name : OsString) : Prop :=
  ∃ entry ∈ document.servers, ∃ raw ∈ entry.2.rcon, name = utf8 raw.passwordEnv

/-- The names that are removed are exactly those that some server of the document keeps its
password in. -/
theorem mem_secretNames (document : ConfigDocument) (name : OsString) :
    name ∈ secretNames document.servers ↔ document.IsSecret name := by
  simp only [secretNames, List.mem_mergeSort, List.mem_dedup, List.mem_filterMap,
    Option.map_eq_some_iff, ConfigDocument.IsSecret, Option.mem_def]
  constructor
  · rintro ⟨entry, mem, raw, configured, rfl⟩
    exact ⟨entry, mem, raw, configured, rfl⟩
  · rintro ⟨entry, mem, raw, configured, rfl⟩
    exact ⟨entry, mem, raw, configured, rfl⟩

/-- The servers differ in their passwords only. -/
structure PreparedServer.SameButPassword (server other : PreparedServer) : Prop where
  rest : other = { server with rcon := other.rcon }
  endpoints : other.rcon.map RconConfig.endpoint = server.rcon.map RconConfig.endpoint

/-- The endpoint of a console comes from the document; only its password is read from the
variables. -/
theorem consoles_alike {serverId : String} {raws : Option RconSchema}
    {environment other : List Char → Option OsString} {first second : Option RconConfig}
    (left : Option.Rel (fun raw rcon => prepareRcon serverId raw environment = .ok rcon) raws first)
    (right : Option.Rel (fun raw rcon => prepareRcon serverId raw other = .ok rcon) raws second) :
    second.map RconConfig.endpoint = first.map RconConfig.endpoint := by
  cases left with
  | none =>
    cases right
    rfl
  | some prepared =>
    cases right with
    | some again =>
      obtain ⟨-, _, _, -, -, -, computed⟩ := prepareRcon_eq_ok.mp prepared
      obtain ⟨-, _, _, -, -, -, recomputed⟩ := prepareRcon_eq_ok.mp again
      rw [Option.map_some, Option.map_some, Except.ok.inj (recomputed.symm.trans computed)]

/-- Two lists that are related to one are related to each other, element by element. -/
theorem forall₂_join {α β γ : Type} {Left : α → β → Prop} {Right : α → γ → Prop}
    {Both : β → γ → Prop} {middle : List α} {first : List β} {second : List γ}
    (left : List.Forall₂ Left middle first) (right : List.Forall₂ Right middle second)
    (joined : ∀ one other another, Left one other → Right one another → Both other another) :
    List.Forall₂ Both first second := by
  induction left generalizing second with
  | nil =>
    cases right
    exact .nil
  | cons one _ inductionHypothesis =>
    cases right with
    | cons other others => exact .cons (joined _ _ _ one other) (inductionHypothesis others)

section Resolved

variable {libraries : Libraries} {machine : Machine} {directory : Path} {secrets : List OsString}
variable {environment : List Char → Option OsString}
variable {entry : String × ServerEntry} {prepared other : String × PreparedServer}

/-- What else a server is resolved to does not depend on the variables: each part is the result of
a function that reads only the document and the file system. -/
theorem Resolved.sameButPassword
    (resolved : Resolved libraries machine directory secrets entry prepared)
    (again : Resolved libraries { machine with environment } directory secrets entry other) :
    prepared.1 = other.1 ∧ prepared.2.SameButPassword other.2 := by
  refine ⟨resolved.named.trans again.named.symm, ?_, ?_⟩
  · have context := resolved.context.trans again.context.symm
    have program := Except.ok.inj (resolved.program.symm.trans again.program)
    have arguments := resolved.arguments.trans again.arguments.symm
    have workingDirectory :=
      Except.ok.inj (resolved.workingDirectory.symm.trans again.workingDirectory)
    have removed := resolved.removed.trans again.removed.symm
    have timeouts := Except.ok.inj (resolved.timeouts.symm.trans again.timeouts)
    have bindEndpoint := Except.ok.inj (resolved.bindEndpoint.symm.trans again.bindEndpoint)
    have backendEndpoint :=
      Except.ok.inj (resolved.backendEndpoint.symm.trans again.backendEndpoint)
    obtain ⟨icon, loaded, built⟩ := resolved.responder
    obtain ⟨sameIcon, reloaded, rebuilt⟩ := again.responder
    obtain rfl := Except.ok.inj (loaded.symm.trans reloaded)
    have responder := Except.ok.inj (built.symm.trans rebuilt)
    obtain ⟨_, ⟨_, _, _, _, ⟨_, _, _, _⟩, _, _⟩⟩ := prepared
    obtain ⟨_, ⟨_, _, _, _, ⟨_, _, _, _⟩, _, _⟩⟩ := other
    simp_all only
  · exact consoles_alike (except_mapM_eq_ok.mp resolved.rcon) (except_mapM_eq_ok.mp again.rcon)

end Resolved

/-- No child gets to see the password variable of any server, and every other variable reaches
it unchanged. The values of the variables decide about the passwords, and about nothing else that
a configuration is prepared to. -/
theorem passwords_stay_with_the_daemon {libraries : Libraries} {machine : Machine}
    {document : ConfigDocument} {directory : Path} {config : PreparedConfig}
    (prepared : prepareDocument libraries machine document directory = .ok config) :
    (∀ server ∈ config.servers, ∀ (environment : Environment) (name : OsString),
      (document.IsSecret name →
        server.2.launch.childEnvironment environment name = none) ∧
      (¬ document.IsSecret name →
        server.2.launch.childEnvironment environment name = environment name)) ∧
    (∀ (environment : List Char → Option OsString) (other : PreparedConfig),
      prepareDocument libraries { machine with environment } document directory = .ok other →
      other.maxConnections = config.maxConnections ∧
      List.Forall₂ (fun server server' => server.1 = server'.1 ∧
        server.2.SameButPassword server'.2) config.servers other.servers) := by
  simp only [prepareDocument, except_bind_eq_ok, except_pure_eq_ok, prepareServers_eq_ok]
    at prepared ⊢
  obtain ⟨servers, ⟨_, rfl, resolved, -, -⟩, rfl⟩ := prepared
  constructor
  · intro server mem environment name
    obtain ⟨entry, -, same⟩ := mem_of_forall₂ resolved mem
    rw [childEnvironment_apply, same.removed]
    constructor
    · intro secret
      exact if_pos ((mem_secretNames document name).mpr secret)
    · intro plain
      exact if_neg (fun removed => plain ((mem_secretNames document name).mp removed))
  · rintro environment _ ⟨others, ⟨_, rfl, again, -, -⟩, rfl⟩
    exact ⟨rfl, forall₂_join resolved again fun _ _ _ first second =>
      first.sameButPassword second⟩

/-- The child of the example cannot read the password, but it can read its path. -/
theorem example_child_reads_no_password : ∃ config,
    prepareDocument exampleLibraries exampleMachine exampleDocument exampleDirectory = .ok config ∧
    ∀ server ∈ config.servers, ∀ environment : Environment,
      server.2.launch.childEnvironment environment (utf8 "RCON_SECRET".toList) = none ∧
      server.2.launch.childEnvironment environment (utf8 "PATH".toList) =
        environment (utf8 "PATH".toList) := by
  obtain ⟨responder, prepared⟩ := exampleDocument_prepared
  obtain ⟨children, -⟩ := passwords_stay_with_the_daemon prepared
  refine ⟨_, prepared, fun server mem environment => ⟨?_, ?_⟩⟩
  · refine (children server mem environment _).1 ?_
    exact ⟨_, List.mem_singleton_self _, _, rfl, rfl⟩
  · refine (children server mem environment _).2 ?_
    rintro ⟨entry, mem, raw, configured, same⟩
    obtain rfl := List.mem_singleton.mp mem
    obtain rfl := Option.some.inj configured
    exact absurd (utf8_injective same) (by decide)

end McServerNap
