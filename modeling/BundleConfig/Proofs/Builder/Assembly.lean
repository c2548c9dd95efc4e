/-
# `Proofs.Builder.Assembly` — what a build comes to

A configuration is assembled from records that are each read from fields.
All fields but two are the profile's or fixed, and none of these can be
refused; what is left are the development server's host and port, which a
builder holds as they were handed in.  So assembling comes to one case split
(`assemble_eq`):

    host and port read       the configuration of the profile with both
    one of them refused      the server is refused, for the host's faults and
                             then the port's

`configuration` is that configuration, written down field by field, and
`build_eq_ok_iff` says when a build returns it.
-/
import BundleConfig.Builder
import BundleConfig.Proofs.Reading

namespace BundleConfig

/-! ## Modes -/

theorem EnvironmentName.ofText?_eq_some_iff {s : String} {e : EnvironmentName} :
    Choice.ofText? s = some e ↔ s = Choice.name e := by
  constructor
  · intro h
    have hname := List.find?_some h
    exact (eq_of_beq hname).symm
  · rintro rfl
    exact e.ofText?_name

theorem resolveEnvironment_eq_ok_iff {mode : Value} {e : EnvironmentName} :
    resolveEnvironment mode = .ok e ↔ mode.asText? = some (Choice.name e) := by
  have hchoose : mode.choose? EnvironmentName = some e ↔ mode.asText? = some (Choice.name e) := by
    rw [Value.choose?, Option.bind_eq_some_iff]
    constructor
    · rintro ⟨s, hs, he⟩
      rw [hs, EnvironmentName.ofText?_eq_some_iff.1 he]
    · intro h
      exact ⟨_, h, e.ofText?_name⟩
  rw [← hchoose]
  unfold resolveEnvironment
  cases mode.choose? EnvironmentName <;> simp

theorem resolveEnvironment_eq_error {mode : Value}
    (h : ∀ e : EnvironmentName, mode.asText? ≠ some (Choice.name e)) :
    resolveEnvironment mode = .error (.unknownEnvironment mode) := by
  cases hr : resolveEnvironment mode with
  | ok e => exact absurd (resolveEnvironment_eq_ok_iff.1 hr) (h e)
  | error err =>
    unfold resolveEnvironment at hr
    split at hr
    · cases hr
    · rw [← Except.error.inj hr]

namespace ProfileTable

theorem lookup_of_mode (t : ProfileTable) {mode : Value} {e : EnvironmentName}
    (h : mode.asText? = some (Choice.name e)) : t.lookup mode = .ok (t.profile e) := by
  rw [lookup, resolveEnvironment_eq_ok_iff.2 h]

/-- A table has a profile for each environment. -/
theorem lookup_environment (t : ProfileTable) (e : EnvironmentName) :
    t.lookup (.member (.environment e)) = .ok (t.profile e) :=
  t.lookup_of_mode rfl

end ProfileTable

namespace Builder

/-! ## The parts -/

/-- The development server of an environment, a profile, a host and a port. -/
def server (e : EnvironmentName) (p : Profile) (host : String) (port : Port) : DevServer where
  contentBase := p.outputDir.path
  host := host
  port := port
  compress := e == .production
  historyFallback := p.historyFallback.map NonEmptyText.text

/-- The configuration of an environment, a profile, a host and a port. -/
def configuration (e : EnvironmentName) (p : Profile) (host : String) (port : Port) :
    ResolvedConfiguration where
  environment := e
  entry := p.entry.text
  output := { path := p.outputDir.path, publicPath := p.publicPath }
  moduleRules := [stylesheetRule]
  copyInstructions := [{ source := staticDirectory, destination := p.outputDir.path }]
  wasmPack := { featureArgs := Features.render p.features }
  watch := e == .development
  devServer := server e p host port

theorem read_outputFields (p : Profile) :
    OutputSettings.read (outputFields p)
      = .ok { path := p.outputDir.path, publicPath := p.publicPath } := by
  simp [OutputSettings.read, outputFields, AbsolutePath.text]

theorem read_copyFields (p : Profile) :
    CopyInstruction.read (copyFields p)
      = .ok { source := staticDirectory, destination := p.outputDir.path } := by
  simp [CopyInstruction.read, copyFields, AbsolutePath.text]

theorem read_wasmPackFields (p : Profile) :
    WasmPackInvocation.read (wasmPackFields p)
      = .ok { featureArgs := Features.render p.features } := by
  simp [WasmPackInvocation.read, wasmPackFields]

/-- Of a server's fields only host and port can be refused. -/
theorem read_serverFields (b : Builder) (e : EnvironmentName) (p : Profile) :
    DevServer.read (b.serverFields e p)
      = match b.host.readText, b.port.readPort with
        | .ok host, .ok port => .ok (server e p host port)
        | host, port => .error ((host.within (.field "host")).faults
            ++ (port.within (.field "port")).faults) := by
  have hfallback : (b.serverFields e p).optional "history_fallback" Value.readOptionalText none
      = .ok (p.historyFallback.map NonEmptyText.text) := by
    cases hf : p.historyFallback with
    | none => simp [serverFields, hf]
    | some page => simp [serverFields, hf]
  unfold DevServer.read
  rw [hfallback]
  cases hh : b.host.readText with
  | ok host =>
    cases hp : b.port.readPort with
    | ok port => simp [serverFields, hh, hp, AbsolutePath.text, server]
    | error fs => simp [serverFields, hh, hp, AbsolutePath.text]
  | error fs =>
    cases hp : b.port.readPort with
    | ok port => simp [serverFields, hh, hp, AbsolutePath.text]
    | error gs => simp [serverFields, hh, hp, AbsolutePath.text]

theorem read_configurationFields (e : EnvironmentName) (p : Profile) (output : OutputSettings)
    (copy : CopyInstruction) (wasmPack : WasmPackInvocation) (server : DevServer) :
    ResolvedConfiguration.read (configurationFields e p output copy wasmPack server) = .ok {
      environment := e
      entry := p.entry.text
      output := output
      moduleRules := [stylesheetRule]
      copyInstructions := [copy]
      wasmPack := wasmPack
      watch := e == .development
      devServer := server } := by
  have hrules := Value.readList_records .moduleRule ModuleRule.read_fields [stylesheetRule]
  have hcopies := Value.readList_records .copyInstruction CopyInstruction.read_fields [copy]
  simp only [List.map_cons, List.map_nil] at hrules hcopies
  simp [ResolvedConfiguration.read, configurationFields, hrules, hcopies,
    OutputSettings.read_fields, WasmPackInvocation.read_fields, DevServer.read_fields]

/-- Assembling a configuration comes to reading the host and the port. -/
theorem assemble_eq (b : Builder) (e : EnvironmentName) (p : Profile) :
    b.assemble e p
      = match b.host.readText, b.port.readPort with
        | .ok host, .ok port => .ok (configuration e p host port)
        | host, port => .error (.refused ⟨.devServer, (host.within (.field "host")).faults
            ++ (port.within (.field "port")).faults⟩) := by
  unfold assemble
  rw [read_outputFields, read_copyFields, read_wasmPackFields, read_serverFields]
  cases b.host.readText with
  | ok host =>
    cases b.port.readPort with
    | ok port =>
      simp only [Checked.orRefuse_ok, bind, Except.bind, read_configurationFields]
      rfl
    | error fs => rfl
  | error fs =>
    cases b.port.readPort with
    | ok port => rfl
    | error gs => rfl

/-! ## Building -/

theorem build_of_mode (b : Builder) {mode : Value} {e : EnvironmentName}
    (h : mode.asText? = some (Choice.name e)) (env : Environ) :
    b.build mode env
      = ⟨b.assemble e (b.table.profile e), [b.resolvedRecord e (b.table.profile e)]⟩ := by
  unfold build
  rw [resolveEnvironment_eq_ok_iff.2 h]
  simp only [ProfileTable.lookup_environment]

theorem build_of_not_mode (b : Builder) {mode : Value}
    (h : ∀ e : EnvironmentName, mode.asText? ≠ some (Choice.name e)) (env : Environ) :
    b.build mode env
      = ⟨.error (.configuration (.unknownEnvironment mode)), [b.unknownRecord mode]⟩ := by
  unfold build
  rw [resolveEnvironment_eq_error h]

/-- With a host and a port that can be read, a build depends on the mode
alone, and on the table. -/
theorem build_result {b : Builder} {host : String} {port : Port} (hh : b.host.readText = .ok host)
    (hp : b.port.readPort = .ok port) (mode : Value) (env : Environ) :
    (b.build mode env).result = match resolveEnvironment mode with
      | .ok e => .ok (configuration e (b.table.profile e) host port)
      | .error err => .error (.configuration err) := by
  unfold build
  cases resolveEnvironment mode with
  | ok e => simp only [ProfileTable.lookup_environment, assemble_eq, hh, hp]
  | error err => rfl

/-- A build returns the configuration of the mode's environment with its
profile in the table and with the host and port that are there, if all three
can be read, and nothing else. -/
theorem build_eq_ok_iff {b : Builder} {mode : Value} {env : Environ} {c : ResolvedConfiguration} :
    (b.build mode env).result = .ok c ↔
      ∃ e host port, mode.asText? = some (Choice.name e) ∧ b.host.asText? = some host ∧
        b.port.readPort = .ok port ∧ c = configuration e (b.table.profile e) host port := by
  constructor
  · intro h
    by_cases hmode : ∃ e : EnvironmentName, mode.asText? = some (Choice.name e)
    · obtain ⟨e, he⟩ := hmode
      rw [build_of_mode b he, assemble_eq] at h
      split at h
      · next host port hh hp =>
        exact ⟨e, host, port, he, Value.readText_ok_iff.1 hh, hp, (Except.ok.inj h).symm⟩
      · cases h
    · rw [build_of_not_mode b (not_exists.1 hmode)] at h
      cases h
  · rintro ⟨e, host, port, he, hh, hp, rfl⟩
    rw [build_of_mode b he, assemble_eq, Value.readText_ok_iff.2 hh, hp]

end Builder

end BundleConfig
