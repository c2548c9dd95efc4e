/-
# `Builder` — a configuration from a profile table and a mode

A builder holds a profile table and the development server's host and
port; host and port are untyped and looked at only when a configuration is
built.  A build keeps nothing: it gives the configuration or the failure,
and the records that it issues.

    the mode names no environment       a warning, and the error
    the server's host or port is bad    a debug record, and the refusal
    otherwise                           a debug record, and the configuration
-/
import BundleConfig.Configuration.Fields
import BundleConfig.Features
import BundleConfig.Logging.Record
import BundleConfig.ProfileTable
import BundleConfig.Settings

namespace BundleConfig

/-- A profile table and what the development server is to be given. -/
structure Builder where
  table : ProfileTable
  host : Value
  port : Value
  logger : String

/-- Environment variables, by name. -/
abbrev Environ := List (String × String)

namespace Builder

/-- The name that builders log under. -/
def defaultLogger : String := "devand_build.builder.builder"

/-- The name that an application's builder logs under. -/
def appLogger : String := "devand_build.builder"

def stylesheetRule : ModuleRule where
  test := "\\.s[ac]ss$"
  flags := "i"
  use := ["style-loader", "css-loader", "sass-loader"]

def staticDirectory : String := "./static"

/-! ## Putting a configuration together

Every part is a record of its own, read from the fields that are handed to
it; the first part that is refused ends it.  A part stands for its fields in
the configuration. -/

def outputFields (p : Profile) : Fields := [
  ("path", .text p.outputDir.text),
  ("public_path", .text p.publicPath)]

def copyFields (p : Profile) : Fields := [
  ("source", .text staticDirectory),
  ("destination", .text p.outputDir.text)]

def wasmPackFields (p : Profile) : Fields := [
  ("feature_args", .text (Features.render p.features))]

/-- The fields of the development server of a profile; host and port are as
they were handed to the builder. -/
def serverFields (b : Builder) (e : EnvironmentName) (p : Profile) : Fields := [
  ("content_base", .text p.outputDir.text),
  ("host", b.host),
  ("port", b.port),
  ("compress", .bool (e == .production)),
  ("history_fallback", match p.historyFallback with
    | some page => .text page.text
    | none => .null)]

def configurationFields (e : EnvironmentName) (p : Profile) (output : OutputSettings)
    (copy : CopyInstruction) (wasmPack : WasmPackInvocation) (server : DevServer) : Fields := [
  ("environment", .member (.environment e)),
  ("entry", .text p.entry.text),
  ("output", .object output.fields),
  ("module_rules", .list [.object stylesheetRule.fields]),
  ("copy_instructions", .list [.object copy.fields]),
  ("wasm_pack", .object wasmPack.fields),
  ("watch", .bool (e == .development)),
  ("dev_server", .object server.fields)]

/-- The configuration of an environment with its profile. -/
def assemble (b : Builder) (e : EnvironmentName) (p : Profile) :
    Except Failure ResolvedConfiguration := do
  let output ← (OutputSettings.read (outputFields p)).orRefuse .outputSettings
  let copy ← (CopyInstruction.read (copyFields p)).orRefuse .copyInstruction
  let wasmPack ← (WasmPackInvocation.read (wasmPackFields p)).orRefuse .wasmPackInvocation
  let server ← (DevServer.read (b.serverFields e p)).orRefuse .devServer
  (ResolvedConfiguration.read (configurationFields e p output copy wasmPack server)).orRefuse
    .resolvedConfiguration

/-! ## Building -/

/-- The feature arguments of a profile, or a word for none. -/
def featureSummary (p : Profile) : String :=
  if Features.render p.features = "" then "(none)" else Features.render p.features

def resolvedRecord (b : Builder) (e : EnvironmentName) (p : Profile) : Record where
  severity := .debug
  logger := b.logger
  message := "Resolved " ++ Choice.name e ++ " profile: output=" ++ p.outputDir.text
    ++ " features=" ++ featureSummary p

def unknownRecord (b : Builder) (mode : Value) : Record where
  severity := .warning
  logger := b.logger
  message := "Unknown build mode: " ++ mode.quoted

/-- What a build gives, and the records that it issues, in order. -/
structure Outcome where
  result : Except Failure ResolvedConfiguration
  records : List Record

/-- A build.  The ambient variables are accepted and not consulted. -/
def build (b : Builder) (mode : Value) (_env : Environ) : Outcome :=
  match resolveEnvironment mode with
  | .error err => ⟨.error (.configuration err), [b.unknownRecord mode]⟩
  | .ok e =>
    match b.table.lookup (.member (.environment e)) with
    | .error err => ⟨.error (.configuration err), []⟩
    | .ok p => ⟨b.assemble e p, [b.resolvedRecord e p]⟩

/-! ## Making a builder -/

def ofSelectors (cwd : AbsolutePath) (target uiRoot host port : Value) (logger : String) :
    Except Failure Builder :=
  match ProfileTable.ofSelectors cwd target uiRoot with
  | .error e => .error e
  | .ok table => .ok ⟨table, host, port, logger⟩

/-- The builder that settings ask for, made from the values they hold. -/
def ofSettingValues (cwd : AbsolutePath) (s : Settings) (logger : String) :
    Except Failure Builder :=
  ofSelectors cwd (.member (.target s.target)) (.text s.uiRoot.text) (.text s.devServerHost)
    (.int s.devServerPort.number) logger

/-- The same builder in one step. -/
def ofSettings (cwd : AbsolutePath) (s : Settings) (logger : String) : Builder where
  table := ProfileTable.ofTarget cwd s.target s.uiRoot
  host := .text s.devServerHost
  port := .int s.devServerPort.number
  logger := logger

def defaultHost : Value := .text DevServer.defaultHost

def defaultPort : Value := .int DevServer.defaultPort.number

/-- A single build for a target given by selector. -/
def buildOnce (cwd : AbsolutePath) (mode target uiRoot : Value) (env : Environ) :
    Except Failure Outcome :=
  match ofSelectors cwd target uiRoot defaultHost defaultPort defaultLogger with
  | .error e => .error e
  | .ok b => .ok (b.build mode env)

def defaultTarget : Value := .member (.target .web)

def defaultRoot : Value := .text "."

end Builder

end BundleConfig
