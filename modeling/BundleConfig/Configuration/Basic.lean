/-
# `Configuration` — everything the bundler needs for one run

The records that a resolved configuration is made of, with the defaults of
their fields, and what follows from them: the arguments of the compiler
that produces the WebAssembly module, and whether unknown routes are
served the fallback page.
-/
import BundleConfig.Choice
import BundleConfig.Path.Basic
import BundleConfig.Reading

namespace BundleConfig

/-- The name of the bundle's script by default. -/
def OutputSettings.defaultFilename : String := "devand.js"

/-- The name of the bundle's WebAssembly module by default. -/
def OutputSettings.defaultModuleFilename : String := "devand.wasm"

/-- Where and under which names the bundle is emitted. -/
structure OutputSettings where
  path : Path
  filename : String := OutputSettings.defaultFilename
  publicPath : String := ""
  webassemblyModuleFilename : String := OutputSettings.defaultModuleFilename
deriving DecidableEq

/-- Files that match `test` go through the loaders `use`. -/
structure ModuleRule where
  test : String
  flags : String := ""
  use : List String
deriving DecidableEq

/-- A copy of static files from one place to another. -/
structure CopyInstruction where
  source : String
  destination : Path
deriving DecidableEq

/-- The directory of the crate that is compiled by default. -/
def WasmPackInvocation.defaultCrateDirectory : String := "."

/-- The call of the compiler that produces the WebAssembly module. -/
structure WasmPackInvocation where
  crateDirectory : String := WasmPackInvocation.defaultCrateDirectory
  featureArgs : String := ""
deriving DecidableEq

/-- The arguments that every call has. -/
def WasmPackInvocation.baseArgs : String := "--no-typescript --"

/-- The base arguments, and the feature arguments behind them if there are any. -/
def WasmPackInvocation.extraArgs (w : WasmPackInvocation) : String :=
  if w.featureArgs = "" then baseArgs else baseArgs ++ " " ++ w.featureArgs

/-- The host that the development server binds by default. -/
def DevServer.defaultHost : String := "0.0.0.0"

/-- The port that the development server listens on by default. -/
def DevServer.defaultPort : Port := ⟨8001, by decide, by decide⟩

/-- The development server. -/
structure DevServer where
  contentBase : Path
  host : String := DevServer.defaultHost
  port : Port := DevServer.defaultPort
  compress : Bool := false
  historyFallback : Option String := none
deriving DecidableEq

/-- Everything the bundler needs for one build or serve run. -/
structure ResolvedConfiguration where
  environment : EnvironmentName
  entry : String
  output : OutputSettings
  moduleRules : List ModuleRule
  copyInstructions : List CopyInstruction
  wasmPack : WasmPackInvocation
  watch : Bool
  devServer : DevServer
deriving DecidableEq

/-- Whether the development server answers unknown routes with a fallback page. -/
def ResolvedConfiguration.serveWithFallback (c : ResolvedConfiguration) : Bool :=
  c.devServer.historyFallback.isSome

end BundleConfig
