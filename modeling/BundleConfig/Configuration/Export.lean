/-
# `Configuration.Export` — configurations as documents

A record is exported under one of two namings: its own field names, or the
names the bundler knows.  Some fields are not exported where they stand:
a configuration leaves out its environment and its module rules, a
compiler call its feature arguments, of which the whole argument text is
exported instead.  A missing fallback page is exported as `false`, a page
as an object that names it as the index.

`ResolvedConfiguration.webpack` is the bundler's document: the export
under the bundler's names, with the module rules put back under `module`.
-/
import BundleConfig.Configuration.Basic
import BundleConfig.Json.Basic
import BundleConfig.Profile

namespace BundleConfig

/-- Which names an export uses. -/
inductive Naming
  | fieldNames
  | bundlerNames
deriving DecidableEq

def Naming.pick : Naming → String → String → String
  | .fieldNames, field, _ => field
  | .bundlerNames, _, bundler => bundler

def Json.texts (ss : List String) : Json := .list (ss.map .text)

namespace Profile

/-- The document of a profile; it has the same names under both namings. -/
def document (p : Profile) : Json := .object [
  ("output_dir", .text p.outputDir.text),
  ("public_path", .text p.publicPath),
  ("features", .texts p.features),
  ("entry", .text p.entry.text),
  ("history_fallback", match p.historyFallback with
    | some page => .text page.text
    | none => .null)]

end Profile

namespace OutputSettings

def document (n : Naming) (o : OutputSettings) : Json := .object [
  ("path", .text o.path.text),
  ("filename", .text o.filename),
  (n.pick "public_path" "publicPath", .text o.publicPath),
  (n.pick "webassembly_module_filename" "webassemblyModuleFilename",
    .text o.webassemblyModuleFilename)]

end OutputSettings

namespace ModuleRule

def document (r : ModuleRule) : Json := .object [
  ("test", .text r.test),
  ("flags", .text r.flags),
  ("use", .texts r.use)]

end ModuleRule

namespace CopyInstruction

def document (n : Naming) (c : CopyInstruction) : Json := .object [
  (n.pick "source" "from", .text c.source),
  (n.pick "destination" "to", .text c.destination.text)]

end CopyInstruction

namespace WasmPackInvocation

def document (n : Naming) (w : WasmPackInvocation) : Json := .object [
  (n.pick "crate_directory" "crateDirectory", .text w.crateDirectory),
  (n.pick "extra_args" "extraArgs", .text w.extraArgs)]

end WasmPackInvocation

namespace DevServer

def fallbackDocument : Option String → Json
  | none => .bool false
  | some page => .object [("index", .text page)]

def document (n : Naming) (d : DevServer) : Json := .object [
  (n.pick "content_base" "contentBase", .text d.contentBase.text),
  ("host", .text d.host),
  ("port", .int d.port.number),
  ("compress", .bool d.compress),
  (n.pick "history_fallback" "historyApiFallback", fallbackDocument d.historyFallback)]

end DevServer

namespace ResolvedConfiguration

def documentMembers (n : Naming) (c : ResolvedConfiguration) : List (String × Json) := [
  ("entry", .text c.entry),
  ("output", c.output.document n),
  (n.pick "copy_instructions" "copy", .list (c.copyInstructions.map (·.document n))),
  (n.pick "wasm_pack" "wasmPack", c.wasmPack.document n),
  ("watch", .bool c.watch),
  (n.pick "dev_server" "devServer", c.devServer.document n)]

def document (n : Naming) (c : ResolvedConfiguration) : Json := .object (c.documentMembers n)

/-- The document that the bundler reads. -/
def webpack (c : ResolvedConfiguration) : Json :=
  .object (c.documentMembers .bundlerNames ++
    [("module", .object [("rules", .list (c.moduleRules.map ModuleRule.document))])])

end ResolvedConfiguration

end BundleConfig
