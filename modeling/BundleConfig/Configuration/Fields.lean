/-
# `Configuration.Fields` — configurations from fields and back

Each record of a configuration is read from fields (`read`) and gives its
fields back (`fields`), nested records as nested fields.  The fields of a
record that computes something from its own also hold what it computes:
`extra_args` and `serve_with_fallback` are given, and not read.
-/
import BundleConfig.Configuration.Basic

namespace BundleConfig

/-! ## Output settings -/

namespace OutputSettings

def read (fs : Fields) : Checked OutputSettings :=
  Checked.give OutputSettings.mk
  |>.also (fs.required "path" Value.readPath)
  |>.also (fs.optional "filename" Value.readText defaultFilename)
  |>.also (fs.optional "public_path" Value.readText "")
  |>.also (fs.optional "webassembly_module_filename" Value.readText defaultModuleFilename)

def fields (o : OutputSettings) : Fields := [
  ("path", .text o.path.text),
  ("filename", .text o.filename),
  ("public_path", .text o.publicPath),
  ("webassembly_module_filename", .text o.webassemblyModuleFilename)]

end OutputSettings

/-! ## Module rules -/

namespace ModuleRule

def read (fs : Fields) : Checked ModuleRule :=
  Checked.give ModuleRule.mk
  |>.also (fs.required "test" Value.readText)
  |>.also (fs.optional "flags" Value.readText "")
  |>.also (fs.required "use" (Value.readList Value.readText))

def fields (r : ModuleRule) : Fields := [
  ("test", .text r.test),
  ("flags", .text r.flags),
  ("use", .list (r.use.map .text))]

end ModuleRule

/-! ## Copy instructions -/

namespace CopyInstruction

def read (fs : Fields) : Checked CopyInstruction :=
  Checked.give CopyInstruction.mk
  |>.also (fs.required "source" Value.readText)
  |>.also (fs.required "destination" Value.readPath)

def fields (c : CopyInstruction) : Fields := [
  ("source", .text c.source),
  ("destination", .text c.destination.text)]

end CopyInstruction

/-! ## Compiler calls -/

namespace WasmPackInvocation

def read (fs : Fields) : Checked WasmPackInvocation :=
  Checked.give WasmPackInvocation.mk
  |>.also (fs.optional "crate_directory" Value.readText defaultCrateDirectory)
  |>.also (fs.optional "feature_args" Value.readText "")

/-- The fields of a compiler call, and the arguments that follow from them. -/
def fields (w : WasmPackInvocation) : Fields := [
  ("crate_directory", .text w.crateDirectory),
  ("feature_args", .text w.featureArgs),
  ("extra_args", .text w.extraArgs)]

end WasmPackInvocation

/-! ## Development servers -/

namespace DevServer

def read (fs : Fields) : Checked DevServer :=
  Checked.give DevServer.mk
  |>.also (fs.required "content_base" Value.readPath)
  |>.also (fs.optional "host" Value.readText defaultHost)
  |>.also (fs.optional "port" Value.readPort defaultPort)
  |>.also (fs.optional "compress" Value.readBoolean false)
  |>.also (fs.optional "history_fallback" Value.readOptionalText none)

def fields (d : DevServer) : Fields := [
  ("content_base", .text d.contentBase.text),
  ("host", .text d.host),
  ("port", .int d.port.number),
  ("compress", .bool d.compress),
  ("history_fallback", match d.historyFallback with
    | some page => .text page
    | none => .null)]

end DevServer

/-! ## Resolved configurations -/

namespace ResolvedConfiguration

def read (fs : Fields) : Checked ResolvedConfiguration :=
  Checked.give ResolvedConfiguration.mk
  |>.also (fs.required "environment" (Value.readChoice EnvironmentName))
  |>.also (fs.required "entry" Value.readText)
  |>.also (fs.required "output" (Value.readRecord .outputSettings OutputSettings.read))
  |>.also (fs.required "module_rules"
      (Value.readList (Value.readRecord .moduleRule ModuleRule.read)))
  |>.also (fs.required "copy_instructions"
      (Value.readList (Value.readRecord .copyInstruction CopyInstruction.read)))
  |>.also (fs.required "wasm_pack"
      (Value.readRecord .wasmPackInvocation WasmPackInvocation.read))
  |>.also (fs.required "watch" Value.readBoolean)
  |>.also (fs.required "dev_server" (Value.readRecord .devServer DevServer.read))

/-- The fields of a configuration, and whether it serves a fallback page. -/
def fields (c : ResolvedConfiguration) : Fields := [
  ("environment", .member (.environment c.environment)),
  ("entry", .text c.entry),
  ("output", .object c.output.fields),
  ("module_rules", .list (c.moduleRules.map fun r => .object r.fields)),
  ("copy_instructions", .list (c.copyInstructions.map fun i => .object i.fields)),
  ("wasm_pack", .object c.wasmPack.fields),
  ("watch", .bool c.watch),
  ("dev_server", .object c.devServer.fields),
  ("serve_with_fallback", .bool c.serveWithFallback)]

end ResolvedConfiguration

end BundleConfig
