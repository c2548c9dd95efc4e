/-
# `Settings` — what a run of the resolver is set to

Settings say where logging starts and in which form, the deployment
target, the directory of the UI crate, and the development server's host
and port.  The environment is no setting: it is chosen per build.

Overrides are fields of settings in which an absent value means the
default, so that options that were not given can be passed on.
-/
import BundleConfig.Configuration.Fields
import BundleConfig.Failure
import BundleConfig.Json.Basic
import BundleConfig.Path.Absolute

namespace BundleConfig

/-- What a run of the resolver is set to. -/
structure Settings where
  logLevel : LogLevel := .info
  jsonLogs : Bool := false
  target : DeploymentTarget := .web
  uiRoot : Path
  devServerHost : String := DevServer.defaultHost
  devServerPort : Port := DevServer.defaultPort
deriving DecidableEq

namespace Settings

/-- Settings from their fields; the directory is `cwd` by default. -/
def read (cwd : AbsolutePath) (fs : Fields) : Checked Settings :=
  Checked.give Settings.mk
  |>.also (fs.optional "log_level" (Value.readChoice LogLevel) .info)
  |>.also (fs.optional "json_logs" Value.readBoolean false)
  |>.also (fs.optional "target" (Value.readChoice DeploymentTarget) .web)
  |>.also (fs.optional "ui_root" Value.readPath cwd.path)
  |>.also (fs.optional "dev_server_host" Value.readText DevServer.defaultHost)
  |>.also (fs.optional "dev_server_port" Value.readPort DevServer.defaultPort)

def fields (s : Settings) : Fields := [
  ("log_level", .member (.level s.logLevel)),
  ("json_logs", .bool s.jsonLogs),
  ("target", .member (.target s.target)),
  ("ui_root", .text s.uiRoot.text),
  ("dev_server_host", .text s.devServerHost),
  ("dev_server_port", .int s.devServerPort.number)]

def document (s : Settings) : Json := .object [
  ("log_level", .text (Choice.name s.logLevel)),
  ("json_logs", .bool s.jsonLogs),
  ("target", .text (Choice.name s.target)),
  ("ui_root", .text s.uiRoot.text),
  ("dev_server_host", .text s.devServerHost),
  ("dev_server_port", .int s.devServerPort.number)]

/-- Settings from overrides, in which an absent value means the default. -/
def ofOverrides (cwd : AbsolutePath) (overrides : Fields) : Except Failure Settings :=
  (read cwd (overrides.filter fun f => !f.2.isNull)).orRefuse .settings

end Settings

end BundleConfig
