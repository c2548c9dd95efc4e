/-
# `CommandLine.Invocation` — what a command line asks for

A command line is options for all commands, the name of a command, and the
command's own arguments.  Options for all commands can also come from the
environment: a variable that is set and not empty stands for the option
where the option itself is not given.

The options are read and checked before the command is looked up, the
command before its arguments, and of these the options before the mode.
`Invocation.ofArguments` gives the first thing that is wrong in that order,
or the invocation.  Each of these lists of options may hold `--help`; then
what follows it is not looked at, once the list itself can be read.
-/
import BundleConfig.Builder
import BundleConfig.CommandLine.Options
import BundleConfig.Text.Alphanumeric

namespace BundleConfig

/-- The options for all commands. -/
inductive GlobalOption
  | target
  | uiRoot
  | host
  | port
  | verbose
  | jsonLogs
  | help
deriving DecidableEq

namespace GlobalOption

def specs : List (OptionSpec GlobalOption) := [
  ⟨.target, "target", some 't', true⟩,
  ⟨.uiRoot, "ui-root", none, true⟩,
  ⟨.host, "host", none, true⟩,
  ⟨.port, "port", some 'p', true⟩,
  ⟨.verbose, "verbose", some 'v', false⟩,
  ⟨.jsonLogs, "json-logs", none, false⟩,
  ⟨.help, "help", none, false⟩]

/-- The variable that stands for an option. -/
def environKey : GlobalOption → Option String
  | .target => some "DEVAND_BUILD_TARGET"
  | .uiRoot => some "DEVAND_BUILD_UI_ROOT"
  | .host => some "DEVAND_BUILD_HOST"
  | .port => some "DEVAND_BUILD_PORT"
  | .verbose => none
  | .jsonLogs => none
  | .help => none

end GlobalOption

/-- A text as the path that an option asks for; no path holds a null character. -/
def pathOption (name : String) : Option String → Except UsageError (Option Path)
  | none => .ok none
  | some s =>
    if s.toList.contains '\x00' then .error (.badValue name) else .ok (some (.ofText s))

/-- The options for all commands, as they were given. -/
structure GlobalOptions where
  target : Option DeploymentTarget
  uiRoot : Option Path
  host : Option String
  port : Option Port
  verbose : Bool
  jsonLogs : Bool
deriving DecidableEq

namespace GlobalOptions

/-- The text that an option has: as it was given, or else from its variable. -/
def text? (env : Environ) (s : Scanned GlobalOption) (o : GlobalOption) : Option String :=
  (s.value? o).or ((o.environKey.bind fun n => env.lookup n).filter (· != ""))

def check {α : Type} (name : String) (read : Value → Checked α) :
    Option String → Except UsageError (Option α)
  | none => .ok none
  | some s =>
    match read (.text s) with
    | .ok a => .ok (some a)
    | .error _ => .error (.badValue name)

def ofScanned (env : Environ) (s : Scanned GlobalOption) : Except UsageError GlobalOptions :=
  match check "--target" (Value.readChoice DeploymentTarget) (text? env s .target),
      pathOption "--ui-root" (text? env s .uiRoot),
      check "--port" Value.readPort (text? env s .port) with
  | .ok target, .ok uiRoot, .ok port => .ok {
      target := target
      uiRoot := uiRoot
      host := text? env s .host
      port := port
      verbose := s.isGiven .verbose
      jsonLogs := s.isGiven .jsonLogs }
  | .error e, _, _ => .error e
  | _, .error e, _ => .error e
  | _, _, .error e => .error e

/-- The options at the head of a list of arguments, and what is left of it. -/
def ofArguments (env : Environ) (arguments : List String) :
    Except UsageError (GlobalOptions × List String) :=
  match OptionSpec.scan GlobalOption.specs false arguments with
  | .error e => .error e
  | .ok s =>
    if s.isGiven .help then .error .helpWanted
    else
      match ofScanned env s with
      | .error e => .error e
      | .ok options => .ok (options, s.rest)

/-- The options as overrides of settings; what was not given is absent. -/
def overrides (o : GlobalOptions) : Fields := [
  ("target", (o.target.map fun t => Value.member (.target t)).getD .null),
  ("ui_root", (o.uiRoot.map fun p => Value.text p.text).getD .null),
  ("dev_server_host", (o.host.map Value.text).getD .null),
  ("dev_server_port", (o.port.map fun p => Value.int p.number).getD .null),
  ("log_level", if o.verbose then .member (.level .debug) else .null),
  ("json_logs", if o.jsonLogs then .bool true else .null)]

/-- The settings that the options ask for, in one step. -/
def settings (cwd : AbsolutePath) (o : GlobalOptions) : Settings where
  logLevel := if o.verbose then .debug else .info
  jsonLogs := o.jsonLogs
  target := o.target.getD .web
  uiRoot := o.uiRoot.getD cwd.path
  devServerHost := o.host.getD DevServer.defaultHost
  devServerPort := o.port.getD DevServer.defaultPort

end GlobalOptions

/-- A command with its arguments. -/
inductive Command
  | resolve (mode : String) (output : Option Path)
  | features (mode : String)
  | profiles
deriving DecidableEq

/-- The options of single commands. -/
inductive CommandOption
  | output
  | help
deriving DecidableEq

namespace Command

/-- How the option of every command is written. -/
def helpSpec : OptionSpec CommandOption := ⟨.help, "help", none, false⟩

def resolveSpecs : List (OptionSpec CommandOption) :=
  [⟨.output, "output", some 'o', true⟩, helpSpec]

/-- The options of a command, unless they ask for help. -/
def scan (specs : List (OptionSpec CommandOption)) (arguments : List String) :
    Except UsageError (Scanned CommandOption) :=
  match OptionSpec.scan specs true arguments with
  | .error e => .error e
  | .ok s => if s.isGiven .help then .error .helpWanted else .ok s

/-- A mode, and nothing behind it. -/
def modeOnly : List String → Except UsageError String
  | [] => .error .missingMode
  | [mode] => .ok mode
  | _ :: extra :: _ => .error (.extraArgument extra)

def readResolve (arguments : List String) : Except UsageError Command :=
  match scan resolveSpecs arguments with
  | .error e => .error e
  | .ok s =>
    match pathOption "--output" (s.value? .output) with
    | .error e => .error e
    | .ok output => (modeOnly s.rest).map fun mode => .resolve mode output

def readFeatures (arguments : List String) : Except UsageError Command :=
  match scan [helpSpec] arguments with
  | .error e => .error e
  | .ok s => (modeOnly s.rest).map .features

def readProfiles (arguments : List String) : Except UsageError Command :=
  match scan [helpSpec] arguments with
  | .error e => .error e
  | .ok s =>
    match s.rest with
    | [] => .ok .profiles
    | extra :: _ => .error (.extraArgument extra)

/-- The reader of a command's arguments, by the command's name. -/
def reader? : String → Option (List String → Except UsageError Command)
  | "resolve" => some readResolve
  | "features" => some readFeatures
  | "profiles" => some readProfiles
  | _ => none

/-- Whether a name may have been meant as an option: it starts with something
that is no letter and no number. -/
def isOptionLike (name : String) : Bool := name.toList.head?.any fun c => !Text.isAlphanumeric c

/-- What is wrong with a name that is no command: if it may have been meant as
an option, whatever reading it as one finds. -/
def unknown (env : Environ) (name : String) (arguments : List String) : UsageError :=
  if isOptionLike name then
    match GlobalOptions.ofArguments env (name :: arguments) with
    | .error e => e
    | .ok _ => .unknownCommand name
  else .unknownCommand name

def ofArguments (env : Environ) : List String → Except UsageError Command
  | [] => .error .missingCommand
  | name :: arguments =>
    match reader? name with
    | none => .error (unknown env name arguments)
    | some read => read arguments

end Command

/-- What a command line asks for. -/
structure Invocation where
  options : GlobalOptions
  command : Command
deriving DecidableEq

/-- The invocation of a list of arguments, with environment variables. -/
def Invocation.ofArguments (env : Environ) (arguments : List String) :
    Except UsageError Invocation :=
  if arguments.isEmpty then .error .noArguments
  else
    match GlobalOptions.ofArguments env arguments with
    | .error e => .error e
    | .ok (options, rest) => (Command.ofArguments env rest).map fun c => ⟨options, c⟩

end BundleConfig
