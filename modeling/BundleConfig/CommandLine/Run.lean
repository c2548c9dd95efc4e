/-
# `CommandLine.Run` — what a command does

A command gets its builder from the options, from settings that were given
in place of them, or ready made; logging is set up from the settings there
are, and left alone with a ready builder.  It prints to standard output,
or writes one file and says so; what is wrong goes to standard error
behind what was logged, and makes the exit code 1.  Printed text has no
control sequences, whatever the texts in it hold; a document is ASCII
without escape characters and has none to lose.  Logged records and written
files are left as they are.

`plan` is all of it but the writing of a file, so that a command can be
run on a `FileStore` (`run`) or on real files.
-/
import BundleConfig.CommandLine.Invocation
import BundleConfig.Configuration.Export
import BundleConfig.FileStore
import BundleConfig.Json.Printer
import BundleConfig.Logging.State
import BundleConfig.Text.ControlSequence

namespace BundleConfig

/-- Where a command's builder comes from. -/
inductive Wiring
  | options
  | settings (settings : Settings)
  | builder (builder : Builder)

/-- Something on standard error: a log record, or a message. -/
inductive Notice
  | logged (emission : Emission)
  | message (text : String)

/-- What a command prints, and its exit code. -/
structure Printed where
  exitCode : Nat
  stdout : String
  stderr : List Notice

/-- A command up to the file that it writes, if it writes one. -/
inductive Plan
  | done (printed : Printed)
  | write (stderr : List Notice) (path : Path) (text : String)
  | failed (failure : Failure)

namespace CommandLine

/-- A text closed by a newline. -/
def line (s : String) : String := s ++ "\n"

/-- A text printed as a line, without its control sequences. -/
def printedLine (s : String) : String := line (String.ofList (Text.plain s.toList))

def complaint (text : String) : Notice := .message (printedLine ("✗ " ++ text))

def configurationText (c : ResolvedConfiguration) : String :=
  c.webpack.render (.indented 2)

/-- The features of a profile, or a dash for none. -/
def featuresOrDash (p : Profile) : String :=
  if Features.render p.features = "" then "-" else Features.render p.features

/-- The lines that show the profile of an environment. -/
def profileLines (e : EnvironmentName) (p : Profile) : List String :=
  [Choice.name e,
    "  output:   " ++ p.outputDir.text,
    "  public:   " ++ Text.quote p.publicPath,
    "  entry:    " ++ p.entry.text,
    "  features: " ++ featuresOrDash p]
  ++ match p.historyFallback with
    | some page => ["  fallback: " ++ page.text]
    | none => []

def tableText (t : ProfileTable) : String :=
  String.join (t.entries.flatMap fun (e, p) => (profileLines e p).map printedLine)

/-- The plan of a command that builds, with a builder that may not come about:
what follows a success, or the complaint. -/
def planBuild (l : Logging) (made : Except Failure Builder) (mode : String)
    (next : List Notice → ResolvedConfiguration → Plan) : Plan :=
  match made with
  | .error (.configuration e) => .done ⟨1, "", [complaint e.message]⟩
  | .error e => .failed e
  | .ok b =>
    let outcome := b.build (.text mode) []
    let notices := (outcome.records.flatMap l.emit).map .logged
    match outcome.result with
    | .ok c => next notices c
    | .error (.configuration e) => .done ⟨1, "", notices ++ [complaint e.message]⟩
    | .error e => .failed e

def planCommand (l : Logging) (made : Except Failure Builder) : Command → Plan
  | .resolve mode none => planBuild l made mode fun notices c =>
      .done ⟨0, line (configurationText c), notices⟩
  | .resolve mode (some path) => planBuild l made mode fun notices c =>
      .write notices path (line (configurationText c))
  | .features mode => planBuild l made mode fun notices c =>
      .done ⟨0, printedLine c.wasmPack.featureArgs, notices⟩
  | .profiles =>
    match made with
    | .error e => .failed e
    | .ok b => .done ⟨0, tableText b.table, []⟩

def planSettings (cwd : AbsolutePath) (s : Settings) (c : Command) : Plan :=
  match Logging.reset.ofSettings s with
  | (.error e, _) => .failed e
  | (.ok _, l) => planCommand l (Builder.ofSettingValues cwd s Builder.defaultLogger) c

def plan (cwd : AbsolutePath) (i : Invocation) : Wiring → Plan
  | .options =>
    match Settings.ofOverrides cwd i.options.overrides with
    | .error e => .failed e
    | .ok s => planSettings cwd s i.command
  | .settings s => planSettings cwd s i.command
  | .builder b => planCommand .reset (.ok b) i.command

/-- What is printed when the file was written, or could not be. -/
def printedWrite (stderr : List Notice) (path : Path) : Option WriteError → Printed
  | none => ⟨0, printedLine ("✓ Wrote configuration: " ++ path.text), stderr⟩
  | some e =>
      ⟨1, "", stderr ++ [complaint ("Could not write " ++ path.text ++ ": " ++ e.message path)]⟩

/-- A plan carried out on a store. -/
def execute (files : FileStore) : Plan → Except Failure (Printed × FileStore)
  | .done printed => .ok (printed, files)
  | .failed e => .error e
  | .write stderr path text =>
    match files.write path text with
    | .ok after => .ok (printedWrite stderr path none, after)
    | .error e => .ok (printedWrite stderr path (some e), files)

def helpText : String := String.join ([
  "devand-build [options] resolve MODE [--output FILE]",
  "devand-build [options] features MODE",
  "devand-build [options] profiles",
  "",
  "options: --target TARGET, --ui-root DIRECTORY, --host HOST, --port PORT,",
  "         --verbose, --json-logs, --help"].map line)

/-- What is printed in place of what a command line would have done. -/
def printedUsage : UsageError → Printed
  | .helpWanted => ⟨0, helpText, []⟩
  | _ => ⟨2, "", []⟩

/-- An invocation carried out on a store. -/
def run (cwd : AbsolutePath) (w : Wiring) (files : FileStore) (i : Invocation) :
    Except Failure (Printed × FileStore) :=
  execute files (plan cwd i w)

end CommandLine

end BundleConfig
