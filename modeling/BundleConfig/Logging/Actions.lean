/-
# `Logging.Actions` — logging over many steps

The steps that change or use logging: configuring it, setting it up from
settings, resetting it, taking a logger, logging through a logger that was
taken, and a build, which logs under the builder's name and configures
nothing.  `act` gives the answer of a step, what was written, and the
state after it.
-/
import BundleConfig.Builder
import BundleConfig.Logging.State
import BundleConfig.Position

namespace BundleConfig

/-- The state of logging, and the names of the loggers taken so far. -/
structure LoggingSession where
  logging : Logging
  loggers : List String

/-- One step. -/
inductive LoggingAction
  | configure (level : Value) (serialized : Bool) (destination : Destination)
  | setup (overrides : Fields)
  | reset
  | take (name : String)
  | log (logger : Int) (level message : String)
  | build (mode target uiRoot : Value)

namespace LoggingSession

/-- Logging reset, no logger taken. -/
def fresh : LoggingSession := ⟨.reset, []⟩

/-- What a step leaves behind; a build answers its compiler call. -/
structure Outcome where
  result : Except Failure (Option WasmPackInvocation)
  emissions : List Emission
  session : LoggingSession

/-- A step that does nothing but change the state of logging. -/
def change (s : LoggingSession) (r : Except Failure Unit × Logging) : Outcome :=
  ⟨r.1.map fun _ => none, [], { s with logging := r.2 }⟩

/-- Logging a message through a logger that was taken. -/
def log (s : LoggingSession) (logger : Int) (level message : String) : Outcome :=
  match itemAt? s.loggers logger with
  | none => ⟨.error .outOfRange, [], s⟩
  | some name =>
    match s.logging.log name level message with
    | .error e => ⟨.error e, [], s⟩
    | .ok emissions => ⟨.ok none, emissions, s⟩

def build (s : LoggingSession) (cwd : AbsolutePath) (mode target uiRoot : Value) : Outcome :=
  match Builder.buildOnce cwd mode target uiRoot [] with
  | .error e => ⟨.error e, [], s⟩
  | .ok outcome =>
    ⟨outcome.result.map fun c => some c.wasmPack, outcome.records.flatMap s.logging.emit, s⟩

def act (s : LoggingSession) (cwd : AbsolutePath) : LoggingAction → Outcome
  | .configure level serialized destination =>
      s.change (s.logging.configure level.display serialized destination)
  | .setup overrides =>
    match Settings.ofOverrides cwd overrides with
    | .error e => ⟨.error e, [], s⟩
    | .ok settings => s.change (s.logging.ofSettings settings)
  | .reset => s.change (.ok (), s.logging.cleared)
  | .take name => ⟨.ok none, [], ⟨s.logging.afterLogger, s.loggers ++ [name]⟩⟩
  | .log logger level message => s.log logger level message
  | .build mode target uiRoot => s.build cwd mode target uiRoot

/-- The outcomes of steps in turn. -/
def run (cwd : AbsolutePath) : LoggingSession → List LoggingAction → List Outcome
  | _, [] => []
  | s, a :: as => s.act cwd a :: run cwd (s.act cwd a).session as

end LoggingSession

end BundleConfig
