/-
# `Session` — a builder over many steps

A session holds a builder, the state of logging, and the configurations
built so far.  A step builds, looks something up, compares or exports what
was built, or changes the builder's host, port or table.  Configurations
cannot be changed: an assignment to a field of one is refused, and an
assignment to a free name only leaves a note beside it.

A step gives an answer or a failure, what was logged, and the session
after it; a step that fails leaves the session as it was.
-/
import BundleConfig.Builder
import BundleConfig.Configuration.Export
import BundleConfig.Configuration.Notes
import BundleConfig.Logging.State
import BundleConfig.Position

namespace BundleConfig

/-- A builder at work. -/
structure Session where
  builder : Builder
  logging : Logging
  built : List ResolvedConfiguration
  notes : Notes

/-- One step of a session. -/
inductive SessionStep
  | build (mode : Value) (env : Environ)
  | webpack (index : Int)
  | equal (a b : Int)
  | lookup (selector : Value)
  | table
  | setHost (value : Value)
  | setPort (value : Value)
  | setTarget (target uiRoot : Value)
  | setProfiles (named : List (String × Fields))
  | assign (index : Int) (path : List String) (name : String) (value : Value)

/-- What a step answers. -/
inductive SessionAnswer
  | built (configuration : ResolvedConfiguration)
  | webpack (document : Json)
  | compared (equal same : Bool)
  | profile (profile : Profile)
  | table (table : ProfileTable)
  | state (host port : Value) (configurations : Nat)

namespace Session

/-- What a step leaves behind. -/
structure Outcome where
  result : Except Failure SessionAnswer
  emissions : List Emission
  session : Session

/-- A step that changes nothing and logs nothing. -/
def unchanged (s : Session) (result : Except Failure SessionAnswer) : Outcome := ⟨result, [], s⟩

def configuration (s : Session) (index : Int) : Except Failure ResolvedConfiguration :=
  match itemAt? s.built index with
  | some c => .ok c
  | none => .error .outOfRange

/-- The answer that shows the builder's host and port. -/
def state (s : Session) : SessionAnswer := .state s.builder.host s.builder.port s.built.length

def withBuilder (s : Session) (b : Builder) : Outcome :=
  let next := { s with builder := b }
  ⟨.ok next.state, [], next⟩

/-- A step that replaces the builder's table, unless making one failed. -/
def withTable (s : Session) : Except Failure ProfileTable → Outcome
  | .ok t => s.withBuilder { s.builder with table := t }
  | .error e => s.unchanged (.error e)

/-- A build, kept if it succeeds. -/
def build (s : Session) (mode : Value) (env : Environ) : Outcome :=
  let outcome := s.builder.build mode env
  let emissions := outcome.records.flatMap s.logging.emit
  match outcome.result with
  | .ok c => ⟨.ok (.built c), emissions, { s with built := s.built ++ [c] }⟩
  | .error e => ⟨.error e, emissions, s⟩

/-- Whether two configurations that were built are equal, and whether they
are one and the same. -/
def compare (s : Session) (a b : Int) : Except Failure SessionAnswer :=
  match s.configuration a, s.configuration b with
  | .ok c, .ok d =>
      .ok (.compared (c == d) (position? s.built.length a == position? s.built.length b))
  | .error e, _ => .error e
  | _, .error e => .error e

/-- A configuration that was built, as names are looked up in it. -/
def annotated (s : Session) (index : Int) : Except Failure Annotated :=
  match s.configuration index, position? s.built.length index with
  | .ok c, some position => .ok ⟨c, position, s.notes⟩
  | .error e, _ => .error e
  | _, none => .error .outOfRange

/-- An assignment to a name in a configuration. -/
def assign (s : Session) (index : Int) (path : List String) (name : String) (value : Value) :
    Outcome :=
  match s.annotated index with
  | .error e => s.unchanged (.error e)
  | .ok x =>
    match x.assign path name value with
    | .error e => s.unchanged (.error e)
    | .ok notes => ⟨.ok s.state, [], { s with notes := notes }⟩

/-- One step, in a current directory. -/
def step (s : Session) (cwd : AbsolutePath) : SessionStep → Outcome
  | .build mode env => s.build mode env
  | .webpack index => s.unchanged ((s.configuration index).map (.webpack ·.webpack))
  | .equal a b => s.unchanged (s.compare a b)
  | .lookup selector =>
      s.unchanged (((s.builder.table.lookup selector).mapError .configuration).map .profile)
  | .table => s.unchanged (.ok (.table s.builder.table))
  | .setHost value => s.withBuilder { s.builder with host := value }
  | .setPort value => s.withBuilder { s.builder with port := value }
  | .setTarget target uiRoot => s.withTable (ProfileTable.ofSelectors cwd target uiRoot)
  | .setProfiles named => s.withTable (ProfileTable.ofFields named)
  | .assign index path name value => s.assign index path name value

/-- The outcomes of steps in turn. -/
def run (cwd : AbsolutePath) : Session → List SessionStep → List Outcome
  | _, [] => []
  | s, x :: xs => s.step cwd x :: run cwd (s.step cwd x).session xs

/-! ## Starting a session -/

/-- What a session starts with: a target, profiles of its own, or settings
from overrides (or none, for the defaults). -/
inductive Start
  | target (target uiRoot host port : Value)
  | profiles (named : List (String × Fields)) (host port : Value)
  | settings (overrides : Option Fields)

/-- The session of settings: logging is set up from them. -/
def ofSettings (cwd : AbsolutePath) (l : Logging) (s : Settings) : Except Failure Session :=
  match l.ofSettings s with
  | (.error e, _) => .error e
  | (.ok _, l) =>
    match Builder.ofSettingValues cwd s Builder.appLogger with
    | .error e => .error e
    | .ok b => .ok ⟨b, l.afterLogger, [], []⟩

def startWith (cwd : AbsolutePath) (l : Logging) : Start → Except Failure Session
  | .target target uiRoot host port =>
    match Builder.ofSelectors cwd target uiRoot host port Builder.defaultLogger with
    | .error e => .error e
    | .ok b => .ok ⟨b, l, [], []⟩
  | .profiles named host port =>
    match ProfileTable.ofFields named with
    | .error e => .error e
    | .ok t => .ok ⟨⟨t, host, port, Builder.defaultLogger⟩, l, [], []⟩
  | .settings overrides =>
    match Settings.ofOverrides cwd (overrides.getD []) with
    | .error e => .error e
    | .ok s => ofSettings cwd l s

/-- A session that starts with logging reset, or first configured to a sink
at a level. -/
def start (cwd : AbsolutePath) (level : Option Value) (st : Start) : Except Failure Session :=
  match level with
  | none => startWith cwd .reset st
  | some v =>
    match Logging.reset.configure v.display false .sink with
    | (.error e, _) => .error e
    | (.ok _, l) => startWith cwd l st

end Session

end BundleConfig
