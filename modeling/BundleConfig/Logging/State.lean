/-
# `Logging.State` — who receives a record

Handlers are added one at a time and removed all at once.  A handler has a
threshold, a form (text or documents) and a destination; each one that is
installed receives each record whose severity is at least its threshold,
once.  With no handler records go nowhere.

Configuring takes three steps:

    remove      every handler there is
    add         one at the named level
    mark        logging counts as configured

If the level does not exist, the second step fails: nothing is installed,
and whether logging counts as configured stays as it was.  Taking a logger
while logging does not count as configured configures the default handler.
-/
import BundleConfig.Failure
import BundleConfig.Logging.Record
import BundleConfig.Settings

namespace BundleConfig

/-- Where records can be written. -/
inductive Destination
  | stderr
  | sink
deriving DecidableEq

/-- What receives records. -/
structure Handler where
  threshold : Severity
  serialized : Bool
  destination : Destination
deriving DecidableEq

/-- A record as a handler wrote it. -/
structure Emission where
  destination : Destination
  serialized : Bool
  record : Record
deriving DecidableEq

namespace Handler

/-- What a handler writes of a record. -/
def emit (h : Handler) (r : Record) : List Emission :=
  if h.threshold.number ≤ r.severity.number then [⟨h.destination, h.serialized, r⟩] else []

end Handler

/-- The handlers that are installed, and whether logging counts as configured. -/
structure Logging where
  handlers : List Handler
  configured : Bool
deriving DecidableEq

namespace Logging

/-- No handler, not configured. -/
def reset : Logging := ⟨[], false⟩

/-- Removes every handler. -/
def remove (l : Logging) : Logging := { l with handlers := [] }

/-- Adds a handler at the named level. -/
def add (l : Logging) (level : String) (serialized : Bool) (destination : Destination) :
    Except Failure Logging :=
  match Choice.ofText? level with
  | some threshold =>
      .ok { l with handlers := l.handlers ++ [⟨threshold, serialized, destination⟩] }
  | none => .error (.unknownLevel level)

/-- Replaces all handlers by one at the named level. -/
def configure (l : Logging) (level : String) (serialized : Bool) (destination : Destination) :
    Except Failure Unit × Logging :=
  match l.remove.add level serialized destination with
  | .ok added => (.ok (), { added with configured := true })
  | .error e => (.error e, l.remove)

/-- The handler of settings, on standard error. -/
def ofSettings (l : Logging) (s : Settings) : Except Failure Unit × Logging :=
  l.configure (Choice.name s.logLevel) s.jsonLogs .stderr

/-- The state after a logger was taken: the default handler, if logging did
not count as configured. -/
def afterLogger (l : Logging) : Logging :=
  if l.configured then l else (l.configure (Choice.name LogLevel.info) false .stderr).2

/-- The state after a reset: no handler, and the next logger configures. -/
def cleared (l : Logging) : Logging := { l.remove with configured := false }

def emit (l : Logging) (r : Record) : List Emission := l.handlers.flatMap (·.emit r)

/-- What is written of a message at the named level.  With no handler the
level is not looked at. -/
def log (l : Logging) (logger level message : String) : Except Failure (List Emission) :=
  if l.handlers.isEmpty then .ok []
  else
    match Choice.ofText? level with
    | some severity => .ok (l.emit ⟨severity, logger, message⟩)
    | none => .error (.unknownLevel level)

end Logging

end BundleConfig
