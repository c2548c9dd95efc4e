/-
# `Logging.Record` — log records and how they are written

A record has a severity, the name of the logger that issued it, and a
message.  Its text is one line, or several if the message has newlines:
the time, the severity padded to eight characters, the name, the message.
The document of a record holds that text and the record's parts.
-/
import BundleConfig.Choice
import BundleConfig.Json.Basic

namespace BundleConfig

/-- How grave a record is. -/
inductive Severity
  | trace
  | debug
  | info
  | success
  | warning
  | error
  | critical
deriving DecidableEq

namespace Severity

/-- The number that severities are compared by. -/
def number : Severity → Nat
  | .trace => 5
  | .debug => 10
  | .info => 20
  | .success => 25
  | .warning => 30
  | .error => 40
  | .critical => 50

instance : Choice Severity where
  all := [.trace, .debug, .info, .success, .warning, .error, .critical]
  name
    | .trace => "TRACE"
    | .debug => "DEBUG"
    | .info => "INFO"
    | .success => "SUCCESS"
    | .warning => "WARNING"
    | .error => "ERROR"
    | .critical => "CRITICAL"

end Severity

/-- What was logged, how grave it is, and by which logger. -/
structure Record where
  severity : Severity
  logger : String
  message : String
deriving DecidableEq

namespace Record

/-- A text filled with blanks on the right to a width. -/
def padRight (width : Nat) (s : String) : String :=
  s ++ String.ofList (List.replicate (width - s.toList.length) ' ')

/-- The text of a record that was issued at a time, closed by a newline. -/
def text (time : String) (r : Record) : String :=
  time ++ " | " ++ padRight 8 (Choice.name r.severity) ++ " | " ++ r.logger ++ " - "
    ++ r.message ++ "\n"

/-- The document of a record that was issued at a time. -/
def document (time : String) (r : Record) : Json := .object [
  ("text", .text (r.text time)),
  ("message", .text r.message),
  ("level", .text (Choice.name r.severity)),
  ("no", .int r.severity.number),
  ("extra", .object [("name", .text r.logger)])]

end Record

end BundleConfig
