/-
# `Failure` — how an operation can fail

Every failure is a cause with what it concerns; the wording is in
`message`.  A configuration cannot be resolved because a selector names
nothing known or a table does not cover every environment
(`ConfigurationError`); a record is refused for its faults; a value is of
a kind that cannot be used at all; logging is asked for a level that does
not exist; an attribute is asked for that is not there, or cannot be set, or
not to that value.
-/
import BundleConfig.Fault
import BundleConfig.Value

namespace BundleConfig

/-- Why a configuration cannot be resolved. -/
inductive ConfigurationError
  | unknownEnvironment (selector : Value)
  | unknownTarget (selector : Value)
  | uncovered (missing : List EnvironmentName)

namespace ConfigurationError

def message : ConfigurationError → String
  | .unknownEnvironment selector =>
      "unknown environment: " ++ selector.quoted ++ " (expected one of: "
        ++ ", ".intercalate (Choice.names EnvironmentName) ++ ")"
  | .unknownTarget selector => "unknown deployment target: " ++ selector.quoted
  | .uncovered missing =>
      "profile table has no entry for: " ++ ", ".intercalate (missing.map Choice.name)

/-- The value that was rejected; a table that does not cover every
environment has none. -/
def selector : ConfigurationError → Value
  | .unknownEnvironment selector => selector
  | .unknownTarget selector => selector
  | .uncovered _ => .null

end ConfigurationError

/-- How an operation can fail. -/
inductive Failure
  | configuration (error : ConfigurationError)
  | refused (refusal : Refusal)
  | notIterable (kind : String)
  | notPathLike (kind : String)
  | unknownLevel (name : String)
  | outOfRange
  | noAttribute (kind : String) (shown : String)
  | fixed (name : String)
  | readOnly (kind : String) (name : String)
  | notWritable (kind : String) (name : String)
  | noSetter (kind : String) (name : String)
  | notAClass (kind : String)
  | notAnObject (kind : String)

namespace Failure

def message : Failure → String
  | .configuration error => error.message
  | .refused refusal => refusal.message
  | .notIterable kind => "'" ++ kind ++ "' object is not iterable"
  | .notPathLike kind => "expected str, bytes or os.PathLike object, not " ++ kind
  | .unknownLevel name => "Level '" ++ name ++ "' does not exist"
  | .outOfRange => "list index out of range"
  | .noAttribute kind shown => "'" ++ kind ++ "' object has no attribute " ++ shown
  | .fixed name => "<enum 'Enum'> cannot set attribute '" ++ name ++ "'"
  | .readOnly kind name => "'" ++ kind ++ "' object attribute '" ++ name ++ "' is read-only"
  | .notWritable kind name =>
      "attribute '" ++ name ++ "' of '" ++ kind ++ "' objects is not writable"
  | .noSetter kind name => "property '" ++ name ++ "' of '" ++ kind ++ "' object has no setter"
  | .notAClass kind => "__class__ must be set to a class, not '" ++ kind ++ "' object"
  | .notAnObject kind => "__dict__ must be set to a dictionary, not a '" ++ kind ++ "'"

end Failure

/-- A record, or the failure that refuses it. -/
def Checked.orRefuse {α : Type} (kind : RecordKind) : Checked α → Except Failure α
  | .ok a => .ok a
  | .error fs => .error (.refused ⟨kind, fs⟩)

/-- The environment that a selector names. -/
def resolveEnvironment (selector : Value) : Except ConfigurationError EnvironmentName :=
  match selector.choose? EnvironmentName with
  | some e => .ok e
  | none => .error (.unknownEnvironment selector)

end BundleConfig
