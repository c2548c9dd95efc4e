/-
# `Configuration.Attribute` — what names lead to

A name of a record leads to a nested record or to a value, and values have
names of their own, which lead on.  An `Attribute` is the kind of what is
reached, as far as its names and assignments to them depend on it.
-/
import BundleConfig.Failure

namespace BundleConfig

/-- What a name can lead to.  `method`, `function` and `operation` are what can
be asked for from something; `ancestors` are the directories above a path. -/
inductive Attribute
  | record (kind : RecordKind)
  | member (member : Member)
  | text
  | path
  | ancestors
  | integer
  | truth
  | floating
  | absent
  | sequence
  | list
  | object
  | set
  | method
  | function
  | operation
deriving DecidableEq

namespace Attribute

/-- The name of an attribute's kind in diagnostics. -/
def kind : Attribute → String
  | .record kind => kind.name
  | .member m => (Value.member m).kind
  | .text => "str"
  | .path => "PosixPath"
  | .ancestors => "_PathParents"
  | .integer => "int"
  | .truth => "bool"
  | .floating => "float"
  | .absent => "NoneType"
  | .sequence => "tuple"
  | .list => "list"
  | .object => "dict"
  | .set => "set"
  | .method => "method"
  | .function => "builtin_function_or_method"
  | .operation => "method-wrapper"

/-- What a value is to those who look up names in it. -/
def ofValue : Value → Attribute
  | .null => .absent
  | .bool _ => .truth
  | .int _ => .integer
  | .float _ => .floating
  | .text _ => .text
  | .member m => .member m
  | .list _ => .list
  | .object _ => .object

/-- A value keeps the name of its kind. -/
theorem kind_ofValue (v : Value) : (ofValue v).kind = v.kind := by
  cases v <;> rfl

/-- A name as diagnostics show it: a record quotes it, a value does not look at it. -/
def shown (name : String) : Attribute → String
  | .record _ => Text.quote name
  | _ => "'" ++ name ++ "'"

/-- The failure of an assignment to a name that is not there. -/
def missing (a : Attribute) (name : String) : Failure := .noAttribute a.kind (a.shown name)

/-- The failure of a name that leads nowhere.  The names of a method are looked
up in what it calls. -/
def leadsNowhere (a : Attribute) (name : String) : Failure :=
  match a with
  | .method => .noAttribute "function" (a.shown name)
  | a => a.missing name

end Attribute

end BundleConfig
