/-
# `Fault` — what is wrong with a record, and where

Reading a record from untyped fields either gives the record or the whole
list of its faults, in the order of the record's fields; a fault inside a
nested record or list stands where that field stands.  A fault is a place
(names and indexes from the outside in) and a problem; each problem has a
code and a message.

`Checked` is the result of reading.  `also` is how a record is put
together: both sides are read, and their faults are joined in order.
-/
import BundleConfig.Choice
import BundleConfig.Path.Basic
import BundleConfig.Text.Numeral

namespace BundleConfig

/-- The records that can be read from fields. -/
inductive RecordKind
  | profile
  | outputSettings
  | moduleRule
  | copyInstruction
  | wasmPackInvocation
  | devServer
  | resolvedConfiguration
  | settings
deriving DecidableEq

def RecordKind.name : RecordKind → String
  | .profile => "Profile"
  | .outputSettings => "OutputSettings"
  | .moduleRule => "ModuleRule"
  | .copyInstruction => "CopyInstruction"
  | .wasmPackInvocation => "WasmPackInvocation"
  | .devServer => "DevServer"
  | .resolvedConfiguration => "ResolvedConfiguration"
  | .settings => "Settings"

/-- One step towards a place in a record. -/
inductive Step
  | field (name : String)
  | index (i : Nat)
deriving DecidableEq

/-- What can be wrong with a value. -/
inductive Problem
  | missing
  | notText
  | tooShort
  | notPath
  | notAbsolute (path : Path)
  | notInteger
  | unreadableInteger
  | oversizedInteger
  | fractional
  | notFinite
  | below (least : Nat)
  | above (greatest : Nat)
  | notBoolean
  | unreadableBoolean
  | notAmong (names : List String)
  | notList
  | notRecord (kind : RecordKind)
  | frozen
deriving DecidableEq

namespace Problem

def code : Problem → String
  | .missing => "missing"
  | .notText => "string_type"
  | .tooShort => "string_too_short"
  | .notPath => "path_type"
  | .notAbsolute _ => "value_error"
  | .notInteger => "int_type"
  | .unreadableInteger => "int_parsing"
  | .oversizedInteger => "int_parsing_size"
  | .fractional => "int_from_float"
  | .notFinite => "finite_number"
  | .below _ => "greater_than_equal"
  | .above _ => "less_than_equal"
  | .notBoolean => "bool_type"
  | .unreadableBoolean => "bool_parsing"
  | .notAmong _ => "enum"
  | .notList => "tuple_type"
  | .notRecord _ => "model_type"
  | .frozen => "frozen_instance"

/-- Names as alternatives: each in apostrophes, `or` before the last. -/
def alternatives : List String → String
  | [] => ""
  | [a] => "'" ++ a ++ "'"
  | [a, b] => "'" ++ a ++ "' or '" ++ b ++ "'"
  | a :: rest => "'" ++ a ++ "', " ++ alternatives rest

def message : Problem → String
  | .missing => "Field required"
  | .notText => "Input should be a valid string"
  | .tooShort => "String should have at least 1 character"
  | .notPath => "Input is not a valid path for <class 'pathlib.Path'>"
  | .notAbsolute path => "Value error, output_dir must be absolute, got " ++ path.text
  | .notInteger => "Input should be a valid integer"
  | .unreadableInteger =>
      "Input should be a valid integer, unable to parse string as an integer"
  | .oversizedInteger =>
      "Unable to parse input string as an integer, exceeded maximum size"
  | .fractional => "Input should be a valid integer, got a number with a fractional part"
  | .notFinite => "Input should be a finite number"
  | .below least => "Input should be greater than or equal to " ++ decimal least
  | .above greatest => "Input should be less than or equal to " ++ decimal greatest
  | .notBoolean => "Input should be a valid boolean"
  | .unreadableBoolean => "Input should be a valid boolean, unable to interpret input"
  | .notAmong names => "Input should be " ++ alternatives names
  | .notList => "Input should be a valid tuple"
  | .notRecord kind =>
      "Input should be a valid dictionary or instance of " ++ kind.name
  | .frozen => "Instance is frozen"

end Problem

/-- A problem and its place, from the outside in. -/
structure Fault where
  place : List Step
  problem : Problem
deriving DecidableEq

/-- A fault seen from one step further out. -/
def Fault.within (step : Step) (f : Fault) : Fault := { f with place := step :: f.place }

/-- The result of reading: what was read, or every fault in order. -/
abbrev Checked (α : Type) := Except (List Fault) α

namespace Checked

/-- The one problem of a value, at its own place. -/
def refuse {α : Type} (p : Problem) : Checked α := .error [⟨[], p⟩]

/-- A result seen from one step further out. -/
def within {α : Type} (step : Step) : Checked α → Checked α
  | .ok a => .ok a
  | .error fs => .error (fs.map (Fault.within step))

/-- Both sides read, their faults joined in order. -/
def also {α β : Type} : Checked (α → β) → Checked α → Checked β
  | .ok f, .ok a => .ok (f a)
  | .ok _, .error fs => .error fs
  | .error fs, .ok _ => .error fs
  | .error fs, .error gs => .error (fs ++ gs)

/-- A value that needs no reading. -/
def give {α : Type} (a : α) : Checked α := .ok a

end Checked

/-- A record that was refused: its kind and its faults. -/
structure Refusal where
  kind : RecordKind
  faults : List Fault
deriving DecidableEq

/-- The headline of a refusal: how many faults, and in what. -/
def Refusal.message (r : Refusal) : String :=
  decimal r.faults.length ++ (if r.faults.length = 1 then " validation error for "
    else " validation errors for ") ++ r.kind.name

end BundleConfig
