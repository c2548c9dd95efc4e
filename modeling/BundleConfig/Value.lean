/-
# `Value` — what callers hand in

Selectors, overrides and record fields arrive untyped: any value may stand
where a text, a number or a path is wanted, and what is wrong with it has
to be told.  `Value` is that input.  A member of a vocabulary counts as a
text, its name, wherever a text is wanted (`asText?`).

A value is shown in two ways.  `quoted` is for diagnostics: texts in
quotes, members under their label.  `display` is for output: texts and
members as they are, anything else quoted.
-/
import BundleConfig.Choice
import BundleConfig.Decimal.Shortest
import BundleConfig.Text.Quoted

namespace BundleConfig

/-- An untyped input.  Fields of objects keep their order. -/
inductive Value
  | null
  | bool (b : Bool)
  | int (n : Int)
  | float (x : Binary64)
  | text (s : String)
  | member (m : Member)
  | list (items : List Value)
  | object (fields : List (String × Value))
deriving Inhabited

/-- Named values, in order. -/
abbrev Fields := List (String × Value)

namespace Value

/-- The text that a value is: a text, or the name of a member. -/
def asText? : Value → Option String
  | .text s => some s
  | .member m => some m.text
  | _ => none

/-- Whether a value is the absent one. -/
def isNull : Value → Bool
  | .null => true
  | _ => false

/-- Floating-point numbers are positional from `1e-4` up to below `1e16`, and
an exponent has two digits at least. -/
def floatStyle : Decimal.FloatStyle := ⟨-4, 16, 2⟩

def floatText (x : Binary64) : String := String.ofList (floatStyle.write x)

mutual

/-- A value as diagnostics show it. -/
def quoted : Value → String
  | .null => "None"
  | .bool true => "True"
  | .bool false => "False"
  | .int n => decimal n
  | .float x => floatText x
  | .text s => Text.quote s
  | .member m => "<" ++ m.label ++ ": " ++ Text.quote m.text ++ ">"
  | .list xs => "[" ++ ", ".intercalate (quotedItems xs) ++ "]"
  | .object fs => "\x7b" ++ ", ".intercalate (quotedFields fs) ++ "\x7d"

def quotedItems : List Value → List String
  | [] => []
  | x :: xs => quoted x :: quotedItems xs

def quotedFields : List (String × Value) → List String
  | [] => []
  | (k, v) :: fs => (Text.quote k ++ ": " ++ quoted v) :: quotedFields fs

end

/-- A value as output shows it: texts as they are. -/
def display (v : Value) : String := v.asText?.getD v.quoted

/-- The name of a value's kind in diagnostics. -/
def kind : Value → String
  | .null => "NoneType"
  | .bool _ => "bool"
  | .int _ => "int"
  | .float _ => "float"
  | .text _ => "str"
  | .member (.environment _) => "EnvironmentName"
  | .member (.target _) => "DeploymentTarget"
  | .member (.level _) => "LogLevel"
  | .list _ => "list"
  | .object _ => "dict"

/-- The member of a vocabulary that a value names. -/
def choose? (α : Type) [Choice α] (v : Value) : Option α := v.asText?.bind Choice.ofText?

end Value

end BundleConfig
