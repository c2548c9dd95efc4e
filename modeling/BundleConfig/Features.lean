/-
# `Features` — feature flags as compiler arguments

The compiler takes one argument per feature flag, `--features=` and then
the flag, and the arguments are separated by one space.  Flags are passed
through unchecked and in order; an empty flag still gives an argument.
-/
import BundleConfig.Value

namespace BundleConfig.Features

def argumentHead : String := "--features="

def argument (flag : String) : String := argumentHead ++ flag

/-- The arguments of a list of flags, separated by spaces. -/
def render (flags : List String) : String := " ".intercalate (flags.map argument)

/-- The flags that a value holds: the characters of a text, the items of a
list, the keys of an object.  Nothing else holds flags. -/
def flags? : Value → Option (List String)
  | .text s => some (s.toList.map fun c => String.ofList [c])
  | .member m => some (m.text.toList.map fun c => String.ofList [c])
  | .list items => some (items.map Value.display)
  | .object fields => some (fields.map Prod.fst)
  | .null | .bool _ | .int _ | .float _ => none

end BundleConfig.Features
