/-
# `Json.Printer` — documents as ASCII text

Written text is ASCII whatever the document holds: a character outside
`0x20`–`0x7e` is written as an escape, one beyond the 16-bit range as the
two escapes of its surrogate pair.  `Layout.oneLine` writes a document on
one line, `Layout.indented n` writes each item and member on a line of its
own, `n` spaces further in than what encloses it; an empty list or object
stays on its line in either.
-/
import BundleConfig.Json.Basic
import BundleConfig.Text.Hex
import BundleConfig.Text.Numeral

namespace BundleConfig.Json

/-- How a document is spread over lines. -/
inductive Layout
  | oneLine
  | indented (width : Nat)
deriving DecidableEq

/-- What stands inside the brackets of a list or object, for parts at a depth. -/
def Layout.break : Layout → Nat → List Char
  | .oneLine, _ => []
  | .indented width, depth => '\n' :: List.replicate (width * depth) ' '

/-- What stands behind a comma, for parts at a depth. -/
def Layout.gap : Layout → Nat → List Char
  | .oneLine, _ => [' ']
  | .indented width, depth => '\n' :: List.replicate (width * depth) ' '

/-- A layout puts nothing into a text but line breaks and spaces. -/
theorem Layout.mem_break {layout : Layout} {depth : Nat} {c : Char} (h : c ∈ layout.break depth) :
    c = '\n' ∨ c = ' ' := by
  cases layout with
  | oneLine => cases h
  | indented width =>
    rcases List.mem_cons.1 h with rfl | h
    · exact .inl rfl
    · exact .inr (List.eq_of_mem_replicate h)

theorem Layout.mem_gap {layout : Layout} {depth : Nat} {c : Char} (h : c ∈ layout.gap depth) :
    c = '\n' ∨ c = ' ' := by
  cases layout with
  | oneLine => exact .inr (List.mem_singleton.1 h)
  | indented width => exact Layout.mem_break (show c ∈ (Layout.indented width).break depth from h)

def unitEscape (n : Nat) : List Char := '\x5c' :: 'u' :: Text.Hex.digits 4 n

/-- The escape of a character by number: one unit, or the two of its surrogate pair. -/
def numericEscape (n : Nat) : List Char :=
  if n < 0x10000 then unitEscape n
  else unitEscape (0xd800 + (n - 0x10000) / 0x400) ++ unitEscape (0xdc00 + (n - 0x10000) % 0x400)

def escapeChar (c : Char) : List Char :=
  if c = '\x22' ∨ c = '\x5c' then ['\x5c', c]
  else if c = '\n' then ['\x5c', 'n']
  else if c = '\r' then ['\x5c', 'r']
  else if c = '\t' then ['\x5c', 't']
  else if c = '\x0c' then ['\x5c', 'f']
  else if c = '\x08' then ['\x5c', 'b']
  else if 0x20 ≤ c.toNat ∧ c.toNat ≤ 0x7e then [c]
  else numericEscape c.toNat

def writeText (s : String) : List Char :=
  '\x22' :: (s.toList.flatMap escapeChar ++ ['\x22'])

mutual

/-- The text of a document that stands at a depth. -/
def write (layout : Layout) (depth : Nat) : Json → List Char
  | .null => ['n', 'u', 'l', 'l']
  | .bool true => ['t', 'r', 'u', 'e']
  | .bool false => ['f', 'a', 'l', 's', 'e']
  | .int n => Text.Numeral.ofInt n
  | .text s => writeText s
  | .list [] => ['[', ']']
  | .list (x :: xs) =>
      '[' :: (layout.break (depth + 1) ++ write layout (depth + 1) x
        ++ writeItems layout (depth + 1) xs ++ layout.break depth ++ [']'])
  | .object [] => ['\x7b', '\x7d']
  | .object ((k, v) :: ms) =>
      '\x7b' :: (layout.break (depth + 1) ++ writeText k ++ ':' :: ' ' :: write layout (depth + 1) v
        ++ writeMembers layout (depth + 1) ms ++ layout.break depth ++ ['\x7d'])

/-- The items after the first, each behind a comma. -/
def writeItems (layout : Layout) (depth : Nat) : List Json → List Char
  | [] => []
  | x :: xs => ',' :: (layout.gap depth ++ write layout depth x ++ writeItems layout depth xs)

/-- The members after the first, each behind a comma. -/
def writeMembers (layout : Layout) (depth : Nat) : List (String × Json) → List Char
  | [] => []
  | (k, v) :: ms =>
      ',' :: (layout.gap depth ++ writeText k ++ ':' :: ' ' :: write layout depth v
        ++ writeMembers layout depth ms)

end

def render (layout : Layout) (j : Json) : String := String.ofList (write layout 0 j)

end BundleConfig.Json
