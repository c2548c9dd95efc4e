/-
# `Json.Reader` — documents from text

Reads a document whose numbers are whole.  Blanks are allowed between
tokens, escapes are interpreted, and the two escapes of a surrogate pair
are joined into one character.  An escaped unit of a pair that stands alone
is refused, and so are a control character that is not escaped and a number
with a leading zero.  Each item, each member and each nesting takes characters of
its own, so twice the length of the input bounds the depth of the calls
(`parse?`).
-/
import BundleConfig.Json.Basic
import BundleConfig.Text.Hex
import BundleConfig.Text.Numeral

namespace BundleConfig.Json.Reader

/-- The blanks between tokens. -/
def isBlank (c : Char) : Bool := c == ' ' || c == '\n' || c == '\r' || c == '\t'

def skip (cs : List Char) : List Char := cs.dropWhile isBlank

def shortEscape? : Char → Option Char
  | '\x22' => some '\x22'
  | '\x5c' => some '\x5c'
  | '/' => some '/'
  | 'b' => some '\x08'
  | 'f' => some '\x0c'
  | 'n' => some '\n'
  | 'r' => some '\r'
  | 't' => some '\t'
  | _ => none

def pair? (high low : Nat) : Option Char :=
  if 0xd800 ≤ high ∧ high < 0xdc00 ∧ 0xdc00 ≤ low ∧ low < 0xe000 then
    some (Char.ofNat (0x10000 + (high - 0xd800) * 0x400 + (low - 0xdc00)))
  else none

def unit? (n : Nat) : Option Char :=
  if 0xd800 ≤ n ∧ n < 0xe000 then none else some (Char.ofNat n)

/-- A character put in front of a text that was read. -/
def push (c : Option Char) (r : Option (List Char × List Char)) : Option (List Char × List Char) :=
  match c, r with
  | some c, some (cs, rest) => some (c :: cs, rest)
  | _, _ => none

/-- A character as it stands in a text; a control character has to be escaped. -/
def plain? (c : Char) : Option Char := if c.toNat < 0x20 then none else some c

/-- The rest of a text up to its closing quote, and what follows. -/
def text? : List Char → Option (List Char × List Char)
  | [] => none
  | '\x22' :: rest => some ([], rest)
  | '\x5c' :: 'u' :: a :: b :: c :: d :: rest =>
      match Text.Hex.value? [a, b, c, d] with
      | none => none
      | some n =>
        match unit? n with
        | some ch => push (some ch) (text? rest)
        | none =>
          match rest with
          | '\x5c' :: 'u' :: e :: f :: g :: h :: rest =>
              push ((Text.Hex.value? [e, f, g, h]).bind (pair? n)) (text? rest)
          | _ => none
  | '\x5c' :: c :: rest => push (shortEscape? c) (text? rest)
  | c :: rest => push (plain? c) (text? rest)

/-- An unsigned whole number and what follows; no zero stands in front of
another digit, and no point or exponent may follow. -/
def nat? (cs : List Char) : Option (Nat × List Char) :=
  let ds := cs.takeWhile Text.Numeral.isDigit
  let rest := cs.dropWhile Text.Numeral.isDigit
  match ds, rest with
  | [], _ => none
  | '0' :: _ :: _, _ => none
  | _, '.' :: _ => none
  | _, 'e' :: _ => none
  | _, 'E' :: _ => none
  | ds, rest => some (Text.Numeral.value ds, rest)

mutual

/-- A document and what follows it. -/
def value? : Nat → List Char → Option (Json × List Char)
  | 0, _ => none
  | fuel + 1, cs =>
    match skip cs with
    | 'n' :: 'u' :: 'l' :: 'l' :: rest => some (.null, rest)
    | 't' :: 'r' :: 'u' :: 'e' :: rest => some (.bool true, rest)
    | 'f' :: 'a' :: 'l' :: 's' :: 'e' :: rest => some (.bool false, rest)
    | '\x22' :: rest => (text? rest).map fun p => (.text (String.ofList p.1), p.2)
    | '-' :: rest => (nat? rest).map fun p => (.int (-Int.ofNat p.1), p.2)
    | '[' :: rest =>
      match skip rest with
      | ']' :: rest => some (.list [], rest)
      | rest =>
        match value? fuel rest with
        | none => none
        | some (x, rest) => (items? fuel rest).map fun p => (.list (x :: p.1), p.2)
    | '\x7b' :: rest =>
      match skip rest with
      | '\x7d' :: rest => some (.object [], rest)
      | rest =>
        match member? fuel rest with
        | none => none
        | some (m, rest) => (members? fuel rest).map fun p => (.object (m :: p.1), p.2)
    | rest => (nat? rest).map fun p => (.int (Int.ofNat p.1), p.2)

/-- The items after the first, up to the closing bracket. -/
def items? : Nat → List Char → Option (List Json × List Char)
  | 0, _ => none
  | fuel + 1, cs =>
    match skip cs with
    | ']' :: rest => some ([], rest)
    | ',' :: rest =>
      match value? fuel rest with
      | none => none
      | some (x, rest) => (items? fuel rest).map fun p => (x :: p.1, p.2)
    | _ => none

def member? : Nat → List Char → Option ((String × Json) × List Char)
  | 0, _ => none
  | fuel + 1, cs =>
    match skip cs with
    | '\x22' :: rest =>
      match text? rest with
      | none => none
      | some (k, rest) =>
        match skip rest with
        | ':' :: rest => (value? fuel rest).map fun p => ((String.ofList k, p.1), p.2)
        | _ => none
    | _ => none

/-- The members after the first, up to the closing brace. -/
def members? : Nat → List Char → Option (List (String × Json) × List Char)
  | 0, _ => none
  | fuel + 1, cs =>
    match skip cs with
    | '\x7d' :: rest => some ([], rest)
    | ',' :: rest =>
      match member? fuel rest with
      | none => none
      | some (m, rest) => (members? fuel rest).map fun p => (m :: p.1, p.2)
    | _ => none

end

end BundleConfig.Json.Reader

namespace BundleConfig.Json

/-- The document that a text holds, with nothing but blanks around it. -/
def parse? (s : String) : Option Json :=
  match Reader.value? (2 * s.toList.length + 1) s.toList with
  | some (j, rest) => if (Reader.skip rest).isEmpty then some j else none
  | none => none

end BundleConfig.Json
