/-
# `Text.Numeral` — integers as decimal text

Writing is the plain form: a minus sign if negative, then the digits
without leading zeros.  Reading comes in two forms.  `value` adds up plain
digits.  `lax` reads what a person may type into a form, as in
` +08_001.0 `:

    blanks      at either end
    a plus      at the head, unless a minus stands right behind it
    zeros       at the head, any underscores among them; dropped
    a minus     before or behind such zeros
    digits      with single underscores between them
    a fraction  of zeros only

A number of more than `maxDigits` digits, those zeros and the underscores
apart, is not computed.  A text that starts with so many digits as it
stands, with nothing to drop in front but a minus, is told apart as
oversized, whatever follows them; behind anything else so many digits are
as unreadable as other texts.
-/
import BundleConfig.Text.Blank

namespace BundleConfig.Text.Numeral

def ofNat (n : Nat) : List Char := Nat.toDigits 10 n

def ofInt : Int → List Char
  | .ofNat n => ofNat n
  | .negSucc n => '-' :: ofNat (n + 1)

def isDigit (c : Char) : Bool := decide (48 ≤ c.toNat) && decide (c.toNat ≤ 57)

/-- The number that plain digits stand for. -/
def value (cs : List Char) : Nat := cs.foldl (fun n c => 10 * n + (c.toNat - 48)) 0

/-! ## Reading what a person may type -/

/-- What a text is, read as an integer. -/
inductive Lax
  | integer (n : Int)
  | oversized
  | unreadable
deriving DecidableEq

/-- The most digits that a number is read from. -/
def maxDigits : Nat := 4300

/-- The same with the other sign. -/
def Lax.negated : Lax → Lax
  | .integer n => .integer (-n)
  | .oversized => .oversized
  | .unreadable => .unreadable

/-- Whether a text starts with a number of too many digits, as it stands. -/
def isOversized (cs : List Char) : Bool :=
  let digits := (if cs.head? = some '-' then cs.drop 1 else cs).takeWhile isDigit
  digits.head? != some '0' && decide (maxDigits < digits.length)

/-- What is left behind leading zeros, and underscores among them, given the
one that was dropped last: it is kept where a point or nothing follows. -/
def behindZeros? (last : Char) : List Char → Option (List Char)
  | [] => some [last]
  | c :: cs =>
    if c = '0' ∨ c = '_' then behindZeros? c cs
    else if c = '.' then some (last :: c :: cs)
    else if isDigit c ∨ c = '-' then some (c :: cs)
    else none

/-- A text without its leading zeros, if it starts like a number. -/
def dropZeros? : List Char → Option (List Char)
  | [] => none
  | c :: cs =>
    if c = '0' then behindZeros? c cs
    else if isDigit c ∨ c = '-' then some (c :: cs)
    else none

/-- Nothing, or a point and then zeros, at least one. -/
def isZeroFraction : List Char → Bool
  | [] => true
  | '.' :: rest => !rest.isEmpty && rest.all (· == '0')
  | _ => false

/-- The text before a fraction of zeros; all of it if there is none. -/
def whole (cs : List Char) : List Char :=
  if isZeroFraction (cs.dropWhile (· != '.')) then cs.takeWhile (· != '.') else cs

/-- Whether no underscore stands next to another or at the end. -/
def isSpaced : List Char → Bool
  | [] => true
  | c :: cs => (c != '_' || (!cs.isEmpty && cs.head? != some '_')) && isSpaced cs

/-- A text without its underscores, if they are well placed. -/
def ungrouped (cs : List Char) : List Char := if isSpaced cs then cs.filter (· != '_') else cs

/-- A number in plain digits without leading zeros. -/
def unsigned (cs : List Char) : Lax :=
  if cs.head? = some '0' then
    if cs = ['0'] then .integer 0 else .unreadable
  else if cs.isEmpty || !cs.all isDigit || decide (maxDigits < cs.length) then .unreadable
  else .integer (value cs)

/-- An integer in plain digits without leading zeros. -/
def signed : List Char → Lax
  | '-' :: cs => (unsigned cs).negated
  | cs => unsigned cs

/-- A text that may have a minus, without leading zeros. -/
def trimZeros? : List Char → Option (List Char)
  | '-' :: cs => (dropZeros? cs).map ('-' :: ·)
  | cs => dropZeros? cs

/-- An integer as a person may type it, without blanks and plus. -/
def laxSigned (cs : List Char) : Lax :=
  match trimZeros? cs with
  | none => .unreadable
  | some body => signed (ungrouped (whole body))

/-- An integer as a person may type it. -/
def lax (cs : List Char) : Lax :=
  if isOversized cs then .oversized
  else
    match trim cs with
    | '+' :: '-' :: _ => .unreadable
    | '+' :: rest => laxSigned rest
    | rest => laxSigned rest

end BundleConfig.Text.Numeral

namespace BundleConfig

def decimal (n : Int) : String := String.ofList (Text.Numeral.ofInt n)

end BundleConfig
