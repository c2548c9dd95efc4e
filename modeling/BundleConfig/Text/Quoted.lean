/-
# `Text.Quoted` — a text in quotes, on one line of printable characters

Diagnostics quote the texts they speak of.  A text is written between
apostrophes, or between double quotes if it holds an apostrophe and no
double quote.  Inside, the quote in use and the backslash are written
after a backslash; newline, carriage return and tab as `\n`, `\r`, `\t`;
any other character that is not printable as `\xhh`, `\uhhhh` or
`\Uhhhhhhhh`, whichever is the shortest that fits.
-/
import BundleConfig.Text.Hex
import BundleConfig.Text.Printable

namespace BundleConfig.Text

/-- The quote a text is written in. -/
def quoteMark (cs : List Char) : Char :=
  if cs.contains '\x27' && !cs.contains '\x22' then '\x22' else '\x27'

/-- The numeric escape of a character: the shortest form that fits. -/
def numericEscape (n : Nat) : List Char :=
  if n < 0x100 then '\x5c' :: 'x' :: Hex.digits 2 n
  else if n < 0x10000 then '\x5c' :: 'u' :: Hex.digits 4 n
  else '\x5c' :: 'U' :: Hex.digits 8 n

/-- How a character is written between the quotes `mark`. -/
def escapeChar (mark c : Char) : List Char :=
  if c = mark ∨ c = '\x5c' then ['\x5c', c]
  else if c = '\n' then ['\x5c', 'n']
  else if c = '\r' then ['\x5c', 'r']
  else if c = '\t' then ['\x5c', 't']
  else if isPrintable c then [c]
  else numericEscape c.toNat

/-- A text between quotes, over its characters. -/
def quoteChars (cs : List Char) : List Char :=
  quoteMark cs :: (cs.flatMap (escapeChar (quoteMark cs)) ++ [quoteMark cs])

def quote (s : String) : String := String.ofList (quoteChars s.toList)

end BundleConfig.Text
