/-
# `Decimal.Shortest` — the fewest digits that read back

A positive finite value `m · 2 ^ q` is the rounding of every real in an
interval around it (ends included iff `m` is even).  Its shortest decimal
is the number with the fewest significant digits in that interval, and
among those the one nearest to the value, on a tie the one whose last
digit is even.  For 1, 2, … 17 digits the value's two neighbours on the
grid of that many digits are tried: if any point of a grid lies in the
interval, one of these two does.

`FloatStyle` holds how such digits are laid out: positionally where the
decimal exponent allows it, with an exponent otherwise.
-/
import BundleConfig.Decimal.Binary64
import BundleConfig.Text.Numeral

namespace BundleConfig

/-- A decimal: `digits · 10 ^ exponent`. -/
structure Decimal where
  digits : Nat
  exponent : Int
deriving DecidableEq

namespace Decimal

/-- `n · b ^ e` as a fraction of natural numbers. -/
def scale (n b : Nat) : Int → Nat × Nat
  | .ofNat e => (n * Nat.pow b e, 1)
  | .negSucc e => (n, Nat.pow b (e + 1))

/-- The largest `e` with `10 ^ e` not above the positive fraction `num / den`,
for every fraction of at least `10 ^ (-400)`. -/
def magnitude (num den : Nat) : Int :=
  ((Nat.toDigits 10 (num * Nat.pow 10 400 / den)).length : Int) - 401

/-- The interval of reals that round to a value, in quarters of `2 ^ q`:
the value, the two ends, and whether the ends belong to it. -/
structure Rounding where
  centre : Nat
  low : Nat
  high : Nat
  closed : Bool

/-- The interval of `m · 2 ^ q`: half a step on either side, but a quarter
below a power of two, where the numbers below lie twice as dense. -/
def Rounding.of (m : Nat) (q : Int) : Rounding where
  centre := 4 * m
  low := if m = Nat.pow 2 52 ∧ -1074 < q then 4 * m - 1 else 4 * m - 2
  high := 4 * m + 2
  closed := m % 2 == 0

/-- Whether the fraction `num / den`, in quarters of a step, lies in the interval. -/
def Rounding.contains (r : Rounding) (num den : Nat) : Bool :=
  if r.closed then decide (r.low * den ≤ num) && decide (num ≤ r.high * den)
  else decide (r.low * den < num) && decide (num < r.high * den)

/-- The point `d` of the grid of multiples of `10 ^ p`, in quarters of `2 ^ q`. -/
def gridPoint (q p : Int) (d : Nat) : Nat × Nat :=
  let ten := scale d 10 p
  let two := scale 1 2 (2 - q)
  (ten.1 * two.1, ten.2 * two.2)

/-- Of two candidate points around the value the nearer, on a tie the even one. -/
def nearer (r : Rounding) (q p : Int) (d : Nat) : Nat :=
  let below := gridPoint q p d
  let above := gridPoint q p (d + 1)
  let down := (r.centre * below.2 - below.1) * above.2
  let up := (above.1 - r.centre * above.2) * below.2
  if down < up then d else if up < down then d + 1 else if d % 2 = 0 then d else d + 1

/-- The point of the grid `10 ^ p` that reads back as `m · 2 ^ q`, if there is one. -/
def onGrid? (m : Nat) (q p : Int) : Option Decimal :=
  let r := Rounding.of m q
  let value := scale (scale m 2 q).1 10 (-p)
  let d := value.1 / (value.2 * (scale m 2 q).2)
  let inside (x : Nat) : Bool := r.contains (gridPoint q p x).1 (gridPoint q p x).2
  match inside d, inside (d + 1) with
  | true, true => some ⟨nearer r q p d, p⟩
  | true, false => some ⟨d, p⟩
  | false, true => some ⟨d + 1, p⟩
  | false, false => none

/-- The first of the grids `10 ^ p`, `10 ^ (p - 1)`, … with a point that reads back. -/
def firstGrid : Nat → Nat → Int → Int → Decimal
  | 0, m, q, p => (onGrid? m q p).getD ⟨m, q⟩
  | tries + 1, m, q, p => (onGrid? m q p).getD (firstGrid tries m q (p - 1))

/-- The shortest decimal of the positive value `m · 2 ^ q`. -/
def shortest (m : Nat) (q : Int) : Decimal :=
  let value := scale m 2 q
  firstGrid 17 m q (magnitude value.1 value.2)

/-- The significant digits of a decimal and the exponent of the first one. -/
def scientific (d : Decimal) : List Char × Int :=
  let all := Text.Numeral.ofNat d.digits
  let kept := (all.reverse.dropWhile (· == '0')).reverse
  (kept, d.exponent + all.length - 1)

/-- How a floating-point number is laid out. -/
structure FloatStyle where
  /-- The least exponent of a first digit that is still written positionally. -/
  leastPositional : Int
  /-- The first exponent that is too large to be written positionally. -/
  firstScientific : Int
  /-- The least number of digits in a written exponent. -/
  exponentDigits : Nat

def padLeft (width : Nat) (cs : List Char) : List Char :=
  List.replicate (width - cs.length) '0' ++ cs

/-- Digits with the point after the first `n`, filled with zeros and with at
least one digit after the point. -/
def pointAfter (ds : List Char) (n : Nat) : List Char :=
  let whole := ds.take n ++ List.replicate (n - ds.length) '0'
  let rest := ds.drop n
  whole ++ '.' :: (if rest.isEmpty then ['0'] else rest)

/-- Significant digits whose first one has the given exponent, in a style. -/
def FloatStyle.layout (style : FloatStyle) (ds : List Char) (exponent : Int) : List Char :=
  if style.leastPositional ≤ exponent ∧ exponent < style.firstScientific then
    match exponent with
    | .ofNat e => pointAfter ds (e + 1)
    | .negSucc e => '0' :: '.' :: (List.replicate e '0' ++ ds)
  else
    let lead := match ds with
      | [] => []
      | [d] => [d]
      | d :: rest => d :: '.' :: rest
    let sign := if exponent < 0 then '-' else '+'
    lead ++ 'e' :: sign :: padLeft style.exponentDigits (Text.Numeral.ofNat exponent.natAbs)

def FloatStyle.write (style : FloatStyle) : Binary64 → List Char
  | .nan => ['n', 'a', 'n']
  | .infinite true => ['-', 'i', 'n', 'f']
  | .infinite false => ['i', 'n', 'f']
  | .finite negative m q =>
      let body :=
        if m = 0 then ['0', '.', '0']
        else
          let s := (shortest m q).scientific
          style.layout s.1 s.2
      if negative then '-' :: body else body

end Decimal

end BundleConfig
