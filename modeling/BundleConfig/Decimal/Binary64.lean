/-
# `Decimal.Binary64` — floating-point numbers as exact values

A 64-bit floating-point number taken apart: a finite one is a sign, a
mantissa and a power of two, and its value is `± mantissa · 2 ^ exponent`
exactly.  Everything that is asked of a floating-point number here (is it
whole, is it zero, how is it written) is answered from these parts in
exact arithmetic.
-/

namespace BundleConfig

/-- A floating-point number: `± mantissa · 2 ^ exponent`, an infinity, or no number. -/
inductive Binary64
  | finite (negative : Bool) (mantissa : Nat) (exponent : Int)
  | infinite (negative : Bool)
  | nan
deriving DecidableEq

namespace Binary64

/-- The parts of the 64-bit pattern: one sign bit, eleven of exponent, the rest fraction. -/
def ofBits (bits : UInt64) : Binary64 :=
  let n : Nat := bits.toNat
  let negative := decide (Nat.pow 2 63 ≤ n)
  let exponent : Nat := n / Nat.pow 2 52 % Nat.pow 2 11
  let fraction : Nat := n % Nat.pow 2 52
  if exponent = 2047 then (if fraction = 0 then .infinite negative else .nan)
  else if exponent = 0 then .finite negative fraction (-1074)
  else .finite negative (fraction + Nat.pow 2 52) (exponent - 1075)

def signed (negative : Bool) (n : Nat) : Int := if negative then -n else n

/-- The value, if it is a whole number. -/
def whole? : Binary64 → Option Int
  | .finite negative mantissa (.ofNat e) => some (signed negative (mantissa * Nat.pow 2 e))
  | .finite negative mantissa (.negSucc e) =>
      let divisor := Nat.pow 2 (e + 1)
      if mantissa % divisor = 0 then some (signed negative (mantissa / divisor)) else none
  | .infinite _ => none
  | .nan => none

/-- Whether the number is neither infinite nor undefined. -/
def isFinite : Binary64 → Bool
  | .finite .. => true
  | .infinite _ => false
  | .nan => false

end Binary64

end BundleConfig
