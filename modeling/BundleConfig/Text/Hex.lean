/-
# `Text.Hex` — hexadecimal digits

Fixed-width lower-case hexadecimal, as the escapes of quoted text and of
JSON text use it, and its reading.  `digitValue_digit` says that reading a
written digit gives the number back, and `value?_digits` the same of as many
digits as the number has, or more.
-/

namespace BundleConfig.Text.Hex

/-- The lower-case digit of a number below sixteen. -/
def digit (n : Nat) : Char := Char.ofNat (if n < 10 then 48 + n else 87 + n)

/-- The number a hexadecimal digit of either case stands for. -/
def digitValue (c : Char) : Option Nat :=
  if 48 ≤ c.toNat ∧ c.toNat ≤ 57 then some (c.toNat - 48)
  else if 97 ≤ c.toNat ∧ c.toNat ≤ 102 then some (c.toNat - 87)
  else if 65 ≤ c.toNat ∧ c.toNat ≤ 70 then some (c.toNat - 55)
  else none

/-- The last `width` digits of a number, most significant first. -/
def digits : Nat → Nat → List Char
  | 0, _ => []
  | width + 1, n => digits width (n / 16) ++ [digit (n % 16)]

/-- The number that a list of digits stands for, refused if one is no digit. -/
def value? (cs : List Char) : Option Nat :=
  cs.foldl (fun acc c => acc.bind fun n => (digitValue c).map (16 * n + ·)) (some 0)

theorem digitValue_digit : ∀ n < 16, digitValue (digit n) = some n := by decide

theorem length_digits : ∀ width n : Nat, (digits width n).length = width
  | 0, _ => rfl
  | width + 1, n => by simp [digits, length_digits width (n / 16)]

/-- Reading digits one wider gives the number back if those of a sixteenth of
it are read back. -/
theorem value?_digits_succ {width n : Nat} (h : value? (digits width (n / 16)) = some (n / 16)) :
    value? (digits (width + 1) n) = some n := by
  have hlast : digitValue (digit (n % 16)) = some (n % 16) :=
    digitValue_digit (n % 16) (Nat.mod_lt n (by decide))
  rw [value?] at h
  rw [digits, value?, List.foldl_append, h]
  simp only [List.foldl_cons, List.foldl_nil, Option.bind_some, hlast, Option.map_some,
    Nat.div_add_mod]

/-- What is left of a number in front of its last digits. -/
def leading : Nat → Nat → Nat
  | 0, n => n
  | width + 1, n => leading width (n / 16)

/-- Digits that leave nothing of a number are read back. -/
theorem value?_digits : ∀ {width n : Nat}, leading width n = 0 →
    value? (digits width n) = some n
  | 0, _, h => by
    rw [leading] at h
    rw [h]
    rfl
  | _ + 1, _, h => value?_digits_succ (value?_digits h)

/-- Two digits are wide enough for a number of eight bits. -/
theorem value?_digits_two {n : Nat} (h : n < 0x100) : value? (digits 2 n) = some n := by
  have hnone : n / 16 / 16 = 0 := by omega
  exact value?_digits hnone

/-- Four digits are wide enough for a number of sixteen bits. -/
theorem value?_digits_four {n : Nat} (h : n < 0x10000) : value? (digits 4 n) = some n := by
  have hnone : n / 16 / 16 / 16 / 16 = 0 := by omega
  exact value?_digits hnone

/-- Eight digits are wide enough for a number of thirty-two bits. -/
theorem value?_digits_eight {n : Nat} (h : n < 0x100000000) : value? (digits 8 n) = some n := by
  have hnone : n / 16 / 16 / 16 / 16 / 16 / 16 / 16 / 16 = 0 := by omega
  exact value?_digits hnone

end BundleConfig.Text.Hex
