/-
# `Proofs.Json.Text` — escaped texts are read back

Each character of a text is written on its own (`escapeChar`), in one of four
ways, and each way is undone by the reader before it goes on:

    as it is            a printable ASCII character
    a short escape      quote, backslash, and five control characters
    one unit            any other character below `0x10000`
    two units           a character beyond, as its surrogate pair

Nothing else is needed of what follows, so that a whole text is read back by
induction on its characters (`text?_escaped`).
-/
import BundleConfig.Json.Printer
import BundleConfig.Json.Reader

namespace BundleConfig.Json

/-! ## Units -/

namespace Reader

theorem unitEscape_eq (n : Nat) : ∃ a b c d, Text.Hex.digits 4 n = [a, b, c, d] ∧
    unitEscape n = ['\x5c', 'u', a, b, c, d] :=
  ⟨_, _, _, _, rfl, rfl⟩

/-- Four digits are read as the character of their unit or, if that is half of
a pair, as that of the pair it makes with the unit behind it. -/
theorem text?_unit {a b c d : Char} {n : Nat} (hvalue : Text.Hex.value? [a, b, c, d] = some n) :
    (∀ ch rest, unit? n = some ch →
      text? ('\x5c' :: 'u' :: a :: b :: c :: d :: rest) = push (some ch) (text? rest)) ∧
    ∀ e f g h rest, unit? n = none →
      text? ('\x5c' :: 'u' :: a :: b :: c :: d :: '\x5c' :: 'u' :: e :: f :: g :: h :: rest)
        = push ((Text.Hex.value? [e, f, g, h]).bind (pair? n)) (text? rest) := by
  constructor
  · intro ch rest hch
    simp only [text?, hvalue, hch]
  · intro e f g h rest hhalf
    simp only [text?, hvalue, hhalf]

/-- A unit that is no half of a pair is read as its character. -/
theorem text?_unitEscape {n : Nat} {ch : Char} (hn : n < 0x10000) (hch : unit? n = some ch)
    (rest : List Char) : text? (unitEscape n ++ rest) = push (some ch) (text? rest) := by
  obtain ⟨a, b, c, d, hdigits, hunit⟩ := unitEscape_eq n
  have hvalue := Text.Hex.value?_digits_four hn
  rw [hdigits] at hvalue
  rw [hunit]
  exact (text?_unit hvalue).1 ch rest hch

/-- Two units that are a pair are read as the one character they stand for. -/
theorem text?_unitEscape_pair {high low : Nat} (hhigh : high < 0x10000) (hlow : low < 0x10000)
    (hhalf : unit? high = none) (rest : List Char) :
    text? (unitEscape high ++ (unitEscape low ++ rest)) = push (pair? high low) (text? rest) := by
  obtain ⟨a, b, c, d, hdigits, hunit⟩ := unitEscape_eq high
  obtain ⟨a', b', c', d', hdigits', hunit'⟩ := unitEscape_eq low
  have hvalue := Text.Hex.value?_digits_four hhigh
  have hvalue' := Text.Hex.value?_digits_four hlow
  rw [hdigits] at hvalue
  rw [hdigits'] at hvalue'
  have hread := (text?_unit hvalue).2 a' b' c' d' rest hhalf
  rw [hvalue', Option.bind_some] at hread
  rw [hunit, hunit']
  exact hread

/-! ## Characters -/

theorem toNat_off_halves (c : Char) :
    c.toNat < 0xd800 ∨ 0xdfff < c.toNat ∧ c.toNat < 0x110000 := c.valid

/-- A character is no half of a pair. -/
theorem unit?_toNat (c : Char) : unit? c.toNat = some c := by
  have hoff := toNat_off_halves c
  rw [unit?, if_neg (by omega), Char.ofNat_toNat]

/-- The two units of a character beyond the 16-bit range are its pair. -/
theorem pair?_units {c : Char} (h : 0x10000 ≤ c.toNat) :
    pair? (0xd800 + (c.toNat - 0x10000) / 0x400) (0xdc00 + (c.toNat - 0x10000) % 0x400)
      = some c := by
  have hoff := toNat_off_halves c
  have hsum : 0x10000 + (0xd800 + (c.toNat - 0x10000) / 0x400 - 0xd800) * 0x400
      + (0xdc00 + (c.toNat - 0x10000) % 0x400 - 0xdc00) = c.toNat := by omega
  rw [pair?, if_pos (by omega), hsum, Char.ofNat_toNat]

theorem text?_numericEscape (c : Char) (rest : List Char) :
    text? (numericEscape c.toNat ++ rest) = push (some c) (text? rest) := by
  unfold numericEscape
  split
  · next h => exact text?_unitEscape h (unit?_toNat c) rest
  · next h =>
    have hbeyond : 0x10000 ≤ c.toNat := Nat.le_of_not_lt h
    have hoff := toNat_off_halves c
    have hhalf : unit? (0xd800 + (c.toNat - 0x10000) / 0x400) = none := by
      rw [unit?, if_pos (by omega)]
    rw [List.append_assoc, text?_unitEscape_pair (by omega) (by omega) hhalf, pair?_units hbeyond]

/-- A character that is neither the quote nor the backslash, and no control
character, stands for itself. -/
theorem text?_cons {c : Char} (hquote : c ≠ '\x22') (hbackslash : c ≠ '\x5c') (hc : 0x20 ≤ c.toNat)
    (rest : List Char) : text? (c :: rest) = push (some c) (text? rest) := by
  have hplain : plain? c = some c := by rw [plain?, if_neg (Nat.not_lt.2 hc)]
  rw [text?.eq_def]
  split <;> simp_all

/-- What is written for a character is read as that character. -/
theorem text?_escapeChar (c : Char) (rest : List Char) :
    text? (escapeChar c ++ rest) = push (some c) (text? rest) := by
  unfold escapeChar
  split
  · next h => rcases h with rfl | rfl <;> rfl
  · next hquote =>
    split
    · next h => subst h; rfl
    split
    · next h => subst h; rfl
    split
    · next h => subst h; rfl
    split
    · next h => subst h; rfl
    split
    · next h => subst h; rfl
    split
    · next h => exact text?_cons (fun h => hquote (.inl h)) (fun h => hquote (.inr h)) h.1 rest
    · exact text?_numericEscape c rest

/-- What is written for a text, up to its closing quote, is read as that text. -/
theorem text?_escaped (cs rest : List Char) :
    text? (cs.flatMap escapeChar ++ '\x22' :: rest) = some (cs, rest) := by
  induction cs with
  | nil => rfl
  | cons c cs ih => rw [List.flatMap_cons, List.append_assoc, text?_escapeChar, ih]; rfl

end Reader

end BundleConfig.Json
