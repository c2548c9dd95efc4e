/-
# `Proofs.Text.Unquoted` — quoted texts are read back

A text in quotes is read from its opening mark on: the mark says which
character closes it, a backslash says that an escape follows, and everything
else stands for itself (`unquote?`).

    written for        read back from
    mark, backslash    the character behind a backslash
    \n, \r, \t         the letter behind a backslash
    not printable      the digits behind `x`, `u` or `U`: two, four or eight
    anything else      itself

Each of these is undone on its own, whatever follows it (`body?_escapeChar`).
So the whole text is read back, and what stands behind it is left
(`unquote?_quote`): two quoted texts are one only if the texts are, even
with more text behind them.
-/
import BundleConfig.Proofs.Json.Text
import BundleConfig.Text.Quoted

namespace BundleConfig.Text

open Json.Reader (push toNat_off_halves)

/-! ## Reading a quoted text -/

/-- The character that an escape's digits stand for. -/
def numbered? (ds : List Char) : Option Char := (Hex.value? ds).map Char.ofNat

/-- The rest of a text up to its closing mark, and what follows. -/
def body? (mark : Char) : List Char → Option (List Char × List Char)
  | [] => none
  | '\x5c' :: 'n' :: rest => push (some '\n') (body? mark rest)
  | '\x5c' :: 'r' :: rest => push (some '\r') (body? mark rest)
  | '\x5c' :: 't' :: rest => push (some '\t') (body? mark rest)
  | '\x5c' :: 'x' :: a :: b :: rest => push (numbered? [a, b]) (body? mark rest)
  | '\x5c' :: 'u' :: a :: b :: c :: d :: rest => push (numbered? [a, b, c, d]) (body? mark rest)
  | '\x5c' :: 'U' :: a :: b :: c :: d :: e :: f :: g :: h :: rest =>
      push (numbered? [a, b, c, d, e, f, g, h]) (body? mark rest)
  | '\x5c' :: c :: rest => push (some c) (body? mark rest)
  | c :: rest => if c = mark then some ([], rest) else push (some c) (body? mark rest)

/-- A quoted text and what follows. -/
def unquote? : List Char → Option (List Char × List Char)
  | '\x27' :: rest => body? '\x27' rest
  | '\x22' :: rest => body? '\x22' rest
  | _ => none

/-! ## One character -/

theorem numbered?_of_value? {ds : List Char} {c : Char} (h : Hex.value? ds = some c.toNat) :
    numbered? ds = some c := by
  rw [numbered?, h, Option.map_some, Char.ofNat_toNat]

/-- An escape by number is read with the digits its mark asks for: two, -/
theorem body?_two (mark a b : Char) (rest : List Char) :
    body? mark ('\x5c' :: 'x' :: a :: b :: rest) = push (numbered? [a, b]) (body? mark rest) := rfl

/-- four -/
theorem body?_four (mark a b c d : Char) (rest : List Char) :
    body? mark ('\x5c' :: 'u' :: a :: b :: c :: d :: rest)
      = push (numbered? [a, b, c, d]) (body? mark rest) := rfl

/-- or eight. -/
theorem body?_eight (mark a b c d e f g h : Char) (rest : List Char) :
    body? mark ('\x5c' :: 'U' :: a :: b :: c :: d :: e :: f :: g :: h :: rest)
      = push (numbered? [a, b, c, d, e, f, g, h]) (body? mark rest) := rfl

/-- The shortest escape that fits a character is wide enough to be read back. -/
theorem body?_numericEscape (mark c : Char) (rest : List Char) :
    body? mark (numericEscape c.toNat ++ rest) = push (some c) (body? mark rest) := by
  have hoff := toNat_off_halves c
  unfold numericEscape
  split
  · next h =>
    have hread := numbered?_of_value? (Hex.value?_digits_two h)
    simp only [Hex.digits, List.nil_append, List.cons_append] at hread ⊢
    rw [body?_two, hread]
  · split
    · next h =>
      have hread := numbered?_of_value? (Hex.value?_digits_four h)
      simp only [Hex.digits, List.nil_append, List.cons_append] at hread ⊢
      rw [body?_four, hread]
    · have hread := numbered?_of_value? (c := c) (Hex.value?_digits_eight (by omega))
      simp only [Hex.digits, List.nil_append, List.cons_append] at hread ⊢
      rw [body?_eight, hread]

theorem body?_cons {mark c : Char} (hmark : c ≠ mark) (hbackslash : c ≠ '\x5c')
    (rest : List Char) : body? mark (c :: rest) = push (some c) (body? mark rest) := by
  rw [body?.eq_def]
  split <;> simp_all

/-- The characters that a text is quoted in. -/
def IsMark (c : Char) : Prop := c = '\x27' ∨ c = '\x22'

theorem isMark_quoteMark (cs : List Char) : IsMark (quoteMark cs) := by
  unfold quoteMark
  split
  · exact .inr rfl
  · exact .inl rfl

variable {mark : Char}

theorem body?_mark (hmark : IsMark mark) (rest : List Char) :
    body? mark (mark :: rest) = some ([], rest) := by
  rcases hmark with rfl | rfl
  · rfl
  · rfl

/-- What is written for a character is read as that character. -/
theorem body?_escapeChar (hmark : IsMark mark) (c : Char) (rest : List Char) :
    body? mark (escapeChar mark c ++ rest) = push (some c) (body? mark rest) := by
  unfold escapeChar
  split
  · next h =>
    rcases h with rfl | rfl
    · rcases hmark with rfl | rfl
      · rfl
      · rfl
    · rfl
  · next hplain =>
    split
    · next h => subst h; rfl
    split
    · next h => subst h; rfl
    split
    · next h => subst h; rfl
    split
    · exact body?_cons (fun h => hplain (.inl h)) (fun h => hplain (.inr h)) rest
    · exact body?_numericEscape mark c rest

/-! ## Whole texts -/

/-- What is written for a text, up to its closing mark, is read as that text. -/
theorem body?_escaped (hmark : IsMark mark) (cs rest : List Char) :
    body? mark (cs.flatMap (escapeChar mark) ++ mark :: rest) = some (cs, rest) := by
  induction cs with
  | nil => exact body?_mark hmark rest
  | cons c cs ih =>
    rw [List.flatMap_cons, List.append_assoc, body?_escapeChar hmark, ih]
    rfl

theorem unquote?_cons (hmark : IsMark mark) (rest : List Char) :
    unquote? (mark :: rest) = body? mark rest := by
  rcases hmark with rfl | rfl
  · rfl
  · rfl

/-- A quoted text is read back, and what stands behind it is left. -/
theorem unquote?_quote (s : String) (rest : List Char) :
    unquote? ((quote s).toList ++ rest) = some (s.toList, rest) := by
  have hmark := isMark_quoteMark s.toList
  rw [quote, String.toList_ofList, quoteChars, List.cons_append, unquote?_cons hmark,
    List.append_assoc, List.singleton_append, body?_escaped hmark]

theorem quote_inj {s t : String} (h : quote s = quote t) : s = t := by
  have hs := unquote?_quote s []
  rw [h, unquote?_quote t []] at hs
  exact String.toList_inj.1 (congrArg Prod.fst (Option.some.inj hs)).symm

end BundleConfig.Text
