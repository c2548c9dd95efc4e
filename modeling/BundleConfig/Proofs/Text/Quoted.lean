/-
# `Proofs.Text.Quoted` — quoted texts are printable

Whatever a text holds, every character of it in quotes is printable
(`isPrintable_quote`).  So a diagnostic that quotes it stays on one line, and
has no escape character in it (`not_mem_of_isPrintable`).
-/
import BundleConfig.Proofs.Json.Ascii
import BundleConfig.Text.Quoted

namespace BundleConfig.Text

/-! ## Printable characters -/

/-- What is printable ASCII is printable. -/
theorem isPrintable_of_printable {c : Char} (h : Json.IsPrintable c) : isPrintable c = true := by
  obtain ⟨hlow, hhigh⟩ := h
  exact (isPrintable_of_ascii (by omega)).2 ⟨hlow, hhigh⟩

/-- Printable characters have none among them that is not: no line break, and
no escape character. -/
theorem not_mem_of_isPrintable {cs : List Char} (h : ∀ c ∈ cs, isPrintable c = true) {c : Char}
    (hc : isPrintable c = false) : c ∉ cs := by
  intro hmem
  rw [h c hmem] at hc
  cases hc

/-! ## Quoted texts -/

theorem isPrintable_quoteMark (cs : List Char) : isPrintable (quoteMark cs) = true := by
  unfold quoteMark
  split
  · decide
  · decide

theorem isPrintable_numericEscape (n : Nat) : ∀ c ∈ numericEscape n, isPrintable c = true := by
  have hmarked {mark : Char} (hmark : Json.IsPrintable mark) (width : Nat) :
      ∀ c ∈ '\x5c' :: mark :: Hex.digits width n, isPrintable c = true := by
    intro c hc
    rcases List.mem_cons.1 hc with rfl | hc
    · decide
    · rcases List.mem_cons.1 hc with rfl | hc
      · exact isPrintable_of_printable hmark
      · exact isPrintable_of_printable (Json.printable_digits c hc)
  unfold numericEscape
  split
  · exact hmarked (by decide) 2
  · split
    · exact hmarked (by decide) 4
    · exact hmarked (by decide) 8

/-- A character is written between quotes with printable ones. -/
theorem isPrintable_escapeChar {mark : Char} (hmark : isPrintable mark = true) (c : Char) :
    ∀ d ∈ escapeChar mark c, isPrintable d = true := by
  have hpair {e : Char} (he : isPrintable e = true) : ∀ d ∈ ['\x5c', e], isPrintable d = true := by
    intro d hd
    rcases List.mem_cons.1 hd with rfl | hd
    · decide
    · rw [List.mem_singleton.1 hd]
      exact he
  unfold escapeChar
  split
  · next h =>
    rcases h with rfl | rfl
    · exact hpair hmark
    · exact hpair (by decide)
  · split
    · exact hpair (by decide)
    · split
      · exact hpair (by decide)
      · split
        · exact hpair (by decide)
        · split
          · next h => exact List.forall_mem_singleton.2 h
          · exact isPrintable_numericEscape c.toNat

theorem isPrintable_quoteChars (cs : List Char) : ∀ c ∈ quoteChars cs, isPrintable c = true := by
  have hmark := isPrintable_quoteMark cs
  intro c hc
  rcases List.mem_cons.1 hc with rfl | hc
  · exact hmark
  · rcases List.mem_append.1 hc with hc | hc
    · obtain ⟨d, -, hd⟩ := List.mem_flatMap.1 hc
      exact isPrintable_escapeChar hmark d c hd
    · rw [List.mem_singleton.1 hc]
      exact hmark

theorem isPrintable_quote (s : String) : ∀ c ∈ (quote s).toList, isPrintable c = true := by
  rw [quote, String.toList_ofList]
  exact isPrintable_quoteChars s.toList

end BundleConfig.Text
