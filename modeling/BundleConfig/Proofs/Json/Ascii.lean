/-
# `Proofs.Json.Ascii` — written documents are ASCII

Whatever texts a document holds, what is written of it are printable ASCII
characters and line breaks (`isAscii_write`).  The line breaks are
those of the layout: a document does not end in one (`write_closes`), and
inside a text there is none, as every character of a text that is not
printable ASCII is escaped.

No escape character is among them, so that nothing is lost where control
sequences are dropped (`plain_of_isAscii`).
-/
import BundleConfig.Json.Printer
import BundleConfig.Proofs.Text.Numeral
import BundleConfig.Text.ControlSequence

namespace BundleConfig.Json

/-- A printable ASCII character. -/
def IsPrintable (c : Char) : Prop := 0x20 ≤ c.toNat ∧ c.toNat ≤ 0x7e

instance (c : Char) : Decidable (IsPrintable c) := inferInstanceAs (Decidable (_ ∧ _))

/-- A printable ASCII character, or a line break. -/
def IsAscii (c : Char) : Prop := c = '\n' ∨ IsPrintable c

instance (c : Char) : Decidable (IsAscii c) := inferInstanceAs (Decidable (_ ∨ _))

/-! ## Texts and numbers -/

theorem printable_digits {width n : Nat} : ∀ c ∈ Text.Hex.digits width n, IsPrintable c := by
  have hdigit : ∀ k < 16, IsPrintable (Text.Hex.digit k) := by decide
  induction width generalizing n with
  | zero =>
    intro c hc
    cases hc
  | succ width ih =>
    intro c hc
    rw [Text.Hex.digits, List.mem_append, List.mem_singleton] at hc
    rcases hc with hc | rfl
    · exact ih c hc
    · exact hdigit _ (Nat.mod_lt n (by decide))

theorem printable_unitEscape {n : Nat} : ∀ c ∈ unitEscape n, IsPrintable c := by
  intro c hc
  rcases List.mem_cons.1 hc with rfl | hc
  · decide
  rcases List.mem_cons.1 hc with rfl | hc
  · decide
  exact printable_digits c hc

theorem printable_numericEscape {n : Nat} : ∀ c ∈ numericEscape n, IsPrintable c := by
  intro c hc
  unfold numericEscape at hc
  split at hc
  · exact printable_unitEscape c hc
  · rcases List.mem_append.1 hc with hc | hc
    · exact printable_unitEscape c hc
    · exact printable_unitEscape c hc

theorem printable_escapeChar (c : Char) : ∀ d ∈ escapeChar c, IsPrintable d := by
  intro d hd
  have hshort {e : Char} (he : IsPrintable e) (hd : d ∈ ['\x5c', e]) : IsPrintable d := by
    rcases List.mem_cons.1 hd with rfl | hd
    · decide
    · rw [List.mem_singleton.1 hd]
      exact he
  unfold escapeChar at hd
  split at hd
  · next h => exact hshort (by rcases h with rfl | rfl <;> decide) hd
  split at hd
  · exact hshort (by decide) hd
  split at hd
  · exact hshort (by decide) hd
  split at hd
  · exact hshort (by decide) hd
  split at hd
  · exact hshort (by decide) hd
  split at hd
  · exact hshort (by decide) hd
  split at hd
  · next h =>
    rw [List.mem_singleton.1 hd]
    exact h
  · exact printable_numericEscape d hd

theorem printable_writeText (s : String) : ∀ c ∈ writeText s, IsPrintable c := by
  intro c hc
  rcases List.mem_cons.1 hc with rfl | hc
  · decide
  rcases List.mem_append.1 hc with hc | hc
  · obtain ⟨d, -, hd⟩ := List.mem_flatMap.1 hc
    exact printable_escapeChar d c hd
  · rw [List.mem_singleton.1 hc]
    decide

theorem printable_ofInt (n : Int) : ∀ c ∈ Text.Numeral.ofInt n, IsPrintable c := by
  have hnat (k : Nat) : ∀ c ∈ Text.Numeral.ofNat k, IsPrintable c := by
    intro c hc
    have hbounds := Text.Numeral.isDigit_bounds (Text.Numeral.isDigit_of_mem_ofNat hc)
    exact ⟨by omega, by omega⟩
  cases n with
  | ofNat k => exact hnat k
  | negSucc k =>
    intro c hc
    rcases List.mem_cons.1 hc with rfl | hc
    · decide
    · exact hnat (k + 1) c hc

/-! ## Documents -/

/-- Characters that are there to be looked at, one by one. -/
theorem isAscii_all {cs : List Char} (h : cs.all (fun c => decide (IsAscii c)) = true) :
    ∀ c ∈ cs, IsAscii c := by
  intro c hc
  exact of_decide_eq_true (List.all_eq_true.1 h c hc)

theorem isAscii_break (layout : Layout) (depth : Nat) : ∀ c ∈ layout.break depth, IsAscii c := by
  intro c hc
  rcases Layout.mem_break hc with rfl | rfl
  · exact .inl rfl
  · exact .inr (by decide)

theorem isAscii_gap (layout : Layout) (depth : Nat) : ∀ c ∈ layout.gap depth, IsAscii c := by
  intro c hc
  rcases Layout.mem_gap hc with rfl | rfl
  · exact .inl rfl
  · exact .inr (by decide)

theorem isAscii_writeText (s : String) : ∀ c ∈ writeText s, IsAscii c :=
  fun c hc => .inr (printable_writeText s c hc)

mutual

theorem isAscii_write (layout : Layout) (depth : Nat) (j : Json) :
    ∀ c ∈ write layout depth j, IsAscii c := by
  match j with
  | .null => exact isAscii_all rfl
  | .bool true => exact isAscii_all rfl
  | .bool false => exact isAscii_all rfl
  | .int n => exact fun c hc => .inr (printable_ofInt n c hc)
  | .text s => exact isAscii_writeText s
  | .list [] => exact isAscii_all rfl
  | .list (x :: xs) =>
    have hx := isAscii_write layout (depth + 1) x
    have hxs := isAscii_writeItems layout (depth + 1) xs
    simp only [write, List.forall_mem_cons, List.forall_mem_append]
    exact ⟨by decide, ⟨⟨⟨isAscii_break layout _, hx⟩, hxs⟩, isAscii_break layout _⟩,
      by decide, List.forall_mem_nil _⟩
  | .object [] => exact isAscii_all rfl
  | .object ((k, v) :: ms) =>
    have hv := isAscii_write layout (depth + 1) v
    have hms := isAscii_writeMembers layout (depth + 1) ms
    simp only [write, List.forall_mem_cons, List.forall_mem_append]
    exact ⟨by decide, ⟨⟨⟨⟨isAscii_break layout _, isAscii_writeText k⟩, by decide, by decide, hv⟩,
      hms⟩, isAscii_break layout _⟩, by decide, List.forall_mem_nil _⟩

theorem isAscii_writeItems (layout : Layout) (depth : Nat) (xs : List Json) :
    ∀ c ∈ writeItems layout depth xs, IsAscii c := by
  match xs with
  | [] => exact isAscii_all rfl
  | x :: xs =>
    have hx := isAscii_write layout depth x
    have hxs := isAscii_writeItems layout depth xs
    simp only [writeItems, List.forall_mem_cons, List.forall_mem_append]
    exact ⟨by decide, ⟨isAscii_gap layout depth, hx⟩, hxs⟩

theorem isAscii_writeMembers (layout : Layout) (depth : Nat) (ms : List (String × Json)) :
    ∀ c ∈ writeMembers layout depth ms, IsAscii c := by
  match ms with
  | [] => exact isAscii_all rfl
  | (k, v) :: ms =>
    have hv := isAscii_write layout depth v
    have hms := isAscii_writeMembers layout depth ms
    simp only [writeMembers, List.forall_mem_cons, List.forall_mem_append]
    exact ⟨by decide, ⟨⟨isAscii_gap layout depth, isAscii_writeText k⟩, by decide, by decide, hv⟩,
      hms⟩

end

/-! ## What that leaves out -/

/-- A document does not end in a line break. -/
theorem write_closes (layout : Layout) (depth : Nat) (j : Json) :
    ∃ cs c, write layout depth j = cs ++ [c] ∧ IsPrintable c := by
  have hprintable {t : List Char} (hne : t ≠ []) (ht : ∀ c ∈ t, IsPrintable c) :
      ∃ cs c, t = cs ++ [c] ∧ IsPrintable c := by
    refine ⟨t.dropLast, t.getLast hne, (List.dropLast_concat_getLast hne).symm, ?_⟩
    exact ht _ (List.getLast_mem hne)
  match j with
  | .null => exact ⟨['n', 'u', 'l'], 'l', rfl, by decide⟩
  | .bool true => exact ⟨['t', 'r', 'u'], 'e', rfl, by decide⟩
  | .bool false => exact ⟨['f', 'a', 'l', 's'], 'e', rfl, by decide⟩
  | .int n =>
    refine hprintable ?_ (printable_ofInt n)
    cases n with
    | ofNat k => exact Nat.toDigits_ne_nil
    | negSucc k => exact List.cons_ne_nil _ _
  | .text s => exact hprintable (List.cons_ne_nil _ _) (printable_writeText s)
  | .list [] => exact ⟨['['], ']', rfl, by decide⟩
  | .list (x :: xs) => exact ⟨_ :: _, ']', by rw [write]; rfl, by decide⟩
  | .object [] => exact ⟨['\x7b'], '\x7d', rfl, by decide⟩
  | .object ((k, v) :: ms) => exact ⟨_ :: _, '\x7d', by rw [write]; rfl, by decide⟩

/-- Without an escape character there are no control sequences to lose. -/
theorem plain_of_isAscii {cs : List Char} (h : ∀ c ∈ cs, IsAscii c) : Text.plain cs = cs := by
  refine Text.plain_of_not_mem fun hmem => ?_
  have hascii : IsAscii Text.controlStart := h _ hmem
  exact absurd hascii (by decide)

end BundleConfig.Json
