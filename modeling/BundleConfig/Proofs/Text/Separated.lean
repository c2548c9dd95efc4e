/-
# `Proofs.Text.Separated` — texts cut at a separator

`cut` takes a text apart at the occurrences of a separator, looked for from
the left.  Two things determine what it gives (`cut_eq_iff`):

    joined by the separator, the pieces are the text
    no piece has the separator in it

A separator starts with a character that does not come again in it, as a
space in front of a word.  So two occurrences never share a character, and
none lies across the end of a text and the separator behind it
(`not_prefix_append`).  Texts that are joined by the separator are therefore
cut each for itself (`cut_intercalate`), whatever they hold.
-/

namespace BundleConfig.Text

/-- A text to separate others by, whose first character does not come again in it. -/
structure Separator where
  head : Char
  tail : List Char
  apart : head ∉ tail

namespace Separator

variable (sep : Separator)

def chars : List Char := sep.head :: sep.tail

/-- The pieces of a text between the occurrences of the separator. -/
def cut : List Char → List (List Char)
  | [] => [[]]
  | c :: cs =>
    if sep.chars.isPrefixOf (c :: cs) then [] :: cut (cs.drop sep.tail.length)
    else (cut cs).modifyHead (c :: ·)
termination_by cs => cs.length
decreasing_by
  · rw [List.length_drop, List.length_cons]
    omega
  · exact Nat.lt_succ_self _

/-! ## One step -/

theorem cut_nil : sep.cut [] = [[]] := by rw [cut]

theorem cut_chars_append (cs : List Char) : sep.cut (sep.chars ++ cs) = [] :: sep.cut cs := by
  have h : sep.chars.isPrefixOf (sep.head :: (sep.tail ++ cs)) = true :=
    List.isPrefixOf_iff_prefix.2 (List.prefix_append sep.chars cs)
  have hcut : sep.cut (sep.head :: (sep.tail ++ cs)) = [] :: sep.cut cs := by
    rw [cut, if_pos h, List.drop_left]
  exact hcut

variable {sep} in
theorem cut_cons {c : Char} {cs : List Char} (h : ¬ sep.chars <+: c :: cs) :
    sep.cut (c :: cs) = (sep.cut cs).modifyHead (c :: ·) := by
  rw [cut, if_neg (mt List.isPrefixOf_iff_prefix.1 h)]

/-- A text is gone through as it is cut: behind a separator, or else behind
one character. -/
@[elab_as_elim]
theorem cut_induction {motive : List Char → Prop} (nil : motive [])
    (separator : ∀ cs, motive cs → motive (sep.chars ++ cs))
    (char : ∀ c cs, ¬ sep.chars <+: c :: cs → motive cs → motive (c :: cs)) :
    ∀ cs, motive cs
  | [] => nil
  | c :: cs => by
    by_cases h : sep.chars <+: c :: cs
    · obtain ⟨rest, hrest⟩ := h
      have hshorter : rest.length < (c :: cs).length := by
        rw [← hrest, chars, List.length_append, List.length_cons]
        omega
      rw [← hrest]
      exact separator rest (cut_induction nil separator char rest)
    · exact char c cs h (cut_induction nil separator char cs)
termination_by cs => cs.length
decreasing_by
  · exact hshorter
  · exact Nat.lt_succ_self _

theorem cut_ne_nil (cs : List Char) : sep.cut cs ≠ [] := by
  induction cs using sep.cut_induction with
  | nil =>
    rw [cut_nil]
    exact List.cons_ne_nil _ _
  | separator cs _ =>
    rw [cut_chars_append]
    exact List.cons_ne_nil _ _
  | char c cs h ih =>
    rw [cut_cons h]
    exact mt List.modifyHead_eq_nil_iff.1 ih

/-! ## Cutting and joining -/

/-- The pieces of a text, joined, are the text. -/
theorem intercalate_cut (cs : List Char) : sep.chars.intercalate (sep.cut cs) = cs := by
  induction cs using sep.cut_induction with
  | nil => rw [cut_nil, List.intercalate_singleton]
  | separator cs ih =>
    rw [cut_chars_append, List.intercalate_cons_of_ne_nil (sep.cut_ne_nil cs), ih, List.nil_append]
  | char c cs h ih =>
    rw [cut_cons h]
    obtain ⟨p, ps, hps⟩ := List.exists_cons_of_ne_nil (sep.cut_ne_nil cs)
    rw [hps] at ih ⊢
    rw [List.modifyHead_cons, ← ih]
    cases ps with
    | nil => rw [List.intercalate_singleton, List.intercalate_singleton]
    | cons q qs => simp only [List.intercalate_cons_cons, List.cons_append]

variable {sep}

/-- The first piece of a text is where the text starts. -/
theorem prefix_of_cut_eq_cons {cs p : List Char} {ps : List (List Char)}
    (h : sep.cut cs = p :: ps) : p <+: cs := by
  rw [← sep.intercalate_cut cs, h]
  cases ps with
  | nil => exact ⟨[], by rw [List.append_nil, List.intercalate_singleton]⟩
  | cons q qs =>
    rw [List.intercalate_cons_cons, List.append_assoc]
    exact List.prefix_append _ _

/-- No piece has the separator in it. -/
theorem not_infix_of_mem_cut {cs piece : List Char} (h : piece ∈ sep.cut cs) :
    ¬ sep.chars <:+: piece := by
  have hnil : ¬ sep.chars <:+: [] := fun h => List.cons_ne_nil _ _ (List.infix_nil.1 h)
  induction cs using sep.cut_induction generalizing piece with
  | nil =>
    rw [cut_nil, List.mem_singleton] at h
    rw [h]
    exact hnil
  | separator cs ih =>
    rw [cut_chars_append] at h
    rcases List.mem_cons.1 h with rfl | h
    · exact hnil
    · exact ih h
  | char c cs hc ih =>
    obtain ⟨p, ps, hps⟩ := List.exists_cons_of_ne_nil (sep.cut_ne_nil cs)
    rw [cut_cons hc, hps, List.modifyHead_cons] at h
    rw [hps] at ih
    rcases List.mem_cons.1 h with rfl | h
    · rw [List.infix_cons_iff]
      rintro (hfront | hinfix)
      · have hp : p <+: cs := prefix_of_cut_eq_cons hps
        exact hc (hfront.trans (List.cons_prefix_cons.2 ⟨rfl, hp⟩))
      · exact ih List.mem_cons_self hinfix
    · exact ih (List.mem_cons_of_mem _ h)

/-- A text without the separator in it is one piece. -/
theorem cut_of_not_infix {cs : List Char} (h : ¬ sep.chars <:+: cs) : sep.cut cs = [cs] := by
  induction cs with
  | nil => exact sep.cut_nil
  | cons c cs ih =>
    rw [List.infix_cons_iff, not_or] at h
    rw [cut_cons h.1, ih h.2, List.modifyHead_cons]

/-- The separator does not start at a character of a text that a separator
follows, unless all of it is in the text. -/
theorem not_prefix_append {c : Char} {cs : List Char} (h : ¬ sep.chars <+: c :: cs)
    (rest : List Char) : ¬ sep.chars <+: c :: (cs ++ (sep.chars ++ rest)) := by
  intro hfront
  obtain ⟨rfl, htail⟩ := List.cons_prefix_cons.1 hfront
  obtain ⟨behind, hbehind⟩ := htail
  rcases List.append_eq_append_iff.1 hbehind with ⟨more, hcs, -⟩ | ⟨more, htail, hmore⟩
  · exact h (List.cons_prefix_cons.2 ⟨rfl, more, hcs.symm⟩)
  · cases more with
    | nil =>
      rw [List.append_nil] at htail
      exact h (List.cons_prefix_cons.2 ⟨rfl, [], (List.append_nil _).trans htail⟩)
    | cons d more =>
      -- the tail of the one occurrence would hold the head of the other
      have hd : sep.head = d := (List.cons.inj hmore).1
      refine sep.apart ?_
      rw [htail, hd]
      exact List.mem_append_right _ List.mem_cons_self

/-- A text and what follows it behind a separator are cut each for itself. -/
theorem cut_append (cs rest : List Char) :
    sep.cut (cs ++ (sep.chars ++ rest)) = sep.cut cs ++ sep.cut rest := by
  induction cs using sep.cut_induction with
  | nil => rw [List.nil_append, cut_chars_append, cut_nil, List.singleton_append]
  | separator cs ih =>
    rw [List.append_assoc, cut_chars_append, ih, cut_chars_append, List.cons_append]
  | char c cs h ih =>
    obtain ⟨p, ps, hps⟩ := List.exists_cons_of_ne_nil (sep.cut_ne_nil cs)
    rw [List.cons_append, cut_cons (not_prefix_append h rest), ih, cut_cons h, hps,
      List.cons_append, List.modifyHead_cons, List.modifyHead_cons, List.cons_append]

/-- Joined texts are cut each for itself. -/
theorem cut_intercalate (sep : Separator) {texts : List (List Char)} (h : texts ≠ []) :
    sep.cut (sep.chars.intercalate texts) = texts.flatMap sep.cut := by
  induction texts with
  | nil => exact absurd rfl h
  | cons t ts ih =>
    cases ts with
    | nil => rw [List.intercalate_singleton, List.flatMap_singleton]
    | cons u us =>
      rw [List.intercalate_cons_cons, List.append_assoc, cut_append, ih (List.cons_ne_nil _ _)]
      rfl

/-- Texts that are one piece each are their own pieces. -/
theorem flatMap_cut_of_not_infix {texts : List (List Char)}
    (h : ∀ t ∈ texts, ¬ sep.chars <:+: t) : texts.flatMap sep.cut = texts := by
  induction texts with
  | nil => rfl
  | cons t ts ih =>
    rw [List.flatMap_cons, cut_of_not_infix (h t List.mem_cons_self),
      ih fun u hu => h u (List.mem_cons_of_mem _ hu), List.singleton_append]

/-- What the pieces of a text are, without cutting it. -/
theorem cut_eq_iff {cs : List Char} {pieces : List (List Char)} :
    sep.cut cs = pieces ↔
      sep.chars.intercalate pieces = cs ∧ pieces ≠ [] ∧ ∀ p ∈ pieces, ¬ sep.chars <:+: p := by
  constructor
  · rintro rfl
    exact ⟨sep.intercalate_cut cs, sep.cut_ne_nil cs, fun p => not_infix_of_mem_cut⟩
  · rintro ⟨rfl, hne, hpieces⟩
    rw [sep.cut_intercalate hne, flatMap_cut_of_not_infix hpieces]

end Separator

end BundleConfig.Text
