/-
# `Proofs.Json.RoundTrip` — written documents are read back

For every layout, every document `j`, and every text of blanks behind it:

    parse? (render layout j) = some j

so that a text is the writing of one document at most (`write_inj`).

Documents, the items of a list and the members of an object are read back by
one induction (`value?_write`, `items?_writeItems`, `members?_writeMembers`),
each in front of any text that may follow there.  What may follow a document
must not go on with a number (`Ends`); what follows one in a list or an object
is a comma, a bracket or a line break and never does.

The reader counts its calls down from a number that depends on the length of
the text.  Every call that is nested in another is made behind a character of
its own, so the length of what was written is enough.
-/
import BundleConfig.Proofs.Json.Text
import BundleConfig.Proofs.Text.Numeral

namespace BundleConfig.Json.Reader

open Text.Numeral (isDigit ofNat)

/-! ## Numbers -/

/-- A character that no number goes on with. -/
def EndsNumber (c : Char) : Prop := isDigit c = false ∧ c ≠ '.' ∧ c ≠ 'e' ∧ c ≠ 'E'

instance (c : Char) : Decidable (EndsNumber c) := inferInstanceAs (Decidable (_ ∧ _))

/-- No number that stands in front of the text goes on into it. -/
def Ends (rest : List Char) : Prop := ∀ c ∈ rest.head?, EndsNumber c

theorem ends_cons {c : Char} (h : EndsNumber c) (rest : List Char) : Ends (c :: rest) := by
  intro d hd
  cases hd
  exact h

/-- A number has no zero in front of another digit. -/
theorem ofNat_ne_zero_cons (n : Nat) (d : Char) (ds : List Char) : ofNat n ≠ '0' :: d :: ds := by
  induction n using Nat.strongRecOn generalizing d ds with
  | ind n ih =>
    intro h
    by_cases hsmall : n < 10
    · rw [ofNat, Nat.toDigits_of_lt_base hsmall] at h
      exact List.cons_ne_nil d ds (List.cons.inj h).2.symm
    · have hlast : ofNat n = ofNat (n / 10) ++ [(n % 10).digitChar] :=
        Nat.toDigits_of_base_le (by decide) (Nat.le_of_not_lt hsmall)
      rw [hlast] at h
      -- the zero is in front of the digits of `n / 10`, which is not zero
      match hdigits : ofNat (n / 10) with
      | [] => exact Nat.toDigits_ne_nil hdigits
      | c :: c' :: cs =>
        rw [hdigits] at h
        cases h
        exact ih (n / 10) (by omega) _ _ hdigits
      | [c] =>
        rw [hdigits] at h
        cases h
        have hvalue := Text.Numeral.value_ofNat (n / 10)
        rw [hdigits] at hvalue
        have hzero : Text.Numeral.value ['0'] = 0 := rfl
        omega

/-- A number is read back in front of what does not go on with it. -/
theorem nat?_ofNat (n : Nat) {rest : List Char} (hrest : Ends rest) :
    nat? (ofNat n ++ rest) = some (n, rest) := by
  have hdigits : ∀ c ∈ ofNat n, isDigit c = true := fun c => Text.Numeral.isDigit_of_mem_ofNat
  have hstop : rest.takeWhile isDigit = [] ∧ rest.dropWhile isDigit = rest := by
    cases rest with
    | nil => exact ⟨rfl, rfl⟩
    | cons c cs =>
      have hc : isDigit c = false := (hrest c rfl).1
      exact ⟨List.takeWhile_cons_of_neg (Bool.eq_false_iff.1 hc),
        List.dropWhile_cons_of_neg (Bool.eq_false_iff.1 hc)⟩
  have htake : (ofNat n ++ rest).takeWhile isDigit = ofNat n := by
    rw [List.takeWhile_append_of_pos hdigits, hstop.1, List.append_nil]
  have hdrop : (ofNat n ++ rest).dropWhile isDigit = rest := by
    rw [List.dropWhile_append_of_pos hdigits, hstop.2]
  simp only [nat?, htake, hdrop]
  split
  · next h => exact absurd h Nat.toDigits_ne_nil
  · next h => exact absurd h (ofNat_ne_zero_cons n _ _)
  · exact absurd rfl (hrest _ rfl).2.1
  · exact absurd rfl (hrest _ rfl).2.2.1
  · exact absurd rfl (hrest _ rfl).2.2.2
  · rw [Text.Numeral.value_ofNat]

/-! ## Blanks -/

theorem skip_append {bs : List Char} (h : ∀ c ∈ bs, isBlank c = true) (cs : List Char) :
    skip (bs ++ cs) = skip cs := List.dropWhile_append_of_pos h

theorem skip_cons {c : Char} (h : isBlank c = false) (cs : List Char) : skip (c :: cs) = c :: cs :=
  List.dropWhile_cons_of_neg (Bool.eq_false_iff.1 h)

theorem isBlank_of_mem_break (layout : Layout) (depth : Nat) :
    ∀ c ∈ layout.break depth, isBlank c = true := by
  intro c hc
  rcases Layout.mem_break hc with rfl | rfl
  · rfl
  · rfl

theorem isBlank_of_mem_gap (layout : Layout) (depth : Nat) :
    ∀ c ∈ layout.gap depth, isBlank c = true := by
  intro c hc
  rcases Layout.mem_gap hc with rfl | rfl
  · rfl
  · rfl

/-- Blanks in front of a document are passed over, and so they are in front of
an item, a member, and what closes them. -/
theorem value?_append {bs : List Char} (h : ∀ c ∈ bs, isBlank c = true) (fuel : Nat)
    (cs : List Char) : value? fuel (bs ++ cs) = value? fuel cs := by
  cases fuel with
  | zero => rfl
  | succ fuel => simp only [value?, skip_append h]

theorem member?_append {bs : List Char} (h : ∀ c ∈ bs, isBlank c = true) (fuel : Nat)
    (cs : List Char) : member? fuel (bs ++ cs) = member? fuel cs := by
  cases fuel with
  | zero => rfl
  | succ fuel => simp only [member?, skip_append h]

/-! ## One document in front of what follows -/

/-- What a written document starts with: no blank, and nothing that closes a
list or an object. -/
def Opens (c : Char) : Prop := isBlank c = false ∧ c ≠ ']' ∧ c ≠ '\x7d'

instance (c : Char) : Decidable (Opens c) := inferInstanceAs (Decidable (_ ∧ _))

theorem opens_of_isDigit {c : Char} (h : isDigit c = true) : Opens c := by
  have hne {d : Char} (hd : isDigit d = false) : c ≠ d := Text.Numeral.ne_of_isDigit h hd
  refine ⟨?_, hne rfl, hne rfl⟩
  simp [isBlank, hne (d := ' ') rfl, hne (d := '\n') rfl, hne (d := '\r') rfl, hne (d := '\t') rfl]

theorem write_opens (layout : Layout) (depth : Nat) (j : Json) :
    ∃ c cs, write layout depth j = c :: cs ∧ Opens c := by
  match j with
  | .null => exact ⟨_, _, rfl, by decide⟩
  | .bool true => exact ⟨_, _, rfl, by decide⟩
  | .bool false => exact ⟨_, _, rfl, by decide⟩
  | .int (.ofNat n) =>
    obtain ⟨c, cs, hcs⟩ := List.exists_cons_of_ne_nil (Nat.toDigits_ne_nil (n := n) (b := 10))
    refine ⟨c, cs, hcs, opens_of_isDigit (Text.Numeral.isDigit_of_mem_ofNat (n := n) ?_)⟩
    rw [ofNat, hcs]
    exact List.mem_cons_self
  | .int (.negSucc n) => exact ⟨_, _, rfl, by decide⟩
  | .text s => exact ⟨_, _, rfl, by decide⟩
  | .list [] => exact ⟨_, _, rfl, by decide⟩
  | .list (x :: xs) => exact ⟨_, _, by rw [write], by decide⟩
  | .object [] => exact ⟨_, _, rfl, by decide⟩
  | .object ((k, v) :: ms) => exact ⟨_, _, by rw [write], by decide⟩

theorem writeText_opens (k : String) (rest : List Char) :
    ∃ c cs, writeText k ++ rest = c :: cs ∧ Opens c :=
  ⟨_, _, rfl, by decide⟩

/-- A document that starts with a digit is a number. -/
theorem value?_of_isDigit {c : Char} (h : isDigit c = true) (fuel : Nat) (cs : List Char) :
    value? (fuel + 1) (c :: cs) = (nat? (c :: cs)).map fun p => (.int (Int.ofNat p.1), p.2) := by
  have hne {d : Char} (hd : isDigit d = false) : c ≠ d := Text.Numeral.ne_of_isDigit h hd
  rw [value?, skip_cons (opens_of_isDigit h).1]
  split
  · next heq => exact absurd (List.cons.inj heq).1 (hne rfl)
  · next heq => exact absurd (List.cons.inj heq).1 (hne rfl)
  · next heq => exact absurd (List.cons.inj heq).1 (hne rfl)
  · next heq => exact absurd (List.cons.inj heq).1 (hne rfl)
  · next heq => exact absurd (List.cons.inj heq).1 (hne rfl)
  · next heq => exact absurd (List.cons.inj heq).1 (hne rfl)
  · next heq => exact absurd (List.cons.inj heq).1 (hne rfl)
  · rfl

/-- An integer is read back in front of what does not go on with it. -/
theorem value?_ofInt (n : Int) (fuel : Nat) {rest : List Char} (hrest : Ends rest) :
    value? (fuel + 1) (Text.Numeral.ofInt n ++ rest) = some (.int n, rest) := by
  cases n with
  | ofNat n =>
    have hread := nat?_ofNat n hrest
    obtain ⟨c, cs, hcs⟩ := List.exists_cons_of_ne_nil (Nat.toDigits_ne_nil (n := n) (b := 10))
    have hn : ofNat n = c :: cs := hcs
    have hc : isDigit c = true := by
      refine Text.Numeral.isDigit_of_mem_ofNat (n := n) ?_
      rw [hn]
      exact List.mem_cons_self
    rw [hn] at hread
    rw [Text.Numeral.ofInt, hn, List.cons_append, value?_of_isDigit hc, ← List.cons_append, hread]
    rfl
  | negSucc n =>
    have hread := nat?_ofNat (n + 1) hrest
    have hskip : skip ('-' :: (ofNat (n + 1) ++ rest)) = '-' :: (ofNat (n + 1) ++ rest) :=
      skip_cons rfl _
    simp only [Text.Numeral.ofInt, List.cons_append, value?, hskip, hread]
    rfl

/-- A text is read back. -/
theorem value?_writeText (s : String) (fuel : Nat) (rest : List Char) :
    value? (fuel + 1) (writeText s ++ rest) = some (.text s, rest) := by
  have hskip : skip (writeText s ++ rest) = '\x22' :: (s.toList.flatMap escapeChar ++ '\x22' :: rest) := by
    rw [writeText, List.cons_append, List.append_assoc]
    exact skip_cons rfl _
  simp only [value?, hskip, text?_escaped, Option.map_some, String.ofList_toList]

/-! ## Lists and objects, given their parts -/

/-- A list that is not empty: its first item, and the items behind it. -/
theorem value?_list {body after rest : List Char} {x : Json} {xs : List Json} {fuel : Nat}
    {bs : List Char} (hbs : ∀ c ∈ bs, isBlank c = true) (hbody : ∃ c cs, body = c :: cs ∧ Opens c)
    (hx : value? fuel body = some (x, after)) (hxs : items? fuel after = some (xs, rest)) :
    value? (fuel + 1) ('[' :: (bs ++ body)) = some (.list (x :: xs), rest) := by
  obtain ⟨c, cs, rfl, hblank, hclose, -⟩ := hbody
  have hskip : skip (bs ++ c :: cs) = c :: cs := by rw [skip_append hbs, skip_cons hblank]
  have hbracket : skip ('[' :: (bs ++ c :: cs)) = '[' :: (bs ++ c :: cs) := skip_cons rfl _
  simp only [value?, hbracket, hskip]
  split
  · next heq => exact absurd (List.cons.inj heq).1 hclose
  · simp only [hx, hxs, Option.map_some]

/-- An object that is not empty: its first member, and the members behind it. -/
theorem value?_object {body after rest : List Char} {m : String × Json}
    {ms : List (String × Json)} {fuel : Nat} {bs : List Char} (hbs : ∀ c ∈ bs, isBlank c = true)
    (hbody : ∃ c cs, body = c :: cs ∧ Opens c) (hm : member? fuel body = some (m, after))
    (hms : members? fuel after = some (ms, rest)) :
    value? (fuel + 1) ('\x7b' :: (bs ++ body)) = some (.object (m :: ms), rest) := by
  obtain ⟨c, cs, rfl, hblank, -, hclose⟩ := hbody
  have hskip : skip (bs ++ c :: cs) = c :: cs := by rw [skip_append hbs, skip_cons hblank]
  have hbrace : skip ('\x7b' :: (bs ++ c :: cs)) = '\x7b' :: (bs ++ c :: cs) := skip_cons rfl _
  simp only [value?, hbrace, hskip]
  split
  · next heq => exact absurd (List.cons.inj heq).1 hclose
  · simp only [hm, hms, Option.map_some]

/-- A member: its name, and the document behind the colon. -/
theorem member?_written {k : String} {body rest : List Char} {v : Json} {fuel : Nat}
    (hv : value? fuel body = some (v, rest)) :
    member? (fuel + 1) (writeText k ++ ':' :: ' ' :: body) = some ((k, v), rest) := by
  have hquote : skip (writeText k ++ ':' :: ' ' :: body)
      = '\x22' :: (k.toList.flatMap escapeChar ++ '\x22' :: ':' :: ' ' :: body) := by
    rw [writeText, List.cons_append, List.append_assoc]
    exact skip_cons rfl _
  have hcolon : skip (':' :: ' ' :: body) = ':' :: ' ' :: body := skip_cons rfl _
  have hblank : value? fuel (' ' :: body) = some (v, rest) := by
    rw [← hv]
    have hspace : ∀ c ∈ [' '], isBlank c = true := List.forall_mem_singleton.2 rfl
    exact value?_append hspace fuel body
  simp only [member?, hquote, text?_escaped, hcolon, hblank, Option.map_some, String.ofList_toList]

/-- An item behind a comma, and the items behind it. -/
theorem items?_cons {body after rest : List Char} {x : Json} {xs : List Json} {fuel : Nat}
    {bs : List Char} (hbs : ∀ c ∈ bs, isBlank c = true) (hx : value? fuel body = some (x, after))
    (hxs : items? fuel after = some (xs, rest)) :
    items? (fuel + 1) (',' :: (bs ++ body)) = some (x :: xs, rest) := by
  have hcomma : skip (',' :: (bs ++ body)) = ',' :: (bs ++ body) := skip_cons rfl _
  simp only [items?, hcomma, value?_append hbs, hx, hxs, Option.map_some]

/-- A member behind a comma, and the members behind it. -/
theorem members?_cons {body after rest : List Char} {m : String × Json}
    {ms : List (String × Json)} {fuel : Nat} {bs : List Char} (hbs : ∀ c ∈ bs, isBlank c = true)
    (hm : member? fuel body = some (m, after)) (hms : members? fuel after = some (ms, rest)) :
    members? (fuel + 1) (',' :: (bs ++ body)) = some (m :: ms, rest) := by
  have hcomma : skip (',' :: (bs ++ body)) = ',' :: (bs ++ body) := skip_cons rfl _
  simp only [members?, hcomma, member?_append hbs, hm, hms, Option.map_some]

/-! ## What ends a document in a list or an object -/

theorem ends_break (layout : Layout) (depth : Nat) {c : Char} (h : EndsNumber c)
    (rest : List Char) : Ends (layout.break depth ++ c :: rest) := by
  cases layout with
  | oneLine => exact ends_cons h rest
  | indented width => exact ends_cons (by decide) _

theorem ends_items (layout : Layout) (depth outer : Nat) (xs : List Json) (rest : List Char) :
    Ends (writeItems layout depth xs ++ (layout.break outer ++ ']' :: rest)) := by
  cases xs with
  | nil => exact ends_break layout outer (by decide) rest
  | cons x xs =>
    rw [writeItems]
    exact ends_cons (by decide) _

theorem ends_members (layout : Layout) (depth outer : Nat) (ms : List (String × Json))
    (rest : List Char) :
    Ends (writeMembers layout depth ms ++ (layout.break outer ++ '\x7d' :: rest)) := by
  cases ms with
  | nil => exact ends_break layout outer (by decide) rest
  | cons m ms =>
    rw [writeMembers]
    exact ends_cons (by decide) _

/-! ## Documents of any depth -/

theorem length_write_pos (layout : Layout) (depth : Nat) (j : Json) :
    0 < (write layout depth j).length := by
  obtain ⟨c, cs, hcs, -⟩ := write_opens layout depth j
  rw [hcs]
  exact Nat.succ_pos _

mutual

/-- A written document is read back, in front of anything that ends it. -/
theorem value?_write (layout : Layout) (depth : Nat) (j : Json) (fuel : Nat) (rest : List Char)
    (hfuel : (write layout depth j).length ≤ fuel) (hrest : Ends rest) :
    value? fuel (write layout depth j ++ rest) = some (j, rest) := by
  obtain ⟨fuel, rfl⟩ : ∃ n, fuel = n + 1 :=
    Nat.exists_eq_add_one.2 (Nat.lt_of_lt_of_le (length_write_pos layout depth j) hfuel)
  match j with
  | .null => rfl
  | .bool true => rfl
  | .bool false => rfl
  | .int n => exact value?_ofInt n fuel hrest
  | .text s => exact value?_writeText s fuel rest
  | .list [] => rfl
  | .list (x :: xs) =>
    simp only [write, List.length_cons, List.length_append] at hfuel
    have hx := value?_write layout (depth + 1) x fuel _ (by omega)
      (ends_items layout (depth + 1) depth xs rest)
    have hxs := items?_writeItems layout (depth + 1) depth xs fuel rest (by omega)
    obtain ⟨c, cs, hcs, hopens⟩ := write_opens layout (depth + 1) x
    have hlist := value?_list (isBlank_of_mem_break layout (depth + 1))
      ⟨c, _, by rw [hcs]; rfl, hopens⟩ hx hxs
    simpa only [write, List.cons_append, List.append_assoc, List.nil_append] using hlist
  | .object [] => rfl
  | .object ((k, v) :: ms) =>
    simp only [write, List.length_cons, List.length_append] at hfuel
    -- one more call is made for the member that holds the document
    obtain ⟨fuel, rfl⟩ : ∃ n, fuel = n + 1 := Nat.exists_eq_add_one.2 (by omega)
    have hv := value?_write layout (depth + 1) v fuel _ (by omega)
      (ends_members layout (depth + 1) depth ms rest)
    have hms := members?_writeMembers layout (depth + 1) depth ms (fuel + 1) rest (by omega)
    have hobject := value?_object (isBlank_of_mem_break layout (depth + 1)) (writeText_opens k _)
      (member?_written hv) hms
    simpa only [write, List.cons_append, List.append_assoc, List.nil_append] using hobject

/-- The items after the first are read back, up to the bracket. -/
theorem items?_writeItems (layout : Layout) (depth outer : Nat) (xs : List Json) (fuel : Nat)
    (rest : List Char) (hfuel : (writeItems layout depth xs).length < fuel) :
    items? fuel (writeItems layout depth xs ++ (layout.break outer ++ ']' :: rest))
      = some (xs, rest) := by
  obtain ⟨fuel, rfl⟩ : ∃ n, fuel = n + 1 := Nat.exists_eq_add_one.2 (Nat.zero_lt_of_lt hfuel)
  match xs with
  | [] =>
    have hskip : skip (layout.break outer ++ ']' :: rest) = ']' :: rest := by
      rw [skip_append (isBlank_of_mem_break layout outer), skip_cons rfl]
    simp only [writeItems, List.nil_append, items?, hskip]
  | x :: xs =>
    simp only [writeItems, List.length_cons, List.length_append] at hfuel
    have hx := value?_write layout depth x fuel _ (by omega) (ends_items layout depth outer xs rest)
    have hxs := items?_writeItems layout depth outer xs fuel rest (by omega)
    have hitems := items?_cons (isBlank_of_mem_gap layout depth) hx hxs
    simpa only [writeItems, List.cons_append, List.append_assoc] using hitems

/-- The members after the first are read back, up to the brace. -/
theorem members?_writeMembers (layout : Layout) (depth outer : Nat) (ms : List (String × Json))
    (fuel : Nat) (rest : List Char) (hfuel : (writeMembers layout depth ms).length < fuel) :
    members? fuel (writeMembers layout depth ms ++ (layout.break outer ++ '\x7d' :: rest))
      = some (ms, rest) := by
  obtain ⟨fuel, rfl⟩ : ∃ n, fuel = n + 1 := Nat.exists_eq_add_one.2 (Nat.zero_lt_of_lt hfuel)
  match ms with
  | [] =>
    have hskip : skip (layout.break outer ++ '\x7d' :: rest) = '\x7d' :: rest := by
      rw [skip_append (isBlank_of_mem_break layout outer), skip_cons rfl]
    simp only [writeMembers, List.nil_append, members?, hskip]
  | (k, v) :: ms =>
    simp only [writeMembers, List.length_cons, List.length_append] at hfuel
    obtain ⟨fuel, rfl⟩ : ∃ n, fuel = n + 1 := Nat.exists_eq_add_one.2 (by omega)
    have hv := value?_write layout depth v fuel _ (by omega)
      (ends_members layout depth outer ms rest)
    have hms := members?_writeMembers layout depth outer ms (fuel + 1) rest (by omega)
    have hmembers := members?_cons (isBlank_of_mem_gap layout depth) (member?_written (k := k) hv) hms
    simpa only [writeMembers, List.cons_append, List.append_assoc] using hmembers

end

end BundleConfig.Json.Reader

namespace BundleConfig.Json

/-- **Documents are read back** from what is written of them, also with blanks
behind. -/
theorem parse?_write (layout : Layout) (j : Json) {bs : List Char}
    (hbs : ∀ c ∈ bs, Reader.isBlank c = true) :
    parse? (String.ofList (write layout 0 j ++ bs)) = some j := by
  have hends : Reader.Ends bs := by
    intro c hc
    have hblank := hbs c (List.mem_of_mem_head? hc)
    rcases (by simpa [Reader.isBlank] using hblank : ((c = ' ' ∨ c = '\n') ∨ c = '\r') ∨ c = '\t')
      with ((rfl | rfl) | rfl) | rfl <;> decide
  have hread := Reader.value?_write layout 0 j (2 * (write layout 0 j ++ bs).length + 1) bs
    (by rw [List.length_append]; omega) hends
  have hskip : Reader.skip bs = [] := by
    rw [← List.append_nil bs, Reader.skip_append hbs]
    rfl
  simp only [parse?, String.toList_ofList, hread, hskip, List.isEmpty_nil, if_true]

/-- Two documents with the same text are the same. -/
theorem write_inj {layout : Layout} {j j' : Json} (h : write layout 0 j = write layout 0 j') :
    j = j' := by
  have hread (i : Json) : parse? (String.ofList (write layout 0 i ++ [])) = some i :=
    parse?_write layout i (by simp)
  have hj := hread j
  rw [h, hread j'] at hj
  exact (Option.some.inj hj).symm

end BundleConfig.Json
