/-
# `Text.ControlSequence` — text without the codes that steer a terminal

A control sequence is an escape character, an opening bracket, any number
of parameters, and an ASCII letter:

    ESC [ 3 1 m        ESC [ ? 2 5 l        ESC [ H

Where no terminal reads what is printed, the sequences are dropped
(`plain`).  One pass is made: what comes together where a sequence was
dropped is not looked at again.  A text without escape characters stays
as it is (`plain_of_not_mem`).
-/
import BundleConfig.Text.Numeral

namespace BundleConfig.Text

/-- The character that starts a control sequence. -/
def controlStart : Char := '\x1b'

/-- The characters between the bracket of a control sequence and its letter. -/
def isParameter (c : Char) : Bool := Numeral.isDigit c || c == ';' || c == '?'

/-- What follows the letter of a control sequence, from its parameters on. -/
def behindParameters? : List Char → Option (List Char)
  | [] => none
  | c :: cs =>
    if isParameter c then behindParameters? cs
    else if c.isAlpha then some cs
    else none

/-- What follows a control sequence, if the text starts with one. -/
def behindSequence? : List Char → Option (List Char)
  | c :: '[' :: cs => if c = controlStart then behindParameters? cs else none
  | _ => none

theorem length_of_behindParameters? {cs rest : List Char}
    (h : behindParameters? cs = some rest) : rest.length < cs.length := by
  induction cs with
  | nil => simp [behindParameters?] at h
  | cons c cs ih =>
    unfold behindParameters? at h
    split at h
    · exact Nat.lt_succ_of_lt (ih h)
    · split at h
      · cases h
        exact Nat.lt_succ_self _
      · cases h

theorem length_of_behindSequence? {cs rest : List Char}
    (h : behindSequence? cs = some rest) : rest.length < cs.length := by
  unfold behindSequence? at h
  split at h
  · split at h
    · have := length_of_behindParameters? h
      simp only [List.length_cons]
      omega
    · cases h
  · cases h

/-- The text without its control sequences. -/
def plain : List Char → List Char
  | [] => []
  | c :: cs =>
    match _h : behindSequence? (c :: cs) with
    | some rest => plain rest
    | none => c :: plain cs
termination_by cs => cs.length
decreasing_by
  · exact length_of_behindSequence? _h
  · exact Nat.lt_succ_self _

theorem behindSequence?_of_ne {c : Char} {cs : List Char} (h : c ≠ controlStart) :
    behindSequence? (c :: cs) = none := by
  unfold behindSequence?
  split
  · rename_i e
    cases e
    simp [h]
  · rfl

/-- A control sequence is dropped, and what is behind it is looked at. -/
theorem plain_of_sequence {cs rest : List Char} (h : behindSequence? cs = some rest) :
    plain cs = plain rest := by
  cases cs with
  | nil => cases h
  | cons c cs =>
    rw [plain]
    split
    · next other hother =>
      rw [h] at hother
      cases hother
      rfl
    · next hnone =>
      rw [h] at hnone
      cases hnone

/-- In front of the first escape character nothing is dropped. -/
theorem plain_append_of_not_mem {cs : List Char} (h : controlStart ∉ cs) (rest : List Char) :
    plain (cs ++ rest) = cs ++ plain rest := by
  induction cs with
  | nil => rfl
  | cons c cs ih =>
    have hc : c ≠ controlStart := by
      rintro rfl
      exact h List.mem_cons_self
    have hcs : controlStart ∉ cs := fun e => h (List.mem_cons_of_mem _ e)
    rw [List.cons_append, plain]
    split
    · next e =>
      rw [behindSequence?_of_ne hc] at e
      cases e
    · rw [ih hcs]
      rfl

/-- A text without escape characters has no control sequences. -/
theorem plain_of_not_mem {cs : List Char} (h : controlStart ∉ cs) : plain cs = cs := by
  have hnil : plain [] = [] := by rw [plain]
  have happend := plain_append_of_not_mem h []
  rwa [hnil, List.append_nil] at happend

end BundleConfig.Text
