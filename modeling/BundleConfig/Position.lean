/-
# `Position` — items of a list by an index that may be negative

An index that is not negative counts from the first item, beginning with
zero; a negative one counts from the end, so that `-1` means the last
item.  An index on either side of the list means nothing.
-/

namespace BundleConfig

/-- The position that an index means in a list of some size. -/
def position? (size : Nat) (index : Int) : Option Nat :=
  let i := if index < 0 then index + size else index
  if 0 ≤ i ∧ i < size then some i.toNat else none

def itemAt? {α : Type} (items : List α) (index : Int) : Option α :=
  (position? items.length index).bind fun i => items[i]?

/-- From the front, an index means the position with its number. -/
theorem position?_ofNat (size i : Nat) :
    position? size i = if i < size then some i else none := by
  have hfront : ¬ (i : Int) < 0 := by omega
  simp [position?, hfront]

/-- From the front, an index is a position. -/
theorem itemAt?_ofNat {α : Type} (items : List α) (i : Nat) : itemAt? items i = items[i]? := by
  rw [itemAt?, position?_ofNat]
  by_cases h : i < items.length
  · rw [if_pos h, Option.bind_some]
  · rw [if_neg h, Option.bind_none, List.getElem?_eq_none (Nat.le_of_not_lt h)]

end BundleConfig
