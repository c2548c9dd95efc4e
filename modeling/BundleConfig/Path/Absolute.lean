/-
# `Path.Absolute` — absolute paths, with `..` cancelled

Making a path absolute takes it from a base directory unless it has a root
of its own, and lets each `..` cancel the component before it; at the root
there is nothing to cancel and `..` is dropped.  This is a lexical
operation: links are not followed, directories need not exist.
-/
import BundleConfig.Path.Basic

namespace BundleConfig

/-- A path that starts at a root. -/
structure AbsolutePath where
  path : Path
  isAbsolute : path.isAbsolute = true
deriving DecidableEq

namespace Path

/-- One component on top of the stack of those before it, innermost first. -/
def push (stack : List String) (part : String) : List String :=
  if part = ".." then stack.tail else part :: stack

/-- The components that are left when each `..` has cancelled the one before it. -/
def collapse (parts : List String) : List String := (parts.foldl push []).reverse

theorem mem_push {stack : List String} {part x : String} (h : x ∈ push stack part) :
    x ∈ stack ∨ x = part := by
  unfold push at h
  split at h
  · exact .inl (List.mem_of_mem_tail h)
  · exact (List.mem_cons.1 h).symm

theorem mem_foldl_push {parts stack : List String} {x : String}
    (h : x ∈ parts.foldl push stack) : x ∈ stack ∨ x ∈ parts := by
  induction parts generalizing stack with
  | nil => exact .inl h
  | cons p ps ih =>
    rcases ih h with h | h
    · exact (mem_push h).imp_right fun e => by simp [e]
    · exact .inr (List.mem_cons_of_mem _ h)

/-- Cancelling adds no component. -/
theorem mem_collapse {parts : List String} {x : String} (h : x ∈ collapse parts) : x ∈ parts :=
  (mem_foldl_push (List.mem_reverse.1 h)).resolve_left List.not_mem_nil

end Path

namespace AbsolutePath

/-- The absolute path of a text, if the text starts at a root. -/
def ofText? (s : String) : Option AbsolutePath :=
  if h : (Path.ofText s).isAbsolute = true then some ⟨Path.ofText s, h⟩ else none

def text (p : AbsolutePath) : String := p.path.text

/-- The components from the root to a path taken from a base directory. -/
def partsFrom (base : AbsolutePath) (p : Path) : List String :=
  if p.anchor = .relative then base.path.parts ++ p.parts else p.parts

/-- The anchor of a path taken from a base directory. -/
def anchorFrom (base : AbsolutePath) (p : Path) : Anchor :=
  if p.anchor = .relative then base.path.anchor else p.anchor

theorem isComponent_of_mem_partsFrom {base : AbsolutePath} {p : Path} {x : String}
    (h : x ∈ base.partsFrom p) : isComponent x = true := by
  unfold partsFrom at h
  split at h
  · rcases List.mem_append.1 h with h | h
    · exact base.path.parts_ok x h
    · exact p.parts_ok x h
  · exact p.parts_ok x h

theorem anchorFrom_ne_relative (base : AbsolutePath) (p : Path) :
    base.anchorFrom p ≠ .relative := by
  unfold anchorFrom
  split
  · exact bne_iff_ne.1 base.isAbsolute
  · assumption

/-- A path taken from a base directory, with every `..` cancelled. -/
def resolve (base : AbsolutePath) (p : Path) : AbsolutePath where
  path := {
    anchor := base.anchorFrom p
    parts := Path.collapse (base.partsFrom p)
    parts_ok := fun _ h => isComponent_of_mem_partsFrom (Path.mem_collapse h) }
  isAbsolute := bne_iff_ne.2 (base.anchorFrom_ne_relative p)

end AbsolutePath

end BundleConfig
