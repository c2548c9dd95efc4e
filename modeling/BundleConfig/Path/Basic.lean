/-
# `Path` — file paths in lexical normal form

A path is an anchor and a list of components.  The anchor says how the
written path starts: with no slash, with one, or with exactly two (three
or more count as one).  Empty components and `.` are dropped as a path is
read, so repeated and trailing slashes disappear; `..` stays, because what
it cancels depends on where the path leads.  The path with no anchor and
no component is written `.`.

No file system is consulted: two texts are the same path when they have
the same anchor and the same components.
-/

namespace BundleConfig

/-- How a path starts: not at a root, at the root, or at the doubled root. -/
inductive Anchor
  | relative
  | root
  | doubleRoot
deriving DecidableEq

namespace Anchor

def text : Anchor → List Char
  | .relative => []
  | .root => ['/']
  | .doubleRoot => ['/', '/']

/-- The anchor of a written path. -/
def ofChars : List Char → Anchor
  | '/' :: '/' :: '/' :: _ => .root
  | '/' :: '/' :: _ => .doubleRoot
  | '/' :: _ => .root
  | _ => .relative

end Anchor

/-- The pieces of a text between its slashes. -/
def splitSlash : List Char → List (List Char)
  | [] => [[]]
  | c :: cs =>
      if c = '/' then [] :: splitSlash cs
      else
        match splitSlash cs with
        | [] => [[c]]
        | p :: ps => (c :: p) :: ps

/-- Texts with a slash between each and the next. -/
def joinSlash : List String → List Char
  | [] => []
  | [s] => s.toList
  | s :: t :: rest => s.toList ++ '/' :: joinSlash (t :: rest)

/-- Whether a text may be a component: not empty, not `.`, and without a slash. -/
def isComponent (s : String) : Bool := s != "" && s != "." && !s.toList.contains '/'

/-- A path in lexical normal form. -/
structure Path where
  anchor : Anchor
  parts : List String
  parts_ok : ∀ p ∈ parts, isComponent p = true
deriving DecidableEq

namespace Path

/-- The components of a written path. -/
def partsOf (cs : List Char) : List String :=
  ((splitSlash cs).map String.ofList).filter isComponent

def ofText (s : String) : Path where
  anchor := .ofChars s.toList
  parts := partsOf s.toList
  parts_ok := fun _ h => (List.mem_filter.1 h).2

def text (p : Path) : String :=
  if p.anchor = .relative ∧ p.parts = [] then "."
  else String.ofList (p.anchor.text ++ joinSlash p.parts)

def isAbsolute (p : Path) : Bool := p.anchor != .relative

/-- The path with no component. -/
def here : Path := ⟨.relative, [], by simp⟩

end Path

end BundleConfig
