/-
# `Path.Written` — operations on paths as they are written

Three operations take the text of a path, and not its components:

    join a b        `b` behind `a`, a slash between them where there is none;
                    `b` alone if it starts with a slash
    clean s         one slash between components, no `.`, each `..` and what it
                    cancels left out; a `..` that cancels nothing is kept, but
                    at a root it is dropped
    absolute cwd s  `s` cleaned, behind `cwd` unless it starts with a slash

None of them reads the text as a path first, so that what they leave of
slashes and dots has to be compared with `Path.ofText` and
`AbsolutePath.resolve`.
-/
import BundleConfig.Path.Absolute

namespace BundleConfig

namespace Path

/-- A path behind another; a path that starts at a root stands alone. -/
def join (p q : Path) : Path :=
  if q.anchor = .relative then
    { anchor := p.anchor
      parts := p.parts ++ q.parts
      parts_ok := fun x h => (List.mem_append.1 h).elim (p.parts_ok x) (q.parts_ok x) }
  else q

namespace Written

def isRooted (cs : List Char) : Bool := cs.head? == some '/'

/-- A text behind another, as paths are joined. -/
def join (a b : List Char) : List Char :=
  if isRooted b then b
  else if a = [] ∨ a.getLast? = some '/' then a ++ b
  else a ++ '/' :: b

/-- One piece on top of the stack of those before it, innermost first. -/
def push (rooted : Bool) (stack : List String) (piece : String) : List String :=
  if piece = "" ∨ piece = "." then stack
  else if piece ≠ ".." ∨ (rooted = false ∧ stack = []) ∨ stack.head? = some ".." then
    piece :: stack
  else stack.tail

/-- The pieces that are left of a text. -/
def keptPieces (cs : List Char) : List String :=
  (((splitSlash cs).map String.ofList).foldl (push (isRooted cs)) []).reverse

/-- A text without what means nothing in it. -/
def clean (cs : List Char) : List Char :=
  let text := (Anchor.ofChars cs).text ++ joinSlash (keptPieces cs)
  if text = [] then ['.'] else text

/-- A text taken from a directory, and cleaned. -/
def absolute (cwd cs : List Char) : List Char :=
  clean (if isRooted cs then cs else join cwd cs)

end Written

def cleanText (s : String) : String := String.ofList (Written.clean s.toList)

end Path

/-- A text taken from a directory, and cleaned. -/
def AbsolutePath.absoluteText (cwd : AbsolutePath) (s : String) : String :=
  String.ofList (Path.Written.absolute cwd.text.toList s.toList)

end BundleConfig
