/-
# `FileStore` — a tree of directories and files

A store is a tree with a current directory, which relative paths start
from.  Writing a file needs every directory on the way to it, and fails as
an operating system fails: at the first component that is missing, that is
no directory, or that is too long; or at the end, where a directory
stands.  Real file systems know further errors (`WriteError.other`); a
store raises none of them.  Links do not occur, so `..` leads to the enclosing directory, and
stays at the root.
-/
import BundleConfig.Path.Basic
import BundleConfig.Text.Numeral
import BundleConfig.Text.Quoted

namespace BundleConfig

/-- A file, or a directory with named entries. -/
inductive Node
  | file (text : String)
  | directory (entries : List (String × Node))

/-- The entries of a directory. -/
abbrev Entries := List (String × Node)

/-- Why a file cannot be written. -/
inductive WriteError
  | noSuchFile
  | notDirectory
  | isDirectory
  | nameTooLong
  | other (number : Nat) (reason : String)
deriving DecidableEq

namespace WriteError

/-- The number that operating systems give the error. -/
def number : WriteError → Nat
  | .noSuchFile => 2
  | .notDirectory => 20
  | .isDirectory => 21
  | .nameTooLong => 36
  | .other number _ => number

def reason : WriteError → String
  | .noSuchFile => "No such file or directory"
  | .notDirectory => "Not a directory"
  | .isDirectory => "Is a directory"
  | .nameTooLong => "File name too long"
  | .other _ reason => reason

/-- The error of a number, with the reason that came with it. -/
def ofNumber (reason : String) : Nat → WriteError
  | 2 => .noSuchFile
  | 20 => .notDirectory
  | 21 => .isDirectory
  | 36 => .nameTooLong
  | n => .other n reason

def message (e : WriteError) (path : Path) : String :=
  "[Errno " ++ decimal e.number ++ "] " ++ e.reason ++ ": " ++ Text.quote path.text

end WriteError

namespace Entries

/-- The entries with one of them set; a new one comes last. -/
def set (name : String) (node : Node) : Entries → Entries
  | [] => [(name, node)]
  | (n, x) :: es => if n = name then (name, node) :: es else (n, x) :: set name node es

/-- The entries of a directory among the entries, none if there is no such directory. -/
def below (name : String) (es : Entries) : Entries :=
  match es.lookup name with
  | some (.directory inner) => inner
  | _ => []

/-- The entries of the directory that names lead to, outermost name first. -/
def under : List String → Entries → Entries
  | [], es => es
  | name :: rest, es => under rest (below name es)

/-- A node put where names lead, outermost name first; directories on the
way are made. -/
def place (node : Node) : List String → Entries → Entries
  | [], es => es
  | [name], es => set name node es
  | name :: next :: rest, es =>
      set name (.directory (place node (next :: rest) (below name es))) es

end Entries

/-- A tree and its current directory, outermost name first. -/
structure FileStore where
  root : Entries
  current : List String

namespace FileStore

/-- The longest name of a file, in bytes. -/
def maxNameBytes : Nat := 255

/-- The longest path, in bytes. -/
def maxPathBytes : Nat := 4095

/-- The directory that components lead to from a directory, both as names
from the root, innermost first. -/
def walk (root : Entries) : List String → List String → Except WriteError (List String)
  | place, [] => .ok place
  | place, part :: parts =>
    if part = ".." then walk root place.tail parts
    else if maxNameBytes < part.utf8ByteSize then .error .nameTooLong
    else
      match (Entries.under place.reverse root).lookup part with
      | none => .error .noSuchFile
      | some (.file _) => .error .notDirectory
      | some (.directory _) => walk root (part :: place) parts

/-- The directory a path starts from, innermost name first. -/
def startOf (s : FileStore) (p : Path) : List String :=
  if p.anchor = .relative then s.current.reverse else []

/-- The store with a file written in a directory, given innermost name first. -/
def writeIn (s : FileStore) (place : List String) (name text : String) :
    Except WriteError FileStore :=
  if name = ".." then .error .isDirectory
  else if maxNameBytes < name.utf8ByteSize then .error .nameTooLong
  else
    match (Entries.under place.reverse s.root).lookup name with
    | some (.directory _) => .error .isDirectory
    | _ => .ok { s with root := Entries.place (.file text) (place.reverse ++ [name]) s.root }

/-- The store after a file was written at a path. -/
def write (s : FileStore) (p : Path) (text : String) : Except WriteError FileStore :=
  if maxPathBytes < p.text.utf8ByteSize then .error .nameTooLong
  else
    match p.parts.getLast? with
    | none => .error .isDirectory
    | some name =>
      match walk s.root (s.startOf p) p.parts.dropLast with
      | .error e => .error e
      | .ok place => s.writeIn place name text

mutual

/-- The files of a node at a place, with their texts. -/
def filesOf (place : List String) : Node → List (String × String)
  | .file text => [("/".intercalate place, text)]
  | .directory entries => filesIn place entries

/-- The files below entries at a place, with their texts. -/
def filesIn (place : List String) : List (String × Node) → List (String × String)
  | [] => []
  | (name, node) :: es => filesOf (place ++ [name]) node ++ filesIn place es

end

/-- All files below the current directory, by relative path. -/
def files (s : FileStore) : List (String × String) :=
  filesIn [] (Entries.under s.current s.root)

/-- An otherwise empty store with an empty current directory. -/
def empty (current : List String) : FileStore :=
  ⟨Entries.place (.directory []) current [], current⟩

/-- The store with a directory below the current one. -/
def addDirectory (s : FileStore) (p : Path) : FileStore :=
  let names := s.current ++ p.parts
  { s with root := Entries.place (.directory (Entries.under names s.root)) names s.root }

/-- The store with a file below the current directory. -/
def addFile (s : FileStore) (p : Path) (text : String) : FileStore :=
  { s with root := Entries.place (.file text) (s.current ++ p.parts) s.root }

end FileStore

end BundleConfig
