/-
# `CommandLine.Options` — options in a list of arguments

An option has a long name, `--name`, or a short one, `-n`, or both, and
takes a value or does not.  A long option is given its value behind `=` or
as the next argument; a short one as the rest of its argument or as the
next argument.  Short options that take no value can share an argument.
The argument `--` ends the options.  Other arguments, and `-` alone, are
positional; scanning stops at the first one or goes on behind it.
-/

namespace BundleConfig

/-- Why a command line is not carried out: it asks for help instead, or
something is wrong with it. -/
inductive UsageError
  | helpWanted
  | noArguments
  | unknownOption (name : String)
  | missingValue (name : String)
  | unexpectedValue (name : String)
  | badValue (name : String)
  | missingMode
  | missingCommand
  | unknownCommand (name : String)
  | extraArgument (argument : String)
deriving DecidableEq

/-- An option: its names, without dashes, and whether it takes a value. -/
structure OptionSpec (κ : Type) where
  key : κ
  long : String
  short : Option Char
  takesValue : Bool

/-- An option that was given; a flag has no value. -/
structure Occurrence (κ : Type) where
  key : κ
  value : Option String

/-- The options of a list of arguments, and the arguments that are left. -/
structure Scanned (κ : Type) where
  given : List (Occurrence κ)
  rest : List String

namespace OptionSpec

variable {κ : Type}

/-- What one argument says. -/
inductive Reading (κ : Type)
  | positional
  | endOfOptions
  | options (given : List (Occurrence κ))
  | wanting (given : List (Occurrence κ)) (key : κ) (name : String)

/-- A further option in front of what an argument says. -/
def Reading.behind (o : Occurrence κ) : Reading κ → Reading κ
  | .options given => .options (o :: given)
  | .wanting given key name => .wanting (o :: given) key name
  | .positional => .positional
  | .endOfOptions => .endOfOptions

/-- A long option, given by the text behind its dashes. -/
def readLong (specs : List (OptionSpec κ)) (cs : List Char) : Except UsageError (Reading κ) :=
  let name := String.ofList (cs.takeWhile (· != '='))
  match specs.find? (·.long == name), cs.dropWhile (· != '=') with
  | none, _ => .error (.unknownOption ("--" ++ name))
  | some spec, [] =>
      if spec.takesValue then .ok (.wanting [] spec.key ("--" ++ name))
      else .ok (.options [⟨spec.key, none⟩])
  | some spec, _ :: value =>
      if spec.takesValue then .ok (.options [⟨spec.key, some (String.ofList value)⟩])
      else .error (.unexpectedValue ("--" ++ name))

/-- Short options that share an argument, given by their letters. -/
def readShort (specs : List (OptionSpec κ)) : List Char → Except UsageError (Reading κ)
  | [] => .ok (.options [])
  | c :: cs =>
    let name := String.ofList ['-', c]
    match specs.find? (·.short == some c) with
    | none => .error (.unknownOption name)
    | some spec =>
      if spec.takesValue then
        if cs.isEmpty then .ok (.wanting [] spec.key name)
        else .ok (.options [⟨spec.key, some (String.ofList cs)⟩])
      else (readShort specs cs).map (.behind ⟨spec.key, none⟩)

def readArgument (specs : List (OptionSpec κ)) (argument : String) :
    Except UsageError (Reading κ) :=
  match argument.toList with
  | ['-', '-'] => .ok .endOfOptions
  | '-' :: '-' :: cs => readLong specs cs
  | ['-'] => .ok .positional
  | '-' :: cs => readShort specs cs
  | _ => .ok .positional

/-- Options in front of those of a scan. -/
def Scanned.after (given : List (Occurrence κ)) (s : Scanned κ) : Scanned κ :=
  { s with given := given ++ s.given }

/-- A positional argument in front of those of a scan. -/
def Scanned.keep (argument : String) (s : Scanned κ) : Scanned κ :=
  { s with rest := argument :: s.rest }

/-- The options of a list of arguments.  `interspersed` says whether options
may stand behind positional arguments. -/
def scan (specs : List (OptionSpec κ)) (interspersed : Bool) :
    List String → Except UsageError (Scanned κ)
  | [] => .ok ⟨[], []⟩
  | argument :: rest =>
    match readArgument specs argument with
    | .error e => .error e
    | .ok .endOfOptions => .ok ⟨[], rest⟩
    | .ok .positional =>
        if interspersed then (scan specs interspersed rest).map (Scanned.keep argument)
        else .ok ⟨[], argument :: rest⟩
    | .ok (.options given) => (scan specs interspersed rest).map (Scanned.after given)
    | .ok (.wanting given key name) =>
      match rest with
      | [] => .error (.missingValue name)
      | value :: rest =>
          (scan specs interspersed rest).map (Scanned.after (given ++ [⟨key, some value⟩]))

end OptionSpec

namespace Scanned

variable {κ : Type} [DecidableEq κ]

/-- The value of the last occurrence of an option. -/
def value? (s : Scanned κ) (key : κ) : Option String :=
  (s.given.reverse.find? fun o => decide (o.key = key)).bind Occurrence.value

def isGiven (s : Scanned κ) (key : κ) : Bool := s.given.any fun o => decide (o.key = key)

end Scanned

end BundleConfig
