/-
# `Reading` — typed values from untyped ones

How each kind of field is read.  Reading is lenient where a person or a
configuration file may have written a number or a truth value in another
form, and strict elsewhere:

    text       a text or a member of a vocabulary
    path       the same, brought into lexical normal form
    integer    an integer; a truth value; a whole floating-point number;
               a text as `Text.Numeral.lax` reads it
    boolean    a truth value; 0 or 1; one of twelve words in any case
    choice     a name of the vocabulary, exactly spelt, or its member
    list       a list, each item read in turn
    record     an object
-/
import BundleConfig.Fault
import BundleConfig.Value

namespace BundleConfig

/-- A text that is not empty. -/
structure NonEmptyText where
  text : String
  nonempty : text ≠ ""
deriving DecidableEq

/-- A text as a non-empty one, if it is. -/
def NonEmptyText.ofText? (s : String) : Option NonEmptyText :=
  if h : s = "" then none else some ⟨s, h⟩

/-- A port number. -/
structure Port where
  number : Nat
  positive : 1 ≤ number
  bounded : number ≤ 65535
deriving DecidableEq

namespace Value

/-! ## Texts, paths and choices -/

def readText (v : Value) : Checked String :=
  match v.asText? with
  | some s => .ok s
  | none => .refuse .notText

def readNonEmpty (v : Value) : Checked NonEmptyText :=
  match v.asText? with
  | some s =>
    match NonEmptyText.ofText? s with
    | some t => .ok t
    | none => .refuse .tooShort
  | none => .refuse .notText

/-- A text field that may be left out by an explicit absent value. -/
def readOptionalText (v : Value) : Checked (Option String) :=
  if v.isNull then .ok none else
  match v.asText? with
  | some s => .ok (some s)
  | none => .refuse .notText

def readPath (v : Value) : Checked Path :=
  match v.asText? with
  | some s => .ok (.ofText s)
  | none => .refuse .notPath

def readChoice (α : Type) [Choice α] (v : Value) : Checked α :=
  match v.choose? α with
  | some a => .ok a
  | none => .refuse (.notAmong (Choice.names α))

/-! ## Numbers -/

def integerOfText (s : String) : Checked Int :=
  match Text.Numeral.lax s.toList with
  | .integer n => .ok n
  | .oversized => .refuse .oversizedInteger
  | .unreadable => .refuse .unreadableInteger

/-- The least integer beyond the signed 64-bit range. -/
def wordLimit : Int := 9223372036854775808

/-- An integer from a floating-point number: whole, and strictly inside the
signed 64-bit range. -/
def integerOfFloat (x : Binary64) : Checked Int :=
  if x.isFinite then
    match x.whole? with
    | none => .refuse .fractional
    | some n => if -wordLimit < n ∧ n < wordLimit then .ok n else .refuse .oversizedInteger
  else .refuse .notFinite

def readInteger : Value → Checked Int
  | .int n => .ok n
  | .bool b => .ok (if b then 1 else 0)
  | .float x => integerOfFloat x
  | .text s => integerOfText s
  | .member m => integerOfText m.text
  | .null | .list _ | .object _ => .refuse .notInteger

def portOfInteger (n : Int) : Checked Port :=
  if h : 1 ≤ n then
    if h' : n ≤ 65535 then .ok ⟨n.toNat, by omega, by omega⟩ else .refuse (.above 65535)
  else .refuse (.below 1)

def readPort (v : Value) : Checked Port :=
  match v.readInteger with
  | .ok n => portOfInteger n
  | .error fs => .error fs

/-! ## Truth values -/

/-- The words for a truth value, in lower case. -/
def booleanWord? (s : String) : Option Bool :=
  if s ∈ ["1", "on", "t", "true", "y", "yes"] then some true
  else if s ∈ ["0", "off", "f", "false", "n", "no"] then some false
  else none

/-- A truth value from a text, in any ASCII case. -/
def booleanOfText (s : String) : Checked Bool :=
  match booleanWord? (String.ofList (s.toList.map Char.toLower)) with
  | some b => .ok b
  | none => .refuse .unreadableBoolean

/-- A truth value from an integer: 0 or 1.  An integer beyond 64 bits is not
looked at as a number at all. -/
def booleanOfInteger (n : Int) : Checked Bool :=
  if n = 0 then .ok false
  else if n = 1 then .ok true
  else if -wordLimit ≤ n ∧ n < wordLimit then .refuse .unreadableBoolean
  else .refuse .notBoolean

/-- A truth value from a floating-point number that is an integer: from that. -/
def booleanOfFloat (x : Binary64) : Checked Bool :=
  match integerOfFloat x with
  | .ok n => booleanOfInteger n
  | .error _ => .refuse .notBoolean

def readBoolean : Value → Checked Bool
  | .bool b => .ok b
  | .int n => booleanOfInteger n
  | .float x => booleanOfFloat x
  | .text s => booleanOfText s
  | .member m => booleanOfText m.text
  | .null | .list _ | .object _ => .refuse .notBoolean

/-! ## Lists and records -/

/-- The items of a list from an index on, all read, the faults of all joined. -/
def readItems {α : Type} (read : Value → Checked α) : Nat → List Value → Checked (List α)
  | _, [] => .ok []
  | i, v :: vs => ((Checked.give List.cons).also ((read v).within (.index i))).also
      (readItems read (i + 1) vs)

def readList {α : Type} (read : Value → Checked α) : Value → Checked (List α)
  | .list vs => readItems read 0 vs
  | _ => .refuse .notList

def readRecord {α : Type} (kind : RecordKind) (read : Fields → Checked α) : Value → Checked α
  | .object fs => read fs
  | _ => .refuse (.notRecord kind)

end Value

namespace Fields

/-- A field that has to be given. -/
def required {α : Type} (fs : Fields) (name : String) (read : Value → Checked α) : Checked α :=
  match fs.lookup name with
  | some v => (read v).within (.field name)
  | none => (Checked.refuse .missing).within (.field name)

/-- A field that has a default. -/
def optional {α : Type} (fs : Fields) (name : String) (read : Value → Checked α) (default : α) :
    Checked α :=
  match fs.lookup name with
  | some v => (read v).within (.field name)
  | none => .ok default

end Fields

end BundleConfig
