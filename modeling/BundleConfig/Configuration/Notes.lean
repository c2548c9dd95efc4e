/-
# `Configuration.Notes` — names looked up in a configuration

`follow` goes along a list of names from a configuration inwards; it fails
at the first name that leads nowhere, with what was asked for it.

Some names of records and members are free: what is assigned to them stays
there as a note.  A note is found under its name on the record it was put
on, and on that of no other configuration; members are shared by all.  No
note is part of a configuration.
-/
import BundleConfig.Configuration.Assignment
import BundleConfig.Configuration.Fields

namespace BundleConfig

/-! ## Notes -/

/-- What a note can be put on: a record of the configuration at some position,
or a member. -/
inductive Holder
  | record (position : Nat) (kind : RecordKind)
  | member (member : Member)
deriving DecidableEq

/-- A value put under a name. -/
structure Note where
  holder : Holder
  name : String
  value : Value

/-- Notes, the latest first. -/
abbrev Notes := List Note

/-- What holds the notes of an attribute in the configuration at a position. -/
def Attribute.holder? (position : Nat) : Attribute → Option Holder
  | .record kind => some (.record position kind)
  | .member m => some (.member m)
  | _ => none

namespace Notes

def value? (notes : Notes) (holder : Holder) (name : String) : Option Value :=
  (notes.find? fun n => decide (n.holder = holder ∧ n.name = name)).map Note.value

def put (notes : Notes) (holder : Holder) (name : String) (value : Value) : Notes :=
  ⟨holder, name, value⟩ :: notes

theorem value?_put (notes : Notes) (holder : Holder) (name : String) (value : Value) :
    (notes.put holder name value).value? holder name = some value := by
  simp [put, value?]

theorem value?_put_of_ne (notes : Notes) {h h' : Holder} {n n' : String} (value : Value)
    (hne : ¬ (h = h' ∧ n = n')) : (notes.put h n value).value? h' n' = notes.value? h' n' := by
  simp [put, value?, hne]

end Notes

/-! ## The fields of the records in a configuration -/

namespace ResolvedConfiguration

/-- What the fields of the records in a configuration lead to. -/
def attributes (c : ResolvedConfiguration) : RecordKind → List (String × Attribute)
  | .resolvedConfiguration => [
      ("environment", .member (.environment c.environment)),
      ("entry", .text),
      ("output", .record .outputSettings),
      ("module_rules", .sequence),
      ("copy_instructions", .sequence),
      ("wasm_pack", .record .wasmPackInvocation),
      ("watch", .truth),
      ("dev_server", .record .devServer),
      ("serve_with_fallback", .truth)]
  | .outputSettings => [
      ("path", .path),
      ("filename", .text),
      ("public_path", .text),
      ("webassembly_module_filename", .text)]
  | .wasmPackInvocation => [
      ("crate_directory", .text),
      ("feature_args", .text),
      ("extra_args", .text)]
  | .devServer => [
      ("content_base", .path),
      ("host", .text),
      ("port", .integer),
      ("compress", .truth),
      ("history_fallback", if c.serveWithFallback then .text else .absent)]
  | _ => []

theorem attributes_keys (c : ResolvedConfiguration) :
    (c.attributes .resolvedConfiguration).map Prod.fst = c.fields.map Prod.fst := rfl

theorem attributes_output_keys (c : ResolvedConfiguration) :
    (c.attributes .outputSettings).map Prod.fst = c.output.fields.map Prod.fst := rfl

theorem attributes_wasmPack_keys (c : ResolvedConfiguration) :
    (c.attributes .wasmPackInvocation).map Prod.fst = c.wasmPack.fields.map Prod.fst := rfl

theorem attributes_devServer_keys (c : ResolvedConfiguration) :
    (c.attributes .devServer).map Prod.fst = c.devServer.fields.map Prod.fst := rfl

end ResolvedConfiguration

/-! ## Looking names up -/

/-- A configuration as names are looked up in it: with its position among
others, and the notes there are. -/
structure Annotated where
  configuration : ResolvedConfiguration
  position : Nat
  notes : Notes

namespace Annotated

/-- What the note under a name of an attribute is. -/
def note? (x : Annotated) (name : String) (a : Attribute) : Option Attribute :=
  ((a.holder? x.position).bind fun h => x.notes.value? h name).map .ofValue

/-- What the field of a name leads to. -/
def field? (x : Annotated) (name : String) : Attribute → Option Attribute
  | .record kind => (x.configuration.attributes kind).lookup name
  | _ => none

/-- What a name leads to from an attribute. -/
def attribute? (x : Annotated) (name : String) (a : Attribute) : Option Attribute :=
  (x.note? name a).or ((x.field? name a).or (a.attribute? name))

/-- What names lead to, one after the other. -/
def follow (x : Annotated) : Attribute → List String → Except Failure Attribute
  | a, [] => .ok a
  | a, name :: names =>
    match x.attribute? name a with
    | some b => x.follow b names
    | none => .error (a.leadsNowhere name)

/-- The notes after an assignment to a name behind other names. -/
def assign (x : Annotated) (path : List String) (name : String) (value : Value) :
    Except Failure Notes :=
  match x.follow (.record .resolvedConfiguration) path with
  | .error e => .error e
  | .ok a =>
    match a.assign name value, a.holder? x.position with
    | .error e, _ => .error e
    | .ok _, some holder => .ok (x.notes.put holder name value)
    | .ok _, none => .ok x.notes

end Annotated

end BundleConfig
