/-
# `Configuration.Assignment` — what comes of assigning to a name

The kind of a thing decides what comes of an assignment to one of its names:

    record    frozen, under any name that could be a field's
    member    fixed, for its name and value; other names are free
    value     its own names are locked; it has no others

A name with an underscore in front can be no field's, so that a record
takes it.  Two names are kept for what a thing is made of: no value stands
for its class, and only an object for its fields.
-/
import BundleConfig.Configuration.OwnNames

namespace BundleConfig.Attribute

/-- Whether a name can be a field's: it has no underscore in front. -/
def isFieldName (name : String) : Bool := name.toList.head? != some '_'

/-- An assignment to a name that is free. -/
def assignFree (name : String) (value : Value) : Except Failure Unit :=
  match value with
  | .object _ => .ok ()
  | _ => if name = special "dict" then .error (.notAnObject value.kind) else .ok ()

def assign (name : String) (value : Value) (a : Attribute) : Except Failure Unit :=
  if name = special "class" then .error (.notAClass value.kind)
  else
    match a with
    | .record kind =>
        if isFieldName name then .error (.refused ⟨kind, [⟨[.field name], .frozen⟩]⟩)
        else assignFree name value
    | .member _ =>
        if name ∈ memberNames then .error (.fixed name) else assignFree name value
    | a =>
      match a.own? name with
      | some own => .error (own.lock.failure a name)
      | none => .error (a.missing name)

/-- No record lets go of a field. -/
theorem assign_record (kind : RecordKind) {name : String} (value : Value)
    (h : isFieldName name = true) :
    (Attribute.record kind).assign name value
      = .error (.refused ⟨kind, [⟨[.field name], .frozen⟩]⟩) := by
  have hc : name ≠ special "class" := by
    rintro rfl
    exact absurd h (by decide)
  simp [assign, hc, h]

end BundleConfig.Attribute
