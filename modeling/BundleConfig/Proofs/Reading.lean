/-
# `Proofs.Reading` — what is read back from the fields of a record

A record gives its fields (`fields`) and is read from fields (`read`).  Each
reader gives back what a field holds: a text its text, a path the path whose
text is there, a port its number.  From the readers of the fields follows
that the whole record is read back, one lemma for each kind of record:

    read r.fields = .ok r

The fields that a record computes, `extra_args` and `serve_with_fallback`,
are given and not looked at.  A reader that refuses gives one problem at
least; that of a port, exactly one (`readPort_error`).
-/
import BundleConfig.Configuration.Fields
import BundleConfig.Path.Text
import BundleConfig.Settings

namespace BundleConfig

/-! ## Putting results together -/

namespace Checked

variable {α β : Type}

@[simp] theorem give_eq (a : α) : give a = .ok a := rfl

@[simp] theorem ok_also_ok (f : α → β) (a : α) : also (.ok f) (.ok a) = .ok (f a) := rfl

@[simp] theorem ok_also_error (f : α → β) (fs : List Fault) :
    also (.ok f) (.error fs) = .error fs := rfl

@[simp] theorem error_also_ok (fs : List Fault) (a : α) :
    also (.error fs : Checked (α → β)) (.ok a) = .error fs := rfl

@[simp] theorem error_also_error (fs gs : List Fault) :
    also (.error fs : Checked (α → β)) (.error gs) = .error (fs ++ gs) := rfl

@[simp] theorem within_ok (step : Step) (a : α) : within step (.ok a) = .ok a := rfl

@[simp] theorem within_error (step : Step) (fs : List Fault) :
    within step (.error fs : Checked α) = .error (fs.map (Fault.within step)) := rfl

@[simp] theorem orRefuse_ok (kind : RecordKind) (a : α) : orRefuse kind (.ok a) = .ok a := rfl

@[simp] theorem orRefuse_error (kind : RecordKind) (fs : List Fault) :
    orRefuse kind (.error fs : Checked α) = .error (.refused ⟨kind, fs⟩) := rfl

/-- The faults of a result, none if something was read. -/
def faults : Checked α → List Fault
  | .ok _ => []
  | .error fs => fs

@[simp] theorem faults_ok (a : α) : faults (.ok a) = [] := rfl

@[simp] theorem faults_error (fs : List Fault) : faults (.error fs : Checked α) = fs := rfl

@[simp] theorem faults_also (f : Checked (α → β)) (a : Checked α) :
    (f.also a).faults = f.faults ++ a.faults := by
  cases f <;> cases a <;> simp

/-- Where nothing was read there are faults to tell. -/
theorem eq_error_faults {c : Checked α} (h : ∀ a, c ≠ .ok a) : c = .error c.faults := by
  cases c with
  | ok a => exact absurd rfl (h a)
  | error fs => rfl

/-! Something was read of the whole only if something was read of each part. -/

theorem also_eq_ok_iff {f : Checked (α → β)} {a : Checked α} {b : β} :
    f.also a = .ok b ↔ ∃ g x, f = .ok g ∧ a = .ok x ∧ g x = b := by
  cases f <;> cases a <;> simp

theorem within_eq_ok_iff {step : Step} {c : Checked α} {a : α} :
    c.within step = .ok a ↔ c = .ok a := by
  cases c <;> simp

theorem orRefuse_eq_ok_iff {kind : RecordKind} {c : Checked α} {a : α} :
    c.orRefuse kind = .ok a ↔ c = .ok a := by
  cases c <;> simp

end Checked

/-! ## Looking fields up -/

namespace Fields

variable {α : Type} (read : Value → Checked α) (default : α)

@[simp] theorem required_cons (key name : String) (v : Value) (fs : Fields) :
    required ((key, v) :: fs) name read
      = if name = key then (read v).within (.field name) else required fs name read := by
  by_cases h : name = key
  · simp [required, h]
  · simp [required, List.lookup_cons, beq_eq_false_iff_ne.2 h, h]

@[simp] theorem optional_cons (key name : String) (v : Value) (fs : Fields) :
    optional ((key, v) :: fs) name read default
      = if name = key then (read v).within (.field name) else optional fs name read default := by
  by_cases h : name = key
  · simp [optional, h]
  · simp [optional, List.lookup_cons, beq_eq_false_iff_ne.2 h, h]

@[simp] theorem optional_nil (name : String) : optional [] name read default = .ok default := rfl

variable {read default}

/-- A field is read from the value that is there, or has its default. -/
theorem optional_eq_ok_iff {fs : Fields} {name : String} {a : α} :
    fs.optional name read default = .ok a ↔
      (∀ v, fs.lookup name = some v → read v = .ok a) ∧
        (fs.lookup name = none → a = default) := by
  unfold optional
  cases fs.lookup name with
  | none => simp [eq_comm]
  | some v => simp [Checked.within_eq_ok_iff]

end Fields

/-! ## Single fields -/

namespace Value

/-- Whether a value is a text for those who want one. -/
def IsString (v : Value) : Prop := ∃ s, v.asText? = some s

theorem isString_iff {v : Value} :
    v.IsString ↔ (∃ s, v = .text s) ∨ ∃ m, v = .member m := by
  constructor
  · rintro ⟨s, hs⟩
    cases v with
    | text s => exact .inl ⟨s, rfl⟩
    | member m => exact .inr ⟨m, rfl⟩
    | null => cases hs
    | bool b => cases hs
    | int n => cases hs
    | float x => cases hs
    | list vs => cases hs
    | object fs => cases hs
  · rintro (⟨s, rfl⟩ | ⟨m, rfl⟩)
    · exact ⟨s, rfl⟩
    · exact ⟨m.text, rfl⟩

theorem not_isString_iff {v : Value} : ¬ v.IsString ↔ v.asText? = none := by
  rw [IsString, ← Option.isSome_iff_exists, Option.not_isSome_iff_eq_none]

theorem isNull_iff {v : Value} : v.isNull = true ↔ v = .null := by
  cases v <;> simp [isNull]

@[simp] theorem readText_text (s : String) : readText (.text s) = .ok s := rfl

@[simp] theorem readPath_text (p : Path) : readPath (.text p.text) = .ok p :=
  congrArg Except.ok p.ofText_text

@[simp] theorem readBoolean_bool (b : Bool) : readBoolean (.bool b) = .ok b := rfl

@[simp] theorem readNonEmpty_text (t : NonEmptyText) : readNonEmpty (.text t.text) = .ok t := by
  simp [readNonEmpty, asText?, NonEmptyText.ofText?, t.nonempty]

@[simp] theorem readOptionalText_text (s : String) : readOptionalText (.text s) = .ok (some s) :=
  rfl

@[simp] theorem readOptionalText_null : readOptionalText .null = .ok none := rfl

@[simp] theorem readPort_int (p : Port) : readPort (.int p.number) = .ok p := by
  have h₁ := p.positive
  have h₂ := p.bounded
  have h₃ : (1 : Int) ≤ p.number := by omega
  have h₄ : (p.number : Int) ≤ 65535 := by omega
  simp [readPort, readInteger, portOfInteger, h₃, h₄]

@[simp] theorem readChoice_environment (e : EnvironmentName) :
    readChoice EnvironmentName (.member (.environment e)) = .ok e := by
  cases e <;> rfl

@[simp] theorem readChoice_target (t : DeploymentTarget) :
    readChoice DeploymentTarget (.member (.target t)) = .ok t := by
  cases t <;> rfl

@[simp] theorem readChoice_level (l : LogLevel) :
    readChoice LogLevel (.member (.level l)) = .ok l := by
  cases l <;> rfl

@[simp] theorem readRecord_object {α : Type} (kind : RecordKind) (read : Fields → Checked α)
    (fs : Fields) : readRecord kind read (.object fs) = read fs := rfl

/-- Items that are read back one by one are read back as a list. -/
theorem readItems_map {α : Type} {read : Value → Checked α} {f : α → Value}
    (h : ∀ a, read (f a) = .ok a) (i : Nat) (as : List α) :
    readItems read i (as.map f) = .ok as := by
  induction as generalizing i with
  | nil => rfl
  | cons a as ih => simp [readItems, h, ih]

theorem readList_map {α : Type} {read : Value → Checked α} {f : α → Value}
    (h : ∀ a, read (f a) = .ok a) (as : List α) : readList read (.list (as.map f)) = .ok as :=
  readItems_map h 0 as

@[simp] theorem readList_texts (ss : List String) :
    readList readText (.list (ss.map .text)) = .ok ss :=
  readList_map readText_text ss

/-- Records that are read back from their fields are read back as a list. -/
theorem readList_records {α : Type} (kind : RecordKind) {read : Fields → Checked α}
    {fields : α → Fields} (h : ∀ a, read (fields a) = .ok a) (as : List α) :
    readList (readRecord kind read) (.list (as.map fun a => .object (fields a))) = .ok as :=
  readItems_map h 0 as

/-! ## When a field is refused -/

theorem readText_ok_iff {v : Value} {s : String} : v.readText = .ok s ↔ v.asText? = some s := by
  unfold readText
  cases v.asText? <;> simp [Checked.refuse]

theorem readText_of_none {v : Value} (h : v.asText? = none) :
    v.readText = .error [⟨[], .notText⟩] := by
  rw [readText, h]
  rfl

theorem portOfInteger_ok_iff {n : Int} {p : Port} : portOfInteger n = .ok p ↔ n = p.number := by
  constructor
  · intro h
    unfold portOfInteger at h
    split at h
    · split at h
      · rw [← Except.ok.inj h]
        exact (Int.toNat_of_nonneg (by omega)).symm
      · cases h
    · cases h
  · rintro rfl
    exact readPort_int p

/-- A port is read exactly where an integer is read that is the port's number. -/
theorem readPort_ok_iff {v : Value} {p : Port} :
    v.readPort = .ok p ↔ v.readInteger = .ok p.number := by
  unfold readPort
  cases h : v.readInteger with
  | ok n => simp [portOfInteger_ok_iff]
  | error fs => simp

end Value

/-! ## Whole records -/

theorem OutputSettings.read_fields (o : OutputSettings) : read o.fields = .ok o := by
  simp [read, fields]

theorem ModuleRule.read_fields (r : ModuleRule) : read r.fields = .ok r := by
  simp [read, fields]

theorem CopyInstruction.read_fields (c : CopyInstruction) : read c.fields = .ok c := by
  simp [read, fields]

theorem WasmPackInvocation.read_fields (w : WasmPackInvocation) : read w.fields = .ok w := by
  simp [read, fields]

theorem DevServer.read_fields (d : DevServer) : read d.fields = .ok d := by
  obtain ⟨path, host, port, compress, fallback⟩ := d
  cases fallback with
  | none => simp [read, fields]
  | some page => simp [read, fields]

theorem ResolvedConfiguration.read_fields (c : ResolvedConfiguration) : read c.fields = .ok c := by
  have hrules := Value.readList_records .moduleRule ModuleRule.read_fields c.moduleRules
  have hcopies :=
    Value.readList_records .copyInstruction CopyInstruction.read_fields c.copyInstructions
  simp [read, fields, hrules, hcopies, OutputSettings.read_fields,
    WasmPackInvocation.read_fields, DevServer.read_fields]

end BundleConfig
