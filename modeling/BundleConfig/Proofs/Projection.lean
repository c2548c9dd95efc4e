/-
# `Proofs.Projection` — a record that was read is read again as itself

Reading is lenient: a port may be given as a text, a path in many spellings,
a page that is empty.  What comes of it is in normal form, and its own fields
are read without leniency:

    given ──read──▶ a ──fields──▶ own ──read──▶ a

Two facts carry this, for each kind of record.  A record is read from its
own fields as it is (`read_fields`).  And a reader looks at the names of the
record only (`read_looksAt`), so that what else is passed along, in whatever
order, is not seen: the fields that a record computes, and names that no
record has.

Settings are read wherever one is.  Their own fields leave nothing open, so
that they are read again as themselves in every other directory.
-/
import BundleConfig.Configuration.Export
import BundleConfig.Proofs.Settings

namespace BundleConfig

/-! ## What a reader looks at -/

namespace Fields

variable {α β ε : Type} {again own : Fields} {names : List String}

/-- Fields hold under the names of others what these hold there.  Under other
names they hold anything. -/
def Carries (again own : Fields) : Prop :=
  ∀ name ∈ own.map Prod.fst, again.lookup name = own.lookup name

/-- A reader looks at some names only. -/
def LooksAt (read : Fields → Except ε α) (names : List String) : Prop :=
  ∀ fs gs : Fields, (∀ name ∈ names, gs.lookup name = fs.lookup name) → read gs = read fs

theorem LooksAt.give (a : α) : LooksAt (fun _ => Checked.give a) [] :=
  fun _ _ _ => rfl

theorem LooksAt.required {f : Fields → Checked (α → β)} (h : LooksAt f names) (name : String)
    (read : Value → Checked α) :
    LooksAt (fun fs => (f fs).also (fs.required name read)) (name :: names) := by
  intro fs gs hsame
  obtain ⟨hname, hnames⟩ := List.forall_mem_cons.1 hsame
  simp only [Fields.required, hname, h fs gs hnames]

theorem LooksAt.optional {f : Fields → Checked (α → β)} (h : LooksAt f names) (name : String)
    (read : Value → Checked α) (default : α) :
    LooksAt (fun fs => (f fs).also (fs.optional name read default)) (name :: names) := by
  intro fs gs hsame
  obtain ⟨hname, hnames⟩ := List.forall_mem_cons.1 hsame
  simp only [Fields.optional, hname, h fs gs hnames]

/-- Fields that carry others are read as these, if nothing else is looked at. -/
theorem LooksAt.read_of_carries {read : Fields → Except ε α} (h : LooksAt read names)
    (hnames : names ⊆ own.map Prod.fst) (hcarries : again.Carries own) : read again = read own :=
  h own again fun name hname => hcarries name (hnames hname)

/-! Absent values are passed over, and with them only what holds one. -/

/-- What is looked up and not absent is still looked up when absent values are
passed over. -/
theorem given?_of_lookup {fs : Fields} {name : String} {v : Value} (h : fs.lookup name = some v)
    (hv : v.isNull = false) : fs.given? name = some v := by
  obtain ⟨before, after, rfl, hbefore⟩ := List.lookup_eq_some_iff.1 h
  rw [given?, List.filter_append, List.filter_cons_of_pos (by simp [hv])]
  exact List.lookup_eq_some_iff.2
    ⟨_, _, rfl, fun f hf => hbefore f (List.mem_filter.1 hf).1⟩

/-- Without the absent values fields still carry others that hold none. -/
theorem Carries.present (h : Carries again own) (hown : ∀ f ∈ own, f.2.isNull = false) :
    Carries (again.filter fun f => !f.2.isNull) own := by
  intro name hname
  cases hv : own.lookup name with
  | none =>
    obtain ⟨f, hf, rfl⟩ := List.mem_map.1 hname
    simpa using List.lookup_eq_none_iff.1 hv f hf
  | some v =>
    have hmem : (name, v) ∈ own := by
      obtain ⟨before, after, rfl, -⟩ := List.lookup_eq_some_iff.1 hv
      simp
    exact given?_of_lookup ((h name hname).trans hv) (hown _ hmem)

end Fields

/-! ## Projections -/

/-- Reading is a projection: what was read is read again, from any fields that
carry its own, as an equal record with equal exports. -/
def Projects {α ε : Type} (read reread : Fields → Except ε α) (fields : α → Fields)
    (exports : α → List Json) : Prop :=
  ∀ given a, read given = .ok a → ∀ again : Fields, again.Carries (fields a) →
    ∃ b, reread again = .ok b ∧ b = a ∧ exports b = exports a

/-- A reader is a projection if it looks at a record's own names only and gives
a record back from its own fields. -/
theorem projects_of_looksAt {α ε : Type} {read reread : Fields → Except ε α} {fields : α → Fields}
    {exports : α → List Json} {names : List String} (hlooks : Fields.LooksAt reread names)
    (hnames : ∀ a, names ⊆ (fields a).map Prod.fst) (hfields : ∀ a, reread (fields a) = .ok a) :
    Projects read reread fields exports := by
  intro given a _ again hcarries
  refine ⟨a, ?_, rfl, rfl⟩
  rw [hlooks.read_of_carries (hnames a) hcarries, hfields a]

/-! ## Kinds of record

The names that a reader looks at, the last field first, as readers are put
together. -/

section

open Fields

theorem Profile.read_looksAt :
    LooksAt read ["history_fallback", "entry", "features", "public_path", "output_dir"] :=
  (((((LooksAt.give _).required _ _).optional _ _ _).optional _ _ _).required _ _).optional _ _ _

theorem OutputSettings.read_looksAt :
    LooksAt read ["webassembly_module_filename", "public_path", "filename", "path"] :=
  ((((LooksAt.give _).required _ _).optional _ _ _).optional _ _ _).optional _ _ _

theorem ModuleRule.read_looksAt : LooksAt read ["use", "flags", "test"] :=
  (((LooksAt.give _).required _ _).optional _ _ _).required _ _

theorem CopyInstruction.read_looksAt : LooksAt read ["destination", "source"] :=
  ((LooksAt.give _).required _ _).required _ _

theorem WasmPackInvocation.read_looksAt : LooksAt read ["feature_args", "crate_directory"] :=
  ((LooksAt.give _).optional _ _ _).optional _ _ _

theorem DevServer.read_looksAt :
    LooksAt read ["history_fallback", "compress", "port", "host", "content_base"] :=
  (((((LooksAt.give _).required _ _).optional _ _ _).optional _ _ _).optional _ _ _).optional _ _ _

theorem ResolvedConfiguration.read_looksAt :
    LooksAt read ["dev_server", "watch", "wasm_pack", "copy_instructions", "module_rules",
      "output", "entry", "environment"] :=
  ((((((((LooksAt.give _).required _ _).required _ _).required _ _).required _ _).required _ _).required
    _ _).required _ _).required _ _

theorem Settings.read_looksAt (cwd : AbsolutePath) :
    LooksAt (read cwd) ["dev_server_port", "dev_server_host", "ui_root", "target", "json_logs",
      "log_level"] :=
  ((((((LooksAt.give _).optional _ _ _).optional _ _ _).optional _ _ _).optional _ _ _).optional
    _ _ _).optional _ _ _

end

theorem Profile.read_fields (p : Profile) : read p.fields = .ok p := by
  obtain ⟨dir, publicPath, features, entry, fallback⟩ := p
  have hdir : readOutputDir (.text dir.text) = .ok dir := readOutputDir_text dir.path.ofText_text
  cases fallback with
  | none => simp [read, fields, hdir]
  | some page => simp [read, fields, hdir]

/-- The fields of settings leave no default to a directory. -/
theorem Settings.read_fields (here : AbsolutePath) (s : Settings) :
    read here s.fields = .ok s := by
  simp [read, fields]

theorem Settings.ofOverrides_of_carries (here : AbsolutePath) {s : Settings} {again : Fields}
    (h : again.Carries s.fields) : ofOverrides here again = .ok s := by
  have hown : ∀ f ∈ s.fields, f.2.isNull = false := by simp [fields, Value.isNull]
  have hread := (read_looksAt here).read_of_carries (by simp [fields]) (h.present hown)
  rw [ofOverrides, hread, read_fields, Checked.orRefuse_ok]

/-- **Validation is a projection**: whatever fields a record is accepted from,
it is accepted again from any fields that carry its own, as an equal record
with equal exports.  Settings that were accepted in one directory are accepted
in every other, as settings and as overrides. -/
theorem validation_projects :
    (Projects Profile.read Profile.read Profile.fields fun p => [p.document]) ∧
    (Projects OutputSettings.read OutputSettings.read OutputSettings.fields fun o =>
      [o.document .fieldNames, o.document .bundlerNames]) ∧
    (Projects ModuleRule.read ModuleRule.read ModuleRule.fields fun r => [r.document]) ∧
    (Projects CopyInstruction.read CopyInstruction.read CopyInstruction.fields fun c =>
      [c.document .fieldNames, c.document .bundlerNames]) ∧
    (Projects WasmPackInvocation.read WasmPackInvocation.read WasmPackInvocation.fields fun w =>
      [w.document .fieldNames, w.document .bundlerNames]) ∧
    (Projects DevServer.read DevServer.read DevServer.fields fun d =>
      [d.document .fieldNames, d.document .bundlerNames]) ∧
    (Projects ResolvedConfiguration.read ResolvedConfiguration.read ResolvedConfiguration.fields
      fun c => [c.document .fieldNames, c.document .bundlerNames, c.webpack]) ∧
    ∀ cwd here : AbsolutePath,
      (Projects (Settings.read cwd) (Settings.read here) Settings.fields fun s => [s.document]) ∧
      Projects (Settings.ofOverrides cwd) (Settings.ofOverrides here) Settings.fields fun s =>
        [s.document] := by
  refine ⟨?profile, ?output, ?rule, ?copy, ?wasmPack, ?server, ?configuration,
    fun cwd here => ⟨?settings, ?overrides⟩⟩
  case profile =>
    exact projects_of_looksAt Profile.read_looksAt (by simp [Profile.fields]) Profile.read_fields
  case output =>
    exact projects_of_looksAt OutputSettings.read_looksAt (by simp [OutputSettings.fields])
      OutputSettings.read_fields
  case rule =>
    exact projects_of_looksAt ModuleRule.read_looksAt (by simp [ModuleRule.fields])
      ModuleRule.read_fields
  case copy =>
    exact projects_of_looksAt CopyInstruction.read_looksAt (by simp [CopyInstruction.fields])
      CopyInstruction.read_fields
  case wasmPack =>
    exact projects_of_looksAt WasmPackInvocation.read_looksAt
      (by simp [WasmPackInvocation.fields]) WasmPackInvocation.read_fields
  case server =>
    exact projects_of_looksAt DevServer.read_looksAt (by simp [DevServer.fields])
      DevServer.read_fields
  case configuration =>
    exact projects_of_looksAt ResolvedConfiguration.read_looksAt
      (by simp [ResolvedConfiguration.fields]) ResolvedConfiguration.read_fields
  case settings =>
    exact projects_of_looksAt (Settings.read_looksAt here) (by simp [Settings.fields])
      (Settings.read_fields here)
  case overrides =>
    intro given s _ again hcarries
    exact ⟨s, Settings.ofOverrides_of_carries here hcarries, rfl, rfl⟩

/-- An empty fallback page is kept by a server and dropped by a profile, and
it stays so. -/
theorem validation_projects_of_empty_fallback :
    (∃ d, DevServer.read [("content_base", .text "./static//ui/."), ("port", .text " 80 "),
        ("compress", .text "Yes"), ("history_fallback", .text "")] = .ok d ∧
      d.historyFallback = some "" ∧ d.port.number = 80 ∧
      DevServer.read (("contentBase", .null) :: d.fields.reverse) = .ok d) ∧
    ∃ p, Profile.read [("output_dir", .text "//srv/./ui/"), ("entry", .member (.level .info)),
        ("history_fallback", .text "")] = .ok p ∧
      p.historyFallback = none ∧
      Profile.read (("extra_args", .list []) :: p.fields) = .ok p := by
  obtain ⟨hprofile, -, -, -, -, hserver, -⟩ := validation_projects
  constructor
  · obtain ⟨d, hd, hfallback, hport⟩ :
        ∃ d, DevServer.read [("content_base", .text "./static//ui/."), ("port", .text " 80 "),
          ("compress", .text "Yes"), ("history_fallback", .text "")] = .ok d ∧
          d.historyFallback = some "" ∧ d.port.number = 80 := ⟨_, rfl, rfl, rfl⟩
    have hcarries : Fields.Carries (("contentBase", .null) :: d.fields.reverse) d.fields := by
      simp [Fields.Carries, DevServer.fields, List.lookup_cons]
    obtain ⟨_, he, rfl, -⟩ := hserver _ d hd _ hcarries
    exact ⟨_, hd, hfallback, hport, he⟩
  · obtain ⟨p, hp, hfallback⟩ :
        ∃ p, Profile.read [("output_dir", .text "//srv/./ui/"),
          ("entry", .member (.level .info)), ("history_fallback", .text "")] = .ok p ∧
          p.historyFallback = none := ⟨_, rfl, rfl⟩
    have hcarries : Fields.Carries (("extra_args", .list []) :: p.fields) p.fields := by
      simp [Fields.Carries, Profile.fields, List.lookup_cons]
    obtain ⟨_, hq, rfl, -⟩ := hprofile _ p hp _ hcarries
    exact ⟨_, hp, hfallback, hq⟩

end BundleConfig
