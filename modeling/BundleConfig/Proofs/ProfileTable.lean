/-
# `Proofs.ProfileTable` — the table of a target is always there

A table of a target is made like any other: its profiles are read from
fields, and have to cover every environment.  For a built-in profile neither
check can fail (`Template.read_fields`): its output directory is cleaned
behind an absolute one, and an absolute path is what comes out.  So a known
target and a directory of any text give a table, and it is `ofTarget`:

    ofSelectors cwd target uiRoot = .ok (ofTarget cwd t (.ofText s))

where `t` is the target that is named and `s` the text of the directory.
-/
import BundleConfig.ProfileTable
import BundleConfig.Proofs.Path.Written
import BundleConfig.Proofs.Reading

namespace BundleConfig

/-! ## Profiles from fields -/

namespace Profile

theorem readOutputDir_text {s : String} {p : AbsolutePath} (h : Path.ofText s = p.path) :
    readOutputDir (.text s) = .ok p := by
  have habs : (Path.ofText s).isAbsolute = true := by
    rw [h]
    exact p.isAbsolute
  have hp : (⟨Path.ofText s, habs⟩ : AbsolutePath) = p := by
    cases p
    simp [h]
  simp [readOutputDir, Value.readPath, Value.asText?, habs, hp]

@[simp] theorem readFallback_text (t : NonEmptyText) : readFallback (.text t.text) = .ok (some t) := by
  simp [readFallback, NonEmptyText.ofText?, t.nonempty]

@[simp] theorem readFallback_null : readFallback .null = .ok none := rfl

end Profile

/-! ## Built-in profiles -/

namespace ProfileTable

/-- Nothing in a built-in profile is refused. -/
theorem Template.read_fields (s : Template) (root : AbsolutePath) :
    Profile.read (s.fields root.path) = .ok (s.profile root) := by
  have hdir := Profile.readOutputDir_text (root.ofText_cleanText_join (.ofText s.outputDir))
  cases hf : s.historyFallback with
  | none => simp [Profile.read, fields, hdir, hf, profile]
  | some page => simp [Profile.read, fields, hdir, hf, profile]

/-- A known target and a directory give a table. -/
theorem ofSelectors_eq (cwd : AbsolutePath) {target uiRoot : Value} {t : DeploymentTarget}
    {s : String} (ht : target.choose? DeploymentTarget = some t) (hs : uiRoot.asText? = some s) :
    ofSelectors cwd target uiRoot = .ok (ofTarget cwd t (.ofText s)) := by
  have hroot : Path.ofText (cwd.absoluteText s) = (cwd.resolve (.ofText s)).path :=
    cwd.ofText_absoluteText s
  have hread (e : EnvironmentName) :
      Profile.read ((template t e).fields (Path.ofText (cwd.absoluteText s)))
        = .ok ((template t e).profile (cwd.resolve (.ofText s))) := by
    rw [hroot]
    exact Template.read_fields _ _
  simp only [ofSelectors, ht, hs, templates, List.map_cons, List.map_nil, ofFields, readNamed,
    hread, Checked.orRefuse_ok]
  rfl

end ProfileTable

end BundleConfig
