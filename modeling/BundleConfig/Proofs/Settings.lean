/-
# `Proofs.Settings` — what accepted overrides say

Settings are read from overrides field by field, absent values passed over.
`given?` is the override that is looked at, if there is one.  That overrides
are accepted says of each field that what is given for it can be read, to the
value that the settings hold, and that a field with nothing given has its
default (`ofOverrides_eq_ok_iff`):

    given        read given = .ok value
    not given    value = default

With settings there is always a builder (`Builder.ofSettingValues_eq`).
-/
import BundleConfig.Proofs.Builder.Assembly
import BundleConfig.Proofs.ProfileTable

namespace BundleConfig

namespace Fields

/-- The value under a name, absent ones passed over. -/
def given? (fs : Fields) (name : String) : Option Value :=
  (fs.filter fun f => !f.2.isNull).lookup name

@[simp] theorem given?_cons (key name : String) (v : Value) (fs : Fields) :
    given? ((key, v) :: fs) name
      = if name = key ∧ v.isNull = false then some v else given? fs name := by
  unfold given?
  cases hv : v.isNull with
  | true => simp [hv]
  | false =>
    by_cases h : name = key
    · simp [hv, h]
    · simp [hv, h, List.lookup_cons, beq_eq_false_iff_ne.2 h]

@[simp] theorem given?_nil (name : String) : given? [] name = none := rfl

end Fields

/-! ## Overrides -/

namespace Settings

/-- What an accepted override, or its lack, says of a field. -/
def Holds {α : Type} (overrides : Fields) (name : String) (read : Value → Checked α)
    (default a : α) : Prop :=
  (∀ v, overrides.given? name = some v → read v = .ok a) ∧
    (overrides.given? name = none → a = default)

theorem read_eq_ok_iff {cwd : AbsolutePath} {fs : Fields} {s : Settings} :
    read cwd fs = .ok s ↔
      fs.optional "log_level" (Value.readChoice LogLevel) .info = .ok s.logLevel ∧
      fs.optional "json_logs" Value.readBoolean false = .ok s.jsonLogs ∧
      fs.optional "target" (Value.readChoice DeploymentTarget) .web = .ok s.target ∧
      fs.optional "ui_root" Value.readPath cwd.path = .ok s.uiRoot ∧
      fs.optional "dev_server_host" Value.readText DevServer.defaultHost = .ok s.devServerHost ∧
      fs.optional "dev_server_port" Value.readPort DevServer.defaultPort = .ok s.devServerPort := by
  constructor
  · intro h
    obtain ⟨_, port, h₅, hport, rfl⟩ := Checked.also_eq_ok_iff.1 h
    obtain ⟨_, host, h₄, hhost, rfl⟩ := Checked.also_eq_ok_iff.1 h₅
    obtain ⟨_, root, h₃, hroot, rfl⟩ := Checked.also_eq_ok_iff.1 h₄
    obtain ⟨_, target, h₂, htarget, rfl⟩ := Checked.also_eq_ok_iff.1 h₃
    obtain ⟨_, json, h₁, hjson, rfl⟩ := Checked.also_eq_ok_iff.1 h₂
    obtain ⟨_, level, h₀, hlevel, rfl⟩ := Checked.also_eq_ok_iff.1 h₁
    cases h₀
    exact ⟨hlevel, hjson, htarget, hroot, hhost, hport⟩
  · rintro ⟨hlevel, hjson, htarget, hroot, hhost, hport⟩
    simp only [read, hlevel, hjson, htarget, hroot, hhost, hport, Checked.give_eq,
      Checked.ok_also_ok]

/-- When overrides are accepted, and as what. -/
theorem ofOverrides_eq_ok_iff {cwd : AbsolutePath} {overrides : Fields} {s : Settings} :
    ofOverrides cwd overrides = .ok s ↔
      Holds overrides "log_level" (Value.readChoice LogLevel) .info s.logLevel ∧
      Holds overrides "json_logs" Value.readBoolean false s.jsonLogs ∧
      Holds overrides "target" (Value.readChoice DeploymentTarget) .web s.target ∧
      Holds overrides "ui_root" Value.readPath cwd.path s.uiRoot ∧
      Holds overrides "dev_server_host" Value.readText DevServer.defaultHost s.devServerHost ∧
      Holds overrides "dev_server_port" Value.readPort DevServer.defaultPort s.devServerPort := by
  unfold ofOverrides
  rw [Checked.orRefuse_eq_ok_iff, read_eq_ok_iff]
  simp only [Fields.optional_eq_ok_iff, Holds, Fields.given?]

end Settings

/-! ## What settings give -/

/-- With settings there is a builder. -/
theorem Builder.ofSettingValues_eq (cwd : AbsolutePath) (s : Settings) (logger : String) :
    ofSettingValues cwd s logger = .ok (ofSettings cwd s logger) := by
  have ht : (Value.member (.target s.target)).choose? DeploymentTarget = some s.target :=
    s.target.ofText?_name
  have htable : ProfileTable.ofSelectors cwd (.member (.target s.target)) (.text s.uiRoot.text)
      = .ok (.ofTarget cwd s.target (.ofText s.uiRoot.text)) :=
    ProfileTable.ofSelectors_eq cwd ht rfl
  rw [ofSettingValues, ofSelectors, htable, s.uiRoot.ofText_text]
  rfl

end BundleConfig
