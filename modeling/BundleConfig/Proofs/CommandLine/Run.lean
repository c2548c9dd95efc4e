/-
# `Proofs.CommandLine.Run` — commands that are given settings

A command makes logging and a builder of the settings it is given, and neither
can fail (`plan_settings`); of options it makes settings first, which cannot
fail either (`run_options`).  So there is always a configuration to resolve an
environment to, and it can be written down (`resolves_iff`).

Resolving plans one text, and what is done with it is all that the output
option changes (`plan_resolve`):

    no path      the text is printed
    a path       the text is to be written there
-/
import BundleConfig.CommandLine.Run
import BundleConfig.Proofs.CommandLine.Invocation
import BundleConfig.Proofs.Logging.State

namespace BundleConfig.CommandLine

/-! ## What is resolved -/

/-- With settings an environment is resolved to a configuration: the builder
of the settings exists, and this is what it builds. -/
def Resolves (cwd : AbsolutePath) (s : Settings) (e : EnvironmentName)
    (c : ResolvedConfiguration) : Prop :=
  ∃ b, Builder.ofSettingValues cwd s Builder.defaultLogger = .ok b ∧
    (b.build (.text (Choice.name e)) []).result = .ok c

variable {cwd : AbsolutePath} {s : Settings} {e : EnvironmentName} {c : ResolvedConfiguration}

theorem Resolves.build_eq (h : Resolves cwd s e c) :
    ((Builder.ofSettings cwd s Builder.defaultLogger).build (.text (Choice.name e)) []).result
      = .ok c := by
  obtain ⟨b, hb, hc⟩ := h
  rw [Builder.ofSettingValues_eq] at hb
  cases hb
  exact hc

/-- There is one such configuration. -/
theorem resolves_iff : Resolves cwd s e c ↔
    c = Builder.configuration e ((ProfileTable.ofTarget cwd s.target s.uiRoot).profile e)
      s.devServerHost s.devServerPort := by
  have hmode : resolveEnvironment (.text (Choice.name e)) = .ok e :=
    resolveEnvironment_eq_ok_iff.2 rfl
  have hresult := Builder.build_result (b := Builder.ofSettings cwd s Builder.defaultLogger) rfl
    (Value.readPort_int s.devServerPort) (.text (Choice.name e)) []
  rw [hmode] at hresult
  constructor
  · intro h
    rw [h.build_eq] at hresult
    exact Except.ok.inj hresult
  · rintro rfl
    exact ⟨_, Builder.ofSettingValues_eq cwd s Builder.defaultLogger, hresult⟩

/-! ## What is done with it -/

/-- A command that is given settings plans with their logging and their builder. -/
theorem plan_settings (cwd : AbsolutePath) (s : Settings) (i : Invocation) :
    plan cwd i (.settings s) = planCommand (.only (.ofSettings s))
      (.ok (Builder.ofSettings cwd s Builder.defaultLogger)) i.command := by
  have hl := Logging.reset.ofSettings_eq s
  unfold plan planSettings
  simp only [hl, Builder.ofSettingValues_eq]

/-- A command that is given options plans with their settings, -/
theorem plan_options (cwd : AbsolutePath) (i : Invocation) :
    plan cwd i .options = plan cwd i (.settings (i.options.settings cwd)) := by
  unfold plan
  simp only [GlobalOptions.ofOverrides_overrides]

/-- and does what it does with these. -/
theorem run_options (cwd : AbsolutePath) (files : FileStore) (i : Invocation) :
    run cwd .options files i = run cwd (.settings (i.options.settings cwd)) files i := by
  rw [run, plan_options]
  rfl

/-- Behind what was logged, resolving prints the text of the configuration or
has it written, as it was asked. -/
theorem plan_resolve (h : Resolves cwd s e c) : ∃ stderr : List Emission, ∀ o,
    plan cwd ⟨o, .resolve (Choice.name e) none⟩ (.settings s)
      = .done ⟨0, line (configurationText c), stderr.map .logged⟩ ∧
    ∀ path, plan cwd ⟨o, .resolve (Choice.name e) (some path)⟩ (.settings s)
      = .write (stderr.map .logged) path (line (configurationText c)) := by
  have hbuild := h.build_eq
  let outcome := (Builder.ofSettings cwd s Builder.defaultLogger).build (.text (Choice.name e)) []
  refine ⟨outcome.records.flatMap (Logging.only (.ofSettings s)).emit, fun o => ⟨?_, fun path => ?_⟩⟩
  · simp only [plan_settings, planCommand, planBuild, hbuild, outcome]
  · simp only [plan_settings, planCommand, planBuild, hbuild, outcome]

end BundleConfig.CommandLine
