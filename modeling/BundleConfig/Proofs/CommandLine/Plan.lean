/-
# `Proofs.CommandLine.Plan` — what commands plan, and carrying it out

A command plans before it writes anything.  Which plan it is hangs on its mode
alone (`planBuild_of_unknown`, `planBuild_of_build`):

    the mode names no environment     the complaint, and exit code 1
    it names one                      what the command does with its configuration

With settings there always is a builder that can build, so that these are all
the plans there are (`Plans`, `plans_plan`): none of them fails.

A plan is carried out on anything that can be written to (`carriedOut`).  A
write that fails leaves it as it is; it may fail for any reason, also for those
that a store never has.
-/
import BundleConfig.Proofs.Builder.Outcome
import BundleConfig.Proofs.CommandLine.Run
import BundleConfig.Proofs.Text.Quoted

namespace BundleConfig

/-- The mode that a command is given, if it takes one. -/
def Command.mode? : Command → Option String
  | .resolve mode _ => some mode
  | .features mode => some mode
  | .profiles => none

/-- The file that a command is to write, if it is given one. -/
def Command.output? : Command → Option Path
  | .resolve _ output => output
  | .features _ => none
  | .profiles => none

/-- The settings that a command works with: those that were given, or those of
its options.  With a builder of its own it has none. -/
def Wiring.settings? (cwd : AbsolutePath) (o : GlobalOptions) : Wiring → Option Settings
  | .options => some (o.settings cwd)
  | .settings s => some s
  | .builder _ => none

/-- A plan carried out, where `write` writes a file to what there is before. -/
def Plan.carriedOut {σ : Type} (write : Path → String → Except WriteError σ) (before : σ) :
    Plan → Except Failure (Printed × σ)
  | .done printed => .ok (printed, before)
  | .failed f => .error f
  | .write stderr path text =>
    match write path text with
    | .ok after => .ok (CommandLine.printedWrite stderr path none, after)
    | .error err => .ok (CommandLine.printedWrite stderr path (some err), before)

namespace CommandLine

theorem execute_eq (files : FileStore) (p : Plan) : execute files p = p.carriedOut files.write files := by
  cases p with
  | done printed => rfl
  | failed f => rfl
  | write stderr path text =>
    cases hwrite : files.write path text with
    | ok after => simp only [execute, Plan.carriedOut, hwrite]
    | error err => simp only [execute, Plan.carriedOut, hwrite]

/-- A command plans with the settings that it works with. -/
theorem plan_of_settings {cwd : AbsolutePath} {w : Wiring} {i : Invocation} {s : Settings}
    (h : w.settings? cwd i.options = some s) : plan cwd i w = plan cwd i (.settings s) := by
  cases w with
  | options =>
    cases h
    exact plan_options cwd i
  | settings s' =>
    cases h
    rfl
  | builder b => cases h

/-! ## The complaint about a mode -/

/-- What is said of a text that names no environment. -/
def unknownMessage (mode : String) : String :=
  (ConfigurationError.unknownEnvironment (.text mode)).message

/-- The message quotes the text, and so it is printable whatever the text holds. -/
theorem isPrintable_unknownMessage (mode : String) :
    ∀ c ∈ (unknownMessage mode).toList, Text.isPrintable c = true := by
  have hbefore : "unknown environment: ".toList.all Text.isPrintable = true := by decide
  have hbehind : " (expected one of: development, production)".toList.all Text.isPrintable = true := by
    decide
  rw [unknownMessage, Builder.message_unknownEnvironment, String.toList_append, String.toList_append,
    List.forall_mem_append, List.forall_mem_append]
  exact ⟨⟨List.all_eq_true.1 hbefore, Text.isPrintable_quote mode⟩, List.all_eq_true.1 hbehind⟩

/-- The complaint is one line, and nothing of the message is lost in it. -/
theorem complaint_unknownMessage (mode : String) :
    complaint (unknownMessage mode) = .message (line ("✗ " ++ unknownMessage mode)) := by
  have hmark : Text.controlStart ∉ "✗ ".toList := by decide
  have hmessage : Text.controlStart ∉ (unknownMessage mode).toList :=
    Text.not_mem_of_isPrintable (isPrintable_unknownMessage mode) (by decide)
  have hnone : Text.controlStart ∉ ("✗ " ++ unknownMessage mode).toList := by
    rw [String.toList_append, List.mem_append]
    exact not_or.2 ⟨hmark, hmessage⟩
  rw [complaint, printedLine, Text.plain_of_not_mem hnone, String.ofList_toList]

/-! ## Plans of a builder -/

/-- What is logged of a build. -/
def buildLog (l : Logging) (b : Builder) (mode : String) : List Emission :=
  (b.build (.text mode) []).records.flatMap l.emit

/-- What is printed where a mode is unknown: the complaint behind the warning. -/
def refusal (l : Logging) (b : Builder) (mode : String) : Printed where
  exitCode := 1
  stdout := ""
  stderr := (buildLog l b mode).map .logged ++ [.message (line ("✗ " ++ unknownMessage mode))]

/-- A mode that names no environment ends every command the same way. -/
theorem planBuild_of_unknown (l : Logging) (b : Builder) {mode : String}
    (h : ¬ (Value.text mode).IsMode)
    (next : List Notice → ResolvedConfiguration → Plan) :
    planBuild l (.ok b) mode next = .done (refusal l b mode) := by
  have hbuild := b.build_of_not_mode (not_exists.1 (mt Value.isMode_iff.2 h)) []
  simp only [planBuild, refusal, buildLog, hbuild]
  rw [← complaint_unknownMessage]
  rfl

/-- What a build returns is what the command goes on with. -/
theorem planBuild_of_build (l : Logging) {b : Builder} {mode : String} {c : ResolvedConfiguration}
    (h : (b.build (.text mode) []).result = .ok c)
    (next : List Notice → ResolvedConfiguration → Plan) :
    planBuild l (.ok b) mode next = next ((buildLog l b mode).map .logged) c := by
  simp only [planBuild, buildLog, h]

/-! ## Plans of settings -/

/-- The builder of settings, under the logger that commands build under. -/
def builderOf (cwd : AbsolutePath) (s : Settings) : Builder :=
  .ofSettings cwd s Builder.defaultLogger

/-- What is logged of a build with settings. -/
def logOf (cwd : AbsolutePath) (s : Settings) (mode : String) : List Emission :=
  buildLog (.only (.ofSettings s)) (builderOf cwd s) mode

/-- What is printed with settings where a mode is unknown. -/
def refusalOf (cwd : AbsolutePath) (s : Settings) (mode : String) : Printed :=
  refusal (.only (.ofSettings s)) (builderOf cwd s) mode

/-- The plans that there are with settings. -/
inductive Plans (cwd : AbsolutePath) (s : Settings) : Command → Plan → Prop
  | unknown {command : Command} {mode : String} :
      command.mode? = some mode → ¬ (Value.text mode).IsMode →
      Plans cwd s command (.done (refusalOf cwd s mode))
  | shown {e : EnvironmentName} {c : ResolvedConfiguration} :
      Resolves cwd s e c →
      Plans cwd s (.resolve (Choice.name e) none)
        (.done ⟨0, line (configurationText c), (logOf cwd s (Choice.name e)).map .logged⟩)
  | written {e : EnvironmentName} {c : ResolvedConfiguration} (path : Path) :
      Resolves cwd s e c →
      Plans cwd s (.resolve (Choice.name e) (some path))
        (.write ((logOf cwd s (Choice.name e)).map .logged) path (line (configurationText c)))
  | features {e : EnvironmentName} {c : ResolvedConfiguration} :
      Resolves cwd s e c →
      Plans cwd s (.features (Choice.name e))
        (.done ⟨0, printedLine c.wasmPack.featureArgs, (logOf cwd s (Choice.name e)).map .logged⟩)
  | profiles :
      Plans cwd s .profiles (.done ⟨0, tableText (builderOf cwd s).table, []⟩)

variable {cwd : AbsolutePath} {s : Settings} {command : Command}

/-- A text names an environment, and then settings have a configuration for it,
or it names none. -/
theorem resolves_or_unknown (cwd : AbsolutePath) (s : Settings) (mode : String) :
    (∃ e c, mode = Choice.name e ∧ Resolves cwd s e c) ∨ ¬ (Value.text mode).IsMode := by
  by_cases h : (Value.text mode).IsMode
  · obtain ⟨e, he⟩ := Value.isMode_iff.1 h
    exact .inl ⟨e, _, Option.some.inj he, resolves_iff.2 rfl⟩
  · exact .inr h

theorem plans_plan (cwd : AbsolutePath) (s : Settings) (i : Invocation) :
    Plans cwd s i.command (plan cwd i (.settings s)) := by
  rw [plan_settings]
  cases i.command with
  | resolve mode output =>
    rcases resolves_or_unknown cwd s mode with ⟨e, c, rfl, hc⟩ | hunknown
    · cases output with
      | none =>
        rw [planCommand, planBuild_of_build _ hc.build_eq]
        exact .shown hc
      | some path =>
        rw [planCommand, planBuild_of_build _ hc.build_eq]
        exact .written path hc
    · cases output with
      | none =>
        rw [planCommand, planBuild_of_unknown _ _ hunknown]
        exact .unknown rfl hunknown
      | some path =>
        rw [planCommand, planBuild_of_unknown _ _ hunknown]
        exact .unknown rfl hunknown
  | features mode =>
    rcases resolves_or_unknown cwd s mode with ⟨e, c, rfl, hc⟩ | hunknown
    · rw [planCommand, planBuild_of_build _ hc.build_eq]
      exact .features hc
    · rw [planCommand, planBuild_of_unknown _ _ hunknown]
      exact .unknown rfl hunknown
  | profiles => exact .profiles

/-- An unknown mode is refused before anything is written, and in the same
words by every command. -/
theorem Plans.eq_refusal {p : Plan} (h : Plans cwd s command p) {mode : String}
    (hmode : command.mode? = some mode) (hunknown : ¬ (Value.text mode).IsMode) :
    p = .done (refusalOf cwd s mode) := by
  have hresolves : ∀ e : EnvironmentName, command.mode? ≠ some (Choice.name e) := by
    intro e he
    rw [hmode] at he
    cases he
    exact hunknown (Value.isMode_iff.2 ⟨e, rfl⟩)
  cases h with
  | unknown hmode' =>
    rw [hmode] at hmode'
    cases hmode'
    rfl
  | @shown e => exact absurd rfl (hresolves e)
  | @written e => exact absurd rfl (hresolves e)
  | @features e => exact absurd rfl (hresolves e)
  | profiles => cases hmode

/-- With settings a plan is carried out to its end. -/
theorem Plans.carriedOut_ok {p : Plan} (h : Plans cwd s command p)
    {σ : Type} (write : Path → String → Except WriteError σ) (before : σ) :
    ∃ printed after, p.carriedOut write before = .ok (printed, after) := by
  cases h with
  | unknown => exact ⟨_, _, rfl⟩
  | shown => exact ⟨_, _, rfl⟩
  | features => exact ⟨_, _, rfl⟩
  | profiles => exact ⟨_, _, rfl⟩
  | @written e c path hc =>
    cases hw : write path (line (configurationText c)) with
    | ok after => exact ⟨_, _, by rw [Plan.carriedOut, hw]⟩
    | error err => exact ⟨_, _, by rw [Plan.carriedOut, hw]⟩

end CommandLine

end BundleConfig
