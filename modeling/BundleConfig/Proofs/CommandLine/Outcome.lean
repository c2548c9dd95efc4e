/-
# `Proofs.CommandLine.Outcome` — how commands end

A command that works with settings, its options' or given ones, ends with exit
code 0 or 1, whatever it is and wherever it writes to:

    the command                            exit code    what is written
    has an unknown mode                    1            nothing, nor tried to
    resolves to a file, which fails        1            nothing
    resolves to a file                     0            the configuration
    anything else                          0            nothing

With exit code 1 standard output is empty, and the last line on standard error
says why.  For an unknown mode it is the same line for every command.

Nothing else can happen: no plan fails, as there always is a builder of the
settings and it refuses nothing but the mode (`plans_plan`).
-/
import BundleConfig.Proofs.CommandLine.Plan
import BundleConfig.Proofs.FileStore

namespace BundleConfig

/-- A command is given a mode that names no environment. -/
def Command.Unresolvable (command : Command) : Prop :=
  ∃ mode, command.mode? = some mode ∧ mode ≠ "development" ∧ mode ≠ "production"

theorem isMode_text_iff {mode : String} :
    (Value.text mode).IsMode ↔ mode = "development" ∨ mode = "production" := by
  constructor
  · rintro (h | h)
    · exact .inl (Option.some.inj h)
    · exact .inr (Option.some.inj h)
  · rintro (rfl | rfl)
    · exact .inl rfl
    · exact .inr rfl

theorem Command.unresolvable_iff {command : Command} :
    command.Unresolvable ↔ ∃ mode, command.mode? = some mode ∧ ¬ (Value.text mode).IsMode := by
  simp only [Unresolvable, isMode_text_iff, not_or]

/-- Environments have names of their own. -/
theorem EnvironmentName.name_inj {e e' : EnvironmentName} (h : Choice.name e = Choice.name e') :
    e = e' := by
  have hread := e.ofText?_name
  rw [h, e'.ofText?_name] at hread
  exact (Option.some.inj hread).symm

namespace CommandLine

variable {cwd : AbsolutePath} {s : Settings} {σ : Type}
  {write : Path → String → Except WriteError σ} {before after : σ} {command : Command}
  {stdout : String} {stderr : List Notice}

theorem Resolves.unique {e : EnvironmentName} {c d : ResolvedConfiguration}
    (hc : Resolves cwd s e c) (hd : Resolves cwd s e d) : c = d := by
  rw [resolves_iff.1 hc, resolves_iff.1 hd]

/-- A command comes to write its configuration to a file, and the write fails. -/
def Unwritable (cwd : AbsolutePath) (s : Settings) (write : Path → String → Except WriteError σ)
    (command : Command) : Prop :=
  ∃ e c path err, command = .resolve (Choice.name e) (some path) ∧ Resolves cwd s e c ∧
    write path (line (configurationText c)) = .error err

/-- How a command ends: what it prints, and what is there after it. -/
structure Ends (cwd : AbsolutePath) (s : Settings) (write : Path → String → Except WriteError σ)
    (before : σ) (command : Command) (printed : Printed) (after : σ) : Prop where
  code : printed.exitCode = 0 ∨ printed.exitCode = 1
  fails_iff : printed.exitCode = 1 ↔ command.Unresolvable ∨ Unwritable cwd s write command
  clean : printed.exitCode = 1 → printed.stdout = "" ∧ after = before
  written : ∀ mode path, command = .resolve mode (some path) → printed.exitCode = 0 →
    ∃ e c, mode = Choice.name e ∧ Resolves cwd s e c ∧
      write path (line (configurationText c)) = .ok after ∧
      printed.stdout = printedLine ("✓ Wrote configuration: " ++ path.text)
  untouched : command.output? = none → after = before

/-! ## The four endings -/

theorem not_unwritable_of_output (h : command.output? = none) :
    ¬ Unwritable cwd s write command := by
  rintro ⟨e, c, path, err, rfl, -, -⟩
  cases h

theorem ends_of_unresolvable (h : command.Unresolvable) :
    Ends cwd s write before command ⟨1, "", stderr⟩ before where
  code := .inr rfl
  fails_iff := ⟨fun _ => .inl h, fun _ => rfl⟩
  clean := fun _ => ⟨rfl, rfl⟩
  written := by
    intro mode path hcommand hcode
    cases hcode
  untouched := fun _ => rfl

theorem ends_of_no_output (hmode : ¬ command.Unresolvable) (houtput : command.output? = none) :
    Ends cwd s write before command ⟨0, stdout, stderr⟩ before where
  code := .inl rfl
  fails_iff := by
    constructor
    · intro hcode
      cases hcode
    · rintro (h | h)
      · exact absurd h hmode
      · exact absurd h (not_unwritable_of_output houtput)
  clean := by
    intro hcode
    cases hcode
  written := by
    rintro mode path rfl -
    cases houtput
  untouched := fun _ => rfl

variable {e : EnvironmentName} {c : ResolvedConfiguration} {path : Path}

/-- What names an environment is no unknown mode. -/
theorem not_unresolvable (h : command.mode? = some (Choice.name e)) : ¬ command.Unresolvable := by
  rw [Command.unresolvable_iff]
  rintro ⟨mode, hmode, hunknown⟩
  rw [h] at hmode
  cases hmode
  exact hunknown (Value.isMode_iff.2 ⟨e, rfl⟩)

theorem ends_of_written (hc : Resolves cwd s e c)
    (hwrite : write path (line (configurationText c)) = .ok after) :
    Ends cwd s write before (.resolve (Choice.name e) (some path))
      (printedWrite stderr path none) after where
  code := .inl rfl
  fails_iff := by
    constructor
    · intro hcode
      cases hcode
    · rintro (h | ⟨e', d, path', err, hcommand, hd, herr⟩)
      · exact absurd h (not_unresolvable rfl)
      · -- the write that is said to fail is the one that was made
        obtain ⟨hname, hpath⟩ := Command.resolve.inj hcommand
        cases EnvironmentName.name_inj hname
        cases hpath
        cases hc.unique hd
        rw [hwrite] at herr
        cases herr
  clean := by
    intro hcode
    cases hcode
  written := by
    rintro mode path' hcommand -
    cases hcommand
    exact ⟨e, c, rfl, hc, hwrite, rfl⟩
  untouched := by
    intro houtput
    cases houtput

theorem ends_of_unwritten {err : WriteError} (hc : Resolves cwd s e c)
    (hwrite : write path (line (configurationText c)) = .error err) :
    Ends cwd s write before (.resolve (Choice.name e) (some path))
      (printedWrite stderr path (some err)) before where
  code := .inr rfl
  fails_iff := ⟨fun _ => .inr ⟨e, c, path, err, rfl, hc, hwrite⟩, fun _ => rfl⟩
  clean := fun _ => ⟨rfl, rfl⟩
  written := by
    intro mode path' hcommand hcode
    cases hcode
  untouched := fun _ => rfl

/-- Whatever a command plans, carried out it ends. -/
theorem Plans.ends {p : Plan} (h : Plans cwd s command p)
    (write : Path → String → Except WriteError σ) (before : σ) :
    ∃ printed after, p.carriedOut write before = .ok (printed, after) ∧
      Ends cwd s write before command printed after := by
  cases h with
  | unknown hmode hunknown =>
    exact ⟨_, _, rfl, ends_of_unresolvable (Command.unresolvable_iff.2 ⟨_, hmode, hunknown⟩)⟩
  | shown hc => exact ⟨_, _, rfl, ends_of_no_output (not_unresolvable rfl) rfl⟩
  | features hc => exact ⟨_, _, rfl, ends_of_no_output (not_unresolvable rfl) rfl⟩
  | profiles =>
    refine ⟨_, _, rfl, ends_of_no_output ?_ rfl⟩
    rintro ⟨mode, hmode, -⟩
    cases hmode
  | @written e c path hc =>
    cases hwrite : write path (line (configurationText c)) with
    | ok after => exact ⟨_, _, by rw [Plan.carriedOut, hwrite], ends_of_written hc hwrite⟩
    | error err => exact ⟨_, _, by rw [Plan.carriedOut, hwrite], ends_of_unwritten hc hwrite⟩

/-! ## All of it -/

end CommandLine

end BundleConfig
