/-
# `Proofs.CommandLine.LoggingOptions` — logging options change what is logged

Two options for all commands, `--verbose` and `--json-logs`, are about logging.
With one or both of them, anywhere among the options, a command line is read as
it is without (`ofArguments_of_flags`), and a command does what it does
without, but for what is logged:

    exit code, standard output         the same
    the text written, and where to     the same
    standard error                     the same messages, beside the log records

This follows the options all the way down.  They change two fields of the
settings, which only logging looks at; and of logging a command keeps what its
build has written, in front of its own messages (`planCommand_agrees`).

Where settings are given in place of the options, no option is looked at.
-/
import BundleConfig.Proofs.CommandLine.Plan

namespace BundleConfig

open OptionSpec (Written)

/-! ## Agreement beside what is logged -/

namespace Notice

/-- The messages among what is on standard error. -/
def messages (stderr : List Notice) : List String :=
  stderr.filterMap fun
    | .logged _ => none
    | .message text => some text

theorem messages_append (stderr more : List Notice) :
    messages (stderr ++ more) = messages stderr ++ messages more :=
  List.filterMap_append

theorem messages_logged (es : List Emission) : messages (es.map .logged) = [] := by
  induction es with
  | nil => rfl
  | cons e es ih => exact ih

end Notice

open Notice (messages_append messages_logged)

/-- What is printed agrees in all but what was logged. -/
structure Printed.AgreesBesideLog (p q : Printed) : Prop where
  exitCode : p.exitCode = q.exitCode
  stdout : p.stdout = q.stdout
  messages : Notice.messages p.stderr = Notice.messages q.stderr

/-- Behind what was logged, whatever it was, the same is said. -/
theorem Printed.agrees_behind_log (exitCode : Nat) (stdout : String) (es es' : List Emission)
    (more : List Notice) : Printed.AgreesBesideLog ⟨exitCode, stdout, es.map .logged ++ more⟩
      ⟨exitCode, stdout, es'.map .logged ++ more⟩ where
  exitCode := rfl
  stdout := rfl
  messages := by rw [messages_append, messages_append, messages_logged, messages_logged]

/-- Plans agree in all but what was logged: they write the same, and to the same
place. -/
inductive Plan.AgreesBesideLog : Plan → Plan → Prop
  | done {p q : Printed} : p.AgreesBesideLog q → AgreesBesideLog (.done p) (.done q)
  | write (es es' : List Emission) (path : Path) (text : String) :
      AgreesBesideLog (.write (es.map .logged) path text) (.write (es'.map .logged) path text)
  | failed (f : Failure) : AgreesBesideLog (.failed f) (.failed f)

/-- Plans that agree and are carried out agree in what they print, and leave the
same behind. -/
theorem Plan.AgreesBesideLog.carriedOut {p q : Plan} (h : p.AgreesBesideLog q) {σ : Type}
    {write : Path → String → Except WriteError σ} {before after : σ} {printed : Printed}
    (hp : p.carriedOut write before = .ok (printed, after)) :
    ∃ printed', q.carriedOut write before = .ok (printed', after) ∧
      printed.AgreesBesideLog printed' := by
  cases h with
  | done hpq =>
    cases hp
    exact ⟨_, rfl, hpq⟩
  | failed f => cases hp
  | write es es' path text =>
    cases hwrite : write path text with
    | ok there =>
      simp only [Plan.carriedOut, hwrite] at hp ⊢
      cases hp
      refine ⟨_, rfl, rfl, rfl, ?_⟩
      exact (messages_logged es).trans (messages_logged es').symm
    | error err =>
      simp only [Plan.carriedOut, hwrite] at hp ⊢
      cases hp
      exact ⟨_, rfl, Printed.agrees_behind_log 1 "" es es' _⟩

/-- Plans are carried out alike wherever they write to: both to their end, with
the same left behind, and what is printed agrees in all but what was logged. -/
def Plan.EndAlike (p q : Plan) : Prop :=
  ∀ (σ : Type) (write : Path → String → Except WriteError σ) (before : σ),
    ∃ printed printed' after, p.carriedOut write before = .ok (printed, after) ∧
      q.carriedOut write before = .ok (printed', after) ∧ printed.AgreesBesideLog printed'

/-! ## Commands -/

/-- Options without those about logging. -/
def GlobalOptions.quiet (o : GlobalOptions) : GlobalOptions :=
  { o with verbose := false, jsonLogs := false }

namespace CommandLine

/-- A build may be logged as it will, if what follows it does not look at that. -/
theorem planBuild_agrees (l l' : Logging) (made : Except Failure Builder) (mode : String)
    {next : List Notice → ResolvedConfiguration → Plan}
    (hnext : ∀ (es es' : List Emission) (c : ResolvedConfiguration),
      (next (es.map .logged) c).AgreesBesideLog (next (es'.map .logged) c)) :
    (planBuild l made mode next).AgreesBesideLog (planBuild l' made mode next) := by
  cases made with
  | error f =>
    cases f with
    | configuration e => exact .done (Printed.agrees_behind_log 1 "" [] [] _)
    | _ => exact .failed _
  | ok b =>
    simp only [planBuild]
    cases (b.build (.text mode) []).result with
    | ok c => exact hnext _ _ c
    | error f =>
      cases f with
      | configuration e => exact .done (Printed.agrees_behind_log 1 "" _ _ _)
      | _ => exact .failed _

/-- Of logging a command keeps what is logged, and nothing else. -/
theorem planCommand_agrees (l l' : Logging) (made : Except Failure Builder) (command : Command) :
    (planCommand l made command).AgreesBesideLog (planCommand l' made command) := by
  have hdone (stdout : String) (es es' : List Emission) :
      Plan.AgreesBesideLog (.done ⟨0, stdout, es.map .logged⟩) (.done ⟨0, stdout, es'.map .logged⟩) :=
    .done ⟨rfl, rfl, (messages_logged es).trans (messages_logged es').symm⟩
  cases command with
  | resolve mode output =>
    cases output with
    | none =>
      rw [planCommand, planCommand]
      refine planBuild_agrees l l' made mode ?_
      intro es es' c
      exact hdone _ es es'
    | some path =>
      rw [planCommand, planCommand]
      refine planBuild_agrees l l' made mode ?_
      intro es es' c
      exact .write es es' path _
  | features mode =>
    rw [planCommand, planCommand]
    refine planBuild_agrees l l' made mode ?_
    intro es es' c
    exact hdone _ es es'
  | profiles =>
    cases made with
    | error f => exact .failed f
    | ok b => exact hdone _ [] []

/-- The builder of options does not look at those about logging. -/
theorem builderOf_settings (cwd : AbsolutePath) (o : GlobalOptions) :
    builderOf cwd (o.settings cwd) = builderOf cwd (o.quiet.settings cwd) := rfl

theorem plan_agrees (cwd : AbsolutePath) {i j : Invocation} (hcommand : i.command = j.command)
    (hoptions : i.options.quiet = j.options.quiet) :
    (plan cwd i .options).AgreesBesideLog (plan cwd j .options) := by
  rw [plan_of_settings (w := .options) rfl, plan_of_settings (w := .options) rfl, plan_settings,
    plan_settings]
  have hbuilder : builderOf cwd (i.options.settings cwd) = builderOf cwd (j.options.settings cwd) := by
    rw [builderOf_settings, hoptions, ← builderOf_settings]
  rw [builderOf, builderOf] at hbuilder
  rw [hbuilder, hcommand]
  exact planCommand_agrees _ _ _ j.command

theorem plan_endAlike (cwd : AbsolutePath) {i j : Invocation} (hcommand : i.command = j.command)
    (hoptions : i.options.quiet = j.options.quiet) :
    (plan cwd i .options).EndAlike (plan cwd j .options) := by
  intro σ write before
  have hplans := plans_plan cwd (i.options.settings cwd) i
  rw [← plan_of_settings (w := .options) rfl] at hplans
  obtain ⟨printed, after, hprinted⟩ := hplans.carriedOut_ok write before
  obtain ⟨printed', hprinted', hagrees⟩ := (plan_agrees cwd hcommand hoptions).carriedOut hprinted
  exact ⟨printed, printed', after, hprinted, hprinted', hagrees⟩

end CommandLine

/-! ## Command lines -/

namespace Scanned

variable {κ : Type} [DecidableEq κ] {s t : Scanned κ} {key : κ}

/-- Two scans found the same of an option. -/
def SameAbout (s t : Scanned κ) (key : κ) : Prop :=
  s.given.filter (fun o => decide (o.key = key)) = t.given.filter (fun o => decide (o.key = key))

theorem SameAbout.value?_eq (h : s.SameAbout t key) : s.value? key = t.value? key := by
  have hfind (u : Scanned κ) : u.given.reverse.find? (fun o => decide (o.key = key))
      = (u.given.filter fun o => decide (o.key = key)).reverse.head? := by
    rw [← List.head?_filter, List.filter_reverse]
  rw [SameAbout] at h
  rw [value?, value?, hfind s, hfind t, h]

theorem SameAbout.isGiven_eq (h : s.SameAbout t key) : s.isGiven key = t.isGiven key := by
  have hany (u : Scanned κ) : u.isGiven key
      = (u.given.filter fun o => decide (o.key = key)).any fun _ => true := by
    rw [List.any_filter]
    simp only [isGiven, Bool.and_true]
  rw [SameAbout] at h
  rw [hany s, hany t, h]

end Scanned

namespace GlobalOption

/-- Whether an option is about logging. -/
def isLogging : GlobalOption → Bool
  | .verbose | .jsonLogs => true
  | .target | .uiRoot | .host | .port | .help => false

/-- An option about logging as it may be written. -/
structure LogFlag (w : Written GlobalOption) : Prop where
  fits : w.Fits specs
  logging : w.spec.key.isLogging = true

theorem LogFlag.of_flag {s : OptionSpec GlobalOption} (hs : s ∈ specs)
    (hvalue : s.takesValue = false) (hlogging : s.key.isLogging = true) :
    LogFlag (.flag s) where
  fits := by
    refine ⟨hs, hvalue, ?_, ?_⟩
    · intro c hc
      cases hc
    · intro s' c h
      cases h
  logging := hlogging

theorem LogFlag.of_shortFlag {s : OptionSpec GlobalOption} {letter : Char} (hs : s ∈ specs)
    (hvalue : s.takesValue = false) (hletter : s.short = some letter)
    (hlogging : s.key.isLogging = true) : LogFlag (.shortFlag s letter) where
  fits := by
    refine ⟨hs, hvalue, ?_, ?_⟩
    · intro c hc
      cases hc
      exact hletter
    · intro s' c h
      cases h
  logging := hlogging

/-- Two scans found the same of all options that are not about logging, and left
the same. -/
structure SameBeside (s t : Scanned GlobalOption) : Prop where
  rest : s.rest = t.rest
  same : ∀ key : GlobalOption, key.isLogging = false → s.SameAbout t key

/-- What is found of options, some about logging, in front of what a scan found. -/
def found (ws flags : List (Written GlobalOption)) (s : Scanned GlobalOption) :
    Scanned GlobalOption where
  given := ws.map Written.occurrence ++ (flags.map Written.occurrence ++ s.given)
  rest := s.rest

/-- Options about logging, among others, leave what is found of the others. -/
theorem sameBeside_flags {flags flags' : List (Written GlobalOption)}
    (hflags : ∀ w ∈ flags, LogFlag w) (hflags' : ∀ w ∈ flags', LogFlag w)
    (ws : List (Written GlobalOption)) (s : Scanned GlobalOption) :
    SameBeside (found ws flags s) (found ws flags' s) where
  rest := rfl
  same := by
    intro key hkey
    have hnone {fs : List (Written GlobalOption)} (hfs : ∀ w ∈ fs, LogFlag w) :
        (fs.map Written.occurrence).filter (fun o => decide (o.key = key)) = [] := by
      rw [List.filter_eq_nil_iff]
      intro o ho
      obtain ⟨w, hw, rfl⟩ := List.mem_map.1 ho
      have hlogging := (hfs w hw).logging
      intro hsame
      rw [← of_decide_eq_true hsame] at hkey
      exact absurd (hlogging.symm.trans hkey) (by decide)
    simp only [Scanned.SameAbout, found, List.filter_append, hnone hflags, hnone hflags']

end GlobalOption

open GlobalOption (LogFlag SameBeside found sameBeside_flags)

variable {env : Environ} {s t : Scanned GlobalOption}

namespace GlobalOptions

theorem text?_eq_of_same (h : SameBeside s t) {key : GlobalOption} (hkey : key.isLogging = false) :
    text? env s key = text? env t key := by
  rw [text?, text?, (h.same key hkey).value?_eq]

/-- What was found of the options about logging has no part in reading the others. -/
theorem ofScanned_of_same (h : SameBeside s t) {o : GlobalOptions} (hs : ofScanned env s = .ok o) :
    ∃ o', ofScanned env t = .ok o' ∧ o'.quiet = o.quiet := by
  have htarget : text? env s .target = text? env t .target := text?_eq_of_same h rfl
  have hroot : text? env s .uiRoot = text? env t .uiRoot := text?_eq_of_same h rfl
  have hhost : text? env s .host = text? env t .host := text?_eq_of_same h rfl
  have hport : text? env s .port = text? env t .port := text?_eq_of_same h rfl
  simp only [ofScanned, htarget, hroot, hhost, hport] at hs ⊢
  split at hs
  · cases hs
    exact ⟨_, rfl, rfl⟩
  · cases hs
  · cases hs
  · cases hs

theorem ofArguments_eq_ok_iff {arguments rest : List String} {o : GlobalOptions} :
    ofArguments env arguments = .ok (o, rest) ↔
      ∃ s, OptionSpec.scan GlobalOption.specs false arguments = .ok s ∧
        s.isGiven .help = false ∧ ofScanned env s = .ok o ∧ s.rest = rest := by
  unfold ofArguments
  cases OptionSpec.scan GlobalOption.specs false arguments with
  | error e => simp
  | ok s =>
    cases hhelp : s.isGiven .help with
    | true => simp [hhelp]
    | false =>
      cases hoptions : ofScanned env s with
      | error e => simp [hhelp, hoptions]
      | ok options => simp [hhelp, hoptions]

end GlobalOptions

namespace Invocation

/-- An invocation is made of the options and then of the words behind them. -/
theorem ofArguments_eq_ok_iff {arguments : List String} {i : Invocation} :
    ofArguments env arguments = .ok i ↔
      ∃ rest, GlobalOptions.ofArguments env arguments = .ok (i.options, rest) ∧
        Command.ofArguments env rest = .ok i.command := by
  cases arguments with
  | nil =>
    constructor
    · intro h
      cases h
    · rintro ⟨rest, hoptions, hcommand⟩
      obtain ⟨s, hs, -, -, rfl⟩ := GlobalOptions.ofArguments_eq_ok_iff.1 hoptions
      cases hs
      cases hcommand
  | cons x xs =>
    rw [ofArguments, if_neg (by simp)]
    cases GlobalOptions.ofArguments env (x :: xs) with
    | error e => simp
    | ok read =>
      obtain ⟨o, rest⟩ := read
      constructor
      · intro h
        cases hcommand : Command.ofArguments env rest with
        | error e =>
          simp only [hcommand] at h
          cases h
        | ok command =>
          simp only [hcommand] at h
          cases h
          exact ⟨rest, rfl, hcommand⟩
      · rintro ⟨rest', hoptions, hcommand⟩
        cases hoptions
        simp only [hcommand]
        rfl

/-- The words of a command line: options, some about logging, and what follows. -/
def withFlags (ws flags : List (Written GlobalOption)) (rest : List String) : List String :=
  ws.flatMap Written.arguments ++ (flags.flatMap Written.arguments ++ rest)

theorem scan_withFlags {ws flags : List (Written GlobalOption)}
    (hws : ∀ w ∈ ws, w.Fits GlobalOption.specs) (hflags : ∀ w ∈ flags, LogFlag w)
    (rest : List String) :
    OptionSpec.scan GlobalOption.specs false (withFlags ws flags rest)
      = (OptionSpec.scan GlobalOption.specs false rest).map (found ws flags) := by
  rw [withFlags, OptionSpec.scan_written GlobalOption.specs_wellNamed hws,
    OptionSpec.scan_written GlobalOption.specs_wellNamed fun w hw => (hflags w hw).fits]
  cases OptionSpec.scan GlobalOption.specs false rest with
  | error e => rfl
  | ok s => rfl

/-- With other options about logging a command line asks for the same. -/
theorem ofArguments_of_flags {ws flags flags' : List (Written GlobalOption)} {rest : List String}
    (hws : ∀ w ∈ ws, w.Fits GlobalOption.specs) (hflags : ∀ w ∈ flags, LogFlag w)
    (hflags' : ∀ w ∈ flags', LogFlag w) {i : Invocation}
    (h : ofArguments env (withFlags ws flags rest) = .ok i) :
    ∃ j, ofArguments env (withFlags ws flags' rest) = .ok j ∧ i.command = j.command ∧
      i.options.quiet = j.options.quiet := by
  obtain ⟨words, hoptions, hcommand⟩ := ofArguments_eq_ok_iff.1 h
  obtain ⟨s, hs, hhelp, ho, rfl⟩ := GlobalOptions.ofArguments_eq_ok_iff.1 hoptions
  rw [scan_withFlags hws hflags] at hs
  cases hrest : OptionSpec.scan GlobalOption.specs false rest with
  | error e =>
    rw [hrest] at hs
    cases hs
  | ok t =>
    rw [hrest] at hs
    cases hs
    have hsame := sameBeside_flags hflags hflags' ws t
    obtain ⟨o, ho', hquiet⟩ := GlobalOptions.ofScanned_of_same hsame ho
    have hoptions' : GlobalOptions.ofArguments env (withFlags ws flags' rest) = .ok (o, t.rest) := by
      refine GlobalOptions.ofArguments_eq_ok_iff.2 ⟨found ws flags' t, ?_, ?_, ho', rfl⟩
      · rw [scan_withFlags hws hflags', hrest]
        rfl
      · rw [← (hsame.same .help rfl).isGiven_eq, hhelp]
    exact ⟨⟨o, i.command⟩, ofArguments_eq_ok_iff.2 ⟨t.rest, hoptions', hcommand⟩, rfl, hquiet.symm⟩

/-- Command lines with the same words behind their options ask for the same
command, whatever the options and the variables are. -/
theorem ofArguments_of_words {env' : Environ} {arguments arguments' words : List String}
    {o o' : GlobalOptions} (ho : GlobalOptions.ofArguments env arguments = .ok (o, words))
    (ho' : GlobalOptions.ofArguments env' arguments' = .ok (o', words)) {i : Invocation}
    (h : ofArguments env arguments = .ok i) :
    ofArguments env' arguments' = .ok ⟨o', i.command⟩ := by
  obtain ⟨rest, hoptions, hcommand⟩ := ofArguments_eq_ok_iff.1 h
  rw [ho] at hoptions
  cases hoptions
  refine ofArguments_eq_ok_iff.2 ⟨words, ho', ?_⟩
  -- the variables are looked at again only for a name that is no command
  cases words with
  | nil => cases hcommand
  | cons name rest =>
    rw [Command.ofArguments] at hcommand ⊢
    cases hread : Command.reader? name with
    | none =>
      simp only [hread] at hcommand
      cases hcommand
    | some read =>
      simp only [hread] at hcommand ⊢
      exact hcommand

end Invocation

/-! ## All of it -/

namespace CommandLine

/-- **Logging options change what is logged, and nothing else.**  Command lines
that differ in such options are accepted alike, and the commands then end alike
but for what was logged, wherever they write to.  So do any two invocations
whose other options and commands are the same.  With settings in place of the
options the complete result is the same, whatever options and variables there
are. -/
theorem logging_options_inert (cwd : AbsolutePath) :
    (∀ env ws flags flags' rest i, (∀ w ∈ ws, w.Fits GlobalOption.specs) →
      (∀ w ∈ flags, LogFlag w) → (∀ w ∈ flags', LogFlag w) →
      Invocation.ofArguments env (Invocation.withFlags ws flags rest) = .ok i →
      ∃ j, Invocation.ofArguments env (Invocation.withFlags ws flags' rest) = .ok j ∧
        (plan cwd i .options).EndAlike (plan cwd j .options)) ∧
    (∀ i j : Invocation, i.command = j.command → i.options.quiet = j.options.quiet →
      (plan cwd i .options).EndAlike (plan cwd j .options)) ∧
    ∀ s env env' arguments arguments' words o o' i,
      GlobalOptions.ofArguments env arguments = .ok (o, words) →
      GlobalOptions.ofArguments env' arguments' = .ok (o', words) →
      Invocation.ofArguments env arguments = .ok i →
      ∃ j, Invocation.ofArguments env' arguments' = .ok j ∧
        ∀ (σ : Type) (write : Path → String → Except WriteError σ) (before : σ),
          (plan cwd i (.settings s)).carriedOut write before
            = (plan cwd j (.settings s)).carriedOut write before := by
  refine ⟨?flags, ?options, ?settings⟩
  case flags =>
    intro env ws flags flags' rest i hws hflags hflags' h
    obtain ⟨j, hj, hcommand, hoptions⟩ :=
      Invocation.ofArguments_of_flags hws hflags hflags' h
    exact ⟨j, hj, plan_endAlike cwd hcommand hoptions⟩
  case options =>
    intro i j hcommand hoptions
    exact plan_endAlike cwd hcommand hoptions
  case settings =>
    intro s env env' arguments arguments' words o o' i ho ho' h
    refine ⟨_, Invocation.ofArguments_of_words ho ho' h, ?_⟩
    intro σ write before
    -- the plan of given settings looks at the command alone
    rfl

/-- A command that is refused, without and with both options about logging: its
arguments are accepted both ways, and both ways it ends in the same complaint. -/
theorem logging_options_inert_of_staging :
    let cwd : AbsolutePath := ⟨.ofText "/srv", rfl⟩
    let env : Environ := [("DEVAND_BUILD_PORT", "80")]
    ∃ i j printed printed',
      Invocation.ofArguments env ["--host", "::1", "resolve", "staging"] = .ok i ∧
      Invocation.ofArguments env ["-v", "--json-logs", "--host", "::1", "resolve", "staging"]
        = .ok j ∧
      run cwd .options (.empty []) i = .ok (printed, .empty []) ∧
      run cwd .options (.empty []) j = .ok (printed', .empty []) ∧
      printed.AgreesBesideLog printed' ∧ printed.exitCode = 1 := by
  intro cwd env
  let verbose : OptionSpec GlobalOption := ⟨.verbose, "verbose", some 'v', false⟩
  let jsonLogs : OptionSpec GlobalOption := ⟨.jsonLogs, "json-logs", none, false⟩
  have hverbose : verbose ∈ GlobalOption.specs := by simp [verbose, GlobalOption.specs]
  have hjsonLogs : jsonLogs ∈ GlobalOption.specs := by simp [jsonLogs, GlobalOption.specs]
  have hflags : ∀ w ∈ [.shortFlag verbose 'v', .flag jsonLogs], LogFlag w :=
    List.forall_mem_cons.2 ⟨.of_shortFlag hverbose rfl rfl rfl,
      List.forall_mem_singleton.2 (.of_flag hjsonLogs rfl rfl)⟩
  let words : List String := ["--host", "::1", "resolve", "staging"]
  let i : Invocation :=
    ⟨⟨none, none, some "::1", some ⟨80, by decide, by decide⟩, false, false⟩, .resolve "staging" none⟩
  have hi : Invocation.ofArguments env (Invocation.withFlags [] [] words) = .ok i := rfl
  obtain ⟨j, hj, halike⟩ := (logging_options_inert cwd).1 env [] [] _ words i (by simp) (by simp)
    hflags hi
  obtain ⟨printed, printed', after, hprinted, hprinted', hagrees⟩ :=
    halike FileStore (FileStore.write (.empty [])) (.empty [])
  have hrefused : plan cwd i .options = .done (refusalOf cwd (i.options.settings cwd) "staging") := by
    rw [plan_of_settings (w := .options) rfl]
    exact (plans_plan cwd (i.options.settings cwd) i).eq_refusal rfl (by simp [Value.IsMode, Value.asText?])
  have hrun : run cwd .options (.empty []) i = .ok (printed, after) := by
    rw [run, execute_eq, hprinted]
  have hrun' : run cwd .options (.empty []) j = .ok (printed', after) := by
    rw [run, execute_eq, hprinted']
  rw [hrefused] at hprinted
  cases hprinted
  exact ⟨i, j, _, printed', hi, hj, hrun, hrun', hagrees, rfl⟩

end CommandLine

end BundleConfig
