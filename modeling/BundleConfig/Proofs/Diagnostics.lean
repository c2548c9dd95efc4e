/-
# `Proofs.Diagnostics` — what is said of a value that was rejected

A selector may hold any characters.  Three things are said of one that names
nothing, each with the selector quoted in a fixed text:

    said in                       lead                           behind it
    the error of a build          unknown environment:           the names that there are
    the warning of a build        Unknown build mode:            nothing
    the error about a target      unknown deployment target:     nothing

Quoting makes all three faithful (`Faithful`): every character is printable,
so that no selector can begin a line of its own; different selectors are
never said to be the same; and a text can be read back from what is said of
it.  In the log and on standard error each stands on exactly one line
(`Text.IsLine`).

A member counts as the text that is its name, but is quoted under its label,
and so what is said of it is not what is said of that text.
-/
import BundleConfig.Main
import BundleConfig.Proofs.CommandLine.Outcome
import BundleConfig.Proofs.Logging.State
import BundleConfig.Proofs.Text.Numeral
import BundleConfig.Proofs.Text.Unquoted

namespace BundleConfig

/-! ## Lines of printable characters -/

namespace Text

/-- A text of printable characters; there is no line break in it. -/
def Printable (s : String) : Prop := ∀ c ∈ s.toList, isPrintable c = true

/-- Exactly one line: printable characters, and a newline behind them. -/
def IsLine (s : String) : Prop := ∃ body, Printable body ∧ s = body ++ "\n"

theorem printable_of_all {s : String} (h : s.toList.all isPrintable = true) : Printable s :=
  List.all_eq_true.1 h

theorem printable_empty : Printable "" := printable_of_all rfl

theorem Printable.append {s t : String} (hs : Printable s) (ht : Printable t) :
    Printable (s ++ t) := by
  intro c hc
  rw [String.toList_append] at hc
  rcases List.mem_append.1 hc with hc | hc
  · exact hs c hc
  · exact ht c hc

theorem Printable.isLine {s : String} (h : Printable s) : IsLine (s ++ "\n") := ⟨s, h, rfl⟩

/-- A line is broken at its end, and nowhere else. -/
theorem IsLine.breaks {s : String} (h : IsLine s) :
    s.toList.count '\n' = 1 ∧ '\r' ∉ s.toList := by
  obtain ⟨body, hbody, rfl⟩ := h
  have hnewline : '\n' ∉ body.toList := not_mem_of_isPrintable hbody (by decide)
  have hreturn : '\r' ∉ body.toList := not_mem_of_isPrintable hbody (by decide)
  simp [String.toList_append, List.count_eq_zero.2 hnewline, hreturn]

/-- The text that is quoted behind a lead. -/
def quotedBehind? (lead s : String) : Option String :=
  (unquote? (s.toList.drop lead.toList.length)).map fun r => String.ofList r.1

theorem quotedBehind?_append (lead s behind : String) :
    quotedBehind? lead (lead ++ quote s ++ behind) = some s := by
  rw [quotedBehind?, String.toList_append, String.toList_append, List.append_assoc,
    List.drop_left, unquote?_quote, Option.map_some, String.ofList_toList]

end Text

/-! ## Quoted values -/

theorem Member.printable_label (m : Member) : Text.Printable m.label := by
  cases m with
  | environment e => cases e <;> exact Text.printable_of_all (by decide)
  | target t => cases t <;> exact Text.printable_of_all (by decide)
  | level l => cases l <;> exact Text.printable_of_all (by decide)

/-- A member is found again under what is shown of it. -/
theorem Member.find?_quoted (m : Member) :
    all.find? (fun n => (Value.member n).quoted == (Value.member m).quoted) = some m := by
  cases m with
  | environment e => cases e <;> decide +kernel
  | target t => cases t <;> decide +kernel
  | level l => cases l <;> decide +kernel

namespace Value

theorem printable_quoted {v : Value} (h : v.IsString) : Text.Printable v.quoted := by
  obtain ⟨s, rfl⟩ | ⟨m, rfl⟩ := isString_iff.1 h
  · exact Text.isPrintable_quote s
  · have hopening : Text.Printable "<" := Text.printable_of_all (by decide)
    have hcolon : Text.Printable ": " := Text.printable_of_all (by decide)
    have hclosing : Text.Printable ">" := Text.printable_of_all (by decide)
    exact (((hopening.append m.printable_label).append hcolon).append
      (Text.isPrintable_quote m.text)).append hclosing

/-- What is shown of a member does not begin as a quoted text does. -/
theorem quoted_text_ne_member (s : String) (m : Member) :
    (text s).quoted ≠ (member m).quoted := by
  intro h
  have hread : Text.unquote? ((text s).quoted.toList ++ []) = some (s.toList, []) :=
    Text.unquote?_quote s []
  rw [h] at hread
  simp [quoted, String.toList_append, Text.unquote?] at hread

theorem quoted_member_inj {m n : Member} (h : (member m).quoted = (member n).quoted) : m = n := by
  have hm := m.find?_quoted
  rw [h, n.find?_quoted] at hm
  exact (Option.some.inj hm).symm

theorem quoted_inj {v w : Value} (hv : v.IsString) (hw : w.IsString) (h : v.quoted = w.quoted) :
    v = w := by
  obtain ⟨s, rfl⟩ | ⟨m, rfl⟩ := isString_iff.1 hv
  · obtain ⟨t, rfl⟩ | ⟨n, rfl⟩ := isString_iff.1 hw
    · rw [Text.quote_inj h]
    · exact absurd h (quoted_text_ne_member s n)
  · obtain ⟨t, rfl⟩ | ⟨n, rfl⟩ := isString_iff.1 hw
    · exact absurd h.symm (quoted_text_ne_member t m)
    · rw [quoted_member_inj h]

end Value

/-! ## Faithful messages -/

/-- What is said of strings behind a lead: it stays on its line, it differs from
what is said of any other, and it tells which text it is about. -/
structure Faithful (lead : String) (say : Value → String) : Prop where
  printable : ∀ v, v.IsString → Text.Printable (say v)
  distinct : ∀ v w, v.IsString → w.IsString → v ≠ w → say v ≠ say w
  told : ∀ s, Text.quotedBehind? lead (say (.text s)) = some s

/-- A value quoted in a fixed text is told faithfully. -/
theorem faithful_of_quoted {lead behind : String} {say : Value → String}
    (hsay : ∀ v, say v = lead ++ v.quoted ++ behind) (hlead : Text.Printable lead)
    (hbehind : Text.Printable behind) : Faithful lead say where
  printable := by
    intro v hv
    rw [hsay]
    exact (hlead.append (Value.printable_quoted hv)).append hbehind
  distinct := by
    intro v w hv hw hne h
    rw [hsay, hsay] at h
    have hlists := congrArg String.toList h
    simp only [String.toList_append] at hlists
    have hquoted := List.append_cancel_left (List.append_cancel_right hlists)
    exact hne (Value.quoted_inj hv hw (String.toList_inj.1 hquoted))
  told := by
    intro s
    rw [hsay]
    exact Text.quotedBehind?_append lead s behind

theorem faithful_unknownEnvironment :
    Faithful "unknown environment: " fun v => (ConfigurationError.unknownEnvironment v).message :=
  faithful_of_quoted Builder.message_unknownEnvironment (Text.printable_of_all (by decide))
    (Text.printable_of_all (by decide))

theorem faithful_unknownTarget :
    Faithful "unknown deployment target: " fun v => (ConfigurationError.unknownTarget v).message :=
  faithful_of_quoted (fun _ => String.append_empty.symm) (Text.printable_of_all (by decide))
    Text.printable_empty

theorem faithful_unknownMode :
    Faithful "Unknown build mode: " fun v => "Unknown build mode: " ++ v.quoted :=
  faithful_of_quoted (fun _ => String.append_empty.symm) (Text.printable_of_all (by decide))
    Text.printable_empty

/-! ## On one line -/

/-- The text of what was written to a log at a time. -/
def logText (time : String) (es : List Emission) : String :=
  String.join (es.map fun e => Main.noticeText time (.logged e))

/-- One handler that receives warnings writes the warning of a build as text,
and nothing else. -/
theorem Builder.logText_of_not_mode (b : Builder) {v : Value} (hv : ¬ v.IsMode) (env : Environ)
    {l : Logging} {h : Handler} (hl : l.handlers = [h]) (htext : h.serialized = false)
    (hlevel : h.threshold.number ≤ Severity.warning.number) (time : String) :
    logText time ((b.build v env).records.flatMap l.emit) = (b.unknownRecord v).text time := by
  have hadmits : h.admits (b.unknownRecord v) = true := decide_eq_true hlevel
  have hwritten : (b.build v env).records.flatMap l.emit = [h.written (b.unknownRecord v)] := by
    rw [b.build_of_not_mode (not_exists.1 (mt Value.isMode_iff.2 hv)), l.flatMap_emit_of_single hl,
      List.filter_cons_of_pos hadmits]
    rfl
  rw [hwritten]
  simp [logText, Main.noticeText, Handler.written, htext, String.join]

theorem Builder.isLine_warning {b : Builder} {time : String} (htime : Text.Printable time)
    (hlogger : Text.Printable b.logger) {v : Value} (hv : v.IsString) :
    Text.IsLine ((b.unknownRecord v).text time) := by
  have hbar : Text.Printable " | " := Text.printable_of_all (by decide)
  have hseverity : Text.Printable (Record.padRight 8 (Choice.name Severity.warning)) :=
    Text.printable_of_all (by decide)
  have hdash : Text.Printable " - " := Text.printable_of_all (by decide)
  have hmessage := faithful_unknownMode.printable v hv
  exact ((((((htime.append hbar).append hseverity).append hbar).append hlogger).append
    hdash).append hmessage).isLine

/-! The time of a log line and the names of the loggers are printable. -/

theorem Main.printable_padded (width n : Nat) : Text.Printable (padded width n) := by
  intro c hc
  rw [padded, String.toList_ofList, Decimal.padLeft, List.mem_append] at hc
  rcases hc with hc | hc
  · rw [(List.mem_replicate.1 hc).2]
    decide
  · have hbounds := Text.Numeral.isDigit_bounds (Text.Numeral.isDigit_of_mem_ofNat hc)
    exact Text.isPrintable_of_printable ⟨by omega, by omega⟩

theorem Main.printable_clock (ms : Nat) : Text.Printable (clock ms) := by
  have hcolon : Text.Printable ":" := Text.printable_of_all (by decide)
  have hpoint : Text.Printable "." := Text.printable_of_all (by decide)
  exact ((((((printable_padded _ _).append hcolon).append (printable_padded _ _)).append
    hcolon).append (printable_padded _ _)).append hpoint).append (printable_padded _ _)

theorem Builder.printable_loggers :
    Text.Printable defaultLogger ∧ Text.Printable appLogger :=
  ⟨Text.printable_of_all (by decide), Text.printable_of_all (by decide)⟩

namespace CommandLine

theorem planCommand_of_unknown (l : Logging) (b : Builder) {command : Command} {mode : String}
    (hmode : command.mode? = some mode) (hunknown : ¬ (Value.text mode).IsMode) :
    planCommand l (.ok b) command = .done (refusal l b mode) := by
  cases command with
  | resolve m output =>
    cases hmode
    cases output with
    | none => rw [planCommand, planBuild_of_unknown l b hunknown]
    | some path => rw [planCommand, planBuild_of_unknown l b hunknown]
  | features m =>
    cases hmode
    rw [planCommand, planBuild_of_unknown l b hunknown]
  | profiles => cases hmode

/-- A command with an unknown mode is refused, wherever its builder comes from. -/
theorem plan_of_unknown (cwd : AbsolutePath) (w : Wiring) {i : Invocation} {mode : String}
    (hmode : i.command.mode? = some mode) (hunknown : ¬ (Value.text mode).IsMode) :
    ∃ l b, plan cwd i w = .done (refusal l b mode) := by
  have hsettings : ∀ s : Settings, w.settings? cwd i.options = some s →
      plan cwd i w = .done (refusalOf cwd s mode) := by
    intro s hs
    rw [plan_of_settings hs]
    exact (plans_plan cwd s i).eq_refusal hmode hunknown
  cases w with
  | options => exact ⟨_, _, hsettings _ rfl⟩
  | settings s => exact ⟨_, _, hsettings s rfl⟩
  | builder b => exact ⟨.reset, b, planCommand_of_unknown .reset b hmode hunknown⟩

theorem isLine_complaint (mode : String) :
    Text.IsLine (line ("✗ " ++ unknownMessage mode)) := by
  have hmark : Text.Printable "✗ " := Text.printable_of_all (by decide +kernel)
  exact (hmark.append (isPrintable_unknownMessage mode)).isLine

end CommandLine

/-! ## Targets -/

/-- Whether a value names a deployment target, as a text or as a member. -/
def Value.IsTarget (v : Value) : Prop := v.asText? = some "web" ∨ v.asText? = some "demo"

theorem Value.choose?_of_not_target {v : Value} (h : ¬ v.IsTarget) :
    v.choose? DeploymentTarget = none := by
  cases hchoose : v.choose? DeploymentTarget with
  | none => rfl
  | some t =>
    obtain ⟨s, hs, ht⟩ := Option.bind_eq_some_iff.1 hchoose
    have hfound := List.find?_some ht
    rw [← eq_of_beq hfound] at hs
    cases t with
    | web => exact absurd (.inl hs) h
    | demo => exact absurd (.inr hs) h

/-- A table is refused for its target before its directory is looked at. -/
theorem ProfileTable.ofSelectors_of_not_target (cwd : AbsolutePath) {target : Value}
    (h : ¬ target.IsTarget) (uiRoot : Value) :
    ofSelectors cwd target uiRoot = .error (.configuration (.unknownTarget target)) := by
  rw [ofSelectors, Value.choose?_of_not_target h]

/-! ## All of it -/

/-- **Diagnostics are not forged or blurred** by what they are about.  A build
with a string that names no environment ends with one error and one warning,
which a log that takes warnings as text writes on one line; a command ends with
one more line; and what names no target ends a table with one error.
The two errors and the warning are faithful. -/
theorem diagnostics_faithful :
    (∀ (b : Builder) (v : Value) (env : Environ), v.IsString → ¬ v.IsMode →
      let warning : Record := ⟨.warning, b.logger, "Unknown build mode: " ++ v.quoted⟩
      b.build v env = ⟨.error (.configuration (.unknownEnvironment v)), [warning]⟩ ∧
      ∀ (l : Logging) (h : Handler) (time : String), l.handlers = [h] → h.serialized = false →
        h.threshold.number ≤ Severity.warning.number →
          logText time ((b.build v env).records.flatMap l.emit) = warning.text time ∧
          (Text.Printable b.logger → Text.Printable time → Text.IsLine (warning.text time))) ∧
    ((∀ ms, Text.Printable (Main.clock ms)) ∧
      Text.Printable Builder.defaultLogger ∧ Text.Printable Builder.appLogger) ∧
    (∀ (cwd : AbsolutePath) (w : Wiring) (i : Invocation) (mode : String),
      i.command.mode? = some mode → ¬ (Value.text mode).IsMode →
        ∃ (logs : List Emission) (complaint : String),
          CommandLine.plan cwd i w = .done ⟨1, "", logs.map .logged ++ [.message complaint]⟩ ∧
          complaint = "✗ " ++ (ConfigurationError.unknownEnvironment (.text mode)).message ++ "\n" ∧
          Text.IsLine complaint) ∧
    (∀ (cwd : AbsolutePath) (target uiRoot : Value), ¬ target.IsTarget →
      ProfileTable.ofSelectors cwd target uiRoot
        = .error (.configuration (.unknownTarget target))) ∧
    (Faithful "unknown environment: " fun v =>
      (ConfigurationError.unknownEnvironment v).message) ∧
    (Faithful "Unknown build mode: " fun v => "Unknown build mode: " ++ v.quoted) ∧
    Faithful "unknown deployment target: " fun v =>
      (ConfigurationError.unknownTarget v).message := by
  refine ⟨?build, ⟨Main.printable_clock, Builder.printable_loggers⟩, ?command, ?table,
    faithful_unknownEnvironment, faithful_unknownMode, faithful_unknownTarget⟩
  case build =>
    intro b v env hv hmode warning
    refine ⟨b.build_of_not_mode (not_exists.1 (mt Value.isMode_iff.2 hmode)) env, ?_⟩
    intro l h time hl htext hlevel
    exact ⟨b.logText_of_not_mode hmode env hl htext hlevel time,
      fun hlogger htime => Builder.isLine_warning htime hlogger hv⟩
  case command =>
    intro cwd w i mode hmode hunknown
    obtain ⟨l, b, hplan⟩ := CommandLine.plan_of_unknown cwd w hmode hunknown
    exact ⟨CommandLine.buildLog l b mode, _, hplan, rfl, CommandLine.isLine_complaint mode⟩
  case table =>
    intro cwd target uiRoot htarget
    exact ProfileTable.ofSelectors_of_not_target cwd htarget uiRoot

/-- A text that would begin a line of its own, and end the quotes around it, is
told on one line in the log and on one in a complaint, and read back from the
error about a target. -/
theorem diagnostics_faithful_of_line_break :
    let s := "web'\n✗ \"\x1b[0m\u202e"
    let cwd : AbsolutePath := ⟨.ofText "/srv", rfl⟩
    let b : Builder := ⟨.ofTarget cwd .web .here, .null, .int 80, Builder.defaultLogger⟩
    let log := logText (Main.clock 0)
      ((b.build (.text s) []).records.flatMap (Logging.only .default).emit)
    (log.toList.count '\n' = 1 ∧ '\r' ∉ log.toList) ∧
    (∃ (logs : List Emission) (complaint : String),
      CommandLine.plan cwd ⟨⟨none, none, none, none, false, false⟩, .features s⟩ (.builder b)
        = .done ⟨1, "", logs.map .logged ++ [.message complaint]⟩ ∧
      complaint.toList.count '\n' = 1) ∧
    ∃ err, ProfileTable.ofSelectors cwd (.text s) .null = .error (.configuration err) ∧
      Text.quotedBehind? "unknown deployment target: " err.message = some s := by
  intro s cwd b log
  have hmode : ¬ (Value.text s).IsMode := mt isMode_text_iff.1 (by decide)
  have htarget : ¬ (Value.text s).IsTarget := by
    rintro (h | h)
    · exact absurd (Option.some.inj h) (by decide)
    · exact absurd (Option.some.inj h) (by decide)
  obtain ⟨hbuild, ⟨hclock, hlogger, -⟩, hcommand, htable, -, -, hfaithful⟩ := diagnostics_faithful
  refine ⟨?log, ?complaint, ?table⟩
  case log =>
    obtain ⟨-, hlog⟩ := hbuild b (.text s) [] ⟨s, rfl⟩ hmode
    obtain ⟨htext, hline⟩ := hlog (.only .default) .default (Main.clock 0) rfl rfl (by decide)
    have hlines := (hline hlogger (hclock 0)).breaks
    rw [← htext] at hlines
    exact hlines
  case complaint =>
    obtain ⟨logs, complaint, hplan, -, hline⟩ := hcommand cwd (.builder b)
      ⟨⟨none, none, none, none, false, false⟩, .features s⟩ s rfl hmode
    exact ⟨logs, complaint, hplan, hline.breaks.1⟩
  case table =>
    exact ⟨_, htable cwd (.text s) .null htarget, hfaithful.told s⟩

end BundleConfig
