/-
# `Proofs.Logging.Delivery` — who receives a record

`issued` are the records of a step, whether anyone receives them or not: one
for a message that is logged at a known level through a logger that was
taken, and those of a build.  The names that records carry are the names that
loggers were taken under (`taken`), in the whole run before, so that
configuring or resetting logging changes no logger.

What is written of them is up to the handler in effect, which takes each
record that it admits, once, to its own destination:

    a handler is in effect      the issued records that it admits
    no handler is in effect     nothing
-/
import BundleConfig.Proofs.Logging.Run

namespace BundleConfig.LoggingSession

/-- The names that loggers were taken under, in order. -/
def taken : List LoggingAction → List String
  | [] => []
  | .take name :: as => name :: taken as
  | _ :: as => taken as

/-- The records of a step, given the names of the loggers taken so far. -/
def issued (cwd : AbsolutePath) (names : List String) : LoggingAction → List Record
  | .log logger level message =>
    match itemAt? names logger, Choice.ofText? level with
    | some name, some severity => [⟨severity, name, message⟩]
    | _, _ => []
  | .build mode target uiRoot =>
    match Builder.buildOnce cwd mode target uiRoot [] with
    | .ok outcome => outcome.records
    | .error _ => []
  | _ => []

variable (cwd : AbsolutePath)

/-- A message at a known level through a logger that was taken is one record. -/
theorem issued_log {names : List String} {logger : Int} {name level : String} {severity : Severity}
    (hname : itemAt? names logger = some name) (hlevel : Choice.ofText? level = some severity)
    (message : String) :
    issued cwd names (.log logger level message) = [⟨severity, name, message⟩] := by
  unfold issued
  simp only [hname, hlevel]

theorem loggers_after (s : LoggingSession) (steps : List LoggingAction) :
    (s.after cwd steps).loggers = s.loggers ++ taken steps := by
  induction steps generalizing s with
  | nil => exact (List.append_nil _).symm
  | cons a steps ih =>
    rw [after, ih]
    cases a with
    | configure level serialized destination => rfl
    | setup overrides =>
      exact congrArg (· ++ taken steps) (act_setup_quiet cwd s overrides).2
    | reset => rfl
    | take name => exact List.append_assoc s.loggers [name] (taken steps)
    | log logger level message =>
      exact congrArg (·.loggers ++ taken steps) (s.session_log logger level message)
    | build mode target uiRoot =>
      exact congrArg (·.loggers ++ taken steps) (s.session_build cwd mode target uiRoot)

/-- What a step writes is what the handlers there are write of its records. -/
theorem emissions_act (s : LoggingSession) (a : LoggingAction) :
    (s.act cwd a).emissions = (issued cwd s.loggers a).flatMap s.logging.emit := by
  cases a with
  | configure level serialized destination => rfl
  | setup overrides => exact (act_setup_quiet cwd s overrides).1
  | reset => rfl
  | take name => rfl
  | log logger level message =>
    unfold act log Logging.log issued
    dsimp only
    cases itemAt? s.loggers logger with
    | none => rfl
    | some name =>
      cases hhandlers : s.logging.handlers with
      | nil => simp [s.logging.flatMap_emit_of_nil hhandlers]
      | cons h hs =>
        cases (Choice.ofText? level : Option Severity) with
        | none => simp
        | some severity => simp
  | build mode target uiRoot =>
    unfold act build issued
    dsimp only
    cases Builder.buildOnce cwd mode target uiRoot [] with
    | error e => rfl
    | ok outcome => rfl

/-- A builder logs under its own name. -/
theorem logger_of_mem_records {b : Builder} {mode : Value} {env : Environ} {r : Record}
    (h : r ∈ (b.build mode env).records) : r.logger = b.logger := by
  unfold Builder.build at h
  cases hmode : resolveEnvironment mode with
  | error e =>
    simp only [hmode, List.mem_singleton] at h
    rw [h]
    rfl
  | ok e =>
    simp only [hmode] at h
    cases hprofile : b.table.lookup (.member (.environment e)) with
    | error err => simp [hprofile] at h
    | ok p =>
      simp only [hprofile, List.mem_singleton] at h
      rw [h]
      rfl

/-- Builds log under the name that was fixed for them. -/
theorem logger_of_build {mode target uiRoot : Value} {names : List String} {r : Record}
    (h : r ∈ issued cwd names (.build mode target uiRoot)) :
    r.logger = "devand_build.builder.builder" := by
  unfold issued Builder.buildOnce Builder.ofSelectors at h
  cases htable : ProfileTable.ofSelectors cwd target uiRoot with
  | error e => simp [htable] at h
  | ok table =>
    simp only [htable] at h
    exact logger_of_mem_records h

/-- What a step of a run writes: the issued records that the handler in effect
admits. -/
theorem emissions_after (past : List LoggingAction) (a : LoggingAction) :
    (∀ h, InEffect cwd past h → ((fresh.after cwd past).act cwd a).emissions
      = ((issued cwd (taken past) a).filter h.admits).map h.written) ∧
    ((∀ h, ¬ InEffect cwd past h) → ((fresh.after cwd past).act cwd a).emissions = []) := by
  have hloggers : (fresh.after cwd past).loggers = taken past := loggers_after cwd fresh past
  rw [emissions_act, hloggers]
  rcases handlers_after cwd past with ⟨h, heffect, hhandlers⟩ | ⟨hnone, hhandlers⟩
  · refine ⟨fun h' hh' => ?_, fun hnone => absurd ((heffect h).2 rfl) (hnone h)⟩
    rw [(heffect h').1 hh']
    exact Logging.flatMap_emit_of_single _ hhandlers _
  · exact ⟨fun h hh => absurd hh (hnone h),
      fun _ => Logging.flatMap_emit_of_nil _ hhandlers _⟩

/-- A message at a known level through a logger that was taken is a record
under that logger's name, and logging it does not fail. -/
theorem log_of_taken {past : List LoggingAction} {logger : Int} {name level : String}
    {severity : Severity} (hname : itemAt? (taken past) logger = some name)
    (hlevel : Choice.ofText? level = some severity) (message : String) :
    issued cwd (taken past) (.log logger level message) = [⟨severity, name, message⟩] ∧
    ((fresh.after cwd past).act cwd (.log logger level message)).result = .ok none := by
  have hloggers : (fresh.after cwd past).loggers = taken past := loggers_after cwd fresh past
  refine ⟨issued_log cwd hname hlevel message, ?_⟩
  unfold act log Logging.log
  simp only [hloggers, hname, hlevel]
  cases (fresh.after cwd past).logging.handlers.isEmpty <;> rfl

/-- **Who receives a record.**  At every moment of a run from logging reset
there is one handler at most, the one in effect.  Each step writes the records
that it issues and that this handler admits, each once and to its
destination, and nothing else; with no handler in effect it writes nothing.
Records of a logger carry the name it was taken under, those of a build the
name of the builder.  Settings that are rejected change nothing. -/
theorem delivery (cwd : AbsolutePath) :
    (∀ steps, (fresh.after cwd steps).logging.handlers.length ≤ 1 ∧
      ∀ h, h ∈ (fresh.after cwd steps).logging.handlers ↔ InEffect cwd steps h) ∧
    ∀ past a future, ∃ o, (run cwd fresh (past ++ a :: future))[past.length]? = some o ∧
      o.session = fresh.after cwd (past ++ [a]) ∧
      (∀ h, InEffect cwd past h →
        o.emissions = ((issued cwd (taken past) a).filter h.admits).map h.written) ∧
      ((∀ h, ¬ InEffect cwd past h) → o.emissions = []) ∧
      (∀ logger name level severity message, a = .log logger level message →
        itemAt? (taken past) logger = some name → Choice.ofText? level = some severity →
        issued cwd (taken past) a = [⟨severity, name, message⟩] ∧ o.result = .ok none) ∧
      (∀ mode target uiRoot, a = .build mode target uiRoot →
        ∀ r ∈ issued cwd (taken past) a, r.logger = "devand_build.builder.builder") ∧
      (∀ overrides e, a = .setup overrides → Settings.ofOverrides cwd overrides = .error e →
        o = ⟨.error e, [], fresh.after cwd past⟩) := by
  refine ⟨fun steps => ?handlers, fun past a future =>
    ⟨_, getElem?_run cwd fresh past future a, (after_concat cwd fresh past a).symm,
      (emissions_after cwd past a).1, (emissions_after cwd past a).2, ?logged, ?built, ?rejected⟩⟩
  case handlers =>
    rcases handlers_after cwd steps with ⟨h, heffect, hhandlers⟩ | ⟨hnone, hhandlers⟩
    · refine ⟨by rw [hhandlers]; exact Nat.le_refl 1, fun h' => ?_⟩
      rw [hhandlers, List.mem_singleton, heffect]
    · refine ⟨by rw [hhandlers]; exact Nat.zero_le 1, fun h => ?_⟩
      rw [hhandlers]
      exact ⟨fun hh => absurd hh List.not_mem_nil, fun hh => absurd hh (hnone h)⟩
  case logged =>
    rintro logger name level severity message rfl hname hlevel
    exact log_of_taken cwd hname hlevel message
  case built =>
    rintro mode target uiRoot rfl r hr
    exact logger_of_build cwd hr
  case rejected =>
    rintro overrides e rfl he
    exact act_setup_of_error cwd _ he

/-- A logger that was taken before logging was configured anew writes to the
new handler, under the name it has. -/
theorem delivery_of_renewed :
    let cwd : AbsolutePath := ⟨.ofText "/srv", rfl⟩
    let past : List LoggingAction := [.take "old", .configure (.text "WARNING") true .sink,
      .setup [("dev_server_port", .int 0)], .take "new"]
    let h : Handler := ⟨.warning, true, .sink⟩
    InEffect cwd past h ∧
    ∃ o, (run cwd fresh (past ++ .log 0 "CRITICAL" "late" :: []))[4]? = some o ∧
      o.emissions = [⟨.sink, true, ⟨.critical, "old", "late"⟩⟩] ∧ o.result = .ok none := by
  intro cwd past h
  have heffect : InEffect cwd past h := by
    refine ((delivery cwd).1 past).2 h |>.1 ?_
    exact List.mem_singleton.2 rfl
  obtain ⟨o, ho, -, hemissions, -, hlogged, -, -⟩ :=
    (delivery cwd).2 past (.log 0 "CRITICAL" "late") []
  obtain ⟨hissued, hresult⟩ := hlogged 0 "old" "CRITICAL" .critical "late" rfl rfl rfl
  refine ⟨heffect, o, ho, ?_, hresult⟩
  rw [hemissions h heffect, hissued]
  rfl

end BundleConfig.LoggingSession
