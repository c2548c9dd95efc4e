/-
# `Proofs.Logging.State` — what configuring leaves behind

Configuring starts from nothing: the handlers that were there are gone
before a new one is added.  So what it leaves behind does not hang on what
it found, but for the one thing that a level without a severity leaves
alone:

    the level               handlers          counts as configured
    names a severity        the new one       yes
    names nothing           none              as before

The levels that settings may have all name a severity
(`LogLevel.ofText?_name_severity`), so that setting logging up from settings
always succeeds.
-/
import BundleConfig.Logging.State

namespace BundleConfig

/-- The severity that a level of settings names. -/
def LogLevel.severity : LogLevel → Severity
  | .debug => .debug
  | .info => .info
  | .warning => .warning
  | .error => .error
  | .critical => .critical

theorem LogLevel.ofText?_name_severity (l : LogLevel) :
    Choice.ofText? (Choice.name l) = some l.severity := by
  cases l <;> rfl

namespace Handler

/-- The handler that settings ask for. -/
def ofSettings (s : Settings) : Handler := ⟨s.logLevel.severity, s.jsonLogs, .stderr⟩

/-- The handler that taking a logger configures. -/
def default : Handler := ⟨.info, false, .stderr⟩

/-- Whether a handler receives a record. -/
def admits (h : Handler) (r : Record) : Bool := decide (h.threshold.number ≤ r.severity.number)

/-- A record as a handler writes it. -/
def written (h : Handler) (r : Record) : Emission := ⟨h.destination, h.serialized, r⟩

theorem emit_eq (h : Handler) (r : Record) :
    h.emit r = if h.admits r = true then [h.written r] else [] := by
  simp only [emit, admits, written, decide_eq_true_eq]

/-- A handler writes each record that it receives, once and in order. -/
theorem flatMap_emit (h : Handler) (rs : List Record) :
    rs.flatMap h.emit = (rs.filter h.admits).map h.written := by
  induction rs with
  | nil => rfl
  | cons r rs ih =>
    rw [List.flatMap_cons, ih, emit_eq]
    cases hr : h.admits r with
    | true => simp [hr]
    | false => simp [hr]

end Handler

namespace Logging

variable (l : Logging) (serialized : Bool) (destination : Destination)

/-- A handler alone, and logging configured. -/
def only (h : Handler) : Logging := ⟨[h], true⟩

theorem configure_of_known {level : String} {threshold : Severity}
    (h : Choice.ofText? level = some threshold) :
    l.configure level serialized destination
      = (.ok (), only ⟨threshold, serialized, destination⟩) := by
  unfold configure add
  rw [h]
  rfl

theorem configure_of_unknown {level : String} (h : (Choice.ofText? level : Option Severity) = none) :
    l.configure level serialized destination = (.error (.unknownLevel level), l.remove) := by
  unfold configure add
  rw [h]

/-- With settings there is logging. -/
theorem ofSettings_eq (s : Settings) : l.ofSettings s = (.ok (), only (.ofSettings s)) :=
  l.configure_of_known s.jsonLogs .stderr s.logLevel.ofText?_name_severity

theorem afterLogger_of_configured (h : l.configured = true) : l.afterLogger = l := by
  rw [afterLogger, if_pos h]

theorem afterLogger_of_not_configured (h : l.configured = false) :
    l.afterLogger = only .default := by
  have hconfigure := l.configure_of_known false .stderr LogLevel.info.ofText?_name_severity
  rw [afterLogger, h, hconfigure]
  rfl

/-! ## Who writes a record -/

/-- With no handler nothing is written. -/
theorem flatMap_emit_of_nil (h : l.handlers = []) (rs : List Record) : rs.flatMap l.emit = [] := by
  simp [emit, h]

/-- With one handler it writes all that is written. -/
theorem flatMap_emit_of_single {h : Handler} (hl : l.handlers = [h]) (rs : List Record) :
    rs.flatMap l.emit = (rs.filter h.admits).map h.written := by
  have hemit : l.emit = h.emit := by
    funext r
    rw [emit, hl, List.flatMap_cons, List.flatMap_nil, List.append_nil]
  rw [hemit, h.flatMap_emit]

end Logging

end BundleConfig
