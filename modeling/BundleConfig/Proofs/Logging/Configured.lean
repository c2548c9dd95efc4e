/-
# `Proofs.Logging.Configured` — when a logger has somewhere to write

A logger that is taken is to have a handler to write to: taking one
configures the default handler unless logging counts as configured.  For this
to be enough, logging has to count as configured exactly when a handler is
installed.  One half holds after every run from logging reset.  The other
fails in one way (`Stale`):

    configuring failed while logging counted as configured, and since then
    nothing was installed and logging was not reset

for the handlers are removed before the level is looked at, and the mark is
left as it was.  Whoever takes a logger then gets one that writes nowhere
(`dropped_after_unknown_level`).  After any other run the logger writes.
-/
import BundleConfig.Proofs.Logging.Delivery

namespace BundleConfig

/-- A step configures logging at a level that does not exist. -/
inductive LoggingAction.Fails : LoggingAction → Prop
  | configure {level : Value} (serialized : Bool) (destination : Destination)
      (unknown : (Choice.ofText? level.display : Option Severity) = none) :
      Fails (.configure level serialized destination)

/-- What removes is a reset, or fails. -/
theorem LoggingAction.removes_iff {a : LoggingAction} : a.Removes ↔ a = .reset ∨ a.Fails := by
  constructor
  · intro h
    cases h with
    | reset => exact .inl rfl
    | configure serialized destination unknown => exact .inr (.configure serialized destination unknown)
  · rintro (rfl | h)
    · exact .reset
    · cases h with
      | configure serialized destination unknown => exact .configure serialized destination unknown

namespace LoggingSession

variable (cwd : AbsolutePath)

/-- A step that fails leaves the mark as it was. -/
theorem configured_act_of_fails (s : LoggingSession) {a : LoggingAction} (h : a.Fails) :
    (s.act cwd a).session.logging.configured = s.logging.configured := by
  cases h with
  | configure serialized destination unknown =>
    rw [logging_act_configure, s.logging.configure_of_unknown serialized destination unknown]
    rfl

/-- Configuring failed while logging counted as configured, and since then
nothing was installed and logging was not reset. -/
def Stale (steps : List LoggingAction) : Prop :=
  Since (fun past a => a.Fails ∧ flagAfter cwd past = true)
    (fun past b => b ≠ .reset ∧ ∀ h, ¬ b.Installs cwd (flagAfter cwd past) h) steps

theorem stale_concat_iff {steps : List LoggingAction} {a : LoggingAction} :
    Stale cwd (steps ++ [a]) ↔ (a.Fails ∧ flagAfter cwd steps = true) ∨
      ((a ≠ .reset ∧ ∀ h, ¬ a.Installs cwd (flagAfter cwd steps) h) ∧ Stale cwd steps) :=
  since_concat_iff

/-- **The mark after a run**: logging counts as configured if a handler is
installed, and besides only if it is stale. -/
theorem flag_after (steps : List LoggingAction) :
    ((fresh.after cwd steps).logging.handlers ≠ [] → flagAfter cwd steps = true) ∧
    (flagAfter cwd steps = true ∧ (fresh.after cwd steps).logging.handlers = [] ↔
      Stale cwd steps) := by
  induction steps using List.reverseRecOn with
  | nil => simp [flagAfter, after, fresh, Logging.reset, Stale, not_since_nil]
  | append_singleton steps a ih =>
    rw [stale_concat_iff, flagAfter, after_concat]
    rcases act_logging cwd (fresh.after cwd steps) a with
      ⟨h, hinstalls, hlogging⟩ | ⟨hremoves, hnone⟩ | ⟨hkept, hlogging⟩
    · rw [hlogging]
      refine ⟨fun _ => rfl, ?_, ?_⟩
      · rintro ⟨-, hnone⟩
        cases hnone
      · rintro (⟨hfails, -⟩ | ⟨⟨-, hnot⟩, -⟩)
        · exact absurd hinstalls (LoggingAction.removes_iff.2 (.inr hfails)).not_installs
        · exact absurd hinstalls (hnot h)
    · refine ⟨fun h => absurd hnone h, ?_⟩
      rcases LoggingAction.removes_iff.1 hremoves with rfl | hfails
      · constructor
        · rintro ⟨hflag, -⟩
          cases hflag
        · rintro (⟨hfails, -⟩ | ⟨⟨hreset, -⟩, -⟩)
          · cases hfails
          · exact absurd rfl hreset
      · rw [configured_act_of_fails cwd _ hfails]
        constructor
        · rintro ⟨hflag, -⟩
          exact .inl ⟨hfails, hflag⟩
        · rintro (⟨-, hflag⟩ | ⟨-, hstale⟩)
          · exact ⟨hflag, hnone⟩
          · exact ⟨(ih.2.2 hstale).1, hnone⟩
    · rw [hlogging]
      refine ⟨ih.1, ?_⟩
      have hnot : a ≠ .reset ∧ ∀ h, ¬ a.Installs cwd (flagAfter cwd steps) h := by
        refine ⟨?_, fun h hinstalls => hkept (.inr ⟨h, hinstalls⟩)⟩
        rintro rfl
        exact hkept (.inl .reset)
      have hsucceeds : ¬ a.Fails := fun hfails =>
        hkept (.inl (LoggingAction.removes_iff.2 (.inr hfails)))
      rw [show (fresh.after cwd steps).logging.configured = flagAfter cwd steps from rfl, ih.2]
      constructor
      · intro hstale
        exact .inr ⟨hnot, hstale⟩
      · rintro (⟨hfails, -⟩ | ⟨-, hstale⟩)
        · exact absurd hfails hsucceeds
        · exact hstale

/-! ## Loggers that write -/

/-- A critical record is grave enough for every handler. -/
theorem admits_critical (h : Handler) (name message : String) :
    h.admits ⟨.critical, name, message⟩ = true := by
  obtain ⟨threshold, serialized, destination⟩ := h
  cases threshold <;> rfl

/-- What is written of a critical message through the logger that was taken last. -/
theorem emissions_critical (s : LoggingSession) (name message : String) :
    let taken := (s.act cwd (.take name)).session
    (taken.act cwd (.log s.loggers.length "CRITICAL" message)).emissions
      = [⟨.critical, name, message⟩].flatMap taken.logging.emit := by
  intro taken
  have hlogger : itemAt? taken.loggers s.loggers.length = some name := by
    rw [itemAt?_ofNat]
    exact List.getElem?_concat_length
  have hlevel : Choice.ofText? "CRITICAL" = some Severity.critical := rfl
  rw [emissions_act, issued_log cwd hlogger hlevel]

/-- **When a logger has somewhere to write.**  Logging counts as configured
exactly if one handler is installed, or it is stale.  A logger can be taken
after every run; it then has one handler to write to, and a critical message is
written once, unless logging is stale: then there is no handler and the message
is lost. -/
theorem logger_writes (steps : List LoggingAction) :
    let s := fresh.after cwd steps
    (s.logging.configured = true ↔ s.logging.handlers.length = 1 ∨ Stale cwd steps) ∧
    ∀ name message,
      let o := s.act cwd (.take name)
      let written := (o.session.act cwd (.log s.loggers.length "CRITICAL" message)).emissions
      o.result = .ok none ∧
      ((Stale cwd steps ∧ o.session.logging.handlers = [] ∧ written = []) ∨
        (¬ Stale cwd steps ∧ ∃ h, o.session.logging.handlers = [h] ∧
          written = [h.written ⟨.critical, name, message⟩])) := by
  intro s
  obtain ⟨hmarked, hstale⟩ := flag_after cwd steps
  have hwritten {l : Logging} {h : Handler} (hl : l.handlers = [h]) (name message : String) :
      [(⟨.critical, name, message⟩ : Record)].flatMap l.emit
        = [h.written ⟨.critical, name, message⟩] := by
    rw [l.flatMap_emit_of_single hl, List.filter_cons_of_pos (admits_critical h name message)]
    rfl
  refine ⟨?mark, fun name message => ⟨rfl, ?takes⟩⟩
  case mark =>
    rcases handlers_after cwd steps with ⟨h, -, hhandlers⟩ | ⟨-, hhandlers⟩
    · refine ⟨fun _ => .inl (by rw [hhandlers]; rfl), fun _ => hmarked ?_⟩
      rw [hhandlers]
      exact List.cons_ne_nil h []
    · constructor
      · intro hflag
        exact .inr (hstale.1 ⟨hflag, hhandlers⟩)
      · rintro (hone | h)
        · rw [hhandlers] at hone
          cases hone
        · exact (hstale.2 h).1
  case takes =>
    simp only [emissions_critical]
    cases hflag : s.logging.configured with
    | false =>
      have hlogging : (s.act cwd (.take name)).session.logging = .only .default :=
        s.logging.afterLogger_of_not_configured hflag
      refine .inr ⟨fun h => ?_, .default, by rw [hlogging]; rfl, hwritten (by rw [hlogging]; rfl) ..⟩
      exact Bool.false_ne_true (hflag.symm.trans (hstale.2 h).1)
    | true =>
      have hlogging : (s.act cwd (.take name)).session.logging = s.logging :=
        s.logging.afterLogger_of_configured hflag
      rw [hlogging]
      rcases handlers_after cwd steps with ⟨h, -, hhandlers⟩ | ⟨-, hhandlers⟩
      · refine .inr ⟨fun hs => ?_, h, hhandlers, hwritten hhandlers name message⟩
        exact List.cons_ne_nil h [] (hhandlers.symm.trans (hstale.2 hs).2)
      · exact .inl ⟨hstale.1 ⟨hflag, hhandlers⟩, hhandlers, s.logging.flatMap_emit_of_nil hhandlers _⟩

/-- Configuring at a level that does not exist, while logging counts as
configured, leaves the mark and no handler: the logger that is taken next can
be taken, and what it logs is lost. -/
theorem dropped_after_unknown_level :
    let cwd : AbsolutePath := ⟨.ofText "/srv", rfl⟩
    let steps : List LoggingAction := [.configure (.member (.level .info)) false .stderr,
      .configure (.text "NOPE") false .stderr]
    let s := fresh.after cwd steps
    let o := s.act cwd (.take "app")
    (s.logging.configured = true ∧ s.logging.handlers = []) ∧
    o.result = .ok none ∧ o.session.logging.handlers = [] ∧
    (o.session.act cwd (.log 0 "CRITICAL" "lost")).emissions = [] := by
  intro cwd steps s o
  exact ⟨⟨rfl, rfl⟩, rfl, rfl, rfl⟩

end LoggingSession

end BundleConfig
