/-
# `Proofs.Logging.Run` — the handlers over a whole run

`after cwd s steps` is the state that steps leave behind.  What one step can
do to the handlers is said once (`act_logging`), from any state at all:

    Installs    configuring at a known level, setting up from accepted
                settings, and taking a logger while logging does not count
                as configured; the new handler is then the only one
    Removes     a reset, and configuring at an unknown level; no handler is
                left
    neither     the state of logging stays as it was

From that follows, by induction on the steps, which handlers there are after
a run from logging reset: the one that is in effect (`InEffect`), if any,
which is the one installed last with nothing installed or removed since.
-/
import BundleConfig.Logging.Actions
import BundleConfig.Proofs.Logging.State
import Mathlib.Data.List.Induction

namespace BundleConfig

/-! ## What one step can do -/

namespace LoggingAction

/-- A step installs a handler; the flag says whether logging counted as
configured before it. -/
inductive Installs (cwd : AbsolutePath) : Bool → LoggingAction → Handler → Prop
  | configure {level : Value} {threshold : Severity} (flag serialized : Bool)
      (destination : Destination) (known : Choice.ofText? level.display = some threshold) :
      Installs cwd flag (.configure level serialized destination)
        ⟨threshold, serialized, destination⟩
  | setup {overrides : Fields} {s : Settings} (flag : Bool)
      (accepted : Settings.ofOverrides cwd overrides = .ok s) :
      Installs cwd flag (.setup overrides) (.ofSettings s)
  | take {flag : Bool} (name : String) (unset : flag = false) :
      Installs cwd flag (.take name) .default

/-- A step removes what is installed, and installs nothing. -/
inductive Removes : LoggingAction → Prop
  | reset : Removes .reset
  | configure {level : Value} (serialized : Bool) (destination : Destination)
      (unknown : (Choice.ofText? level.display : Option Severity) = none) :
      Removes (.configure level serialized destination)

/-- A step changes which handlers there are. -/
def Changes (cwd : AbsolutePath) (flag : Bool) (a : LoggingAction) : Prop :=
  a.Removes ∨ ∃ h, a.Installs cwd flag h

variable {cwd : AbsolutePath} {flag : Bool} {a : LoggingAction} {h h' : Handler}

/-- A step installs one handler at most. -/
theorem Installs.unique (hi : a.Installs cwd flag h) (hi' : a.Installs cwd flag h') : h = h' := by
  cases hi with
  | configure _ _ _ known =>
    cases hi' with
    | configure _ _ _ known' =>
      rw [known] at known'
      rw [Option.some.inj known']
  | setup _ accepted =>
    cases hi' with
    | setup _ accepted' =>
      rw [accepted] at accepted'
      rw [Except.ok.inj accepted']
  | take name _ =>
    cases hi'
    rfl

/-- A step that removes installs nothing. -/
theorem Removes.not_installs (hr : a.Removes) : ¬ a.Installs cwd flag h := by
  intro hi
  cases hr with
  | reset => cases hi
  | configure _ _ unknown =>
    cases hi with
    | configure _ _ _ known => simp [unknown] at known

theorem not_changes_refused {overrides : Fields} {e : Failure}
    (he : Settings.ofOverrides cwd overrides = .error e) : ¬ (setup overrides).Changes cwd flag := by
  rintro (hr | ⟨h, hi⟩)
  · cases hr
  · cases hi with
    | setup _ accepted => simp [he] at accepted

theorem not_changes_take (name : String) : ¬ (take name).Changes cwd true := by
  rintro (hr | ⟨h, hi⟩)
  · cases hr
  · cases hi with
    | take _ unset => cases unset

theorem not_changes_log (logger : Int) (level message : String) :
    ¬ (log logger level message).Changes cwd flag := by
  rintro (hr | ⟨h, hi⟩)
  · cases hr
  · cases hi

theorem not_changes_build (mode target uiRoot : Value) :
    ¬ (build mode target uiRoot).Changes cwd flag := by
  rintro (hr | ⟨h, hi⟩)
  · cases hr
  · cases hi

end LoggingAction

namespace LoggingSession

open LoggingAction

variable (cwd : AbsolutePath)

/-- Configuring changes the state of logging, whether it fails or not. -/
theorem logging_act_configure (s : LoggingSession) (level : Value) (serialized : Bool)
    (destination : Destination) :
    (s.act cwd (.configure level serialized destination)).session.logging
      = (s.logging.configure level.display serialized destination).2 := rfl

theorem act_setup_of_ok (s : LoggingSession) {overrides : Fields} {settings : Settings}
    (h : Settings.ofOverrides cwd overrides = .ok settings) :
    s.act cwd (.setup overrides) = s.change (s.logging.ofSettings settings) := by
  unfold act
  simp only [h]

/-- Settings that are rejected change nothing. -/
theorem act_setup_of_error (s : LoggingSession) {overrides : Fields} {e : Failure}
    (h : Settings.ofOverrides cwd overrides = .error e) :
    s.act cwd (.setup overrides) = ⟨.error e, [], s⟩ := by
  unfold act
  simp only [h]

/-- Setting logging up writes nothing, and leaves the loggers as they are. -/
theorem act_setup_quiet (s : LoggingSession) (overrides : Fields) :
    (s.act cwd (.setup overrides)).emissions = [] ∧
    (s.act cwd (.setup overrides)).session.loggers = s.loggers := by
  cases h : Settings.ofOverrides cwd overrides with
  | ok settings =>
    rw [act_setup_of_ok cwd s h]
    exact ⟨rfl, rfl⟩
  | error e =>
    rw [act_setup_of_error cwd s h]
    exact ⟨rfl, rfl⟩

/-- Logging a message leaves everything as it was, -/
theorem session_log (s : LoggingSession) (logger : Int) (level message : String) :
    (s.log logger level message).session = s := by
  unfold log
  split
  · rfl
  · split <;> rfl

/-- and so does a build. -/
theorem session_build (s : LoggingSession) (mode target uiRoot : Value) :
    (s.build cwd mode target uiRoot).session = s := by
  unfold build
  split <;> rfl

/-- What a step does to the handlers, from any state. -/
theorem act_logging (s : LoggingSession) (a : LoggingAction) :
    (∃ h, a.Installs cwd s.logging.configured h ∧ (s.act cwd a).session.logging = .only h) ∨
    (a.Removes ∧ (s.act cwd a).session.logging.handlers = []) ∨
    (¬ a.Changes cwd s.logging.configured ∧ (s.act cwd a).session.logging = s.logging) := by
  cases a with
  | configure level serialized destination =>
    cases hlevel : (Choice.ofText? level.display : Option Severity) with
    | some threshold =>
      refine .inl ⟨_, .configure _ serialized destination hlevel, ?_⟩
      rw [logging_act_configure, s.logging.configure_of_known serialized destination hlevel]
    | none =>
      refine .inr (.inl ⟨.configure serialized destination hlevel, ?_⟩)
      rw [logging_act_configure, s.logging.configure_of_unknown serialized destination hlevel]
      rfl
  | setup overrides =>
    cases hsettings : Settings.ofOverrides cwd overrides with
    | ok settings =>
      refine .inl ⟨_, .setup _ hsettings, ?_⟩
      rw [act_setup_of_ok cwd s hsettings, s.logging.ofSettings_eq settings]
      rfl
    | error e =>
      refine .inr (.inr ⟨not_changes_refused hsettings, ?_⟩)
      rw [act_setup_of_error cwd s hsettings]
  | reset => exact .inr (.inl ⟨.reset, rfl⟩)
  | take name =>
    cases hflag : s.logging.configured with
    | false => exact .inl ⟨_, .take name rfl, s.logging.afterLogger_of_not_configured hflag⟩
    | true => exact .inr (.inr ⟨not_changes_take name, s.logging.afterLogger_of_configured hflag⟩)
  | log logger level message =>
    have hsession := s.session_log logger level message
    exact .inr (.inr ⟨not_changes_log logger level message, congrArg logging hsession⟩)
  | build mode target uiRoot =>
    have hsession := s.session_build cwd mode target uiRoot
    exact .inr (.inr ⟨not_changes_build mode target uiRoot, congrArg logging hsession⟩)

/-! ## Runs -/

/-- The state after steps. -/
def after : LoggingSession → List LoggingAction → LoggingSession
  | s, [] => s
  | s, a :: as => after (s.act cwd a).session as

theorem after_append (s : LoggingSession) (as bs : List LoggingAction) :
    s.after cwd (as ++ bs) = (s.after cwd as).after cwd bs := by
  induction as generalizing s with
  | nil => rfl
  | cons a as ih => exact ih (s.act cwd a).session

theorem after_concat (s : LoggingSession) (as : List LoggingAction) (a : LoggingAction) :
    s.after cwd (as ++ [a]) = ((s.after cwd as).act cwd a).session :=
  after_append cwd s as [a]

/-- The outcome of a step of a run is that of the step from the state that the
steps before it left behind. -/
theorem getElem?_run (s : LoggingSession) (past future : List LoggingAction) (a : LoggingAction) :
    (run cwd s (past ++ a :: future))[past.length]? = some ((s.after cwd past).act cwd a) := by
  induction past generalizing s with
  | nil => rfl
  | cons b past ih => exact ih (s.act cwd b).session

/-! ## Since a step

What holds of a run because of one step of it, and of what all steps since
then did not do.  Both are looked at with the steps that came before. -/

/-- Some step was a `P`, and every step since is a `Q`. -/
def Since (P Q : List LoggingAction → LoggingAction → Prop) (steps : List LoggingAction) : Prop :=
  ∃ past a since, steps = past ++ a :: since ∧ P past a ∧
    ∀ mid b rest, since = mid ++ b :: rest → Q (past ++ a :: mid) b

variable {P Q : List LoggingAction → LoggingAction → Prop}

theorem not_since_nil : ¬ Since P Q [] := by
  rintro ⟨past, a, since, heq, -, -⟩
  simp at heq

/-- One more step is a `P` itself, or a `Q` after one. -/
theorem since_concat_iff {steps : List LoggingAction} {a : LoggingAction} :
    Since P Q (steps ++ [a]) ↔ P steps a ∨ (Q steps a ∧ Since P Q steps) := by
  constructor
  · rintro ⟨past, b, since, heq, hp, hq⟩
    rcases List.eq_nil_or_concat since with rfl | ⟨init, c, rfl⟩
    · -- it was the last step
      obtain ⟨rfl, hb⟩ := List.append_inj' heq rfl
      cases hb
      exact .inl hp
    · -- it was before, and the last step is one of those since
      have heq' : steps ++ [a] = (past ++ b :: init) ++ [c] := by
        rw [heq, List.concat_eq_append, List.append_assoc, List.cons_append]
      obtain ⟨rfl, hc⟩ := List.append_inj' heq' rfl
      cases hc
      refine .inr ⟨hq init a [] (List.concat_eq_append ..), past, b, init, rfl, hp, ?_⟩
      rintro mid b' rest rfl
      exact hq mid b' (rest ++ [a]) (by simp)
  · rintro (hp | ⟨hlast, past, b, since, rfl, hp, hq⟩)
    · exact ⟨steps, a, [], rfl, hp, by simp⟩
    · refine ⟨past, b, since ++ [a], by simp, hp, fun mid b' rest heq => ?_⟩
      rcases List.eq_nil_or_concat rest with rfl | ⟨init, c, rfl⟩
      · obtain ⟨rfl, hb'⟩ := List.append_inj' heq rfl
        cases hb'
        exact hlast
      · have heq' : since ++ [a] = (mid ++ b' :: init) ++ [c] := by
          rw [heq, List.concat_eq_append, List.append_assoc, List.cons_append]
        obtain ⟨hsince, -⟩ := List.append_inj' heq' rfl
        exact hq mid b' init hsince

/-! ## The handler in effect -/

/-- Whether logging counts as configured after steps from logging reset. -/
def flagAfter (steps : List LoggingAction) : Bool := (fresh.after cwd steps).logging.configured

/-- The handler that a run from logging reset installed last, if nothing was
installed or removed since. -/
def InEffect (steps : List LoggingAction) (h : Handler) : Prop :=
  Since (fun past a => a.Installs cwd (flagAfter cwd past) h)
    (fun past b => ¬ b.Changes cwd (flagAfter cwd past)) steps

/-- One more step puts a handler of its own in effect, or leaves the one that
is. -/
theorem inEffect_concat_iff {steps : List LoggingAction} {a : LoggingAction} {h : Handler} :
    InEffect cwd (steps ++ [a]) h ↔ a.Installs cwd (flagAfter cwd steps) h ∨
      (¬ a.Changes cwd (flagAfter cwd steps) ∧ InEffect cwd steps h) :=
  since_concat_iff

/-- **The handlers after a run** are the one in effect, if there is one, and
there is never more than one. -/
theorem handlers_after (steps : List LoggingAction) :
    (∃ h, (∀ h', InEffect cwd steps h' ↔ h' = h) ∧
      (fresh.after cwd steps).logging.handlers = [h]) ∨
    ((∀ h, ¬ InEffect cwd steps h) ∧ (fresh.after cwd steps).logging.handlers = []) := by
  induction steps using List.reverseRecOn with
  | nil => exact .inr ⟨fun h => not_since_nil, rfl⟩
  | append_singleton steps a ih =>
    simp only [inEffect_concat_iff, after_concat]
    rcases act_logging cwd (fresh.after cwd steps) a with
      ⟨h, hinstalls, hlogging⟩ | ⟨hremoves, hnone⟩ | ⟨hkept, hlogging⟩
    · refine .inl ⟨h, fun h' => ⟨?_, ?_⟩, by rw [hlogging]; rfl⟩
      · rintro (hinstalls' | ⟨hkept, -⟩)
        · exact hinstalls'.unique hinstalls
        · exact absurd (.inr ⟨h, hinstalls⟩) hkept
      · rintro rfl
        exact .inl hinstalls
    · refine .inr ⟨?_, hnone⟩
      rintro h (hinstalls | ⟨hkept, -⟩)
      · exact hremoves.not_installs hinstalls
      · exact hkept (.inl hremoves)
    · have hstill (h : Handler) : (a.Installs cwd (flagAfter cwd steps) h ∨
          ¬ a.Changes cwd (flagAfter cwd steps) ∧ InEffect cwd steps h) ↔ InEffect cwd steps h := by
        constructor
        · rintro (hinstalls | ⟨-, hh⟩)
          · exact absurd (.inr ⟨h, hinstalls⟩) hkept
          · exact hh
        · intro hh
          exact .inr ⟨hkept, hh⟩
      rw [hlogging]
      simpa only [hstill] using ih

end LoggingSession

end BundleConfig
