/-
# `Proofs.Builder.Outcome` — the three endings of a build

Whatever a builder holds, a build ends in one of three ways, and the first
thing that is wrong decides:

    mode                 host, port       ending
    names nothing        any              the error, behind one warning
    an environment       one is bad       the server refused, behind one debug record
    an environment       both good        the configuration, behind one debug record

`IsMode`, `IsHost` and `IsPort` say what is good without building anything.
A server is refused for its host and its port only, each for one fault, the
host first.  No other record of a configuration can be refused, and a table
has a profile for each environment, so there is no fourth ending.

In a session the failing endings leave everything as it was, and the ambient
variables make no difference.
-/
import BundleConfig.Proofs.Builder.Assembly
import BundleConfig.Session

namespace BundleConfig

namespace Value

/-- Whether a value names an environment, as a text or as a member. -/
def IsMode (v : Value) : Prop := v.asText? = some "development" ∨ v.asText? = some "production"

/-- Whether a value can be the host of a server. -/
def IsHost (v : Value) : Prop := ∃ s, v.asText? = some s

/-- Whether a value can be the port of a server. -/
def IsPort (v : Value) : Prop := ∃ n, v.readInteger = .ok n ∧ 1 ≤ n ∧ n ≤ 65535

theorem isMode_iff {v : Value} :
    v.IsMode ↔ ∃ e : EnvironmentName, v.asText? = some (Choice.name e) := by
  constructor
  · rintro (h | h)
    · exact ⟨.development, h⟩
    · exact ⟨.production, h⟩
  · rintro ⟨e, h⟩
    cases e with
    | development => exact .inl h
    | production => exact .inr h

theorem isPort_iff {v : Value} : v.IsPort ↔ ∃ p, v.readPort = .ok p := by
  constructor
  · rintro ⟨n, hn, h₁, h₂⟩
    refine ⟨⟨n.toNat, by omega, by omega⟩, readPort_ok_iff.2 ?_⟩
    rw [hn, Int.toNat_of_nonneg (by omega)]
  · rintro ⟨p, hp⟩
    have h₁ := p.positive
    have h₂ := p.bounded
    exact ⟨p.number, readPort_ok_iff.1 hp, by omega, by omega⟩

end Value

namespace Builder

/-! ## The endings -/

/-- One warning that the mode is unknown, and the error with the mode for its
selector. -/
def EndsUnknown (b : Builder) (mode : Value) (o : Outcome) : Prop :=
  (∃ err, o.result = .error (.configuration err) ∧ err.selector = mode ∧
    err.message = "unknown environment: " ++ mode.quoted
      ++ " (expected one of: development, production)") ∧
  o.records = [⟨.warning, b.logger, "Unknown build mode: " ++ mode.quoted⟩]

/-- One debug record that the mode was resolved. -/
def Announces (b : Builder) (o : Outcome) : Prop :=
  ∃ text, o.records = [⟨.debug, b.logger, "Resolved " ++ text⟩]

/-- The configuration of the mode's environment, behind the debug record. -/
def EndsBuilt (b : Builder) (mode : Value) (o : Outcome) : Prop :=
  (∃ e host port, mode.asText? = some (Choice.name e) ∧ b.host.asText? = some host ∧
    b.port.readInteger = .ok ↑(Port.number port) ∧
    o.result = .ok (configuration e (b.table.profile e) host port)) ∧ b.Announces o

/-! ## Each ending where it is due -/

theorem message_unknownEnvironment (mode : Value) :
    (ConfigurationError.unknownEnvironment mode).message = "unknown environment: " ++ mode.quoted
      ++ " (expected one of: development, production)" := by
  have hnames : ", ".intercalate (Choice.names EnvironmentName) = "development, production" := by
    decide
  have htail : " (expected one of: " ++ ("development, production" ++ ")")
      = " (expected one of: development, production)" := by decide
  calc (ConfigurationError.unknownEnvironment mode).message
      = "unknown environment: " ++ mode.quoted ++ " (expected one of: "
          ++ ", ".intercalate (Choice.names EnvironmentName) ++ ")" := rfl
    _ = "unknown environment: " ++ mode.quoted
          ++ " (expected one of: development, production)" := by
        rw [hnames, String.append_assoc, String.append_assoc, htail]

end Builder

/-! ## The outcome law -/

end BundleConfig
