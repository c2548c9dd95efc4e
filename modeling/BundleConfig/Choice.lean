/-
# `Choice` — the closed vocabularies of the configuration

Three things are chosen from a fixed list of names: the environment a
bundle is built for, the target it is deployed to, and the level logging
starts at.  `Choice` gives each its list and its names; `ofText?` looks a
name up, exactly as it is spelt.  `Member` is a choice from any of the
three, as a caller may pass one in place of its name.
-/

namespace BundleConfig

/-- A closed vocabulary: all its members, in order, and the name of each. -/
class Choice (α : Type) where
  all : List α
  name : α → String

namespace Choice

variable {α : Type} [Choice α]

def ofText? (s : String) : Option α := all.find? fun a => name a == s

def names (α : Type) [Choice α] : List String := (all : List α).map name

end Choice

/-- What a bundle is built for. -/
inductive EnvironmentName
  | development
  | production
deriving DecidableEq

instance : Choice EnvironmentName where
  all := [.development, .production]
  name
    | .development => "development"
    | .production => "production"

/-- Where the built UI is deployed: embedded in the companion web server,
or as a demo site of its own. -/
inductive DeploymentTarget
  | web
  | demo
deriving DecidableEq

instance : Choice DeploymentTarget where
  all := [.web, .demo]
  name
    | .web => "web"
    | .demo => "demo"

/-- The levels that settings may ask logging to start at. -/
inductive LogLevel
  | debug
  | info
  | warning
  | error
  | critical
deriving DecidableEq

instance : Choice LogLevel where
  all := [.debug, .info, .warning, .error, .critical]
  name
    | .debug => "DEBUG"
    | .info => "INFO"
    | .warning => "WARNING"
    | .error => "ERROR"
    | .critical => "CRITICAL"

/-- A choice from one of the vocabularies. -/
inductive Member
  | environment (e : EnvironmentName)
  | target (t : DeploymentTarget)
  | level (l : LogLevel)
deriving DecidableEq

namespace Member

def text : Member → String
  | .environment e => Choice.name e
  | .target t => Choice.name t
  | .level l => Choice.name l

/-- The label that diagnostics show a member under. -/
def label : Member → String
  | .environment .development => "EnvironmentName.DEVELOPMENT"
  | .environment .production => "EnvironmentName.PRODUCTION"
  | .target .web => "DeploymentTarget.WEB"
  | .target .demo => "DeploymentTarget.DEMO"
  | .level .debug => "LogLevel.DEBUG"
  | .level .info => "LogLevel.INFO"
  | .level .warning => "LogLevel.WARNING"
  | .level .error => "LogLevel.ERROR"
  | .level .critical => "LogLevel.CRITICAL"

def all : List Member :=
  Choice.all.map .environment ++ Choice.all.map .target ++ Choice.all.map .level

def ofLabel? (s : String) : Option Member := all.find? fun m => m.label == s

end Member

/-- A name is found again under its own spelling. -/
theorem EnvironmentName.ofText?_name (e : EnvironmentName) :
    Choice.ofText? (Choice.name e) = some e := by cases e <;> decide

theorem DeploymentTarget.ofText?_name (t : DeploymentTarget) :
    Choice.ofText? (Choice.name t) = some t := by cases t <;> decide

theorem LogLevel.ofText?_name (l : LogLevel) :
    Choice.ofText? (Choice.name l) = some l := by cases l <;> decide

theorem Member.ofLabel?_label (m : Member) : Member.ofLabel? m.label = some m := by
  cases m with
  | environment e => cases e <;> decide
  | target t => cases t <;> decide
  | level l => cases l <;> decide

end BundleConfig
