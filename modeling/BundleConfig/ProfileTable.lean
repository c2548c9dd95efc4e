/-
# `ProfileTable` — a profile for every environment

A table has a profile for each environment, so looking an environment up
never fails; only a selector that names no environment does.  A table is
made from named profiles, which have to cover every environment and may
hold more, or from a deployment target and the directory of the UI crate.

The built-in profiles of a target are relative to that directory; in the
table their output directories are absolute, with every `..` cancelled.
They are read from fields and named like any others (`ofSelectors`);
`ofTarget` gives the same tables in one step.
-/
import BundleConfig.Failure
import BundleConfig.Path.Written
import BundleConfig.Profile

namespace BundleConfig

/-- A profile for every environment. -/
structure ProfileTable where
  development : Profile
  production : Profile
deriving DecidableEq

namespace ProfileTable

def profile (t : ProfileTable) : EnvironmentName → Profile
  | .development => t.development
  | .production => t.production

def environments (_ : ProfileTable) : List EnvironmentName := Choice.all

/-- The environments of a table with their profiles, in order. -/
def entries (t : ProfileTable) : List (EnvironmentName × Profile) :=
  t.environments.map fun e => (e, t.profile e)

def size (t : ProfileTable) : Nat := t.entries.length

/-- The profile of the environment that a selector names. -/
def lookup (t : ProfileTable) (selector : Value) : Except ConfigurationError Profile :=
  match resolveEnvironment selector with
  | .ok e => .ok (t.profile e)
  | .error err => .error err

/-! ## Tables from named profiles -/

/-- The environments that named profiles do not cover, in order. -/
def uncovered (named : List (String × Profile)) : List EnvironmentName :=
  Choice.all.filter fun e => (named.lookup (Choice.name e)).isNone

/-- The table of named profiles, which have to cover every environment. -/
def ofNamed (named : List (String × Profile)) : Except ConfigurationError ProfileTable :=
  match named.lookup (Choice.name EnvironmentName.development),
      named.lookup (Choice.name EnvironmentName.production) with
  | some development, some production => .ok ⟨development, production⟩
  | _, _ => .error (.uncovered (uncovered named))

/-- Named profiles from named fields; the first profile that is refused ends it. -/
def readNamed : List (String × Fields) → Except Failure (List (String × Profile))
  | [] => .ok []
  | (name, fs) :: rest =>
    match (Profile.read fs).orRefuse .profile with
    | .error e => .error e
    | .ok p =>
      match readNamed rest with
      | .error e => .error e
      | .ok ps => .ok ((name, p) :: ps)

/-- The table of profiles given by their fields. -/
def ofFields (named : List (String × Fields)) : Except Failure ProfileTable :=
  match readNamed named with
  | .error e => .error e
  | .ok ps => (ofNamed ps).mapError .configuration

/-! ## Tables of a deployment target -/

/-- A profile whose output directory is relative to the UI crate. -/
structure Template where
  outputDir : String
  publicPath : String
  features : List String
  entry : NonEmptyText
  historyFallback : Option NonEmptyText

/-- The page that built-in profiles fall back to. -/
def indexPage : NonEmptyText := ⟨"/index.html", by decide⟩

/-- A built-in profile. -/
def template : DeploymentTarget → EnvironmentName → Template
  | .web, .production => {
      outputDir := "../devand-web/static/ui"
      publicPath := "/public/ui/"
      features := []
      entry := ⟨"./bootstrap-prod.js", by decide⟩
      historyFallback := some indexPage }
  | .web, .development => {
      outputDir := "dist"
      publicPath := "/"
      features := ["mock_http"]
      entry := ⟨"./bootstrap-dev.js", by decide⟩
      historyFallback := some indexPage }
  | .demo, .production => {
      outputDir := "dist"
      publicPath := "/"
      features := []
      entry := ⟨"./bootstrap.js", by decide⟩
      historyFallback := some indexPage }
  | .demo, .development => {
      outputDir := "dist"
      publicPath := ""
      features := ["mock_http"]
      entry := ⟨"./bootstrap.js", by decide⟩
      historyFallback := some indexPage }

/-- The built-in profiles of a target, by environment. -/
def templates (target : DeploymentTarget) : List (EnvironmentName × Template) :=
  [(.production, template target .production), (.development, template target .development)]

/-- The fields of a template filled in for the directory of the UI crate. -/
def Template.fields (s : Template) (root : Path) : Fields := [
  ("output_dir", .text (Path.cleanText (root.join (.ofText s.outputDir)).text)),
  ("public_path", .text s.publicPath),
  ("features", .list (s.features.map .text)),
  ("entry", .text s.entry.text),
  ("history_fallback", match s.historyFallback with
    | some page => .text page.text
    | none => .null)]

/-- The table of a target given by selector, for a UI crate in a directory
taken from `cwd`; the target is looked at first. -/
def ofSelectors (cwd : AbsolutePath) (target uiRoot : Value) : Except Failure ProfileTable :=
  match target.choose? DeploymentTarget with
  | none => .error (.configuration (.unknownTarget target))
  | some t =>
    match uiRoot.asText? with
    | none => .error (.notPathLike uiRoot.kind)
    | some s =>
      let root := Path.ofText (cwd.absoluteText s)
      ofFields ((templates t).map fun (e, s) => (Choice.name e, s.fields root))

/-! ## The same tables in one step

Nothing in a built-in profile can be refused, so that the table of a known
target is there at once. -/

/-- A template filled in for the directory of the UI crate. -/
def Template.profile (s : Template) (root : AbsolutePath) : Profile where
  outputDir := root.resolve (.ofText s.outputDir)
  publicPath := s.publicPath
  features := s.features
  entry := s.entry
  historyFallback := s.historyFallback

/-- The table of a target, for a UI crate in a directory taken from `cwd`. -/
def ofTarget (cwd : AbsolutePath) (target : DeploymentTarget) (uiRoot : Path) : ProfileTable where
  development := (template target .development).profile (cwd.resolve uiRoot)
  production := (template target .production).profile (cwd.resolve uiRoot)

end ProfileTable

end BundleConfig
