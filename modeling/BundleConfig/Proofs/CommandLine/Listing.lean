/-
# `Proofs.CommandLine.Listing` — three views of a profile

A profile is seen in three ways, which do not ask each other:

    listed      by the profiles command, from the profile itself
    built       into a configuration, of which the features command prints a part
    exported    with the configuration, as a document for the bundler

They agree.  What is listed can be read from the configuration (`listing`), and
the two places where a view looks for something that may not be there decide
alike: a listing asks whether a text is empty, a configuration whether there is
a page, and an export whether there are arguments (`FeaturesAgree`,
`FallbackAgree`).  For that a profile keeps no empty page, and features are
rendered as the empty text only if there are none (`render_eq_empty_iff`).

There is one reservation.  What is printed loses its control sequences, in each
line for itself, so that a text with an escape character in it may not be shown
as it is; without one it is (`printedLine_of_not_mem`).
-/
import BundleConfig.Proofs.CommandLine.Plan
import BundleConfig.Proofs.Features

namespace BundleConfig

/-! ## What is listed of a configuration -/

namespace ResolvedConfiguration

/-- The lines that show the profile of a configuration. -/
def listing (c : ResolvedConfiguration) : List String :=
  [Choice.name c.environment,
    "  output:   " ++ c.output.path.text,
    "  public:   " ++ Text.quote c.output.publicPath,
    "  entry:    " ++ c.entry,
    "  features: " ++ if c.wasmPack.featureArgs = "" then "-" else c.wasmPack.featureArgs]
  ++ match c.devServer.historyFallback with
    | some page => ["  fallback: " ++ page]
    | none => []

/-- What the bundler's document has under a name, and under a name in that. -/
def exported? (c : ResolvedConfiguration) (part name : String) : Option Json :=
  (c.webpack.get? part).bind (·.get? name)

theorem exported?_extraArgs (c : ResolvedConfiguration) :
    c.exported? "wasmPack" "extraArgs" = some (.text c.wasmPack.extraArgs) := rfl

theorem exported?_fallback (c : ResolvedConfiguration) :
    c.exported? "devServer" "historyApiFallback"
      = some (DevServer.fallbackDocument c.devServer.historyFallback) := rfl

/-- Features in the three views: with none a dash is listed and the bare
arguments are exported, and with some what is built is listed and exported. -/
def FeaturesAgree (p : Profile) (c : ResolvedConfiguration) : Prop :=
  (p.features = [] ∧ c.wasmPack.featureArgs = "" ∧
    c.listing[4]? = some "  features: -" ∧
    c.exported? "wasmPack" "extraArgs" = some (.text "--no-typescript --")) ∨
  (p.features ≠ [] ∧ (∃ rest, c.wasmPack.featureArgs = "--features=" ++ rest) ∧
    c.listing[4]? = some ("  features: " ++ c.wasmPack.featureArgs) ∧
    c.exported? "wasmPack" "extraArgs"
      = some (.text ("--no-typescript -- " ++ c.wasmPack.featureArgs)))

/-- A fallback page in the three views: it is there, and listed in a line of its
own and exported as an index, or there is none, no line, and `false` exported. -/
def FallbackAgree (c : ResolvedConfiguration) : Prop :=
  (c.serveWithFallback = true ∧ ∃ page, c.devServer.historyFallback = some page ∧
    c.listing.drop 5 = ["  fallback: " ++ page] ∧
    c.exported? "devServer" "historyApiFallback" = some (.object [("index", .text page)])) ∨
  (c.serveWithFallback = false ∧ c.devServer.historyFallback = none ∧ c.listing.drop 5 = [] ∧
    c.exported? "devServer" "historyApiFallback" = some (.bool false))

theorem fallbackAgree (c : ResolvedConfiguration) : c.FallbackAgree := by
  cases hpage : c.devServer.historyFallback with
  | some page =>
    refine .inl ⟨?_, page, hpage, ?_, ?_⟩
    · rw [serveWithFallback, hpage]
      rfl
    · simp only [listing, hpage]
      rfl
    · rw [exported?_fallback, hpage]
      rfl
  | none =>
    refine .inr ⟨?_, hpage, ?_, ?_⟩
    · rw [serveWithFallback, hpage]
      rfl
    · simp only [listing, hpage]
      rfl
    · rw [exported?_fallback, hpage]
      rfl

theorem featuresAgree (e : EnvironmentName) (p : Profile) (host : String) (port : Port) :
    FeaturesAgree p (Builder.configuration e p host port) := by
  let c := Builder.configuration e p host port
  have hargs : c.wasmPack.featureArgs = Features.render p.features := rfl
  have hlisted : c.listing[4]? = some ("  features: "
      ++ if c.wasmPack.featureArgs = "" then "-" else c.wasmPack.featureArgs) := rfl
  by_cases hnone : p.features = []
  · have hempty : c.wasmPack.featureArgs = "" := by
      rw [hargs, hnone]
      rfl
    refine .inl ⟨hnone, hempty, ?_, ?_⟩
    · rw [hlisted, if_pos hempty]
      rfl
    · rw [exported?_extraArgs, WasmPackInvocation.extraArgs, if_pos hempty]
      rfl
  · have hsome : c.wasmPack.featureArgs ≠ "" := by
      rw [hargs]
      exact mt Features.render_eq_empty_iff.1 hnone
    refine .inr ⟨hnone, ?_, ?_, ?_⟩
    · obtain ⟨flag, flags, hflags⟩ := List.exists_cons_of_ne_nil hnone
      rw [hargs, hflags]
      exact Features.render_cons flag flags
    · rw [hlisted, if_neg hsome]
    · rw [exported?_extraArgs, WasmPackInvocation.extraArgs, if_neg hsome]
      rfl

end ResolvedConfiguration

namespace CommandLine

open ResolvedConfiguration (FeaturesAgree FallbackAgree)

/-! ## What is printed -/

/-- A text without escape characters is printed as it is. -/
theorem printedLine_of_not_mem {s : String} (h : Text.controlStart ∉ s.toList) :
    printedLine s = line s := by
  rw [printedLine, Text.plain_of_not_mem h, String.ofList_toList]

/-- What is listed of a profile can be read from a configuration that was built
from it. -/
theorem profileLines_eq (e : EnvironmentName) (p : Profile) (host : String) (port : Port) :
    profileLines e p = (Builder.configuration e p host port).listing := by
  cases hpage : p.historyFallback with
  | some page =>
    simp only [profileLines, ResolvedConfiguration.listing, Builder.configuration, Builder.server,
      hpage]
    rfl
  | none =>
    simp only [profileLines, ResolvedConfiguration.listing, Builder.configuration, Builder.server,
      hpage]
    rfl

/-- A table is listed with the lines of development first. -/
theorem tableText_eq (t : ProfileTable) :
    tableText t = String.join ((profileLines .development (t.profile .development)
      ++ profileLines .production (t.profile .production)).map printedLine) := by
  rw [List.map_append]
  exact congrArg String.join (congrArg _ (List.append_nil _))

/-- A configuration that a builder builds for an environment, in agreement with
the profile that it was built from; its features are what the features command
prints. -/
structure Views (b : Builder) (e : EnvironmentName) (c : ResolvedConfiguration) : Prop where
  built : ∀ env, (b.build (.text (Choice.name e)) env).result = .ok c
  listed : profileLines e (b.table.profile e) = c.listing
  features : FeaturesAgree (b.table.profile e) c
  fallback : FallbackAgree c
  printed : ∀ cwd files o, run cwd (.builder b) files ⟨o, .features (Choice.name e)⟩
    = .ok (⟨0, printedLine c.wasmPack.featureArgs, []⟩, files)

theorem buildLog_reset (b : Builder) (mode : String) : buildLog .reset b mode = [] :=
  Logging.reset.flatMap_emit_of_nil rfl _

theorem views_configuration {b : Builder} {host : String} {port : Port}
    (hhost : b.host.readText = .ok host) (hport : b.port.readPort = .ok port)
    (e : EnvironmentName) :
    Views b e (Builder.configuration e (b.table.profile e) host port) := by
  have hbuilt (env : Environ) : (b.build (.text (Choice.name e)) env).result
      = .ok (Builder.configuration e (b.table.profile e) host port) := by
    have hmode : resolveEnvironment (.text (Choice.name e)) = .ok e :=
      resolveEnvironment_eq_ok_iff.2 rfl
    rw [Builder.build_result hhost hport, hmode]
  exact {
    built := hbuilt
    listed := profileLines_eq e _ host port
    features := ResolvedConfiguration.featuresAgree e _ host port
    fallback := ResolvedConfiguration.fallbackAgree _
    printed := by
      intro cwd files o
      have hplan := planBuild_of_build .reset (hbuilt []) fun notices c =>
        .done ⟨0, printedLine c.wasmPack.featureArgs, notices⟩
      rw [buildLog_reset] at hplan
      exact congrArg (execute files) hplan }

/-! ## All of it -/

/-- **The views of a profile agree.**  Whatever the profiles of a table hold,
with a good host and port both environments are built, and what is listed of
the table are the lines that can be read from the two configurations, those of
development first.  Each is printed without its control sequences, and as it is
if there is no escape character in it. -/
theorem views_agree {b : Builder} (hhost : b.host.IsHost) (hport : b.port.IsPort) :
    (∃ development production, Views b .development development ∧
      Views b .production production ∧
      tableText b.table
        = String.join ((development.listing ++ production.listing).map printedLine)) ∧
    (∀ cwd files o, run cwd (.builder b) files ⟨o, .profiles⟩
      = .ok (⟨0, tableText b.table, []⟩, files)) ∧
    ∀ s : String, '\x1b' ∉ s.toList → printedLine s = s ++ "\n" := by
  obtain ⟨host, hh⟩ := hhost
  obtain ⟨port, hp⟩ := Value.isPort_iff.1 hport
  have hviews := views_configuration (Value.readText_ok_iff.2 hh) hp
  refine ⟨⟨_, _, hviews .development, hviews .production, ?_⟩, ?_, ?_⟩
  · rw [tableText_eq, (hviews .development).listed, (hviews .production).listed]
  · intro cwd files o
    rfl
  · intro s hs
    exact printedLine_of_not_mem hs

/-- A table with features in one profile and a fallback page in the other, both
with one empty text: the empty feature is listed, the page that was never given
is not. -/
theorem views_agree_of_empty_feature :
    let production : Profile :=
      { outputDir := ⟨.ofText "/o", rfl⟩, features := [""], entry := ⟨"e.js", by decide⟩ }
    let development : Profile := { production with
      features := [], historyFallback := some ⟨"/index.html", by decide⟩ }
    let b : Builder := ⟨⟨development, production⟩, .text "::1", .text "80", Builder.appLogger⟩
    ∃ d p, Views b .development d ∧ Views b .production p ∧
      d.listing[4]? = some "  features: -" ∧ d.listing[5]? = some "  fallback: /index.html" ∧
      p.listing[4]? = some "  features: --features=" ∧ p.listing[5]? = none := by
  intro production development b
  obtain ⟨⟨d, p, hd, hp, -⟩, -⟩ := views_agree (b := b) ⟨"::1", rfl⟩ ⟨80, rfl, by decide, by decide⟩
  refine ⟨d, p, hd, hp, ?_⟩
  rw [← hd.listed, ← hp.listed]
  exact ⟨rfl, rfl, rfl, rfl⟩

/-- Features with a control sequence in them are not printed as they are: the
color is lost. -/
theorem features_lose_color :
    let cwd : AbsolutePath := ⟨.ofText "/srv", rfl⟩
    let plain : Profile := { outputDir := ⟨.ofText "/o", rfl⟩, entry := ⟨"e.js", by decide⟩ }
    let b : Builder := ⟨⟨plain, { plain with features := ["\x1b[31ma"] }⟩, Builder.defaultHost,
      Builder.defaultPort, Builder.defaultLogger⟩
    let o : GlobalOptions := ⟨none, none, none, none, false, false⟩
    ∃ c printed, (b.build (.text "production") []).result = .ok c ∧
      run cwd (.builder b) (.empty []) ⟨o, .features "production"⟩ = .ok (printed, .empty []) ∧
      c.wasmPack.featureArgs = "--features=\x1b[31ma" ∧ printed.stdout = "--features=a\n" ∧
      printed.stdout ≠ c.wasmPack.featureArgs ++ "\n" := by
  intro cwd plain b o
  have hviews : Views b .production (Builder.configuration .production
      (b.table.profile .production) DevServer.defaultHost DevServer.defaultPort) :=
    views_configuration rfl (Value.readPort_int _) .production
  have hbuild := hviews.built []
  have hrun := hviews.printed cwd (.empty []) o
  have hargs : (Builder.configuration .production (b.table.profile .production)
      DevServer.defaultHost DevServer.defaultPort).wasmPack.featureArgs = "--features=\x1b[31ma" := rfl
  have hprinted : printedLine "--features=\x1b[31ma" = "--features=a\n" := by
    have hhead : Text.controlStart ∉ "--features=".toList := by decide
    have hcolor : Text.behindSequence? "\x1b[31ma".toList = some ['a'] := by decide
    have hplain : Text.plain ("--features=".toList ++ "\x1b[31ma".toList)
        = "--features=".toList ++ ['a'] := by
      rw [Text.plain_append_of_not_mem hhead, Text.plain_of_sequence hcolor,
        Text.plain_of_not_mem (by decide)]
    exact congrArg (fun cs => line (String.ofList cs)) hplain
  refine ⟨_, _, hbuild, hrun, hargs, ?_, ?_⟩
  · rw [hargs]
    exact hprinted
  · rw [hargs]
    intro hsame
    exact absurd (hprinted.symm.trans hsame) (by decide)

end CommandLine

end BundleConfig
