/-
# `Proofs.CommandLine.Resolve` — what is printed says what was resolved

A command that resolves an environment prints the document of a
configuration, whatever is in the texts of its settings.  Of the printed text:

    characters       printable ASCII and line breaks
    end              one line break
    read back        the document, in which no name stands twice
    plain            the same text, as there are no control sequences to lose

A file that is written in place of printing holds the same text, if it can be
written at all (`Deposits`).

Since the text is read back, it determines the document, and with it the
configuration: two commands that print the same text resolved the same
(`eq_of_writes`), wherever they ran and whatever their settings were.
-/
import BundleConfig.Proofs.CommandLine.Run
import BundleConfig.Proofs.Configuration.Export
import BundleConfig.Proofs.Configuration.Keys
import BundleConfig.Proofs.FileStore
import BundleConfig.Proofs.Json.Ascii
import BundleConfig.Proofs.Json.RoundTrip

namespace BundleConfig.CommandLine

variable {cwd here : AbsolutePath} {s s' : Settings} {e e' : EnvironmentName}
  {c c' : ResolvedConfiguration}

/-! ## What the text says -/

/-- A text is a faithful writing of a configuration's document. -/
structure Writes (out : String) (c : ResolvedConfiguration) : Prop where
  ascii : ∀ ch ∈ out.toList, Json.IsAscii ch
  closes : ∃ body last, out.toList = body ++ [last, '\n'] ∧ last ≠ '\n'
  reads : Json.parse? out = some c.webpack
  plain : Text.plain out.toList = out.toList

theorem toList_line (c : ResolvedConfiguration) : (line (configurationText c)).toList
    = Json.write (.indented 2) 0 c.webpack ++ ['\n'] := by
  rw [line, configurationText, Json.render, String.toList_append, String.toList_ofList]
  rfl

theorem writes_line (c : ResolvedConfiguration) : Writes (line (configurationText c)) c := by
  have hascii : ∀ ch ∈ (line (configurationText c)).toList, Json.IsAscii ch := by
    rw [toList_line, List.forall_mem_append]
    exact ⟨Json.isAscii_write _ _ _, List.forall_mem_singleton.2 (.inl rfl)⟩
  have hblank : ∀ ch ∈ ['\n'], Json.Reader.isBlank ch = true := List.forall_mem_singleton.2 rfl
  have hread := Json.parse?_write (.indented 2) c.webpack hblank
  rw [← toList_line, String.ofList_toList] at hread
  obtain ⟨body, last, hbody, hlast⟩ := Json.write_closes (.indented 2) 0 c.webpack
  refine ⟨hascii, ⟨body, last, ?_, ?_⟩, hread, Json.plain_of_isAscii hascii⟩
  · rw [toList_line, hbody, List.append_assoc]
    rfl
  · rintro rfl
    exact absurd hlast (by decide)

/-- Configurations that were resolved and are written as one text are the same. -/
theorem eq_of_writes (h : Resolves cwd s e c) (h' : Resolves here s' e' c') {out : String}
    (hout : Writes out c) (hout' : Writes out c') : c = c' := by
  have hdocument : c.webpack = c'.webpack := by
    have hreads := hout.reads
    rw [hout'.reads] at hreads
    exact (Option.some.inj hreads).symm
  -- every document is alike to itself, and being alike is what determines a configuration
  have hagrees : c.AgreesBesideEnvironment c' := by
    rw [← ResolvedConfiguration.webpack_alike, ← hdocument, ResolvedConfiguration.webpack_alike]
    exact (ResolvedConfiguration.eq_iff_agrees.1 rfl).2
  exact Builder.eq_of_agrees h.build_eq h'.build_eq hagrees

/-! ## All of it -/

/-- What resolving writes is the text that it prints, once more in the file;
where the file cannot be written, nothing is. -/
def Deposits (cwd : AbsolutePath) (s : Settings) (i : Invocation) (path : Path) (out : String)
    (stderr : List Notice) (files : FileStore) : Prop :=
  (∃ after, files.write path out = .ok after ∧ after.read? path = some out ∧
    run cwd (.settings s) files i
      = .ok (⟨0, printedLine ("✓ Wrote configuration: " ++ path.text), stderr⟩, after)) ∨
  ∃ err, files.write path out = .error err ∧
    run cwd (.settings s) files i = .ok (⟨1, "", stderr ++ [complaint
      ("Could not write " ++ path.text ++ ": " ++ err.message path)]⟩, files)

theorem deposits_of_plan {i : Invocation} {path : Path} {out : String} {stderr : List Notice}
    (h : plan cwd i (.settings s) = .write stderr path out) (files : FileStore) :
    Deposits cwd s i path out stderr files := by
  unfold Deposits
  rw [run, h]
  cases hwrite : files.write path out with
  | ok after =>
    refine .inl ⟨after, rfl, FileStore.read?_write hwrite, ?_⟩
    simp only [execute, hwrite]
    rfl
  | error err =>
    refine .inr ⟨err, rfl, ?_⟩
    simp only [execute, hwrite]
    rfl

/-- What is resolved is printed, or deposited, behind what was logged. -/
theorem run_of_resolves (h : Resolves cwd s e c) : ∃ stderr : List Emission, ∀ o files,
    run cwd (.settings s) files ⟨o, .resolve (Choice.name e) none⟩
      = .ok (⟨0, line (configurationText c), stderr.map .logged⟩, files) ∧
    ∀ path, Deposits cwd s ⟨o, .resolve (Choice.name e) (some path)⟩ path
      (line (configurationText c)) (stderr.map .logged) files := by
  obtain ⟨stderr, hplan⟩ := plan_resolve h
  refine ⟨stderr, fun o files => ⟨?_, fun path => deposits_of_plan ((hplan o).2 path) files⟩⟩
  rw [run, (hplan o).1]
  rfl

/-- **Resolving prints a faithful text.**  Settings and an environment have one
configuration, and the command prints a text that is ASCII, closed by one
newline, and read back as the configuration's document, or has that same text
written to a file.  Options do what their settings do.  Two commands print the
same text exactly if they resolved the same configuration. -/
theorem resolve_faithful (cwd : AbsolutePath) :
    (∀ s e, ∃ c out, Resolves cwd s e c ∧ c.webpack.DistinctKeys ∧ Writes out c ∧
      ∃ stderr : List Emission, ∀ o files,
        run cwd (.settings s) files ⟨o, .resolve (Choice.name e) none⟩
          = .ok (⟨0, out, stderr.map .logged⟩, files) ∧
        ∀ path, Deposits cwd s ⟨o, .resolve (Choice.name e) (some path)⟩ path out
          (stderr.map .logged) files) ∧
    (∀ files i, run cwd .options files i = run cwd (.settings (i.options.settings cwd)) files i) ∧
    ∀ here s s' e e' c c', Resolves cwd s e c → Resolves here s' e' c' →
      ∀ o o' files files', ∃ printed printed',
        run cwd (.settings s) files ⟨o, .resolve (Choice.name e) none⟩ = .ok (printed, files) ∧
        run here (.settings s') files' ⟨o', .resolve (Choice.name e') none⟩
          = .ok (printed', files') ∧
        (printed.stdout = printed'.stdout ↔ c = c') := by
  refine ⟨?text, run_options cwd, ?distinct⟩
  case text =>
    intro s e
    have hc : Resolves cwd s e _ := resolves_iff.2 rfl
    exact ⟨_, _, hc, ResolvedConfiguration.webpack_distinctKeys _, writes_line _, run_of_resolves hc⟩
  case distinct =>
    intro here s s' e e' c c' h h' o o' files files'
    obtain ⟨stderr, hrun⟩ := run_of_resolves h
    obtain ⟨stderr', hrun'⟩ := run_of_resolves h'
    refine ⟨_, _, (hrun o files).1, (hrun' o' files').1, ?_, ?_⟩
    · intro (hout : line (configurationText c) = line (configurationText c'))
      have hwrites : Writes (line (configurationText c)) c' := by
        rw [hout]
        exact writes_line c'
      exact eq_of_writes h h' (writes_line c) hwrites
    · rintro rfl
      rfl

/-- Settings with quotes, line breaks, escapes and a character beyond the 16-bit
range in their texts: the document that is written to a file holds the host as
it is, and the other environment prints another text. -/
theorem resolve_faithful_of_strange_texts :
    let cwd : AbsolutePath := ⟨.ofText "/srv", rfl⟩
    let host := "\"\\\n\x1b[31mé😀\x00"
    let s : Settings := { uiRoot := .ofText "a\"b\nc", target := .demo, devServerHost := host }
    let o : GlobalOptions := ⟨none, none, none, none, false, false⟩
    (∃ (c : ResolvedConfiguration) (out : String) (printed : Printed) (after : FileStore),
      run cwd (.settings s) (.empty []) ⟨o, .resolve "production" (some (.ofText "out.json"))⟩
        = .ok (printed, after) ∧
      after.read? (.ofText "out.json") = some out ∧ (∀ ch ∈ out.toList, Json.IsAscii ch) ∧
      Json.parse? out = some c.webpack ∧ c.devServer.host = host) ∧
    ∃ printed printed',
      run cwd (.settings s) (.empty []) ⟨o, .resolve "production" none⟩
        = .ok (printed, .empty []) ∧
      run cwd (.settings s) (.empty []) ⟨o, .resolve "development" none⟩
        = .ok (printed', .empty []) ∧
      printed.stdout ≠ printed'.stdout := by
  intro cwd host s o
  have hproduction : Choice.name EnvironmentName.production = "production" := rfl
  have hdevelopment : Choice.name EnvironmentName.development = "development" := rfl
  obtain ⟨htext, -, hdistinct⟩ := resolve_faithful cwd
  obtain ⟨c, out, hc, -, hwrites, stderr, hrun⟩ := htext s .production
  obtain ⟨d, -, hd, -⟩ := htext s .development
  rw [← hproduction, ← hdevelopment]
  refine ⟨?written, ?distinct⟩
  case written =>
    have hhost : c.devServer.host = host := by
      rw [resolves_iff.1 hc]
      rfl
    rcases (hrun o (.empty [])).2 (.ofText "out.json") with ⟨after, -, hread, hafter⟩ | ⟨err, hno, -⟩
    · exact ⟨c, out, _, after, hafter, hread, hwrites.ascii, hwrites.reads, hhost⟩
    · cases hno
  case distinct =>
    obtain ⟨printed, printed', hprinted, hprinted', hsame⟩ :=
      hdistinct cwd s s .production .development c d hc hd o o (.empty []) (.empty [])
    refine ⟨printed, printed', hprinted, hprinted', fun hout => ?_⟩
    have henvironment : c.environment = d.environment :=
      congrArg ResolvedConfiguration.environment (hsame.1 hout)
    rw [resolves_iff.1 hc, resolves_iff.1 hd] at henvironment
    cases henvironment

end BundleConfig.CommandLine
