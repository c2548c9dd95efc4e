/-
# `Proofs.OutputDirectory` — where the bundle of a target goes

The built-in profiles name their output directories relative to the directory
of the UI crate.  From where that leads, by its slashes and components:

    web, production      beside it, to `devand-web/static/ui`
    any other profile    below it, to `dist`

`outputLocation` is this table.  At the root there is nothing beside, and the
directories of both kinds are below it.

On the way to a table the directory of the crate is made absolute as a text,
joined as a path, cleaned as a text, and read as a path again.  All of that
depends on where it leads and on nothing else in how it is written
(`ofSelectors_congr`).
-/
import BundleConfig.Proofs.Path.Location
import BundleConfig.Proofs.ProfileTable

namespace BundleConfig

namespace ProfileTable

/-- Where the bundle goes, from where the directory of the UI crate leads. -/
def outputLocation : DeploymentTarget → EnvironmentName → Location → Location
  | .web, .production, l =>
      { l with components := l.components.dropLast ++ ["devand-web", "static", "ui"] }
  | _, _, l => { l with components := l.components ++ ["dist"] }

theorem outputLocation_settled {l : Location} (h : l.Settled) (t : DeploymentTarget)
    (e : EnvironmentName) : (outputLocation t e l).Settled := by
  have hdist : (outputLocation .demo e l).Settled := {
    slashes := h.slashes
    components := by
      intro c hc
      rcases List.mem_append.1 hc with hc | hc
      · exact h.components c hc
      · rw [List.mem_singleton.1 hc]
        decide }
  have hbeside : (outputLocation .web .production l).Settled := {
    slashes := h.slashes
    components := by
      intro c hc
      rcases List.mem_append.1 hc with hc | hc
      · exact h.components c (List.dropLast_subset _ hc)
      · simp only [List.mem_cons, List.not_mem_nil, or_false] at hc
        rcases hc with rfl | rfl | rfl <;> decide }
  cases t with
  | demo => exact hdist
  | web =>
    cases e with
    | development => exact hdist
    | production => exact hbeside

theorem outputLocation_components_ne_nil (t : DeploymentTarget) (e : EnvironmentName)
    (l : Location) : (outputLocation t e l).components ≠ [] := by
  cases t <;> cases e <;> exact List.append_ne_nil_of_right_ne_nil _ (List.cons_ne_nil _ _)

/-- The output directory of a built-in profile is where the table says. -/
theorem location_template (t : DeploymentTarget) (e : EnvironmentName) {root : AbsolutePath}
    (h : root.Settled) :
    ((template t e).profile root).outputDir.location = outputLocation t e root.location := by
  have hdist : (root.resolve (.ofText "dist")).location
      = outputLocation .demo e root.location := by
    rw [AbsolutePath.location_resolve h rfl]
    have hparts : (Path.ofText "dist").parts = ["dist"] := by decide
    rw [hparts]
    rfl
  have hbeside : (root.resolve (.ofText "../devand-web/static/ui")).location
      = outputLocation .web .production root.location := by
    rw [AbsolutePath.location_resolve h rfl]
    have hparts : (Path.ofText "../devand-web/static/ui").parts
        = ["..", "devand-web", "static", "ui"] := by decide
    have hsteps : ["..", "devand-web", "static", "ui"].foldl Location.step root.location.components
        = root.location.components.dropLast ++ ["devand-web"] ++ ["static"] ++ ["ui"] := rfl
    rw [hparts, hsteps, List.append_assoc, List.append_assoc]
    rfl
  cases t with
  | demo => cases e <;> exact hdist
  | web =>
    cases e with
    | development => exact hdist
    | production => exact hbeside

/-- Directories that lead to the same place give the same table, whatever the
current directories are. -/
theorem ofSelectors_congr {here here' : String} {cwd cwd' : AbsolutePath}
    (hcwd : cwd.path = .ofText here) (hcwd' : cwd'.path = .ofText here')
    {uiRoot uiRoot' : Value} {root root' : String} (hroot : uiRoot.asText? = some root)
    (hroot' : uiRoot'.asText? = some root')
    (h : Location.ofText here root = Location.ofText here' root') (target : Value) :
    ofSelectors cwd target uiRoot = ofSelectors cwd' target uiRoot' := by
  rw [Location.ofText_eq hcwd, Location.ofText_eq hcwd', AbsolutePath.location_inj] at h
  cases ht : target.choose? DeploymentTarget with
  | none => simp only [ofSelectors, ht]
  | some t => rw [ofSelectors_eq cwd ht hroot, ofSelectors_eq cwd' ht hroot', ofTarget, ofTarget, h]

/-- **Where bundles go.**  In every current directory, a known target and any
directory of the UI crate give a table.  Each of its output directories is the
one that `outputLocation` has from where the directory leads: it starts with one
or two slashes, none of its components is empty, `.` or `..`, and it does not end
in a slash.  Directories that lead to the same place give the same table; a
directory does so with the path that it writes, and with its absolute form. -/
theorem output_directories {here : String} {cwd : AbsolutePath}
    (hcwd : cwd.path = .ofText here) :
    (∀ target uiRoot t root, target.choose? DeploymentTarget = some t →
      uiRoot.asText? = some root → ∃ table, ofSelectors cwd target uiRoot = .ok table ∧
        ∀ e, let out := outputLocation t e (Location.ofText here root)
          (table.profile e).outputDir.text = out.slashes ++ "/".intercalate out.components ∧
          out.Settled ∧ (table.profile e).outputDir.text.toList.getLast? ≠ some '/') ∧
    (∀ here' (cwd' : AbsolutePath), cwd'.path = .ofText here' → ∀ uiRoot uiRoot' root root',
      uiRoot.asText? = some root → uiRoot'.asText? = some root' →
        Location.ofText here root = Location.ofText here' root' →
          ∀ target, ofSelectors cwd target uiRoot = ofSelectors cwd' target uiRoot') ∧
    ∀ root, Location.ofText here (Path.ofText root).text = Location.ofText here root ∧
      Location.ofText here (cwd.absoluteText root) = Location.ofText here root := by
  refine ⟨?directories, ?alike, fun root => ⟨?written, ?absolute⟩⟩
  case directories =>
    intro target uiRoot t root ht hroot
    refine ⟨_, ofSelectors_eq cwd ht hroot, fun e => ?_⟩
    have hleads := Location.ofText_eq hcwd root
    have hsettled := AbsolutePath.settled_resolve cwd (.ofText root)
    have hout : (outputLocation t e (Location.ofText here root)).Settled := by
      rw [hleads]
      exact outputLocation_settled (AbsolutePath.settled_location hsettled) t e
    have htext : (((ofTarget cwd t (.ofText root)).profile e).outputDir).text
        = (outputLocation t e (Location.ofText here root)).text := by
      rw [hleads, ← location_template t e hsettled, AbsolutePath.text_location]
      cases e <;> rfl
    refine ⟨htext, hout, ?_⟩
    rw [htext]
    exact hout.getLast?_text (outputLocation_components_ne_nil t e _)
  case alike =>
    intro here' cwd' hcwd' uiRoot uiRoot' root root' hroot hroot' h target
    exact ofSelectors_congr hcwd hcwd' hroot hroot' h target
  case written =>
    rw [Location.ofText_eq hcwd, Location.ofText_eq hcwd, Path.ofText_text]
  case absolute =>
    rw [Location.ofText_eq hcwd, Location.ofText_eq hcwd, AbsolutePath.ofText_absoluteText,
      AbsolutePath.resolve_settled (AbsolutePath.settled_resolve cwd _)]

/-- A directory that climbs to the doubled root and goes down again: production
goes beside it, and where it leads could be written in another way. -/
theorem output_directories_of_climbing_root :
    let here := "//srv/./app"
    let root := "../../../x/./y//../ui/"
    let cwd : AbsolutePath := ⟨.ofText "//srv/./app", rfl⟩
    Location.ofText here root = ⟨"//", ["x", "ui"]⟩ ∧
    (∃ table, ofSelectors cwd (.text "web") (.text root) = .ok table ∧
      (table.profile .production).outputDir.text = "//x/devand-web/static/ui" ∧
      (table.profile .development).outputDir.text = "//x/ui/dist") ∧
    ofSelectors cwd (.text "web") (.text root) = ofSelectors cwd (.text "web") (.text "//x/ui") := by
  intro here root cwd
  have hcwd : cwd.path = .ofText here := rfl
  have hroot : Location.ofText here root = ⟨"//", ["x", "ui"]⟩ := by decide
  have hsame : Location.ofText here root = Location.ofText here "//x/ui" := by decide
  obtain ⟨hdirectories, halike, -⟩ := output_directories hcwd
  obtain ⟨table, htable, hout⟩ := hdirectories (.text "web") (.text root) .web root rfl rfl
  refine ⟨hroot, ⟨table, htable, ?_, ?_⟩, halike _ _ hcwd _ _ _ _ rfl rfl hsame _⟩
  · rw [(hout .production).1, hroot]
    decide
  · rw [(hout .development).1, hroot]
    decide

end ProfileTable

end BundleConfig
