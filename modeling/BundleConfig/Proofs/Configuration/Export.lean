/-
# `Proofs.Configuration.Export` — what a document says about a configuration

Two documents are alike when they hold the same members, in whatever order,
and the same items in order; truth values count as the numbers 0 and 1.  That
is how dictionaries are compared, and it is weaker than being the same
document, so that everything is shown for it.

    part                  left out            found again in
    output settings
    module rule
    copy instruction
    compiler call         feature arguments   the whole argument text
    development server
    configuration         module rules        `module`
                          environment         nothing

Every part but the last is determined by its document, under either naming.
A configuration's document determines everything but the environment
(`AgreesBesideEnvironment`), and a build sets `watch` in one environment
alone, so that of two configurations that were built it determines this too.
-/
import BundleConfig.Configuration.Export
import BundleConfig.Path.Text
import BundleConfig.Proofs.Builder.Assembly

namespace BundleConfig

/-! ## Documents that are alike -/

namespace Json

mutual

/-- Whether two documents hold the same, members in any order. -/
def alike : Json → Json → Bool
  | .null, .null => true
  | .bool a, .bool b => a == b
  | .bool a, .int n | .int n, .bool a => n == if a then 1 else 0
  | .int m, .int n => m == n
  | .text s, .text t => s == t
  | .list xs, .list ys => alikeItems xs ys
  | .object ms, .object ns => ms.length == ns.length && alikeMembers ms ns
  | _, _ => false

/-- Whether two lists hold the same items. -/
def alikeItems : List Json → List Json → Bool
  | [], [] => true
  | x :: xs, y :: ys => x.alike y && alikeItems xs ys
  | _, _ => false

/-- Whether every member is found under its name among others. -/
def alikeMembers : List (String × Json) → List (String × Json) → Bool
  | [], _ => true
  | (name, x) :: ms, ns =>
    (match ns.lookup name with
      | some y => x.alike y
      | none => false) && alikeMembers ms ns

end

@[simp] theorem alike_bool (a b : Bool) : (bool a).alike (bool b) = true ↔ a = b := beq_iff_eq

@[simp] theorem alike_int (m n : Int) : (int m).alike (int n) = true ↔ m = n := beq_iff_eq

@[simp] theorem alike_text (s t : String) : (text s).alike (text t) = true ↔ s = t := beq_iff_eq

@[simp] theorem alike_bool_object (b : Bool) (ns : List (String × Json)) :
    (bool b).alike (object ns) = false := rfl

@[simp] theorem alike_object_bool (ms : List (String × Json)) (b : Bool) :
    (object ms).alike (bool b) = false := rfl

theorem alike_list (xs ys : List Json) : (list xs).alike (list ys) = alikeItems xs ys := rfl

theorem alikeItems_cons (x y : Json) (xs ys : List Json) :
    alikeItems (x :: xs) (y :: ys) = (x.alike y && alikeItems xs ys) := rfl

@[simp] theorem alike_object (ms ns : List (String × Json)) :
    (object ms).alike (object ns) = true ↔ ms.length = ns.length ∧ alikeMembers ms ns = true := by
  have halike : (object ms).alike (object ns) = (ms.length == ns.length && alikeMembers ms ns) := rfl
  rw [halike, Bool.and_eq_true, beq_iff_eq]

@[simp] theorem alikeMembers_nil (ns : List (String × Json)) : alikeMembers [] ns = true := rfl

/-- A member is looked for under its name. -/
@[simp] theorem alikeMembers_cons (name : String) (x : Json) (ms ns : List (String × Json)) :
    alikeMembers ((name, x) :: ms) ns = ((ns.lookup name).any x.alike && alikeMembers ms ns) := by
  rw [alikeMembers]
  cases ns.lookup name with
  | none => rfl
  | some y => rfl

/-- If items are determined by their documents, lists of them are. -/
theorem alike_list_map {α : Type} {f : α → Json} (hf : ∀ a b, (f a).alike (f b) = true ↔ a = b)
    (as bs : List α) : (list (as.map f)).alike (list (bs.map f)) = true ↔ as = bs := by
  rw [alike_list]
  induction as generalizing bs with
  | nil =>
    cases bs with
    | nil => exact iff_of_true rfl rfl
    | cons b bs => exact iff_of_false Bool.false_ne_true (List.cons_ne_nil b bs).symm
  | cons a as ih =>
    cases bs with
    | nil => exact iff_of_false Bool.false_ne_true (List.cons_ne_nil a as)
    | cons b bs =>
      rw [List.map_cons, List.map_cons, alikeItems_cons, Bool.and_eq_true, hf, ih, List.cons.injEq]

@[simp] theorem alike_texts (ss ts : List String) :
    (texts ss).alike (texts ts) = true ↔ ss = ts :=
  alike_list_map alike_text ss ts

end Json

/-! ## The parts -/

/-- Output settings are determined by their document. -/
theorem OutputSettings.document_alike (n : Naming) (o o' : OutputSettings) :
    (o.document n).alike (o'.document n) = true ↔ o = o' := by
  cases n <;> cases o <;> cases o' <;>
    simp [document, Naming.pick, List.lookup_cons, Path.text_inj]

/-- A module rule is determined by its document. -/
theorem ModuleRule.document_alike (r r' : ModuleRule) :
    r.document.alike r'.document = true ↔ r = r' := by
  cases r
  cases r'
  simp [document, List.lookup_cons]

/-- A copy instruction is determined by its document. -/
theorem CopyInstruction.document_alike (n : Naming) (c c' : CopyInstruction) :
    (c.document n).alike (c'.document n) = true ↔ c = c' := by
  cases n <;> cases c <;> cases c' <;>
    simp [document, Naming.pick, List.lookup_cons, Path.text_inj]

namespace WasmPackInvocation

/-- The feature arguments are found again behind the base arguments and a
space, and only when there are none is there no space. -/
theorem extraArgs_inj {w w' : WasmPackInvocation} :
    w.extraArgs = w'.extraArgs ↔ w.featureArgs = w'.featureArgs := by
  have hbehind (s : String) : baseArgs ++ " " ++ s ≠ baseArgs := by
    intro h
    have hlength := congrArg String.length h
    simp only [String.length_append] at hlength
    have hspace : " ".length = 1 := rfl
    omega
  constructor
  · intro h
    unfold extraArgs at h
    split at h
    · next hw =>
      split at h
      · next hw' => rw [hw, hw']
      · exact absurd h.symm (hbehind _)
    · split at h
      · exact absurd h (hbehind _)
      · exact String.append_right_inj _ |>.1 h
  · intro h
    rw [extraArgs, extraArgs, h]

/-- A compiler call is determined by its document. -/
theorem document_alike (n : Naming) (w w' : WasmPackInvocation) :
    (w.document n).alike (w'.document n) = true ↔ w = w' := by
  have hargs := @extraArgs_inj w w'
  cases n <;> cases w <;> cases w' <;>
    simp [document, Naming.pick, List.lookup_cons, hargs]

end WasmPackInvocation

namespace DevServer

/-- No page, the empty page and any other page have documents of their own. -/
theorem fallbackDocument_alike (f f' : Option String) :
    (fallbackDocument f).alike (fallbackDocument f') = true ↔ f = f' := by
  cases f <;> cases f' <;> simp [fallbackDocument]

/-- A development server is determined by its document. -/
theorem document_alike (n : Naming) (d d' : DevServer) :
    (d.document n).alike (d'.document n) = true ↔ d = d' := by
  have hport (p p' : Port) : (p.number : Int) = p'.number ↔ p = p' := by
    rw [Int.natCast_inj]
    cases p
    cases p'
    rw [Port.mk.injEq]
  cases n <;> cases d <;> cases d' <;>
    simp [document, Naming.pick, List.lookup_cons, Path.text_inj,
      fallbackDocument_alike, hport]

end DevServer

/-! ## Configurations -/

namespace ResolvedConfiguration

/-- Two configurations have every field in common but perhaps the environment. -/
structure AgreesBesideEnvironment (c d : ResolvedConfiguration) : Prop where
  entry : c.entry = d.entry
  output : c.output = d.output
  moduleRules : c.moduleRules = d.moduleRules
  copyInstructions : c.copyInstructions = d.copyInstructions
  wasmPack : c.wasmPack = d.wasmPack
  watch : c.watch = d.watch
  devServer : c.devServer = d.devServer

theorem eq_iff_agrees {c d : ResolvedConfiguration} :
    c = d ↔ c.environment = d.environment ∧ c.AgreesBesideEnvironment d := by
  constructor
  · rintro rfl
    exact ⟨rfl, rfl, rfl, rfl, rfl, rfl, rfl, rfl⟩
  · rintro ⟨he, h⟩
    cases c
    cases d
    cases he
    obtain ⟨rfl, rfl, rfl, rfl, rfl, rfl, rfl⟩ := h
    rfl

/-- The bundler's document determines everything but the environment. -/
theorem webpack_alike (c d : ResolvedConfiguration) :
    c.webpack.alike d.webpack = true ↔ c.AgreesBesideEnvironment d := by
  have hcopies := Json.alike_list_map (CopyInstruction.document_alike .bundlerNames)
    c.copyInstructions d.copyInstructions
  have hrules := Json.alike_list_map ModuleRule.document_alike c.moduleRules d.moduleRules
  have hmembers : c.webpack.alike d.webpack = true ↔
      c.entry = d.entry ∧ c.output = d.output ∧ c.copyInstructions = d.copyInstructions ∧
        c.wasmPack = d.wasmPack ∧ c.watch = d.watch ∧ c.devServer = d.devServer ∧
        c.moduleRules = d.moduleRules := by
    simp [webpack, documentMembers, Naming.pick, List.lookup_cons, hcopies, hrules,
      OutputSettings.document_alike, WasmPackInvocation.document_alike, DevServer.document_alike]
  rw [hmembers]
  constructor
  · rintro ⟨hentry, houtput, hcopies, hwasm, hwatch, hserver, hrules⟩
    exact ⟨hentry, houtput, hrules, hcopies, hwasm, hwatch, hserver⟩
  · rintro ⟨hentry, houtput, hrules, hcopies, hwasm, hwatch, hserver⟩
    exact ⟨hentry, houtput, hcopies, hwasm, hwatch, hserver, hrules⟩

end ResolvedConfiguration

/-- Configurations that were built and agree beside the environment have the
same one, because one environment alone is watched. -/
theorem Builder.eq_of_agrees {b b' : Builder} {mode mode' : Value} {env env' : Environ}
    {c d : ResolvedConfiguration} (hc : (b.build mode env).result = .ok c)
    (hd : (b'.build mode' env').result = .ok d) (h : c.AgreesBesideEnvironment d) : c = d := by
  obtain ⟨e, host, port, -, -, -, rfl⟩ := build_eq_ok_iff.1 hc
  obtain ⟨e', host', port', -, -, -, rfl⟩ := build_eq_ok_iff.1 hd
  have hwatch : (e == .development) = (e' == .development) := h.watch
  have henv : e = e' := by
    cases e <;> cases e' <;> first | rfl | cases hwatch
  exact ResolvedConfiguration.eq_iff_agrees.2 ⟨henv, h⟩

/-- **The export loses nothing**: any two configurations have documents that
are alike exactly if they agree beside the environment, and two that were
built, by whatever builders, exactly if they are equal. -/
theorem ResolvedConfiguration.webpack_lossless :
    (∀ c d : ResolvedConfiguration,
      c.webpack.alike d.webpack = true ↔ c.AgreesBesideEnvironment d) ∧
    ∀ (b b' : Builder) (mode mode' : Value) (env env' : Environ) (c d : ResolvedConfiguration),
      (b.build mode env).result = .ok c → (b'.build mode' env').result = .ok d →
        (c.webpack.alike d.webpack = true ↔ c = d) := by
  refine ⟨webpack_alike, fun b b' mode mode' env env' c d hc hd => ?_⟩
  rw [webpack_alike]
  constructor
  · intro h
    exact Builder.eq_of_agrees hc hd h
  · intro h
    exact (eq_iff_agrees.1 h).2

/-- The two configurations of a builder have documents that are not alike. -/
theorem ResolvedConfiguration.not_alike_of_web :
    let b : Builder :=
      ⟨.ofTarget ⟨.ofText "/srv", rfl⟩ .web .here, .text "::1", .int 80, Builder.defaultLogger⟩
    ∃ c d, (b.build (.text "production") []).result = .ok c ∧
      (b.build (.text "development") []).result = .ok d ∧ ¬ c.webpack.alike d.webpack = true := by
  intro b
  obtain ⟨c, hc, hce⟩ : ∃ c, (b.build (.text "production") []).result = .ok c ∧
      c.environment = .production :=
    ⟨_, Builder.build_eq_ok_iff.2 ⟨.production, "::1", ⟨80, by decide, by decide⟩, rfl, rfl, rfl,
      rfl⟩, rfl⟩
  obtain ⟨d, hd, hde⟩ : ∃ d, (b.build (.text "development") []).result = .ok d ∧
      d.environment = .development :=
    ⟨_, Builder.build_eq_ok_iff.2 ⟨.development, "::1", ⟨80, by decide, by decide⟩, rfl, rfl, rfl,
      rfl⟩, rfl⟩
  refine ⟨c, d, hc, hd, fun h => ?_⟩
  have heq : c = d := (webpack_lossless.2 b b _ _ _ _ c d hc hd).1 h
  rw [heq, hde] at hce
  cases hce

end BundleConfig
