/-
# `Proofs.Configuration.Keys` — no name stands twice in a document

A document lists the members of an object, and nothing in the type keeps two
of them from having one name.  Whoever reads objects as dictionaries keeps one
of the two.  The documents of configurations have none such, in any object at
any depth (`DistinctKeys`), whichever names they are exported under.
-/
import BundleConfig.Configuration.Export

namespace BundleConfig

namespace Json

mutual

/-- No object in a document has two members of one name. -/
def DistinctKeys : Json → Prop
  | .null => True
  | .bool _ => True
  | .int _ => True
  | .text _ => True
  | .list xs => DistinctItems xs
  | .object ms => (ms.map Prod.fst).Nodup ∧ DistinctMembers ms

/-- `DistinctKeys` of every item. -/
def DistinctItems : List Json → Prop
  | [] => True
  | x :: xs => x.DistinctKeys ∧ DistinctItems xs

/-- `DistinctKeys` of what every member holds. -/
def DistinctMembers : List (String × Json) → Prop
  | [] => True
  | (_, x) :: ms => x.DistinctKeys ∧ DistinctMembers ms

end

@[simp] theorem distinctKeys_bool (b : Bool) : (bool b).DistinctKeys := trivial

@[simp] theorem distinctKeys_int (n : Int) : (int n).DistinctKeys := trivial

@[simp] theorem distinctKeys_text (s : String) : (text s).DistinctKeys := trivial

theorem distinctItems_iff (xs : List Json) : DistinctItems xs ↔ ∀ x ∈ xs, x.DistinctKeys := by
  induction xs with
  | nil => exact iff_of_true trivial (List.forall_mem_nil _)
  | cons x xs ih =>
    have hcons : DistinctItems (x :: xs) ↔ x.DistinctKeys ∧ DistinctItems xs := Iff.rfl
    rw [hcons, ih, List.forall_mem_cons]

theorem distinctMembers_iff (ms : List (String × Json)) :
    DistinctMembers ms ↔ ∀ m ∈ ms, m.2.DistinctKeys := by
  induction ms with
  | nil => exact iff_of_true trivial (List.forall_mem_nil _)
  | cons m ms ih =>
    have hcons : DistinctMembers (m :: ms) ↔ m.2.DistinctKeys ∧ DistinctMembers ms := Iff.rfl
    rw [hcons, ih, List.forall_mem_cons]

@[simp] theorem distinctKeys_list_iff (xs : List Json) :
    (list xs).DistinctKeys ↔ ∀ x ∈ xs, x.DistinctKeys :=
  distinctItems_iff xs

@[simp] theorem distinctKeys_object_iff (ms : List (String × Json)) :
    (object ms).DistinctKeys ↔ (ms.map Prod.fst).Nodup ∧ ∀ m ∈ ms, m.2.DistinctKeys :=
  and_congr_right' (distinctMembers_iff ms)

@[simp] theorem distinctKeys_texts (ss : List String) : (texts ss).DistinctKeys := by
  simp [texts]

end Json

/-! ## The parts -/

theorem OutputSettings.document_distinctKeys (n : Naming) (o : OutputSettings) :
    (o.document n).DistinctKeys := by
  cases n <;> simp [document, Naming.pick]

theorem ModuleRule.document_distinctKeys (r : ModuleRule) : r.document.DistinctKeys := by
  simp [document]

theorem CopyInstruction.document_distinctKeys (n : Naming) (c : CopyInstruction) :
    (c.document n).DistinctKeys := by
  cases n <;> simp [document, Naming.pick]

theorem WasmPackInvocation.document_distinctKeys (n : Naming) (w : WasmPackInvocation) :
    (w.document n).DistinctKeys := by
  cases n <;> simp [document, Naming.pick]

theorem DevServer.fallbackDocument_distinctKeys (f : Option String) :
    (fallbackDocument f).DistinctKeys := by
  cases f <;> simp [fallbackDocument]

theorem DevServer.document_distinctKeys (n : Naming) (d : DevServer) :
    (d.document n).DistinctKeys := by
  have hfallback := fallbackDocument_distinctKeys d.historyFallback
  cases n <;> simp [document, Naming.pick, hfallback]

/-! ## Configurations -/

namespace ResolvedConfiguration

theorem documentMembers_distinctKeys (n : Naming) (c : ResolvedConfiguration) :
    ∀ m ∈ c.documentMembers n, m.2.DistinctKeys := by
  have houtput := c.output.document_distinctKeys n
  have hcopies : ∀ i ∈ c.copyInstructions, (i.document n).DistinctKeys :=
    fun i _ => i.document_distinctKeys n
  have hwasm := c.wasmPack.document_distinctKeys n
  have hserver := c.devServer.document_distinctKeys n
  simpa [documentMembers, houtput, hwasm, hserver] using hcopies

/-- No name stands twice in a configuration's document. -/
theorem document_distinctKeys (n : Naming) (c : ResolvedConfiguration) :
    (c.document n).DistinctKeys := by
  rw [document, Json.distinctKeys_object_iff]
  refine ⟨?_, c.documentMembers_distinctKeys n⟩
  cases n <;> simp [documentMembers, Naming.pick]

/-- Neither does one in the document that the bundler reads. -/
theorem webpack_distinctKeys (c : ResolvedConfiguration) : c.webpack.DistinctKeys := by
  have hrules : ∀ r ∈ c.moduleRules, r.document.DistinctKeys := fun r _ => r.document_distinctKeys
  rw [webpack, Json.distinctKeys_object_iff, List.forall_mem_append]
  refine ⟨?_, c.documentMembers_distinctKeys .bundlerNames, ?_⟩
  · simp [documentMembers, Naming.pick]
  · simpa using hrules

end ResolvedConfiguration

end BundleConfig
