/-
# `Path.Text` — a path is found again in its text

Splitting takes joined components apart again (`splitSlash_joinSlash`),
because no component holds a slash, and the slashes of the anchor only add
empty pieces, which are dropped.  So the text of a path has the path's
anchor and the path's components, and reading it gives the path back
(`Path.ofText_text`).  In particular two paths with one text are equal.
-/
import BundleConfig.Path.Basic

namespace BundleConfig

/-! ## Splitting and joining -/

theorem splitSlash_of_not_mem {cs : List Char} (h : '/' ∉ cs) : splitSlash cs = [cs] := by
  induction cs with
  | nil => rfl
  | cons c cs ih =>
    have hc : c ≠ '/' := fun e => h (by simp [e])
    have hcs : '/' ∉ cs := fun e => h (List.mem_cons_of_mem _ e)
    simp [splitSlash, hc, ih hcs]

theorem splitSlash_append {cs rest : List Char} (h : '/' ∉ cs) :
    splitSlash (cs ++ '/' :: rest) = cs :: splitSlash rest := by
  induction cs with
  | nil => simp [splitSlash]
  | cons c cs ih =>
    have hc : c ≠ '/' := fun e => h (by simp [e])
    have hcs : '/' ∉ cs := fun e => h (List.mem_cons_of_mem _ e)
    simp [splitSlash, hc, ih hcs]

theorem not_mem_of_isComponent {s : String} (h : isComponent s = true) : '/' ∉ s.toList := by
  simp [isComponent] at h
  exact h.2

theorem splitSlash_joinSlash :
    ∀ {parts : List String}, (∀ p ∈ parts, isComponent p = true) → parts ≠ [] →
      splitSlash (joinSlash parts) = parts.map String.toList
  | [], _, hne => absurd rfl hne
  | [s], h, _ => by
    simp [joinSlash, splitSlash_of_not_mem (not_mem_of_isComponent (h s (by simp)))]
  | s :: t :: rest, h, _ => by
    have hs := not_mem_of_isComponent (h s (by simp))
    have ih := @splitSlash_joinSlash (t :: rest)
      (fun p hp => h p (List.mem_cons_of_mem _ hp)) (by simp)
    rw [joinSlash, splitSlash_append hs, ih]
    rfl

/-! ## Components of a text -/

theorem partsOf_slash (cs : List Char) : Path.partsOf ('/' :: cs) = Path.partsOf cs := by
  simp [Path.partsOf, splitSlash, isComponent]

theorem partsOf_joinSlash {parts : List String} (h : ∀ p ∈ parts, isComponent p = true) :
    Path.partsOf (joinSlash parts) = parts := by
  by_cases hne : parts = []
  · subst hne
    rfl
  · unfold Path.partsOf
    rw [splitSlash_joinSlash h hne, List.map_map]
    have hid : String.ofList ∘ String.toList = id := by
      funext s
      simp
    rw [hid, List.map_id]
    exact List.filter_eq_self.2 h

theorem partsOf_anchor (a : Anchor) (cs : List Char) :
    Path.partsOf (a.text ++ cs) = Path.partsOf cs := by
  cases a <;> simp [Anchor.text, partsOf_slash]

/-! ## The anchor of a text -/

/-- Joined components do not start with a slash. -/
theorem head_joinSlash {parts : List String} (h : ∀ p ∈ parts, isComponent p = true) (c : Char)
    (cs : List Char) (e : joinSlash parts = c :: cs) : c ≠ '/' := by
  cases parts with
  | nil => simp [joinSlash] at e
  | cons s rest =>
    have hs := h s (by simp)
    have hm := not_mem_of_isComponent hs
    have hlist : s.toList ≠ [] := by
      intro e'
      have : s = "" := String.toList_eq_nil_iff.1 e'
      simp [isComponent, this] at hs
    obtain ⟨d, ds, hd⟩ := List.exists_cons_of_ne_nil hlist
    have hdne : d ≠ '/' := fun e' => hm (by simp [hd, e'])
    cases rest with
    | nil =>
      rw [joinSlash, hd] at e
      exact (List.cons.inj e).1 ▸ hdne
    | cons t rest =>
      rw [joinSlash, hd] at e
      exact (List.cons.inj e).1 ▸ hdne

theorem ofChars_anchor {parts : List String} (h : ∀ p ∈ parts, isComponent p = true)
    (a : Anchor) : Anchor.ofChars (a.text ++ joinSlash parts) = a := by
  cases e : joinSlash parts with
  | nil => cases a <;> rfl
  | cons c cs =>
    have hc := head_joinSlash h c cs e
    cases a <;> simp [Anchor.text, Anchor.ofChars, hc]

/-! ## Reading a written path -/

/-- Reading the text of a path gives the path back. -/
theorem Path.ofText_text (p : Path) : Path.ofText p.text = p := by
  obtain ⟨a, parts, h⟩ := p
  by_cases hrel : a = .relative ∧ parts = []
  · obtain ⟨rfl, rfl⟩ := hrel
    simp [Path.text, Path.ofText, Anchor.ofChars, Path.partsOf, splitSlash, isComponent]
  · have htext : (Path.mk a parts h).text.toList = a.text ++ joinSlash parts := by
      simp [Path.text, hrel]
    simp only [Path.ofText, htext, Path.mk.injEq]
    exact ⟨ofChars_anchor h a, (partsOf_anchor a _).trans (partsOf_joinSlash h)⟩

/-- A path is determined by its text. -/
theorem Path.text_inj {p q : Path} : p.text = q.text ↔ p = q :=
  ⟨fun h => by rw [← Path.ofText_text p, h, Path.ofText_text], fun h => by rw [h]⟩

end BundleConfig
