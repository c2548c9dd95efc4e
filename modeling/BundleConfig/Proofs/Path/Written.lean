/-
# `Proofs.Path.Written` — cleaning a text resolves the path that it writes

A text that starts with a slash is cleaned by a fold over its pieces, and
the path that it writes is resolved by a fold over its components.  The two
folds agree (`foldl_push_rooted`): behind a slash no `..` ever gets on the
stack, and then a piece is pushed exactly if it is a component.  From there

    Path.ofText (cleanText s)         = (base.resolve (.ofText s)).path    `s` rooted
    Path.ofText (cwd.absoluteText s)  = (cwd.resolve (.ofText s)).path     any `s`

The second says that it makes no difference whether a text is made absolute
as it is written or is read as a path first.
-/
import BundleConfig.Path.Text
import BundleConfig.Path.Written

namespace BundleConfig

/-! ## Pieces -/

theorem splitSlash_ne_nil (cs : List Char) : splitSlash cs ≠ [] := by
  cases cs with
  | nil => exact List.cons_ne_nil _ _
  | cons c cs =>
    unfold splitSlash
    split
    · exact List.cons_ne_nil _ _
    · split <;> exact List.cons_ne_nil _ _

/-- A slash cuts a text wherever it stands. -/
theorem splitSlash_append_slash (a b : List Char) :
    splitSlash (a ++ '/' :: b) = splitSlash a ++ splitSlash b := by
  induction a with
  | nil => simp [splitSlash]
  | cons c cs ih =>
    obtain ⟨p, ps, h⟩ := List.exists_cons_of_ne_nil (splitSlash_ne_nil cs)
    by_cases hc : c = '/'
    · simp [splitSlash, hc, ih]
    · simp [splitSlash, hc, ih, h]

theorem not_mem_of_mem_splitSlash {cs piece : List Char} (h : piece ∈ splitSlash cs) :
    '/' ∉ piece := by
  induction cs generalizing piece with
  | nil =>
    rw [List.mem_singleton.1 h]
    exact List.not_mem_nil
  | cons c cs ih =>
    obtain ⟨p, ps, hs⟩ := List.exists_cons_of_ne_nil (splitSlash_ne_nil cs)
    by_cases hc : c = '/'
    · simp only [splitSlash, hc, if_true, List.mem_cons] at h
      rcases h with rfl | h
      · exact List.not_mem_nil
      · exact ih h
    · simp only [splitSlash, hc, if_false, hs, List.mem_cons] at h
      rcases h with rfl | h
      · intro hm
        rcases List.mem_cons.1 hm with e | hm
        · exact hc e.symm
        · exact ih (by rw [hs]; exact List.mem_cons_self) hm
      · exact ih (by rw [hs]; exact List.mem_cons_of_mem _ h)

/-- The components behind a slash follow those before it. -/
theorem partsOf_append_slash (a b : List Char) :
    Path.partsOf (a ++ '/' :: b) = Path.partsOf a ++ Path.partsOf b := by
  simp [Path.partsOf, splitSlash_append_slash]

/-! ## The two folds -/

/-- Without a slash in it, a piece that means something is a component. -/
theorem isComponent_iff_of_not_mem {piece : String} (h : '/' ∉ piece.toList) :
    isComponent piece = true ↔ ¬ (piece = "" ∨ piece = ".") := by
  simp [isComponent, h]

theorem Path.not_mem_push {stack : List String} {part : String} (h : ".." ∉ stack) :
    ".." ∉ push stack part := by
  unfold push
  split
  · exact fun hm => h (List.mem_of_mem_tail hm)
  · next hne =>
    intro hm
    rcases List.mem_cons.1 hm with e | hm
    · exact hne e.symm
    · exact h hm

theorem Path.Written.push_rooted {stack : List String} {piece : String} (hs : ".." ∉ stack)
    (hp : '/' ∉ piece.toList) :
    push true stack piece = if isComponent piece = true then Path.push stack piece else stack := by
  have hhead : stack.head? ≠ some ".." := fun e => hs (List.mem_of_head? e)
  unfold push Path.push
  by_cases hc : piece = "" ∨ piece = "."
  · rw [if_pos hc, if_neg (fun h => (isComponent_iff_of_not_mem hp).1 h hc)]
  · rw [if_neg hc, if_pos ((isComponent_iff_of_not_mem hp).2 hc)]
    by_cases hd : piece = ".."
    · simp [hd, hhead]
    · simp [hd]

/-- Behind a slash, pushing pieces is pushing the components among them. -/
theorem Path.Written.foldl_push_rooted {pieces stack : List String}
    (hp : ∀ p ∈ pieces, '/' ∉ p.toList) (hs : ".." ∉ stack) :
    pieces.foldl (push true) stack = (pieces.filter isComponent).foldl Path.push stack := by
  induction pieces generalizing stack with
  | nil => rfl
  | cons p ps ih =>
    have hps : ∀ q ∈ ps, '/' ∉ q.toList := fun q hq => hp q (List.mem_cons_of_mem _ hq)
    rw [List.foldl_cons, push_rooted hs (hp p List.mem_cons_self), List.filter_cons]
    split
    · exact ih hps (Path.not_mem_push hs)
    · exact ih hps hs

theorem Path.Written.keptPieces_of_isRooted {cs : List Char} (h : isRooted cs = true) :
    keptPieces cs = Path.collapse (Path.partsOf cs) := by
  have hp : ∀ p ∈ (splitSlash cs).map String.ofList, '/' ∉ p.toList := by
    intro p hm
    obtain ⟨piece, hpiece, rfl⟩ := List.mem_map.1 hm
    simpa using not_mem_of_mem_splitSlash hpiece
  unfold keptPieces Path.collapse Path.partsOf
  rw [h, foldl_push_rooted hp List.not_mem_nil]

/-! ## Reading a cleaned text -/

theorem Path.Written.isRooted_iff (cs : List Char) :
    isRooted cs = true ↔ Anchor.ofChars cs ≠ .relative := by
  unfold Anchor.ofChars
  split
  · exact ⟨fun _ => by simp, fun _ => rfl⟩
  · exact ⟨fun _ => by simp, fun _ => rfl⟩
  · exact ⟨fun _ => by simp, fun _ => rfl⟩
  · next hslash =>
    refine ⟨fun h => ?_, fun h => absurd rfl h⟩
    obtain ⟨rest, rfl⟩ := List.head?_eq_some_iff.1 (eq_of_beq h)
    exact absurd rfl (hslash rest)

theorem Path.isAbsolute_ofText (s : String) :
    (Path.ofText s).isAbsolute = true ↔ Written.isRooted s.toList = true := by
  rw [Written.isRooted_iff]
  exact bne_iff_ne

theorem Anchor.text_ne_nil {a : Anchor} (h : a ≠ .relative) : a.text ≠ [] := by
  cases a with
  | relative => exact absurd rfl h
  | root => exact List.cons_ne_nil _ _
  | doubleRoot => exact List.cons_ne_nil _ _

/-- A cleaned text writes the path of the text, every `..` cancelled. -/
theorem Path.ofText_cleanText (base : AbsolutePath) {s : String}
    (h : (Path.ofText s).isAbsolute = true) :
    Path.ofText (cleanText s) = (base.resolve (.ofText s)).path := by
  have hroot := (isAbsolute_ofText s).1 h
  have hanchor := (Written.isRooted_iff s.toList).1 hroot
  have hkept := Written.keptPieces_of_isRooted hroot
  have hparts : ∀ p ∈ collapse (partsOf s.toList), isComponent p = true :=
    fun p hp => (Path.ofText s).parts_ok p (mem_collapse hp)
  have htext : (cleanText s).toList
      = (Anchor.ofChars s.toList).text ++ joinSlash (collapse (partsOf s.toList)) := by
    simp [cleanText, Written.clean, hkept, Anchor.text_ne_nil hanchor]
  have ha : Anchor.ofChars (cleanText s).toList = Anchor.ofChars s.toList := by
    rw [htext, ofChars_anchor hparts]
  have hb : partsOf (cleanText s).toList = collapse (partsOf s.toList) := by
    rw [htext, partsOf_anchor, partsOf_joinSlash hparts]
  simp [Path.ofText, AbsolutePath.resolve, AbsolutePath.anchorFrom, AbsolutePath.partsFrom,
    ha, hb, hanchor]

/-! ## Joining -/

/-- Joined to an absolute path, a path resolves as taken from it. -/
theorem AbsolutePath.resolve_join (base p : AbsolutePath) (q : Path) :
    base.resolve (p.path.join q) = p.resolve q := by
  have hp : p.path.anchor ≠ .relative := bne_iff_ne.1 p.isAbsolute
  by_cases hq : q.anchor = .relative
  · simp [resolve, anchorFrom, partsFrom, Path.join, hq, hp]
  · simp [resolve, anchorFrom, partsFrom, Path.join, hq]

theorem AbsolutePath.isAbsolute_join (p : AbsolutePath) (q : Path) :
    (p.path.join q).isAbsolute = true := by
  unfold Path.join
  split
  · exact p.isAbsolute
  · next h => exact bne_iff_ne.2 h

/-- Written one behind the other, two texts have the components of both. -/
theorem Path.Written.partsOf_join {a b : List Char} (hb : isRooted b = false) :
    partsOf (join a b) = partsOf a ++ partsOf b := by
  unfold join
  rw [if_neg (by simp [hb])]
  split
  · next h =>
    rcases h with rfl | h
    · rfl
    · obtain ⟨front, rfl⟩ := List.getLast?_eq_some_iff.1 h
      have hfront : partsOf (front ++ ['/']) = partsOf front := by
        rw [partsOf_append_slash]
        exact List.append_nil _
      rw [hfront, List.append_assoc]
      exact partsOf_append_slash front b
  · exact partsOf_append_slash a b

/-- Written behind a rooted text, a text leaves the anchor as it is. -/
theorem Path.Written.ofChars_join {a b : List Char} (ha : isRooted a = true)
    (hb : isRooted b = false) : Anchor.ofChars (join a b) = Anchor.ofChars a := by
  have hhead : b = [] ∨ ∃ c rest, b = c :: rest ∧ c ≠ '/' := by
    cases b with
    | nil => exact .inl rfl
    | cons c rest => exact .inr ⟨c, rest, rfl, fun e => by simp [isRooted, e] at hb⟩
  unfold join
  rw [if_neg (by simp [hb])]
  obtain ⟨cs, rfl⟩ := List.head?_eq_some_iff.1 (eq_of_beq ha)
  -- What decides is the first three characters, of which `b` gives at most the last.
  rcases cs with _ | ⟨c, cs⟩
  · rcases hhead with rfl | ⟨c, rest, rfl, hc⟩
    · rfl
    · simp [Anchor.ofChars, hc]
  · by_cases hc : c = '/'
    · subst hc
      rcases cs with _ | ⟨d, cs⟩
      · rcases hhead with rfl | ⟨d, rest, rfl, hd⟩
        · rfl
        · simp [Anchor.ofChars, hd]
      · by_cases hd : d = '/'
        · split <;> simp [Anchor.ofChars, hd]
        · split <;> simp [Anchor.ofChars, hd]
    · split <;> simp [Anchor.ofChars, hc]

/-- Cleaning the text of a joined path resolves the second part from the first. -/
theorem AbsolutePath.ofText_cleanText_join (p : AbsolutePath) (q : Path) :
    Path.ofText (Path.cleanText (p.path.join q).text) = (p.resolve q).path := by
  have h : (Path.ofText (p.path.join q).text).isAbsolute = true := by
    rw [Path.ofText_text]
    exact p.isAbsolute_join q
  rw [Path.ofText_cleanText p h, Path.ofText_text, resolve_join]

/-- Making a text absolute gives the text of what the path of the text resolves to. -/
theorem AbsolutePath.ofText_absoluteText (cwd : AbsolutePath) (s : String) :
    Path.ofText (cwd.absoluteText s) = (cwd.resolve (.ofText s)).path := by
  cases hs : Path.Written.isRooted s.toList with
  | true =>
    have h : cwd.absoluteText s = Path.cleanText s := by
      simp [absoluteText, Path.cleanText, Path.Written.absolute, hs]
    rw [h, Path.ofText_cleanText cwd ((Path.isAbsolute_ofText s).2 hs)]
  | false =>
    have hcwd : Path.Written.isRooted cwd.text.toList = true := by
      rw [← Path.isAbsolute_ofText, AbsolutePath.text, Path.ofText_text]
      exact cwd.isAbsolute
    have hrel : Anchor.ofChars s.toList = .relative :=
      Decidable.not_not.1 (mt (Path.Written.isRooted_iff s.toList).2 (by simp [hs]))
    let joined := String.ofList (Path.Written.join cwd.text.toList s.toList)
    have hjoined : Path.ofText joined = cwd.path.join (.ofText s) := by
      have hself : Path.ofText cwd.text = cwd.path := Path.ofText_text cwd.path
      have ha : Anchor.ofChars cwd.text.toList = cwd.path.anchor :=
        congrArg Path.anchor hself
      have hp : Path.partsOf cwd.text.toList = cwd.path.parts := congrArg Path.parts hself
      simp [joined, Path.ofText, Path.join, hrel, Path.Written.ofChars_join hcwd hs,
        Path.Written.partsOf_join hs, ha, hp]
    have habs : (Path.ofText joined).isAbsolute = true := by
      rw [hjoined]
      exact cwd.isAbsolute_join _
    have h : cwd.absoluteText s = Path.cleanText joined := by
      simp [absoluteText, Path.cleanText, Path.Written.absolute, hs, joined]
    rw [h, Path.ofText_cleanText cwd habs, hjoined, resolve_join]

end BundleConfig
