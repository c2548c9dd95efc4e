/-
# `Proofs.Path.Location` — where a written path leads

A location is what a path comes to: the slashes at its root, and components.
The components of a text are found from left to right, one piece between
slashes after the other (`step`):

    an empty piece or `.`    nothing more
    `..`                     the last component is taken away, if there is one
    any other piece          one component more

A text that does not start with a slash goes on where the directory it is taken
from leads (`ofText`).  Nothing here is cleaned, joined or read as a path; that
the ways which do so come to the same place is `ofText_eq`, and that resolving
a path goes on from a location is `location_resolve`.
-/
import BundleConfig.Proofs.Path.Written

namespace BundleConfig

/-- Slashes at a root, and the components behind them. -/
structure Location where
  slashes : String
  components : List String
deriving DecidableEq

namespace Location

def text (l : Location) : String := l.slashes ++ "/".intercalate l.components

/-- One or two slashes, and components that stand for themselves. -/
structure Settled (l : Location) : Prop where
  slashes : l.slashes = "/" ∨ l.slashes = "//"
  components : ∀ c ∈ l.components, c ≠ "" ∧ c ≠ "." ∧ c ≠ ".." ∧ '/' ∉ c.toList

/-- The components there are behind one more piece. -/
def step (components : List String) (piece : String) : List String :=
  if piece = "" ∨ piece = "." then components
  else if piece = ".." then components.dropLast
  else components ++ [piece]

/-- The pieces of a text between its slashes. -/
def pieces (s : String) : List String := (splitSlash s.toList).map String.ofList

/-- The slashes at the root of a text: two if it starts with exactly two. -/
def slashesOf (s : String) : String :=
  if "//".toList <+: s.toList ∧ ¬ "///".toList <+: s.toList then "//" else "/"

/-- Where a text leads, taken from a directory unless it starts with a slash. -/
def ofText (here s : String) : Location :=
  if "/".toList <+: s.toList then ⟨slashesOf s, (pieces s).foldl step []⟩
  else ⟨slashesOf here, (pieces here ++ pieces s).foldl step []⟩

/-- What is written of a location with components ends in the last of them, and
so not in a slash. -/
theorem Settled.getLast?_text {l : Location} (h : l.Settled) (hne : l.components ≠ []) :
    l.text.toList.getLast? ≠ some '/' := by
  let c := l.components.getLast hne
  obtain ⟨hempty, -, -, hslash⟩ := h.components c (List.getLast_mem hne)
  have hsplit : l.components = l.components.dropLast ++ [c] :=
    (List.dropLast_concat_getLast hne).symm
  have hend : ∃ front, l.text = front ++ c := by
    by_cases hfront : l.components.dropLast = []
    · rw [hfront, List.nil_append] at hsplit
      exact ⟨l.slashes, by rw [text, hsplit, String.intercalate_singleton]⟩
    · refine ⟨l.slashes ++ ("/".intercalate l.components.dropLast ++ "/"), ?_⟩
      have hjoin := String.intercalate_append_of_ne_nil (s := "/") hfront (List.cons_ne_nil c [])
      rw [← hsplit, String.intercalate_singleton] at hjoin
      rw [text, hjoin]
      exact String.append_assoc.symm
  obtain ⟨front, hfront⟩ := hend
  have hchars : c.toList ≠ [] := mt String.toList_eq_nil_iff.1 hempty
  rw [hfront, String.toList_append, List.getLast?_append, List.getLast?_eq_some_getLast hchars,
    Option.some_or]
  intro hlast
  exact hslash (Option.some.inj hlast ▸ List.getLast_mem hchars)

/-! ## Steps -/

theorem step_of_isComponent {components : List String} {piece : String}
    (h : isComponent piece = true) :
    step components piece = if piece = ".." then components.dropLast else components ++ [piece] := by
  have hpiece : ¬ (piece = "" ∨ piece = ".") := by
    rintro (rfl | rfl)
    · exact absurd h (by decide)
    · exact absurd h (by decide)
  rw [step, if_neg hpiece]

/-- A step and a push do the same, at the two ends of a list. -/
theorem reverse_push {stack : List String} {part : String} (h : isComponent part = true) :
    (Path.push stack part).reverse = step stack.reverse part := by
  rw [step_of_isComponent h, Path.push]
  split
  · exact List.dropLast_reverse.symm
  · exact List.reverse_cons

theorem reverse_foldl_push {parts stack : List String} (h : ∀ p ∈ parts, isComponent p = true) :
    (parts.foldl Path.push stack).reverse = parts.foldl step stack.reverse := by
  induction parts generalizing stack with
  | nil => rfl
  | cons p ps ih =>
    rw [List.foldl_cons, ih fun q hq => h q (List.mem_cons_of_mem _ hq),
      reverse_push (h p List.mem_cons_self), List.foldl_cons]

/-- What is left of some components is what is there when all steps are made. -/
theorem collapse_eq {parts : List String} (h : ∀ p ∈ parts, isComponent p = true) :
    Path.collapse parts = parts.foldl step [] :=
  reverse_foldl_push h

/-- Only components make a difference. -/
theorem foldl_step_filter {ps components : List String} (h : ∀ p ∈ ps, '/' ∉ p.toList) :
    (ps.filter isComponent).foldl step components = ps.foldl step components := by
  induction ps generalizing components with
  | nil => rfl
  | cons p ps ih =>
    have hps : ∀ q ∈ ps, '/' ∉ q.toList := fun q hq => h q (List.mem_cons_of_mem _ hq)
    rw [List.filter_cons, List.foldl_cons]
    split
    · exact ih hps
    · next hp =>
      have hnothing : p = "" ∨ p = "." :=
        Decidable.not_not.1 (mt (isComponent_iff_of_not_mem (h p List.mem_cons_self)).2 hp)
      rw [step, if_pos hnothing]
      exact ih hps

theorem not_mem_of_mem_pieces {s p : String} (h : p ∈ pieces s) : '/' ∉ p.toList := by
  obtain ⟨piece, hpiece, rfl⟩ := List.mem_map.1 h
  rw [String.toList_ofList]
  exact not_mem_of_mem_splitSlash hpiece

/-- The components of a text as a path are those that its pieces make. -/
theorem foldl_step_partsOf (s : String) (components : List String) :
    (Path.partsOf s.toList).foldl step components = (pieces s).foldl step components :=
  foldl_step_filter fun _ hp => not_mem_of_mem_pieces hp

/-- No step leaves a `..` behind. -/
theorem not_mem_step {components : List String} (h : ".." ∉ components) (piece : String) :
    ".." ∉ step components piece := by
  unfold step
  split
  · exact h
  · split
    · exact fun hm => h (List.dropLast_subset _ hm)
    · next hne =>
      rw [List.mem_append, List.mem_singleton]
      rintro (hm | hm)
      · exact h hm
      · exact hne hm.symm

theorem not_mem_foldl_step {components : List String} (h : ".." ∉ components) (ps : List String) :
    ".." ∉ ps.foldl step components := by
  induction ps generalizing components with
  | nil => exact h
  | cons p ps ih => exact ih (not_mem_step h p)

/-- Where there is nothing to cancel, each component is one more. -/
theorem foldl_step_of_not_mem {ps components : List String} (h : ∀ p ∈ ps, isComponent p = true)
    (hup : ".." ∉ ps) : ps.foldl step components = components ++ ps := by
  induction ps generalizing components with
  | nil => exact (List.append_nil _).symm
  | cons p ps ih =>
    have hp : p ≠ ".." := fun e => hup (by rw [e]; exact List.mem_cons_self)
    rw [List.foldl_cons, step_of_isComponent (h p List.mem_cons_self), if_neg hp,
      ih (fun q hq => h q (List.mem_cons_of_mem _ hq)) fun hm => hup (List.mem_cons_of_mem _ hm),
      List.append_assoc, List.singleton_append]

end Location

/-! ## Locations of paths -/

namespace AbsolutePath

/-- The location that a path writes. -/
def location (p : AbsolutePath) : Location := ⟨String.ofList p.path.anchor.text, p.path.parts⟩

theorem toList_intercalate_slash (parts : List String) :
    ("/".intercalate parts).toList = joinSlash parts := by
  induction parts with
  | nil => rfl
  | cons s rest ih =>
    cases rest with
    | nil => rw [String.intercalate_singleton, joinSlash]
    | cons t rest =>
      rw [String.intercalate_cons_cons, joinSlash, ← ih, String.toList_append,
        String.toList_append, List.append_assoc]
      rfl

theorem text_location (p : AbsolutePath) : p.location.text = p.text := by
  have hanchor : p.path.anchor ≠ .relative := bne_iff_ne.1 p.isAbsolute
  rw [text, Path.text, if_neg fun h => hanchor h.1, Location.text, location,
    ← String.toList_inj, String.toList_append, toList_intercalate_slash, String.toList_ofList,
    String.toList_ofList]

/-- A path is determined by its location. -/
theorem location_inj {p q : AbsolutePath} : p.location = q.location ↔ p = q := by
  constructor
  · intro h
    have htext := p.text_location
    rw [h, q.text_location] at htext
    have hpath : q.path = p.path := Path.text_inj.1 htext
    cases p
    cases q
    rw [AbsolutePath.mk.injEq]
    exact hpath.symm
  · rintro rfl
    rfl

/-- Nothing is left to cancel in a path. -/
def Settled (p : AbsolutePath) : Prop := ".." ∉ p.path.parts

theorem settled_location {p : AbsolutePath} (h : p.Settled) : p.location.Settled where
  slashes := by
    have hanchor : p.path.anchor ≠ .relative := bne_iff_ne.1 p.isAbsolute
    unfold AbsolutePath.location
    cases ha : p.path.anchor with
    | relative => exact absurd ha hanchor
    | root => exact .inl rfl
    | doubleRoot => exact .inr rfl
  components := by
    intro c hc
    have hcomponent : isComponent c = true := p.path.parts_ok c hc
    have hslash := not_mem_of_isComponent hcomponent
    have hnames := (isComponent_iff_of_not_mem hslash).1 hcomponent
    refine ⟨fun e => hnames (.inl e), fun e => hnames (.inr e), ?_, hslash⟩
    rintro rfl
    exact h hc

theorem parts_resolve (base : AbsolutePath) (p : Path) :
    (base.resolve p).path.parts = (base.partsFrom p).foldl Location.step [] :=
  Location.collapse_eq fun _ hx => isComponent_of_mem_partsFrom hx

theorem settled_resolve (base : AbsolutePath) (p : Path) : (base.resolve p).Settled := by
  rw [Settled, parts_resolve]
  exact Location.not_mem_foldl_step List.not_mem_nil _

/-- With nothing to cancel, the components of a path are the steps to it. -/
theorem foldl_step_settled {p : AbsolutePath} (h : p.Settled) :
    p.path.parts.foldl Location.step [] = p.path.parts :=
  Location.foldl_step_of_not_mem p.path.parts_ok h

/-- Resolving a path goes on from the location it is taken from. -/
theorem location_resolve {base : AbsolutePath} (h : base.Settled) {p : Path}
    (hp : p.anchor = .relative) : (base.resolve p).location
      = { base.location with components := p.parts.foldl Location.step base.location.components } := by
  have hanchor : (base.resolve p).path.anchor = base.path.anchor := if_pos hp
  have hparts : base.partsFrom p = base.path.parts ++ p.parts := if_pos hp
  rw [location, hanchor, parts_resolve, hparts, List.foldl_append, foldl_step_settled h]
  rfl

/-- With nothing to cancel, an absolute path leads to itself from anywhere. -/
theorem resolve_settled {p : AbsolutePath} (h : p.Settled) (base : AbsolutePath) :
    base.resolve p.path = p := by
  have hp : p.path.anchor ≠ .relative := bne_iff_ne.1 p.isAbsolute
  have hanchor : (base.resolve p.path).path.anchor = p.path.anchor := if_neg hp
  have hparts : base.partsFrom p.path = p.path.parts := if_neg hp
  rw [← location_inj, location, hanchor, parts_resolve, hparts, foldl_step_settled h]
  rfl

end AbsolutePath

/-! ## Locations of texts -/

namespace Location

theorem isRooted_iff_slash (cs : List Char) :
    Path.Written.isRooted cs = true ↔ "/".toList <+: cs := by
  have hslash : "/".toList = ['/'] := rfl
  rw [hslash, Path.Written.isRooted, beq_iff_eq]
  cases cs with
  | nil => simp
  | cons c cs => simp [List.cons_prefix_cons, eq_comm]

/-- A written path is absolute exactly where it starts with a slash. -/
theorem isAbsolute_iff_slash (s : String) :
    (Path.ofText s).isAbsolute = true ↔ "/".toList <+: s.toList :=
  (Path.isAbsolute_ofText s).trans (isRooted_iff_slash s.toList)

/-- The slashes at a root are the anchor of a path. -/
theorem slashesOf_eq {s : String} (h : "/".toList <+: s.toList) :
    slashesOf s = String.ofList (Anchor.ofChars s.toList).text := by
  have htwo : "//".toList = ['/', '/'] := rfl
  have hthree : "///".toList = ['/', '/', '/'] := rfl
  obtain ⟨cs, hs⟩ := h
  unfold slashesOf
  rw [← hs, htwo, hthree]
  -- what decides is whether the next character is a slash, and then the one behind it
  rcases cs with _ | ⟨c, cs⟩
  · rfl
  · by_cases hc : '/' = c
    · subst hc
      rcases cs with _ | ⟨d, cs⟩
      · rfl
      · by_cases hd : '/' = d
        · subst hd
          simp [Anchor.ofChars, Anchor.text]
        · simp [Anchor.ofChars, Anchor.text, hd, Ne.symm hd]
    · simp [Anchor.ofChars, Anchor.text, hc, Ne.symm hc]

/-- A text leads to where the path of the text is resolved. -/
theorem ofText_eq {here : String} {cwd : AbsolutePath} (hcwd : cwd.path = .ofText here)
    (s : String) : ofText here s = (cwd.resolve (.ofText s)).location := by
  have hhere : "/".toList <+: here.toList := by
    rw [← isAbsolute_iff_slash, ← hcwd]
    exact cwd.isAbsolute
  have hrooted : "/".toList <+: s.toList ↔ (Path.ofText s).anchor ≠ .relative :=
    (isAbsolute_iff_slash s).symm.trans bne_iff_ne
  rw [AbsolutePath.location, AbsolutePath.parts_resolve]
  unfold ofText
  split
  · next hs =>
    have hanchor : (cwd.resolve (.ofText s)).path.anchor = Anchor.ofChars s.toList :=
      if_neg (hrooted.1 hs)
    have hparts : cwd.partsFrom (.ofText s) = Path.partsOf s.toList := if_neg (hrooted.1 hs)
    rw [hanchor, hparts, slashesOf_eq hs, foldl_step_partsOf]
  · next hs =>
    have hrelative : (Path.ofText s).anchor = .relative := Decidable.not_not.1 (mt hrooted.2 hs)
    have hanchor : (cwd.resolve (.ofText s)).path.anchor = Anchor.ofChars here.toList :=
      (if_pos hrelative).trans (congrArg Path.anchor hcwd)
    have hparts : cwd.partsFrom (.ofText s)
        = Path.partsOf here.toList ++ Path.partsOf s.toList := by
      rw [AbsolutePath.partsFrom, if_pos hrelative, hcwd]
      rfl
    rw [hanchor, hparts, slashesOf_eq hhere, List.foldl_append, List.foldl_append,
      foldl_step_partsOf, foldl_step_partsOf]

end Location

end BundleConfig
