/-
# `Proofs.Features` — what arguments tell about the features

Features are rendered as one head and the flags with a separator between them
(`render_cons_eq`), which can be undone:

    decode ""                  no flags
    decode ("--features=" t)   the pieces of `t` between the separators

Flags are not checked, so one may hold the separator itself.  It is then taken
for several, and that is all that is lost: what is found again of some flags are
the pieces of each of them in turn, and flags are rendered alike exactly if they
have the same pieces (`render_decodes`).  A flag may end in a space, start with
dashes or be empty; none of these makes a separator where there was none.
-/
import BundleConfig.Features
import BundleConfig.Proofs.Text.Separated

namespace BundleConfig.Features

/-! ## Rendering -/

/-- The arguments of some features are the head of the first and the flags, with
a space and a head between them. -/
theorem render_cons_eq (flag : String) (flags : List String) :
    render (flag :: flags) = argumentHead ++ " --features=".intercalate (flag :: flags) := by
  induction flags generalizing flag with
  | nil =>
    rw [String.intercalate_singleton]
    exact String.intercalate_singleton
  | cons next flags ih =>
    have hstep : render (flag :: next :: flags)
        = argumentHead ++ flag ++ " " ++ render (next :: flags) := String.intercalate_cons_cons
    have hjoint : " --features=" = " " ++ argumentHead := by decide
    rw [hstep, ih, String.intercalate_cons_cons, hjoint]
    simp only [String.append_assoc]

theorem render_cons (flag : String) (flags : List String) :
    ∃ rest, render (flag :: flags) = argumentHead ++ rest :=
  ⟨_, render_cons_eq flag flags⟩

/-- Features are rendered as nothing only if there are none. -/
theorem render_eq_empty_iff {flags : List String} : render flags = "" ↔ flags = [] := by
  constructor
  · intro h
    cases flags with
    | nil => rfl
    | cons flag flags =>
      obtain ⟨rest, hrest⟩ := render_cons flag flags
      rw [h] at hrest
      have hhead := (String.append_eq_empty_iff.1 hrest.symm).1
      exact absurd hhead (by decide)
  · rintro rfl
    rfl

/-! ## The pieces of a flag -/

/-- What stands between one flag and the next. -/
def separator : Text.Separator where
  head := ' '
  tail := argumentHead.toList
  apart := by decide

theorem separator_chars : separator.chars = " --features=".toList := by decide

/-- The pieces of a flag, which is one unless it holds the separator. -/
def split (flag : String) : List String := (separator.cut flag.toList).map String.ofList

theorem map_toList_inj {ss ts : List String} :
    ss.map String.toList = ts.map String.toList ↔ ss = ts :=
  List.map_inj_right fun _ _ => String.toList_inj.1

theorem map_toList_split (flag : String) :
    (split flag).map String.toList = separator.cut flag.toList := by
  rw [split, List.map_map]
  exact (List.map_congr_left fun cs _ => String.toList_ofList).trans (List.map_id _)

/-- What the pieces of a flag are, without splitting it. -/
theorem split_eq_iff {flag : String} {pieces : List String} :
    split flag = pieces ↔ " --features=".intercalate pieces = flag ∧ pieces ≠ [] ∧
      ∀ p ∈ pieces, ¬ " --features=".toList <:+: p.toList := by
  rw [← map_toList_inj, map_toList_split, Text.Separator.cut_eq_iff, separator_chars,
    ← String.toList_intercalate, String.toList_inj]
  simp only [ne_eq, List.map_eq_nil_iff, List.forall_mem_map]

/-- Joined flags have the pieces of each in turn. -/
theorem split_intercalate {flags : List String} (h : flags ≠ []) :
    split (" --features=".intercalate flags) = flags.flatMap split := by
  have hchars : flags.map String.toList ≠ [] := mt List.map_eq_nil_iff.1 h
  have hcut := separator.cut_intercalate hchars
  rw [separator_chars, ← String.toList_intercalate] at hcut
  rw [← map_toList_inj, map_toList_split, hcut, List.map_flatMap, List.flatMap_map]
  simp only [map_toList_split]

theorem flatMap_split_of_not_infix {flags : List String}
    (h : ∀ f ∈ flags, ¬ " --features=".toList <:+: f.toList) : flags.flatMap split = flags := by
  induction flags with
  | nil => rfl
  | cons flag flags ih =>
    have hflag : split flag = [flag] := split_eq_iff.2 ⟨String.intercalate_singleton,
      List.cons_ne_nil _ _, List.forall_mem_singleton.2 (h flag List.mem_cons_self)⟩
    rw [List.flatMap_cons, hflag, ih fun f hf => h f (List.mem_cons_of_mem _ hf),
      List.singleton_append]

/-! ## Reading what was rendered -/

/-- The flags that arguments are read as. -/
def decode (s : String) : List String :=
  if s = "" then [] else split (String.ofList (s.toList.drop argumentHead.toList.length))

theorem decode_empty : decode "" = [] := rfl

theorem decode_head_append (t : String) : decode (argumentHead ++ t) = split t := by
  have hne : argumentHead ++ t ≠ "" := by
    rw [ne_eq, String.append_eq_empty_iff]
    exact fun hempty => absurd hempty.1 (by decide)
  rw [decode, if_neg hne, String.toList_append, List.drop_left, String.ofList_toList]

/-- Features are found again in pieces. -/
theorem decode_render (flags : List String) : decode (render flags) = flags.flatMap split := by
  cases flags with
  | nil => exact decode_empty
  | cons flag flags =>
    rw [render_cons_eq, decode_head_append, split_intercalate (List.cons_ne_nil _ _)]

/-- Whatever stands behind a head is rendered again as it was. -/
theorem render_decode_head_append (t : String) :
    render (decode (argumentHead ++ t)) = argumentHead ++ t := by
  obtain ⟨hjoin, hne, -⟩ := split_eq_iff.1 (rfl : split t = split t)
  obtain ⟨piece, pieces, hsplit⟩ := List.exists_cons_of_ne_nil hne
  rw [hsplit] at hjoin
  rw [decode_head_append, hsplit, render_cons_eq, hjoin]

theorem render_decode_render (flags : List String) :
    render (decode (render flags)) = render flags := by
  cases flags with
  | nil => rfl
  | cons flag flags => rw [render_cons_eq, render_decode_head_append]

/-- **What rendering loses.**  Rendered features are read as the pieces of each,
which are the features themselves where none holds the separator, and are
rendered as before; so features are told apart exactly if their pieces are.  The
pieces of a flag are those that give the flag when they are joined by the
separator, and do not hold it themselves. -/
theorem render_decodes (fs gs : List String) :
    (render fs = "" ↔ fs = []) ∧
    decode (render fs) = fs.flatMap split ∧
    ((∀ f ∈ fs, ¬ " --features=".toList <:+: f.toList) → decode (render fs) = fs) ∧
    render (decode (render fs)) = render fs ∧
    (render fs = render gs ↔ fs.flatMap split = gs.flatMap split) ∧
    ∀ flag pieces, split flag = pieces ↔ " --features=".intercalate pieces = flag ∧
      pieces ≠ [] ∧ ∀ p ∈ pieces, ¬ " --features=".toList <:+: p.toList := by
  refine ⟨render_eq_empty_iff, decode_render fs, ?whole, render_decode_render fs, ?apart,
    fun _ _ => split_eq_iff⟩
  case whole =>
    intro h
    rw [decode_render, flatMap_split_of_not_infix h]
  case apart =>
    constructor
    · intro h
      rw [← decode_render, h, decode_render]
    · intro h
      rw [← render_decode_render fs, ← render_decode_render gs, decode_render, decode_render, h]

/-- Flags that are empty, end in a space or look like arguments are found again;
one that holds the separator is taken for two. -/
theorem render_decodes_of_strange_flags :
    let flags := ["", "a ", "--features=b", " ", "=c"]
    (∀ f ∈ flags, ¬ " --features=".toList <:+: f.toList) ∧
    render flags = "--features= --features=a  --features=--features=b --features=  --features==c" ∧
    decode (render flags) = flags ∧
    render ["a --features=b"] = render ["a", "b"] := by
  have hflags : ∀ f ∈ ["", "a ", "--features=b", " ", "=c"],
      ¬ " --features=".toList <:+: f.toList := by decide +kernel
  exact ⟨hflags, by decide, (render_decodes _ []).2.2.1 hflags, by decide⟩

end BundleConfig.Features
