/-
# `Proofs.FileStore` — what was written is read back

Reading a file (`read?`) looks for the directory as writing does, and then for
a file of the name.  What a path was written with is read back at that path
(`read?_write`):

    s.write p text = .ok after    gives    after.read? p = some text

The path may lead through `..` and through directories that the file is not
below, so that the way to the directory has to be found again in the new tree.
It is: a file is only ever put where no directory stands, and every directory
there was is still one (`isDirectory_place`).
-/
import BundleConfig.FileStore

namespace BundleConfig

namespace Entries

variable {name other : String} {node : Node} {es : Entries}

/-! ## One directory -/

@[simp] theorem lookup_set (name : String) (node : Node) (es : Entries) :
    (set name node es).lookup name = some node := by
  induction es with
  | nil => simp [set]
  | cons e es ih =>
    obtain ⟨n, x⟩ := e
    by_cases hn : n = name
    · simp [set, hn]
    · simp [set, hn, List.lookup_cons, beq_eq_false_iff_ne.2 (Ne.symm hn), ih]

theorem lookup_set_of_ne (h : other ≠ name) (node : Node) (es : Entries) :
    (set name node es).lookup other = es.lookup other := by
  induction es with
  | nil => simp [set, List.lookup_cons, beq_eq_false_iff_ne.2 h]
  | cons e es ih =>
    obtain ⟨n, x⟩ := e
    by_cases hn : n = name
    · subst hn
      simp [set, List.lookup_cons, beq_eq_false_iff_ne.2 h]
    · by_cases ho : other = n
      · simp [set, hn, ho]
      · simp [set, hn, List.lookup_cons, beq_eq_false_iff_ne.2 ho, ih]

theorem below_set (name : String) (inner es : Entries) :
    below name (set name (.directory inner) es) = inner := by
  rw [below, lookup_set]

theorem below_set_of_ne (h : other ≠ name) (node : Node) (es : Entries) :
    below other (set name node es) = below other es := by
  rw [below, below, lookup_set_of_ne h]

/-! ## A node put where names lead -/

theorem place_cons (node : Node) (dir : String) (dirs : List String) (name : String)
    (es : Entries) : place node (dir :: (dirs ++ [name])) es
      = set dir (.directory (place node (dirs ++ [name]) (below dir es))) es := by
  cases dirs <;> rfl

/-- The node is found where it was put. -/
theorem lookup_place (node : Node) (dirs : List String) (name : String) (es : Entries) :
    (under dirs (place node (dirs ++ [name]) es)).lookup name = some node := by
  induction dirs generalizing es with
  | nil => exact lookup_set name node es
  | cons dir dirs ih => rw [List.cons_append, place_cons, under, below_set, ih]

theorem under_nil (dirs : List String) : under dirs [] = [] := by
  induction dirs with
  | nil => rfl
  | cons dir dirs ih => exact ih

/-- What is a directory of a tree. -/
def IsDirectory (dirs : List String) (name : String) (es : Entries) : Prop :=
  ∃ inner, (under dirs es).lookup name = some (.directory inner)

/-- Where a file is put in place of no directory, every directory stays one. -/
theorem isDirectory_place (text : String) {dirs : List String}
    (hfree : ¬ IsDirectory dirs name es) {dirs' : List String} {name' : String}
    (h : IsDirectory dirs' name' es) :
    IsDirectory dirs' name' (place (.file text) (dirs ++ [name]) es) := by
  induction dirs generalizing es dirs' with
  | nil =>
    cases dirs' with
    | nil =>
      have hne : name' ≠ name := by
        rintro rfl
        exact hfree h
      obtain ⟨inner, hinner⟩ := h
      exact ⟨inner, (lookup_set_of_ne hne (.file text) es).trans hinner⟩
    | cons dir' dirs' =>
      -- the way to it does not lead through the name, where there is no directory
      have hne : dir' ≠ name := by
        rintro rfl
        obtain ⟨inner, hinner⟩ := h
        have hempty : below dir' es = [] := by
          unfold below
          split
          · next inner' hlookup => exact absurd ⟨inner', hlookup⟩ hfree
          · rfl
        rw [under, hempty, under_nil] at hinner
        cases hinner
      obtain ⟨inner, hinner⟩ := h
      refine ⟨inner, ?_⟩
      rw [under] at hinner ⊢
      rw [List.nil_append, place, below_set_of_ne hne, hinner]
  | cons dir dirs ih =>
    rw [List.cons_append, place_cons]
    cases dirs' with
    | nil =>
      by_cases hname : name' = dir
      · subst hname
        exact ⟨_, lookup_set ..⟩
      · obtain ⟨inner, hinner⟩ := h
        exact ⟨inner, (lookup_set_of_ne hname _ es).trans hinner⟩
    | cons dir' dirs' =>
      by_cases hdir : dir' = dir
      · subst hdir
        have hbelow : IsDirectory dirs' name' (below dir' es) := h
        rw [IsDirectory, under, below_set]
        exact ih hfree hbelow
      · rw [IsDirectory, under, below_set_of_ne hdir]
        exact h

end Entries

namespace FileStore

/-- The text of the file at a path. -/
def read? (s : FileStore) (p : Path) : Option String :=
  match p.parts.getLast? with
  | none => none
  | some name =>
    match walk s.root (s.startOf p) p.parts.dropLast with
    | .error _ => none
    | .ok place =>
      match (Entries.under place.reverse s.root).lookup name with
      | some (.file text) => some text
      | _ => none

/-- A way that leads somewhere leads there in every tree that has the same
directories. -/
theorem walk_of_directories {root root' : Entries}
    (hkept : ∀ dirs name, Entries.IsDirectory dirs name root → Entries.IsDirectory dirs name root')
    {parts place found : List String} (h : walk root place parts = .ok found) :
    walk root' place parts = .ok found := by
  induction parts generalizing place with
  | nil => exact h
  | cons part parts ih =>
    unfold walk at h ⊢
    split at h
    · next hup =>
      rw [if_pos hup]
      exact ih h
    · next hup =>
      split at h
      · cases h
      · next hshort =>
        split at h
        · cases h
        · cases h
        · next inner hlookup =>
          obtain ⟨inner', hlookup'⟩ := hkept place.reverse part ⟨inner, hlookup⟩
          rw [if_neg hup, if_neg hshort, hlookup']
          exact ih h

/-- **What was written is read back** at the path it was written to. -/
theorem read?_write {s after : FileStore} {p : Path} {text : String}
    (h : s.write p text = .ok after) : after.read? p = some text := by
  unfold write at h
  split at h
  · cases h
  · split at h
    · cases h
    · next name hname =>
      split at h
      · cases h
      · next place hplace =>
        unfold writeIn at h
        split at h
        · cases h
        · split at h
          · cases h
          · split at h
            · cases h
            · next hfree =>
              cases h
              have hnone : ¬ Entries.IsDirectory place.reverse name s.root :=
                fun ⟨inner, hinner⟩ => hfree inner hinner
              have hway := walk_of_directories
                (fun dirs name' => Entries.isDirectory_place text hnone) hplace
              have hfound := Entries.lookup_place (.file text) place.reverse name s.root
              have hstart (root : Entries) : FileStore.startOf ⟨root, s.current⟩ p = s.startOf p := rfl
              simp only [read?, hname, hstart, hway, hfound]

end FileStore

end BundleConfig
