/-
# `Proofs.Profile` — which fields make a profile, and what others are blamed for

A profile is read from five fields, looked at in this order.  What stands under
other names is not seen.

    output_dir         has to be given   a text that starts with a slash
    public_path        may be left out   a text
    features           may be left out   a list of texts
    entry              has to be given   a text that is not empty
    history_fallback   may be left out   a text, or the absent value

`Slot.Suits` is the last column, and `Good` is both.  Fields that are all good
make a profile, and it holds what they say (`MadeFrom`).  Otherwise each field
that is not good is blamed, in this order, and no other field is (`Blames`):
once, under its name, except that a list of features is blamed for each of its
items that is no text, at the item's index.

The output directory is checked as a path, in normal form.  That says no more
than the first character of what was written: dropping dots and slashes makes
nothing absolute and nothing relative (`Location.isAbsolute_iff_slash`).
-/
import BundleConfig.Profile
import BundleConfig.Proofs.Path.Location
import BundleConfig.Proofs.Reading

namespace BundleConfig

/-- The text that fields hold under a name. -/
def Fields.text? (fs : Fields) (name : String) : Option String :=
  (fs.lookup name).bind Value.asText?

theorem Fields.text?_of_lookup {fs : Fields} {name : String} {v : Value}
    (h : fs.lookup name = some v) : fs.text? name = v.asText? := by
  rw [text?, h, Option.bind_some]

theorem Fields.text?_of_not_lookup {fs : Fields} {name : String} (h : fs.lookup name = none) :
    fs.text? name = none := by
  rw [text?, h, Option.bind_none]

namespace Profile

/-! ## The fields of a profile -/

/-- The fields of a profile. -/
inductive Slot
  | outputDir
  | publicPath
  | features
  | entry
  | historyFallback
deriving DecidableEq

namespace Slot

/-- All fields, in the order in which they are looked at. -/
def all : List Slot := [.outputDir, .publicPath, .features, .entry, .historyFallback]

theorem mem_all (slot : Slot) : slot ∈ all := by
  cases slot <;> decide

def name : Slot → String
  | .outputDir => "output_dir"
  | .publicPath => "public_path"
  | .features => "features"
  | .entry => "entry"
  | .historyFallback => "history_fallback"

/-- Whether a field has to be given. -/
def Required : Slot → Prop
  | .outputDir | .entry => True
  | .publicPath | .features | .historyFallback => False

/-- Whether a value is good in a field. -/
def Suits : Slot → Value → Prop
  | .outputDir, v => ∃ s, v.asText? = some s ∧ "/".toList <+: s.toList
  | .publicPath, v => v.IsString
  | .features, v => ∃ vs, v = .list vs ∧ ∀ x ∈ vs, x.IsString
  | .entry, v => ∃ s, v.asText? = some s ∧ s ≠ ""
  | .historyFallback, v => v = .null ∨ v.IsString

end Slot

/-- Whether a field is good: it is there if it has to be, and what is there suits. -/
structure Good (fs : Fields) (slot : Slot) : Prop where
  given : slot.Required → ∃ v, fs.lookup slot.name = some v
  suits : ∀ v, fs.lookup slot.name = some v → slot.Suits v

/-- What a profile holds of the fields that it was made from. -/
structure MadeFrom (p : Profile) (fs : Fields) : Prop where
  outputDir : ∃ s, fs.text? "output_dir" = some s ∧ p.outputDir.path = .ofText s
  publicPath : p.publicPath = (fs.text? "public_path").getD ""
  features : fs.lookup "features" = none ∧ p.features = [] ∨
    ∃ vs, fs.lookup "features" = some (.list vs) ∧ vs.map Value.asText? = p.features.map some
  entry : fs.text? "entry" = some p.entry.text
  noFallback : p.historyFallback = none ↔ fs.lookup "history_fallback" = none ∨
    fs.lookup "history_fallback" = some .null ∨ fs.text? "history_fallback" = some ""
  fallback : ∀ page, p.historyFallback = some page →
    fs.text? "history_fallback" = some page.text

/-! ## What fields are blamed for -/

/-- What is wrong with a value that does not suit a field at all. -/
inductive Mismatch : Slot → Value → Problem → Prop
  | outputDir {v : Value} : ¬ v.IsString → Mismatch .outputDir v .notPath
  | relative {v : Value} {s : String} : v.asText? = some s → ¬ "/".toList <+: s.toList →
      Mismatch .outputDir v (.notAbsolute (.ofText s))
  | publicPath {v : Value} : ¬ v.IsString → Mismatch .publicPath v .notText
  | features {v : Value} : (∀ vs, v ≠ .list vs) → Mismatch .features v .notList
  | entry {v : Value} : ¬ v.IsString → Mismatch .entry v .notText
  | empty {v : Value} : v.asText? = some "" → Mismatch .entry v .tooShort
  | historyFallback {v : Value} : v ≠ .null → ¬ v.IsString →
      Mismatch .historyFallback v .notText

/-- The items of a list that are no texts, one fault each, at their indexes;
the first index is given. -/
def misfits (i : Nat) (vs : List Value) : List Fault :=
  ((vs.zipIdx i).filter fun x => x.1.asText?.isNone).map fun x => ⟨[.index x.2], .notText⟩

/-- What is wrong with a value in a field, seen from the value. -/
inductive Flaws : Slot → Value → List Fault → Prop
  | whole {slot : Slot} {v : Value} {p : Problem} : Mismatch slot v p → Flaws slot v [⟨[], p⟩]
  | items {vs : List Value} : (∃ x ∈ vs, ¬ x.IsString) →
      Flaws .features (.list vs) (misfits 0 vs)

/-- What a field is blamed for. -/
inductive Blames (fs : Fields) (slot : Slot) : List Fault → Prop
  | good : Good fs slot → Blames fs slot []
  | missing : slot.Required → fs.lookup slot.name = none →
      Blames fs slot [⟨[.field slot.name], .missing⟩]
  | flawed {v : Value} {faults : List Fault} : fs.lookup slot.name = some v →
      Flaws slot v faults → Blames fs slot (faults.map (Fault.within (.field slot.name)))

theorem misfits_cons (i : Nat) (v : Value) (vs : List Value) :
    misfits i (v :: vs)
      = if v.asText?.isNone then ⟨[.index i], .notText⟩ :: misfits (i + 1) vs
        else misfits (i + 1) vs := by
  unfold misfits
  rw [List.zipIdx_cons, List.filter_cons]
  split <;> rfl

theorem misfits_eq_nil_iff {i : Nat} {vs : List Value} :
    misfits i vs = [] ↔ ∀ x ∈ vs, x.IsString := by
  induction vs generalizing i with
  | nil => simp [misfits]
  | cons v vs ih =>
    rw [misfits_cons, List.forall_mem_cons]
    cases hv : v.asText? with
    | some s => simp [ih, Value.IsString, hv]
    | none => simp [Value.IsString, hv]

theorem Mismatch.not_suits {slot : Slot} {v : Value} {p : Problem} (h : Mismatch slot v p) :
    ¬ slot.Suits v := by
  cases h with
  | outputDir h =>
    rintro ⟨s, hs, -⟩
    exact h ⟨s, hs⟩
  | relative hs hslash =>
    rintro ⟨t, ht, hprefix⟩
    cases hs.symm.trans ht
    exact hslash hprefix
  | publicPath h => exact h
  | features h =>
    rintro ⟨vs, hvs, -⟩
    exact h vs hvs
  | entry h =>
    rintro ⟨s, hs, -⟩
    exact h ⟨s, hs⟩
  | empty hs =>
    rintro ⟨t, ht, hne⟩
    cases hs.symm.trans ht
    exact hne rfl
  | historyFallback hnull htext =>
    rintro (h | h)
    · exact hnull h
    · exact htext h

theorem Flaws.ne_nil {slot : Slot} {v : Value} {faults : List Fault}
    (h : Flaws slot v faults) : faults ≠ [] := by
  cases h with
  | whole _ => exact List.cons_ne_nil _ _
  | items h =>
    obtain ⟨x, hx, hbad⟩ := h
    exact fun hnil => hbad (misfits_eq_nil_iff.1 hnil x hx)

theorem Flaws.not_suits {slot : Slot} {v : Value} {faults : List Fault}
    (h : Flaws slot v faults) : ¬ slot.Suits v := by
  cases h with
  | whole h => exact h.not_suits
  | items h =>
    obtain ⟨x, hx, hbad⟩ := h
    rintro ⟨ws, hws, hall⟩
    cases hws
    exact hbad (hall x hx)

/-- A field is blamed for nothing exactly if it is good. -/
theorem Blames.eq_nil_iff {fs : Fields} {slot : Slot} {faults : List Fault}
    (h : Blames fs slot faults) : faults = [] ↔ Good fs slot := by
  cases h with
  | good h => exact ⟨fun _ => h, fun _ => rfl⟩
  | missing hrequired hnone =>
    refine ⟨fun h => absurd h (List.cons_ne_nil _ _), fun h => ?_⟩
    obtain ⟨v, hv⟩ := h.given hrequired
    rw [hnone] at hv
    cases hv
  | flawed hv hflaws =>
    exact ⟨fun h => absurd (List.map_eq_nil_iff.1 h) hflaws.ne_nil,
      fun h => absurd (h.suits _ hv) hflaws.not_suits⟩

/-! ## Reading a value -/

/-- A value was read for a field: as wanted if it suits, and with its flaws if not. -/
inductive Reads {α : Type} (slot : Slot) (v : Value) (wanted : α → Prop) : Checked α → Prop
  | ok {a : α} : slot.Suits v → wanted a → Reads slot v wanted (.ok a)
  | error {faults : List Fault} : Flaws slot v faults → Reads slot v wanted (.error faults)

theorem Reads.refuse {α : Type} {slot : Slot} {v : Value} {wanted : α → Prop} {p : Problem}
    (h : Mismatch slot v p) : Reads slot v wanted (Checked.refuse p) :=
  .error (.whole h)

theorem Reads.imp {α : Type} {slot : Slot} {v : Value} {wanted wanted' : α → Prop} {c : Checked α}
    (h : Reads slot v wanted c) (himp : ∀ a, wanted a → wanted' a) : Reads slot v wanted' c := by
  cases h with
  | ok hsuits hwanted => exact .ok hsuits (himp _ hwanted)
  | error hflaws => exact .error hflaws

theorem reads_outputDir (v : Value) :
    Reads .outputDir v (fun dir => ∃ s, v.asText? = some s ∧ dir.path = .ofText s)
      (readOutputDir v) := by
  unfold readOutputDir Value.readPath
  cases hv : v.asText? with
  | none => exact .refuse (.outputDir (Value.not_isString_iff.2 hv))
  | some s =>
    dsimp only
    split
    · next habs =>
      exact .ok ⟨s, hv, (Location.isAbsolute_iff_slash s).1 habs⟩ ⟨s, rfl, rfl⟩
    · next habs =>
      exact .refuse (.relative hv (mt (Location.isAbsolute_iff_slash s).2 habs))

theorem reads_publicPath (v : Value) :
    Reads .publicPath v (fun s => v.asText? = some s) v.readText := by
  unfold Value.readText
  cases hv : v.asText? with
  | none => exact .refuse (.publicPath (Value.not_isString_iff.2 hv))
  | some s => exact .ok ⟨s, hv⟩ rfl

/-- Items are read as texts, or each that is no text is told. -/
theorem readItems_texts (i : Nat) (vs : List Value) :
    (∀ x ∈ vs, x.IsString) ∧ (∃ ss, Value.readItems Value.readText i vs = .ok ss ∧
        vs.map Value.asText? = ss.map some) ∨
      (∃ x ∈ vs, ¬ x.IsString) ∧
        Value.readItems Value.readText i vs = .error (misfits i vs) := by
  induction vs generalizing i with
  | nil => exact .inl ⟨by simp, [], rfl, rfl⟩
  | cons v vs ih =>
    cases hv : v.asText? with
    | some s =>
      have hread : v.readText = .ok s := Value.readText_ok_iff.2 hv
      rcases ih (i + 1) with ⟨hall, ss, hss, hmap⟩ | ⟨⟨x, hx, hbad⟩, herror⟩
      · refine .inl ⟨List.forall_mem_cons.2 ⟨⟨s, hv⟩, hall⟩, s :: ss, ?_, ?_⟩
        · simp [Value.readItems, hread, hss]
        · simp [hv, hmap]
      · refine .inr ⟨⟨x, List.mem_cons_of_mem _ hx, hbad⟩, ?_⟩
        simp [Value.readItems, hread, herror, misfits_cons, hv]
    | none =>
      have hread := Value.readText_of_none hv
      refine .inr ⟨⟨v, List.mem_cons_self, Value.not_isString_iff.2 hv⟩, ?_⟩
      rcases ih (i + 1) with ⟨hall, ss, hss, -⟩ | ⟨-, herror⟩
      · simp [Value.readItems, hread, hss, misfits_cons, hv, misfits_eq_nil_iff.2 hall,
          Fault.within]
      · simp [Value.readItems, hread, herror, misfits_cons, hv, Fault.within]

theorem reads_features (v : Value) :
    Reads .features v (fun ss => ∃ vs, v = .list vs ∧ vs.map Value.asText? = ss.map some)
      (Value.readList Value.readText v) := by
  unfold Value.readList
  split
  · next vs =>
    rcases readItems_texts 0 vs with ⟨hall, ss, hss, hmap⟩ | ⟨hbad, herror⟩
    · rw [hss]
      exact .ok ⟨vs, rfl, hall⟩ ⟨vs, rfl, hmap⟩
    · rw [herror]
      exact .error (.items hbad)
  · next hlist => exact .refuse (.features hlist)

theorem reads_entry (v : Value) :
    Reads .entry v (fun t => v.asText? = some (NonEmptyText.text t)) v.readNonEmpty := by
  unfold Value.readNonEmpty NonEmptyText.ofText?
  cases hv : v.asText? with
  | none => exact .refuse (.entry (Value.not_isString_iff.2 hv))
  | some s =>
    by_cases hs : s = ""
    · subst hs
      exact .refuse (.empty hv)
    · simp only [hs, dite_false]
      exact .ok ⟨s, hv, hs⟩ rfl

theorem reads_historyFallback (v : Value) :
    Reads .historyFallback v (fun page =>
        (page = none ↔ v = .null ∨ v.asText? = some "") ∧
          ∀ t, page = some t → v.asText? = some (NonEmptyText.text t))
      (readFallback v) := by
  by_cases hnull : v = .null
  · subst hnull
    exact .ok (.inl rfl) (by simp)
  · unfold readFallback Value.readOptionalText
    rw [if_neg (mt Value.isNull_iff.1 hnull)]
    cases hv : v.asText? with
    | none => exact .refuse (.historyFallback hnull (Value.not_isString_iff.2 hv))
    | some s =>
      refine .ok (.inr ⟨s, hv⟩) ?_
      by_cases hs : s = ""
      · simp [NonEmptyText.ofText?, hs]
      · simp [NonEmptyText.ofText?, hs, hnull]

/-! ## Reading a field -/

/-- A field was read: as wanted if it is good, and else with what it is blamed for. -/
inductive Answers {α : Type} (fs : Fields) (slot : Slot) (wanted : α → Prop) : Checked α → Prop
  | ok {a : α} : Good fs slot → wanted a → Answers fs slot wanted (.ok a)
  | error {faults : List Fault} : faults ≠ [] → Blames fs slot faults →
      Answers fs slot wanted (.error faults)

section

variable {α : Type} {fs : Fields} {slot : Slot} {wanted : α → Prop}

theorem Answers.blames {c : Checked α} (h : Answers fs slot wanted c) :
    Blames fs slot c.faults := by
  cases h with
  | ok hgood _ => exact .good hgood
  | error _ hblames => exact hblames

theorem Answers.of_good {c : Checked α} (h : Answers fs slot wanted c) (hgood : Good fs slot) :
    ∃ a, c = .ok a ∧ wanted a := by
  cases h with
  | ok _ hwanted => exact ⟨_, rfl, hwanted⟩
  | error hne hblames => exact absurd (hblames.eq_nil_iff.2 hgood) hne

/-- A field that is there answers as its value is read. -/
theorem Answers.of_reads {v : Value} {c : Checked α} (hv : fs.lookup slot.name = some v)
    (h : Reads slot v wanted c) : Answers fs slot wanted (c.within (.field slot.name)) := by
  cases h with
  | ok hsuits hwanted =>
    refine .ok ⟨fun _ => ⟨v, hv⟩, ?_⟩ hwanted
    intro w hw
    cases hv.symm.trans hw
    exact hsuits
  | error hflaws =>
    exact .error (mt List.map_eq_nil_iff.1 hflaws.ne_nil) (.flawed hv hflaws)

theorem answers_required (slot : Slot) {read : Value → Checked α} (hrequired : slot.Required)
    (hread : ∀ v, fs.lookup slot.name = some v → Reads slot v wanted (read v)) :
    Answers fs slot wanted (fs.required slot.name read) := by
  unfold Fields.required
  cases hv : fs.lookup slot.name with
  | some v => exact .of_reads hv (hread v hv)
  | none => exact .error (List.cons_ne_nil _ _) (.missing hrequired hv)

theorem answers_optional (slot : Slot) {read : Value → Checked α} {default : α}
    (hoptional : ¬ slot.Required)
    (hread : ∀ v, fs.lookup slot.name = some v → Reads slot v wanted (read v))
    (hdefault : fs.lookup slot.name = none → wanted default) :
    Answers fs slot wanted (fs.optional slot.name read default) := by
  unfold Fields.optional
  cases hv : fs.lookup slot.name with
  | some v => exact .of_reads hv (hread v hv)
  | none =>
    refine .ok ⟨fun h => absurd h hoptional, ?_⟩ (hdefault hv)
    intro v h
    rw [hv] at h
    cases h

end

/-! ## The five fields -/

section

variable (fs : Fields)

theorem answers_outputDir :
    Answers fs .outputDir (fun dir => ∃ s, fs.text? "output_dir" = some s ∧ dir.path = .ofText s)
      (fs.required "output_dir" readOutputDir) := by
  refine answers_required .outputDir trivial fun v hv => (reads_outputDir v).imp ?_
  rintro dir ⟨s, hs, hdir⟩
  exact ⟨s, (Fields.text?_of_lookup hv).trans hs, hdir⟩

theorem answers_publicPath :
    Answers fs .publicPath (fun s => s = (fs.text? "public_path").getD "")
      (fs.optional "public_path" Value.readText "") := by
  refine answers_optional .publicPath id (fun v hv => (reads_publicPath v).imp ?_) ?_
  · intro s hs
    have hlookup : fs.lookup "public_path" = some v := hv
    rw [Fields.text?_of_lookup hlookup, hs, Option.getD_some]
  · intro hnone
    have hlookup : fs.lookup "public_path" = none := hnone
    rw [Fields.text?_of_not_lookup hlookup, Option.getD_none]

theorem answers_features :
    Answers fs .features (fun ss => fs.lookup "features" = none ∧ ss = [] ∨
        ∃ vs, fs.lookup "features" = some (.list vs) ∧ vs.map Value.asText? = ss.map some)
      (fs.optional "features" (Value.readList Value.readText) []) := by
  refine answers_optional .features id (fun v hv => (reads_features v).imp ?_) ?_
  · rintro ss ⟨vs, rfl, hmap⟩
    exact .inr ⟨vs, hv, hmap⟩
  · exact fun hnone => .inl ⟨hnone, rfl⟩

theorem answers_entry :
    Answers fs .entry (fun t => fs.text? "entry" = some (NonEmptyText.text t))
      (fs.required "entry" Value.readNonEmpty) := by
  refine answers_required .entry trivial fun v hv => (reads_entry v).imp ?_
  exact fun t ht => (Fields.text?_of_lookup hv).trans ht

theorem answers_historyFallback :
    Answers fs .historyFallback (fun page =>
        (page = none ↔ fs.lookup "history_fallback" = none ∨
          fs.lookup "history_fallback" = some .null ∨
          fs.text? "history_fallback" = some "") ∧
          ∀ t, page = some t → fs.text? "history_fallback" = some (NonEmptyText.text t))
      (fs.optional "history_fallback" readFallback none) := by
  refine answers_optional .historyFallback id
    (fun v hv => (reads_historyFallback v).imp ?_) ?_
  · rintro page ⟨hnone, hsome⟩
    have hlookup : fs.lookup "history_fallback" = some v := hv
    rw [Fields.text?_of_lookup hlookup, hlookup]
    refine ⟨?_, hsome⟩
    simp [hnone]
  · intro hnone
    exact ⟨⟨fun _ => .inl hnone, fun _ => rfl⟩, fun t ht => by cases ht⟩

/-- What reading a profile blames each field for. -/
def blame : Slot → List Fault
  | .outputDir => (fs.required "output_dir" readOutputDir).faults
  | .publicPath => (fs.optional "public_path" Value.readText "").faults
  | .features => (fs.optional "features" (Value.readList Value.readText) []).faults
  | .entry => (fs.required "entry" Value.readNonEmpty).faults
  | .historyFallback => (fs.optional "history_fallback" readFallback none).faults

theorem faults_read : (read fs).faults = Slot.all.flatMap (blame fs) := by
  simp [read, Slot.all, blame]

theorem blames_blame (slot : Slot) : Blames fs slot (blame fs slot) := by
  cases slot with
  | outputDir => exact (answers_outputDir fs).blames
  | publicPath => exact (answers_publicPath fs).blames
  | features => exact (answers_features fs).blames
  | entry => exact (answers_entry fs).blames
  | historyFallback => exact (answers_historyFallback fs).blames

variable {fs}

/-- Fields that are all good make a profile. -/
theorem read_of_good (h : ∀ slot, Good fs slot) : ∃ p, read fs = .ok p ∧ p.MadeFrom fs := by
  obtain ⟨dir, hdir, hdir'⟩ := (answers_outputDir fs).of_good (h _)
  obtain ⟨path, hpath, hpath'⟩ := (answers_publicPath fs).of_good (h _)
  obtain ⟨flags, hflags, hflags'⟩ := (answers_features fs).of_good (h _)
  obtain ⟨entry, hentry, hentry'⟩ := (answers_entry fs).of_good (h _)
  obtain ⟨page, hpage, hnone, hsome⟩ := (answers_historyFallback fs).of_good (h _)
  refine ⟨⟨dir, path, flags, entry, page⟩, ?_, ⟨hdir', hpath', hflags', hentry', hnone, hsome⟩⟩
  simp only [read, hdir, hpath, hflags, hentry, hpage, Checked.give_eq, Checked.ok_also_ok]

/-- Fields that are not all good make none, and each has the blame. -/
theorem read_of_not_good {slot : Slot} (h : ¬ Good fs slot) :
    read fs = .error (Slot.all.flatMap (blame fs)) := by
  rw [← faults_read]
  refine Checked.eq_error_faults fun p hp => h ?_
  have hnil : Slot.all.flatMap (blame fs) = [] := by rw [← faults_read, hp, Checked.faults_ok]
  exact (blames_blame fs slot).eq_nil_iff.1 (List.flatMap_eq_nil_iff.1 hnil slot slot.mem_all)

end

/-- The headline of a refusal counts the faults. -/
theorem message_refused (faults : List Fault) :
    (Failure.refused ⟨.profile, faults⟩).message = decimal faults.length ++
      if faults.length = 1 then " validation error for Profile"
      else " validation errors for Profile" := by
  have hone : " validation error for " ++ "Profile" = " validation error for Profile" := by decide
  have hmany : " validation errors for " ++ "Profile" = " validation errors for Profile" := by
    decide
  have hmessage : (Failure.refused ⟨.profile, faults⟩).message = decimal faults.length ++
      (if faults.length = 1 then " validation error for " else " validation errors for ")
        ++ "Profile" := rfl
  rw [hmessage, String.append_assoc]
  by_cases h : faults.length = 1
  · rw [if_pos h, if_pos h, hone]
  · rw [if_neg h, if_neg h, hmany]

/-- **Profiles from fields.**  Fields make a profile exactly if all five are
good, and it holds what they say.  Otherwise they are refused for the faults
of the fields in order: those that a field is blamed for, none if it is good,
and the headline counts them. -/
theorem accepted_or_blamed (fs : Fields) :
    (∀ slot, Good fs slot) ∧
        (∃ p, (read fs).orRefuse .profile = .ok p ∧ p.MadeFrom fs) ∨
      (∃ slot, ¬ Good fs slot) ∧ ∃ blamed : Slot → List Fault,
        let faults := Slot.all.flatMap blamed
        let refusal : Failure := .refused ⟨.profile, faults⟩
        (read fs).orRefuse .profile = .error refusal ∧
        (∀ slot, Blames fs slot (blamed slot) ∧ (blamed slot = [] ↔ Good fs slot)) ∧
        refusal.message = decimal faults.length ++
          if faults.length = 1 then " validation error for Profile"
          else " validation errors for Profile" := by
  by_cases h : ∀ slot, Good fs slot
  · obtain ⟨p, hp, hmade⟩ := read_of_good h
    exact .inl ⟨h, p, by rw [hp, Checked.orRefuse_ok], hmade⟩
  · obtain ⟨slot, hslot⟩ := Classical.not_forall.1 h
    refine .inr ⟨⟨slot, hslot⟩, blame fs, ?_, ?_, ?_⟩
    · rw [read_of_not_good hslot, Checked.orRefuse_error]
    · exact fun slot => ⟨blames_blame fs slot, (blames_blame fs slot).eq_nil_iff⟩
    · exact message_refused _

example : read [("output_dir", .text "./x"), ("mode", .null), ("entry", .text ""),
    ("features", .list [.text "a", .int 3, .member (.level .debug), .null])] = .error [
      ⟨[.field "output_dir"], .notAbsolute (.ofText "x")⟩,
      ⟨[.field "features", .index 1], .notText⟩,
      ⟨[.field "features", .index 3], .notText⟩,
      ⟨[.field "entry"], .tooShort⟩] := by rfl

end Profile

end BundleConfig
