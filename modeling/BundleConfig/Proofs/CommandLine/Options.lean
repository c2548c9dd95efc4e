/-
# `Proofs.CommandLine.Options` — options are found as they were written

An option with a value can be written in four ways, a flag in two:

    --name=value    --name value    -nvalue    -n value
    --name          -n

Whichever is chosen for each of some options, a scan finds the options that
were written, in order, and goes on behind them (`scan_written`).  For that
the names have to tell the options apart (`WellNamed`).

Of an option that is written more than once the last occurrence counts, so
that occurrences that all say the same are as good as one.
-/
import BundleConfig.CommandLine.Options

namespace BundleConfig

namespace OptionSpec

variable {κ : Type}

/-- Names that tell the options of a list apart, and can be written. -/
structure WellNamed (specs : List (OptionSpec κ)) : Prop where
  long : ∀ s ∈ specs, specs.find? (·.long == s.long) = some s
  short : ∀ s ∈ specs, ∀ c, s.short = some c → specs.find? (·.short == some c) = some s
  nonempty : ∀ s ∈ specs, s.long ≠ ""
  noEquals : ∀ s ∈ specs, '=' ∉ s.long.toList
  noDash : ∀ s ∈ specs, s.short ≠ some '-'

/-- An option as it may be written. -/
inductive Written (κ : Type)
  | joined (spec : OptionSpec κ) (value : String)
  | apart (spec : OptionSpec κ) (value : String)
  | shortJoined (spec : OptionSpec κ) (letter : Char) (value : String)
  | shortApart (spec : OptionSpec κ) (letter : Char) (value : String)
  | flag (spec : OptionSpec κ)
  | shortFlag (spec : OptionSpec κ) (letter : Char)

namespace Written

/-- The arguments that an option is written as. -/
def arguments : Written κ → List String
  | .joined s v => ["--" ++ (s.long ++ "=" ++ v)]
  | .apart s v => ["--" ++ s.long, v]
  | .shortJoined _ c v => [String.ofList ('-' :: c :: v.toList)]
  | .shortApart _ c v => [String.ofList ['-', c], v]
  | .flag s => ["--" ++ s.long]
  | .shortFlag _ c => [String.ofList ['-', c]]

/-- The option that was written. -/
def spec : Written κ → OptionSpec κ
  | .joined s _ | .apart s _ | .shortJoined s _ _ | .shortApart s _ _ | .flag s | .shortFlag s _ => s

/-- The value that was written, none for a flag. -/
def value? : Written κ → Option String
  | .joined _ v | .apart _ v | .shortJoined _ _ v | .shortApart _ _ v => some v
  | .flag _ | .shortFlag _ _ => none

/-- The occurrence of the option that was written. -/
def occurrence (w : Written κ) : Occurrence κ := ⟨w.spec.key, w.value?⟩

/-- The letter that stands for the option, none if its name does. -/
def letter? : Written κ → Option Char
  | .shortJoined _ c _ | .shortApart _ c _ | .shortFlag _ c => some c
  | .joined _ _ | .apart _ _ | .flag _ => none

/-- Whether there is such an option: it is listed, has the letter that was
written, and takes a value if and only if one was written.  A short option
with nothing behind it would be given the next argument. -/
structure Fits (specs : List (OptionSpec κ)) (w : Written κ) : Prop where
  listed : w.spec ∈ specs
  takesValue : w.spec.takesValue = w.value?.isSome
  letter : ∀ c, w.letter? = some c → w.spec.short = some c
  value : ∀ s c, w ≠ .shortJoined s c ""

end Written

/-! ## One argument -/

variable {specs : List (OptionSpec κ)} {s : OptionSpec κ}

/-- Behind two dashes and a text that is not empty stands a long option. -/
theorem readArgument_long {name : String} (h : name ≠ "") :
    readArgument specs ("--" ++ name) = readLong specs name.toList := by
  have hlist : name.toList ≠ [] := fun e => h (String.toList_eq_nil_iff.1 e)
  obtain ⟨c, cs, hcs⟩ := List.exists_cons_of_ne_nil hlist
  have htext : ("--" ++ name).toList = '-' :: '-' :: c :: cs := by
    rw [String.toList_append, hcs]
    rfl
  rw [readArgument, htext, hcs]
  rfl

/-- Behind one dash and a letter stand short options. -/
theorem readArgument_short {c : Char} (h : c ≠ '-') (cs : List Char) :
    readArgument specs (String.ofList ('-' :: c :: cs)) = readShort specs (c :: cs) := by
  simp [readArgument, h]

theorem readLong_name (hspecs : WellNamed specs) (hs : s ∈ specs) :
    readLong specs s.long.toList
      = if s.takesValue then .ok (.wanting [] s.key ("--" ++ s.long))
        else .ok (.options [⟨s.key, none⟩]) := by
  have hall : ∀ c ∈ s.long.toList, (c != '=') = true :=
    fun c hc => bne_iff_ne.2 fun e => hspecs.noEquals s hs (e ▸ hc)
  have htake : (s.long.toList ++ []).takeWhile (· != '=') = s.long.toList ++ [] :=
    List.takeWhile_append_of_pos hall
  have hdrop : (s.long.toList ++ []).dropWhile (· != '=') = [] := List.dropWhile_append_of_pos hall
  rw [List.append_nil] at htake hdrop
  simp only [readLong, htake, hdrop, String.ofList_toList, hspecs.long s hs]

theorem readLong_joined (hspecs : WellNamed specs) (hs : s ∈ specs) (hvalue : s.takesValue = true)
    (value : String) :
    readLong specs (s.long.toList ++ '=' :: value.toList)
      = .ok (.options [⟨s.key, some value⟩]) := by
  have hall : ∀ c ∈ s.long.toList, (c != '=') = true :=
    fun c hc => bne_iff_ne.2 fun e => hspecs.noEquals s hs (e ▸ hc)
  have htake : (s.long.toList ++ '=' :: value.toList).takeWhile (· != '=') = s.long.toList := by
    rw [List.takeWhile_append_of_pos hall]
    simp
  have hdrop : (s.long.toList ++ '=' :: value.toList).dropWhile (· != '=')
      = '=' :: value.toList := by
    rw [List.dropWhile_append_of_pos hall]
    simp
  simp only [readLong, htake, hdrop, String.ofList_toList, hspecs.long s hs, hvalue, if_true]

theorem readShort_letter (hspecs : WellNamed specs) (hs : s ∈ specs) {c : Char}
    (hc : s.short = some c) (rest : List Char) :
    readShort specs (c :: rest)
      = if s.takesValue then
          if rest.isEmpty then .ok (.wanting [] s.key (String.ofList ['-', c]))
          else .ok (.options [⟨s.key, some (String.ofList rest)⟩])
        else (readShort specs rest).map (.behind ⟨s.key, none⟩) := by
  rw [readShort, hspecs.short s hs c hc]

/-! ## A scan -/

theorem scan_of_options {argument : String} {given : List (Occurrence κ)}
    (h : readArgument specs argument = .ok (.options given)) (interspersed : Bool)
    (rest : List String) :
    scan specs interspersed (argument :: rest)
      = (scan specs interspersed rest).map (Scanned.after given) := by
  rw [scan, h]

theorem scan_of_wanting {argument : String} {key : κ} (name : String)
    (h : readArgument specs argument = .ok (.wanting [] key name)) (interspersed : Bool)
    (value : String) (rest : List String) :
    scan specs interspersed (argument :: value :: rest)
      = (scan specs interspersed rest).map (Scanned.after [⟨key, some value⟩]) := by
  rw [scan, h]
  rfl

/-- One option, however it was written, is found in front of what follows. -/
theorem scan_arguments (hspecs : WellNamed specs) {w : Written κ} (hw : w.Fits specs)
    (interspersed : Bool) (rest : List String) :
    scan specs interspersed (w.arguments ++ rest)
      = (scan specs interspersed rest).map (Scanned.after [w.occurrence]) := by
  obtain ⟨hlisted, hvalue, hletter, hempty⟩ := hw
  have hdash : ∀ c, w.spec.short = some c → c ≠ '-' := by
    rintro c hc rfl
    exact hspecs.noDash _ hlisted hc
  cases w with
  | joined s v =>
    have hs : s ∈ specs := hlisted
    have hne : s.long ++ "=" ++ v ≠ "" := by
      intro h
      have hlength := congrArg String.length h
      simp [String.length_append] at hlength
    have htext : (s.long ++ "=" ++ v).toList = s.long.toList ++ '=' :: v.toList := by simp
    refine scan_of_options ?_ interspersed rest
    rw [readArgument_long hne, htext, readLong_joined hspecs hs hvalue]
    rfl
  | apart s v =>
    have hs : s ∈ specs := hlisted
    have hv : s.takesValue = true := hvalue
    refine scan_of_wanting ("--" ++ s.long) ?_ interspersed v rest
    rw [readArgument_long (hspecs.nonempty s hs), readLong_name hspecs hs, if_pos hv]
    rfl
  | shortJoined s c v =>
    have hs : s ∈ specs := hlisted
    have hc : s.short = some c := hletter c rfl
    have hv : s.takesValue = true := hvalue
    have hrest : ¬ v.toList.isEmpty = true := by
      intro h
      rw [List.isEmpty_iff, String.toList_eq_nil_iff] at h
      exact hempty s c (congrArg _ h)
    refine scan_of_options ?_ interspersed rest
    rw [readArgument_short (hdash c hc), readShort_letter hspecs hs hc, if_pos hv, if_neg hrest,
      String.ofList_toList]
    rfl
  | shortApart s c v =>
    have hs : s ∈ specs := hlisted
    have hc : s.short = some c := hletter c rfl
    have hv : s.takesValue = true := hvalue
    refine scan_of_wanting (String.ofList ['-', c]) ?_ interspersed v rest
    rw [readArgument_short (hdash c hc), readShort_letter hspecs hs hc, if_pos hv]
    rfl
  | flag s =>
    have hs : s ∈ specs := hlisted
    have hflag : ¬ s.takesValue = true := Bool.eq_false_iff.1 hvalue
    refine scan_of_options ?_ interspersed rest
    rw [readArgument_long (hspecs.nonempty s hs), readLong_name hspecs hs, if_neg hflag]
    rfl
  | shortFlag s c =>
    have hs : s ∈ specs := hlisted
    have hc : s.short = some c := hletter c rfl
    have hflag : ¬ s.takesValue = true := Bool.eq_false_iff.1 hvalue
    refine scan_of_options ?_ interspersed rest
    rw [readArgument_short (hdash c hc), readShort_letter hspecs hs hc, if_neg hflag]
    rfl

/-- Options, however each was written, are found in order in front of what
follows. -/
theorem scan_written (hspecs : WellNamed specs) {ws : List (Written κ)}
    (hws : ∀ w ∈ ws, w.Fits specs) (interspersed : Bool) (rest : List String) :
    scan specs interspersed (ws.flatMap Written.arguments ++ rest)
      = (scan specs interspersed rest).map (Scanned.after (ws.map Written.occurrence)) := by
  induction ws with
  | nil =>
    rw [List.flatMap_nil, List.nil_append]
    cases scan specs interspersed rest <;> rfl
  | cons w ws ih =>
    rw [List.flatMap_cons, List.append_assoc,
      scan_arguments hspecs (hws w List.mem_cons_self),
      ih fun x hx => hws x (List.mem_cons_of_mem w hx)]
    cases scan specs interspersed rest <;> rfl

end OptionSpec

/-! ## What a scan says about an option -/

namespace Scanned

variable {κ : Type} [DecidableEq κ] {s : Scanned κ} {key : κ}

end Scanned

end BundleConfig
