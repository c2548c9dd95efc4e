/-
# `Profile` — what is built for one environment

A profile names where the bundle goes, under which public path it is
served, which feature flags the compiler gets, where the bundle starts,
and which page the development server falls back to.  The output directory
is absolute and the entry is not empty; an empty fallback is no fallback.
Both are in the types, so a profile that exists is a valid one.
-/
import BundleConfig.Path.Absolute
import BundleConfig.Reading

namespace BundleConfig

/-- The build settings of one environment. -/
structure Profile where
  outputDir : AbsolutePath
  publicPath : String := ""
  features : List String := []
  entry : NonEmptyText
  historyFallback : Option NonEmptyText := none
deriving DecidableEq

namespace Profile

def readOutputDir (v : Value) : Checked AbsolutePath :=
  match v.readPath with
  | .error fs => .error fs
  | .ok p => if h : p.isAbsolute = true then .ok ⟨p, h⟩ else .refuse (.notAbsolute p)

/-- A fallback field, where the empty text means no fallback. -/
def readFallback (v : Value) : Checked (Option NonEmptyText) :=
  match v.readOptionalText with
  | .error fs => .error fs
  | .ok s => .ok (s.bind NonEmptyText.ofText?)

def read (fs : Fields) : Checked Profile :=
  Checked.give Profile.mk
  |>.also (fs.required "output_dir" readOutputDir)
  |>.also (fs.optional "public_path" Value.readText "")
  |>.also (fs.optional "features" (Value.readList Value.readText) [])
  |>.also (fs.required "entry" Value.readNonEmpty)
  |>.also (fs.optional "history_fallback" readFallback none)

def fields (p : Profile) : Fields := [
  ("output_dir", .text p.outputDir.text),
  ("public_path", .text p.publicPath),
  ("features", .list (p.features.map .text)),
  ("entry", .text p.entry.text),
  ("history_fallback", match p.historyFallback with
    | some page => .text page.text
    | none => .null)]

end Profile

end BundleConfig
