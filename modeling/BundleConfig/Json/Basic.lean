/-
# `Json` — documents

The documents that requests and results are exchanged in: `null`, truth
values, integers, texts, lists, and objects whose members keep their
order.  `Json/Printer.lean` writes them, `Json/Reader.lean` reads them.
-/

namespace BundleConfig

/-- A document.  Numbers are whole; members keep their order. -/
inductive Json
  | null
  | bool (b : Bool)
  | int (n : Int)
  | text (s : String)
  | list (items : List Json)
  | object (members : List (String × Json))
deriving Inhabited

namespace Json

/-- The members of an object, none for any other document. -/
def members : Json → List (String × Json)
  | .object ms => ms
  | _ => []

def get? (j : Json) (key : String) : Option Json := j.members.lookup key

end Json

end BundleConfig
