/-
# `Configuration.OwnNames` — the names that things have of their own

Beside the fields of a record, names lead to what can be asked for from a
thing and to its parts.  An entry of the tables lists names that lead to the
same kind of thing, and says what stands against assigning to them:

    readOnly      the name belongs to the kind, and is the same for all of it
    notWritable   it is a part, laid down where the part's owner is
    noSetter      it is worked out, and cannot be laid down

Special names have two underscores on either side.  They stand for
operations on a thing, and most are common to all; where a kind has one
that leads elsewhere, its own entry comes first.
-/
import BundleConfig.Configuration.Attribute

namespace BundleConfig.Attribute

/-- Why an own name cannot be assigned to. -/
inductive Lock
  | readOnly
  | notWritable (owner : Attribute)
  | noSetter

/-- Own names, with what they lead to. -/
structure OwnNames where
  names : List String
  target : Attribute
  lock : Lock

/-- What comes of assigning to an own name. -/
def Lock.failure (a : Attribute) (name : String) : Lock → Failure
  | .readOnly => .readOnly a.kind name
  | .notWritable owner => .notWritable owner.kind name
  | .noSetter => .noSetter a.kind name

/-! ## What can be asked for -/

def textNames : List String := [
  "capitalize", "casefold", "center", "count", "encode", "endswith", "expandtabs", "find",
  "format", "format_map", "index", "isalnum", "isalpha", "isascii", "isdecimal", "isdigit",
  "isidentifier", "islower", "isnumeric", "isprintable", "isspace", "istitle", "isupper",
  "join", "ljust", "lower", "lstrip", "maketrans", "partition", "removeprefix",
  "removesuffix", "replace", "rfind", "rindex", "rjust", "rpartition", "rsplit", "rstrip",
  "split", "splitlines", "startswith", "strip", "swapcase", "title", "translate", "upper",
  "zfill"]

def pathNames : List String := [
  "absolute", "as_posix", "as_uri", "chmod", "cwd", "exists", "expanduser", "glob", "group",
  "hardlink_to", "home", "is_absolute", "is_block_device", "is_char_device", "is_dir",
  "is_fifo", "is_file", "is_mount", "is_relative_to", "is_reserved", "is_socket",
  "is_symlink", "iterdir", "joinpath", "lchmod", "link_to", "lstat", "match", "mkdir",
  "open", "owner", "read_bytes", "read_text", "readlink", "relative_to", "rename",
  "replace", "resolve", "rglob", "rmdir", "samefile", "stat", "symlink_to", "touch",
  "unlink", "with_name", "with_stem", "with_suffix", "write_bytes", "write_text"]

def recordNames : List String := [
  "construct", "copy", "dict", "from_orm", "json", "model_construct", "model_copy",
  "model_dump", "model_dump_json", "model_json_schema", "model_parametrized_name",
  "model_post_init", "model_rebuild", "model_validate", "model_validate_json",
  "model_validate_strings", "parse_file", "parse_obj", "parse_raw", "schema",
  "schema_json", "update_forward_refs", "validate"]

/-- What a member of a vocabulary has of its own, beside what texts can be
asked for. -/
def memberNames : List String := ["name", "value"]

/-- The names that are written without underscores on either side. -/
def plainNames : Attribute → List OwnNames
  | .record kind => [
      ⟨if kind = .resolvedConfiguration then ["to_webpack"] else [], .method, .readOnly⟩,
      ⟨recordNames, .method, .readOnly⟩,
      ⟨["model_computed_fields", "model_config", "model_fields"], .object, .readOnly⟩,
      ⟨["model_fields_set"], .set, .noSetter⟩,
      ⟨["model_extra"], .absent, .noSetter⟩]
  | .member _ => [⟨memberNames, .text, .noSetter⟩, ⟨textNames, .function, .readOnly⟩]
  | .text => [⟨textNames, .function, .readOnly⟩]
  | .path => [
      ⟨pathNames, .method, .readOnly⟩,
      ⟨["anchor", "drive", "name", "root", "stem", "suffix"], .text, .noSetter⟩,
      ⟨["parent"], .path, .noSetter⟩,
      ⟨["parents"], .ancestors, .noSetter⟩,
      ⟨["parts"], .sequence, .noSetter⟩,
      ⟨["suffixes"], .list, .noSetter⟩]
  | .ancestors => [⟨["count", "index"], .method, .readOnly⟩]
  | .integer | .truth => [
      ⟨["as_integer_ratio", "bit_count", "bit_length", "conjugate", "from_bytes",
        "to_bytes"], .function, .readOnly⟩,
      ⟨["denominator", "imag", "numerator", "real"], .integer, .notWritable .integer⟩]
  | .floating => [
      ⟨["as_integer_ratio", "conjugate", "fromhex", "hex", "is_integer"], .function, .readOnly⟩,
      ⟨["imag", "real"], .floating, .notWritable .floating⟩]
  | .sequence => [⟨["count", "index"], .function, .readOnly⟩]
  | .list => [
      ⟨["append", "clear", "copy", "count", "extend", "index", "insert", "pop", "remove",
        "reverse", "sort"], .function, .readOnly⟩]
  | .object => [
      ⟨["clear", "copy", "fromkeys", "get", "items", "keys", "pop", "popitem", "setdefault",
        "update", "values"], .function, .readOnly⟩]
  | .set => [
      ⟨["add", "clear", "copy", "difference", "difference_update", "discard", "intersection",
        "intersection_update", "isdisjoint", "issubset", "issuperset", "pop", "remove",
        "symmetric_difference", "symmetric_difference_update", "union", "update"],
        .function, .readOnly⟩]
  | .absent | .method | .function | .operation => []

/-! ## Special names -/

def special (word : String) : String := "__" ++ word ++ "__"

/-- Words as special names that belong to a kind. -/
def specials (words : List String) (target : Attribute) : OwnNames :=
  ⟨words.map special, target, .readOnly⟩

def commonNames : List OwnNames := [
  specials ["delattr", "eq", "ge", "getattribute", "gt", "hash", "init", "le", "lt", "ne",
    "repr", "setattr", "str"] .operation,
  specials ["dir", "format", "getstate", "init_subclass", "new", "reduce", "reduce_ex",
    "sizeof", "subclasshook"] .function,
  specials ["doc"] .text]

/-- The special names of what can be called, its parts among them. -/
def callableNames (a : Attribute) (parts : List String) : List OwnNames := [
  specials ["call"] .operation,
  ⟨parts.map special, .text, .notWritable a⟩]

/-- The parts of what is built in. -/
def builtInParts : List String := ["doc", "name", "qualname", "text_signature"]

def specialTextNames : List OwnNames := [
  specials ["add", "contains", "getitem", "iter", "len", "mod", "mul", "rmod", "rmul"]
    .operation,
  specials ["getnewargs"] .function]

/-- The special names of a kind, beside the common ones. -/
def specialNames : Attribute → List OwnNames
  | .record _ => [
      specials ["copy", "deepcopy", "delattr", "eq", "getattr", "getstate", "hash", "init",
        "iter", "repr", "setattr", "setstate", "str"] .method,
      specials ["module"] .text,
      specials ["annotations", "dict"] .object,
      specials ["slots"] .sequence]
  | .member _ =>
      specials ["copy", "deepcopy", "dir", "init", "new", "reduce_ex", "repr"] .method
        :: specials ["module"] .text :: specials ["dict"] .object :: specialTextNames
  | .text => specialTextNames
  | .path => [
      specials ["bytes", "enter", "eq", "exit", "fspath", "ge", "gt", "hash", "le", "lt",
        "reduce", "repr", "rtruediv", "str", "truediv"] .method,
      specials ["module"] .text,
      specials ["slots"] .sequence]
  | .ancestors => [
      specials ["class_getitem", "contains", "getitem", "init", "iter", "len", "repr",
        "reversed", "subclasshook"] .method,
      specials ["module"] .text,
      specials ["slots"] .sequence]
  | .integer | .truth => [
      specials ["abs", "add", "and", "bool", "divmod", "float", "floordiv", "index", "int",
        "invert", "lshift", "mod", "mul", "neg", "or", "pos", "pow", "radd", "rand",
        "rdivmod", "rfloordiv", "rlshift", "rmod", "rmul", "ror", "rpow", "rrshift",
        "rshift", "rsub", "rtruediv", "rxor", "sub", "truediv", "xor"] .operation,
      specials ["ceil", "floor", "getnewargs", "round", "trunc"] .function]
  | .floating => [
      specials ["abs", "add", "bool", "divmod", "float", "floordiv", "int", "mod", "mul",
        "neg", "pos", "pow", "radd", "rdivmod", "rfloordiv", "rmod", "rmul", "rpow", "rsub",
        "rtruediv", "sub", "truediv"] .operation,
      specials ["ceil", "floor", "getformat", "getnewargs", "round", "trunc"] .function]
  | .absent => [specials ["bool"] .operation, specials ["doc"] .absent]
  | .sequence => [
      specials ["add", "contains", "getitem", "iter", "len", "mul", "rmul"] .operation,
      specials ["class_getitem", "getnewargs"] .function]
  | .list => [
      specials ["add", "contains", "delitem", "iadd", "imul", "iter", "len", "mul", "rmul",
        "setitem"] .operation,
      specials ["class_getitem", "getitem", "reversed"] .function,
      specials ["hash"] .absent]
  | .object => [
      specials ["delitem", "ior", "iter", "len", "or", "ror", "setitem"] .operation,
      specials ["class_getitem", "contains", "getitem", "reversed"] .function,
      specials ["hash"] .absent]
  | .set => [
      specials ["and", "iand", "ior", "isub", "iter", "ixor", "len", "or", "rand", "ror",
        "rsub", "rxor", "sub", "xor"] .operation,
      specials ["class_getitem", "contains"] .function,
      specials ["hash"] .absent]
  | .method => callableNames .method ["doc"]
  | .function => callableNames .function builtInParts
  | .operation => callableNames .operation builtInParts

/-! ## Looking own names up -/

/-- The entry of an own name. -/
def own? (name : String) (a : Attribute) : Option OwnNames :=
  (a.plainNames ++ a.specialNames ++ commonNames).find? fun o => decide (name ∈ o.names)

/-- The member that a name leads to from a member of the same vocabulary. -/
def sibling? (name : String) : Attribute → Option Attribute
  | .member m => (Member.ofLabel? ((Value.member m).kind ++ "." ++ name)).map .member
  | _ => none

/-- What an own name leads to. -/
def attribute? (name : String) (a : Attribute) : Option Attribute :=
  ((a.own? name).map OwnNames.target).or (a.sibling? name)

end BundleConfig.Attribute
