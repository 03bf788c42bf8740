import DocSections.Vocabulary

/-! Issues: what is wrong with some content, where, and in words. -/

namespace DocSections

/-- A step into content: to the member of an object or the item of an array. -/
inductive PathSegment where
  | key (name : String)
  | index (i : Nat)
deriving DecidableEq, Repr

abbrev Path := List PathSegment

namespace PathSegment

def display : PathSegment → String
  | key name => name
  | index i => "[" ++ toString i ++ "]"

def toJson : PathSegment → Json
  | key name => .str name
  | index i => .nat i

def ofSource? : Source → Option PathSegment
  | .str name => some (key name)
  | s => (s.natBelow? UInt64.size).map index

end PathSegment

/-- A point stands before a key unless nothing was written before it. -/
def Path.displayAfter (written : String) : Path → String
  | [] => written
  | .key name :: rest =>
    displayAfter (if written = "" then name else written ++ "." ++ name) rest
  | .index i :: rest => displayAfter (written ++ (PathSegment.index i).display) rest

def Path.display (path : Path) : String := path.displayAfter ""

inductive IssueCode where
  | invalidType
  | tooSmall
  | invalidEnumValue
  | unrecognizedKeys
  | required
  | invalidDiagram
  | missingContent
deriving DecidableEq, Repr

instance : Vocabulary IssueCode where
  values := [.invalidType, .tooSmall, .invalidEnumValue, .unrecognizedKeys, .required,
    .invalidDiagram, .missingContent]
  word
    | .invalidType => "invalid_type"
    | .tooSmall => "too_small"
    | .invalidEnumValue => "invalid_enum_value"
    | .unrecognizedKeys => "unrecognized_keys"
    | .required => "required"
    | .invalidDiagram => "invalid_diagram"
    | .missingContent => "missing_content"
  find?_word a := by cases a <;> decide

structure Issue where
  code : IssueCode
  path : Path
  message : String
deriving DecidableEq, Repr

namespace Issue

def pathString (i : Issue) : String := i.path.display

def display (i : Issue) : String :=
  if i.path = [] then i.message else i.pathString ++ ": " ++ i.message

/-- Whether the path is exactly the given sequence of keys. -/
def isAt (i : Issue) (keys : List String) : Bool := i.path == keys.map .key

/-- The issue as seen from a place from which `path` leads to where it was found. -/
def under (path : Path) (i : Issue) : Issue := { i with path := path ++ i.path }

def toJson (i : Issue) : Json :=
  .obj [("code", Vocabulary.toJson i.code), ("path", .arr (i.path.map PathSegment.toJson)),
    ("message", .str i.message)]

def ofSource? (s : Source) : Option Issue := do
  match ← s.fields? ["code", "path", "message"] with
  | [some code, some path, some message] =>
    some ⟨← Vocabulary.ofSource? code, ← path.list? PathSegment.ofSource?, ← message.str?⟩
  | _ => none

@[simp] theorem under_nil (i : Issue) : i.under [] = i := rfl

theorem under_under (p q : Path) (i : Issue) : (i.under q).under p = i.under (p ++ q) := by
  simp [under]

end Issue

end DocSections
