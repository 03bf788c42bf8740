import DocSections.Text.Blank
import DocSections.Vocabulary

/-! Diagram texts. The first line that is not blank begins with a keyword, which names the kind of
the diagram. A flow graph is taken apart into its direction and the lines below the header; a
diagram of another kind stays as it is. -/

namespace DocSections

inductive DiagramKind where
  | graph
  | erDiagram
  | classDiagram
  | sequenceDiagram
deriving DecidableEq, Repr

instance : Vocabulary DiagramKind where
  values := [.graph, .erDiagram, .classDiagram, .sequenceDiagram]
  word
    | .graph => "graph"
    | .erDiagram => "erDiagram"
    | .classDiagram => "classDiagram"
    | .sequenceDiagram => "sequenceDiagram"
  find?_word a := by cases a <;> decide

def DiagramKind.keyword (k : DiagramKind) : String := Vocabulary.word k

inductive Direction where
  | topDown
  | topBottom
  | bottomTop
  | rightLeft
  | leftRight
deriving DecidableEq, Repr

instance : Vocabulary Direction where
  values := [.topDown, .topBottom, .bottomTop, .rightLeft, .leftRight]
  word
    | .topDown => "TD"
    | .topBottom => "TB"
    | .bottomTop => "BT"
    | .rightLeft => "RL"
    | .leftRight => "LR"
  find?_word a := by cases a <;> decide

structure DiagramRecord where
  kind : DiagramKind
  direction : Option Direction
  content : String
deriving DecidableEq, Repr

/-- Diagram content: the text as given, or a diagram taken apart. -/
inductive Diagram where
  | record (r : DiagramRecord)
  | text (s : String)
deriving DecidableEq, Repr

namespace DiagramRecord

def toJson (r : DiagramRecord) : Json :=
  .ofSetMembers [("type", some (.str "mermaid")), ("diagramType", some (Vocabulary.toJson r.kind)),
    ("direction", r.direction.map Vocabulary.toJson), ("content", some (.str r.content))]

def ofSource? (s : Source) : Option DiagramRecord := do
  match ← s.fields? ["type", "diagramType", "direction", "content"] with
  | [some format, some kind, direction, some content] =>
    if format.word? = some "mermaid" then
      some ⟨← Vocabulary.ofSource? kind, ← Source.optional? Vocabulary.ofSource? direction,
        ← content.str?⟩
    else none
  | _ => none

end DiagramRecord

namespace Diagram

inductive Fault where
  | empty
  | keyword (found : String)
deriving DecidableEq, Repr

def Fault.message (allowed : List DiagramKind) (f : Fault) : String :=
  "Diagram must be a valid Mermaid " ++ " or ".intercalate (allowed.map DiagramKind.keyword) ++
    match f with
    | .empty => " (diagram is empty)"
    | .keyword found => " (found '" ++ found ++ "')"

def headerOn (cs : List Char) : List (List Char) :=
  (Text.lines cs).dropWhile (·.all Text.isBlank)

/-- Reads a text that must be a diagram of an allowed kind. -/
def parse (allowed : List DiagramKind) (text : String) : Except Fault Diagram :=
  match headerOn text.toList with
  | [] => .error .empty
  | header :: body =>
    let tokens := (Text.words header).map String.ofList
    let keyword := tokens.headD ""
    match (Vocabulary.ofWord? keyword).filter (allowed.contains ·) with
    | none => .error (.keyword keyword)
    | some .graph =>
      .ok (.record ⟨.graph, tokens[1]?.bind Vocabulary.ofWord?,
        String.ofList (Text.trimEnd (Text.unlines body))⟩)
    | some _ => .ok (.text text)

def toJson : Diagram → Json
  | record r => r.toJson
  | text s => .str s

def ofSource? (s : Source) : Option Diagram :=
  match DiagramRecord.ofSource? s with
  | some r => some (record r)
  | none => s.str?.map text

example : (parse [.graph] "\n \ngraph LR\nA --> B\r\nB --> C\n\n").toOption =
    some (.record ⟨.graph, some .leftRight, "A --> B\nB --> C"⟩) := by decide +kernel
example : (parse [.erDiagram] "graph TD\nA").toOption = none := by decide +kernel

end Diagram

end DocSections
