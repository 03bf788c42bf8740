import DocSections.Diagram
import DocSections.Json.Basic

/-! Shapes of section content, and the closed scales that content uses. -/

namespace DocSections

/-- A contract on a JSON value. A record admits its declared keys only, and a field may be absent
exactly when its shape is `optional`. -/
inductive Shape where
  | text
  | oneOf (words : List String)
  | list (item : Shape)
  | record (fields : List (String × Shape))
  | anyObject
  | diagramOrText (kinds : List DiagramKind)
  | optional (inner : Shape)

abbrev Field := String × Shape

namespace Shape

instance : Inhabited Shape := ⟨anyObject⟩

def isOptional : Shape → Bool
  | optional _ => true
  | _ => false

/-- The shape that may be absent; one that may be absent already stays as it is. -/
def orAbsent (s : Shape) : Shape := if s.isOptional then s else optional s

def keys : Shape → List String
  | record fields => fields.map Prod.fst
  | optional inner => inner.keys
  | _ => []

def textList : Shape := list text

def table (columns : List Field) : Shape := list (record columns)

def wordOf (α : Type) [Vocabulary α] : Shape := oneOf (Vocabulary.words α)

def diagram (kind : DiagramKind) : Shape := diagramOrText [kind]

@[simp] theorem isOptional_orAbsent (s : Shape) : s.orAbsent.isOptional = true := by
  unfold orAbsent; split <;> simp_all [isOptional]

end Shape

namespace Field

/-- A field of a shape that has to be there, unless the shape may be absent anyway. -/
def required (key : String) (shape : Shape) : Field := (key, shape)

def optional (key : String) (shape : Shape) : Field := (key, shape.orAbsent)

def isOptional (f : Field) : Bool := f.2.isOptional

end Field

inductive Priority where
  | high
  | medium
  | low
deriving DecidableEq, Repr

instance : Vocabulary Priority where
  values := [.high, .medium, .low]
  word
    | .high => "High"
    | .medium => "Medium"
    | .low => "Low"
  find?_word a := by cases a <;> decide

inductive DependencyType where
  | internal
  | external
deriving DecidableEq, Repr

instance : Vocabulary DependencyType where
  values := [.internal, .external]
  word
    | .internal => "Internal"
    | .external => "External"
  find?_word a := by cases a <;> decide

inductive DependencyStatus where
  | pending
  | inProgress
  | blocked
  | complete
deriving DecidableEq, Repr

instance : Vocabulary DependencyStatus where
  values := [.pending, .inProgress, .blocked, .complete]
  word
    | .pending => "Pending"
    | .inProgress => "In Progress"
    | .blocked => "Blocked"
    | .complete => "Complete"
  find?_word a := by cases a <;> decide

end DocSections
