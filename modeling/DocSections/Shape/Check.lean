import DocSections.Issue
import DocSections.Shape.Basic

/-! Checking content against a shape. A check goes on after a failure, so that one pass finds every
issue; the result is the content with each flow graph taken apart. -/

namespace DocSections

/-- What a check leaves: the checked data if nothing was wrong here, and all issues so far. -/
structure Checked (α : Type) where
  data : Option α
  issues : List Issue

/-- Checks a value that stands at a path, after some issues were found elsewhere. -/
abbrev Check := Path → Json → List Issue → Checked Json

namespace Check

def fail {α : Type} (found : List Issue) (code : IssueCode) (path : Path) (message : String) :
    Checked α :=
  ⟨none, found ++ [⟨code, path, message⟩]⟩

def typeMessage (expected : String) (value : Json) : String :=
  "Expected " ++ expected ++ ", received " ++ value.typeName

def emptyStringMessage : String := "String must contain at least 1 character(s)"

def emptyArrayMessage : String := "Array must contain at least 1 element(s)"

def quotedWord (word : String) : String := "'" ++ word ++ "'"

def choiceMessage (words : List String) (received : String) : String :=
  "Invalid enum value. Expected " ++ " | ".intercalate (words.map quotedWord) ++
    ", received " ++ quotedWord received

def unknownMessage (keys : List String) : String :=
  "Unrecognized key(s) in object: " ++ ", ".intercalate (keys.map quotedWord)

def missingContentMessage : String := "Either a diagram or text must be provided"

def text : Check
  | path, .str s, found =>
    if s = "" then fail found .tooSmall path emptyStringMessage else ⟨some (.str s), found⟩
  | path, value, found => fail found .invalidType path (typeMessage "string" value)

def oneOf (words : List String) : Check
  | path, .str s, found =>
    if words.contains s then ⟨some (.str s), found⟩
    else fail found .invalidEnumValue path (choiceMessage words s)
  | path, value, found => fail found .invalidType path (typeMessage "string" value)

def anyObject : Check
  | _, .obj members, found => ⟨some (.obj members), found⟩
  | path, value, found => fail found .invalidType path (typeMessage "object" value)

def items (item : Check) (path : Path) : Nat → List Json → List Issue → Checked (List Json)
  | _, [], found => ⟨some [], found⟩
  | i, value :: rest, found =>
    let first := item (path ++ [.index i]) value found
    let others := items item path (i + 1) rest first.issues
    ⟨first.data.bind fun d => others.data.map (d :: ·), others.issues⟩

def list (item : Check) : Check
  | path, .arr [], found => fail found .tooSmall path emptyArrayMessage
  | path, .arr values, found =>
    let checked := items item path 0 values found
    ⟨checked.data.map .arr, checked.issues⟩
  | path, value, found => fail found .invalidType path (typeMessage "array" value)

/-- Checks the member at a key, and gives it as the only member of a list; the list is empty when
the member is absent and may be. -/
def member (key : String) (mayLack : Bool) (check : Check) (path : Path)
    (members : List (String × Json)) (found : List Issue) : Checked (List (String × Json)) :=
  match Assoc.find? key members with
  | none =>
    if mayLack then ⟨some [], found⟩
    else fail found .required (path ++ [.key key]) "Required"
  | some value =>
    let checked := check (path ++ [.key key]) value found
    ⟨checked.data.map fun d => [(key, d)], checked.issues⟩

def both (first second : Checked (List (String × Json))) : Checked (List (String × Json)) :=
  ⟨first.data.bind fun a => second.data.map (a ++ ·), second.issues⟩

def unknownKeys (declared : List String) (members : List (String × Json)) : List String :=
  (members.map Prod.fst).filter fun key => !declared.contains key

/-- Ends the check of an object: keys that were not declared are reported together. -/
def close (declared : List String) (path : Path) (members : List (String × Json))
    (checked : Checked (List (String × Json))) : Checked Json :=
  match unknownKeys declared members with
  | [] => ⟨checked.data.map .ofMembers, checked.issues⟩
  | unknown => fail checked.issues .unrecognizedKeys path (unknownMessage unknown)

def diagram (kinds : List DiagramKind) (path : Path) (value : Json) (found : List Issue) :
    Checked Json :=
  match value with
  | .str s =>
    if s = "" then fail found .tooSmall path emptyStringMessage
    else
      match Diagram.parse kinds s with
      | .ok d => ⟨some d.toJson, found⟩
      | .error fault => fail found .invalidDiagram path (fault.message kinds)
  | _ => fail found .invalidType path (typeMessage "string" value)

def diagramKey : String := "diagram"

def textKey : String := "text"

def diagramOrText (kinds : List DiagramKind) : Check
  | path, .obj members, found =>
    let first := member diagramKey true (diagram kinds) path members found
    let second := member textKey true (list text) path members first.issues
    let given := both first second
    let complete :=
      if (Assoc.find? diagramKey members).isNone && (Assoc.find? textKey members).isNone then
        fail given.issues .missingContent path missingContentMessage
      else given
    close [diagramKey, textKey] path members complete
  | path, value, found => fail found .invalidType path (typeMessage "object" value)

end Check

namespace Shape

mutual

def check : Shape → Check
  | text, path, value, found => Check.text path value found
  | oneOf words, path, value, found => Check.oneOf words path value found
  | list item, path, value, found =>
    Check.list (fun p v f => item.check p v f) path value found
  | record fields, path, .obj members, found =>
    Check.close (fields.map Prod.fst) path members (checkFields fields path members found)
  | record _, path, value, found =>
    Check.fail found .invalidType path (Check.typeMessage "object" value)
  | anyObject, path, value, found => Check.anyObject path value found
  | diagramOrText kinds, path, value, found => Check.diagramOrText kinds path value found
  | optional inner, path, value, found => inner.check path value found

def checkFields : List (String × Shape) → Path → List (String × Json) → List Issue →
    Checked (List (String × Json))
  | [], _, _, found => ⟨some [], found⟩
  | (key, shape) :: rest, path, members, found =>
    let first := Check.member key shape.isOptional (fun p v f => shape.check p v f) path members
      found
    Check.both first (checkFields rest path members first.issues)

end

def validate (shape : Shape) (value : Json) : Except (List Issue) Json :=
  match shape.check [] value [] with
  | ⟨some data, []⟩ => .ok data
  | checked => .error checked.issues

def isValid (shape : Shape) (value : Json) : Bool := (shape.validate value).isOk

example : (table [("name", text)]).check [] (.arr [.obj [("name", .str "a")], .obj []]) [] =
    ⟨none, [⟨.required, [.index 1, .key "name"], "Required"⟩]⟩ := by rfl

end Shape

end DocSections
