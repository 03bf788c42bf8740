import DocSections.Catalog.Family

/-! Families as JSON. Fields are written in the order in which they are declared; an unset option
and an empty list of fields or examples are left out. -/

namespace DocSections

/-- The object of the members that are set, in the given order. -/
def Json.inOrder (members : List (String × Option Json)) : Json :=
  .obj (members.filterMap fun m => m.2.map (m.1, ·))

def Json.nonEmptyList {α : Type} (toJson : α → Json) (items : List α) : Option Json :=
  if items.isEmpty then none else some (.arr (items.map toJson))

namespace ApplicabilityMap

def toJson (m : ApplicabilityMap) : Json :=
  .inOrder [("plan", m.plan.map Vocabulary.toJson), ("task", m.task.map Vocabulary.toJson)]

def ofSource? (s : Source) : Option ApplicabilityMap := do
  match ← s.fields? ["plan", "task"] with
  | [plan, task] =>
    some ⟨← Source.optional? Vocabulary.ofSource? plan,
      ← Source.optional? Vocabulary.ofSource? task⟩
  | _ => none

end ApplicabilityMap

namespace SectionField

def toJson (f : SectionField) : Json :=
  .inOrder [("name", some (.str f.name)), ("description", f.description.map .str),
    ("required", some (.bool f.required))]

def ofSource? (s : Source) : Option SectionField := do
  match ← s.fields? ["name", "description", "required"] with
  | [some name, description, required] =>
    some ⟨← name.str?, ← Source.optional? Source.str? description,
      ← Source.withDefault? false Source.bool? required⟩
  | _ => none

end SectionField

namespace SectionExample

def toJson (e : SectionExample) : Json :=
  .inOrder [("documentType", e.documentType.map Vocabulary.toJson),
    ("description", e.description.map .str), ("content", some e.content.json)]

def ofSource? (s : Source) : Option SectionExample := do
  match ← s.fields? ["documentType", "description", "content"] with
  | [documentType, description, some content] =>
    some ⟨← Source.optional? Vocabulary.ofSource? documentType,
      ← Source.optional? Source.str? description, ← Content.ofSource? content⟩
  | _ => none

end SectionExample

namespace Section

def fieldNames : List String :=
  ["id", "name", "level", "applicability", "format", "description", "notes", "fields", "examples"]

def toJson (s : Section) : Json :=
  .inOrder [("id", some (.str s.id)), ("name", some (.str s.name)),
    ("level", some (.nat s.level.toNat)), ("applicability", some s.applicability.toJson),
    ("format", some (Vocabulary.toJson s.format)), ("description", some (.str s.description)),
    ("notes", s.notes.map .str), ("fields", Json.nonEmptyList SectionField.toJson s.fields),
    ("examples", Json.nonEmptyList SectionExample.toJson s.examples)]

def ofSource? (s : Source) : Option Section := do
  match ← s.fields? fieldNames with
  | [some id, some name, some level, some applicability, some format, description, notes, fields,
      examples] =>
    some ⟨← id.str?, ← name.str?, .ofNat (← level.natBelow? UInt8.size),
      ← ApplicabilityMap.ofSource? applicability, ← Vocabulary.ofSource? format,
      ← Source.withDefault? "" Source.str? description, ← Source.optional? Source.str? notes,
      ← Source.withDefault? [] (Source.list? SectionField.ofSource?) fields,
      ← Source.withDefault? [] (Source.list? SectionExample.ofSource?) examples⟩
  | _ => none

end Section

namespace Family

def fieldNames : List String :=
  ["id", "name", "anchor", "rationale", "notes", "applicability", "sections"]

def toJson (f : Family) : Json :=
  .inOrder [("id", some (.nat f.id.toNat)), ("name", some (.str f.name)),
    ("anchor", some (.str f.anchor)), ("rationale", f.rationale.map .str),
    ("notes", f.notes.map .str), ("applicability", some f.applicability.toJson),
    ("sections", some (.arr (f.sections.map Section.toJson)))]

def ofSource? (s : Source) : Option Family := do
  match ← s.fields? fieldNames with
  | [some id, some name, some anchor, rationale, notes, applicability, some sections] =>
    some ⟨.ofNat (← id.natBelow? UInt32.size), ← name.str?, ← anchor.str?,
      ← Source.optional? Source.str? rationale, ← Source.optional? Source.str? notes,
      ← Source.withDefault? .unset ApplicabilityMap.ofSource? applicability,
      ← sections.list? Section.ofSource?⟩
  | _ => none

def ofJson? (j : Json) : Option Family := ofSource? (.ofJson j)

end Family

end DocSections
