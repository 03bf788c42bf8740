import DocSections.Compose.Basic
import DocSections.Shape.Check
import DocSections.Shape.JsonSchema

/-! Family schemas: a strict record over the sections of a family, and the index of their shapes.
Composition fails before any content is seen if the catalog and the factories do not fit. -/

namespace DocSections

/-- The composed schema of a family for a document type. -/
structure FamilySchema where
  family : UInt32
  documentType : DocumentType
  fields : List Field
  byId : ShapeIndex

namespace FamilySchema

def shape (s : FamilySchema) : Shape := .record s.fields

def keys (s : FamilySchema) : List String := s.shape.keys

def section? (s : FamilySchema) (id : String) : Option Shape := s.byId.get? id

def validate (s : FamilySchema) (content : Json) : Except (List Issue) Json :=
  s.shape.validate content

/-- Validates the content of one section; `none` if the id is not in the index. -/
def validateSection? (s : FamilySchema) (id : String) (content : Json) :
    Option (Except (List Issue) Json) :=
  (s.section? id).map (·.validate content)

def toJsonSchema (s : FamilySchema) : Json :=
  match s.shape.toJsonSchema with
  | .obj members =>
    .obj (Assoc.insert "title"
      (.str ("family " ++ toString s.family.toNat ++ " (" ++ s.documentType.name ++ ")"))
      (Assoc.insert "$schema" (.str "http://json-schema.org/draft-07/schema#") members))
  | schema => schema

end FamilySchema

namespace Registry

def composeWithin (r : Registry) (levels : Nat) (f : Family) (d : DocumentType) :
    Composition FamilySchema := do
  let (fields, index) ←
    Composer.composeAll ⟨r, f.id, d⟩ (f.outlineFrom levels f.rootId) [] OrderedMap.empty
  .ok ⟨f.id, d, fields, index⟩

def composeFamily (r : Registry) (f : Family) (d : DocumentType) :
    Composition FamilySchema :=
  r.composeWithin f.maxDepth f d

/-- The schemas of all families that belong to the document type, in ascending id order. -/
def composeCatalog (r : Registry) (c : Catalog) (d : DocumentType) :
    Composition (List FamilySchema) :=
  (c.familiesFor d).mapM fun f => r.composeFamily f d

end Registry

end DocSections
