import DocSections.Catalog.Outline
import DocSections.Compose.Fault
import DocSections.Factory.Basic
import DocSections.Naming

/-! Composing sections: the record fields of the sections that apply to a document type, and an
index that reaches the shape of each of them, at any depth. -/

namespace DocSections

abbrev ShapeIndex := OrderedMap String Shape

/-- What composition works with: the factories, the family they are looked up for, and the document
type. -/
structure Composer where
  registry : Registry
  family : UInt32
  documentType : DocumentType

namespace Composer

def factory? (c : Composer) (id : String) : Option Factory := c.registry.factory? c.family id

/-- Makes the shape of the section `id` and indexes it. `children` composes the fields of the
sections right under it. -/
def make (c : Composer) (factory : Factory) (id : String)
    (children : ShapeIndex → Composition (List Field × ShapeIndex)) (index : ShapeIndex) :
    Composition (Shape × ShapeIndex) :=
  match factory with
  | .composite => do
    let (fields, index) ← children index
    .ok (.record fields, index.insert id (.record fields))
  | .container => do
    let (_, index) ← children index
    .ok (.anyObject, index.insert id .anyObject)
  | .leaf shape => .ok (shape c.documentType, index.insert id (shape c.documentType))
  | .shared shape ids => .ok (shape, ids.foldl (fun index i => index.insert i shape) index)

/-- Every section under a composed one must be in the index if it applies, whatever its factory
did. -/
def checkChildren (c : Composer) (index : ShapeIndex) : List Section → Composition Unit
  | [] => .ok ()
  | s :: rest =>
    if s.isPlaceholder then c.checkChildren index rest
    else do
      let a ← s.applicabilityFor c.documentType
      if a = .omitted ∨ index.contains s.id then c.checkChildren index rest
      else if (c.factory? s.id).isNone then .error (.missingFactory s.id s.name)
      else .error (.unregisteredSection s.id)

def fieldOf (s : Section) (a : Applicability) (shape : Shape) : Field :=
  (camelCase s.name, if a = .optional then shape.orAbsent else shape)

def composeApplicable (c : Composer) (s : Section) (a : Applicability) (below : List Section)
    (children : ShapeIndex → Composition (List Field × ShapeIndex)) (index : ShapeIndex) :
    Composition (Option Field × ShapeIndex) :=
  match c.factory? s.id with
  | none => .error (.missingFactory s.id s.name)
  | some factory => do
    let (shape, index) ← c.make factory s.id children index
    if index.contains s.id then
      c.checkChildren index below
      .ok (some (fieldOf s a shape), index)
    else .error (.unregisteredSection s.id)

/-- Composes a section. Placeholders and omitted sections have no field. -/
def composeSection (c : Composer) (s : Section) (below : List Section)
    (children : ShapeIndex → Composition (List Field × ShapeIndex)) (index : ShapeIndex) :
    Composition (Option Field × ShapeIndex) :=
  if s.isPlaceholder then .ok (none, index)
  else do
    let a ← s.applicabilityFor c.documentType
    if a = .omitted then .ok (none, index) else c.composeApplicable s a below children index

def addField (c : Composer) (s : Section) (keys : List String) (field : Option Field)
    (others : List String → Composition (List Field × ShapeIndex)) :
    Composition (List Field × ShapeIndex) :=
  match field with
  | none => others keys
  | some f =>
    if keys.contains f.1 then .error (.duplicateKey c.family f.1 s.id)
    else do
      let (fields, index) ← others (f.1 :: keys)
      .ok (f :: fields, index)

mutual

def compose (c : Composer) : Outline → ShapeIndex → Composition (Option Field × ShapeIndex)
  | .node s children, index =>
    c.composeSection s (children.map Outline.top) (fun index => c.composeAll children [] index)
      index

/-- Composes sections in order; no two fields have one key. -/
def composeAll (c : Composer) : List Outline → List String → ShapeIndex →
    Composition (List Field × ShapeIndex)
  | [], _, index => .ok ([], index)
  | o :: rest, keys, index => do
    let (field, index) ← c.compose o index
    c.addField o.top keys field fun keys => c.composeAll rest keys index

end

end Composer

end DocSections
