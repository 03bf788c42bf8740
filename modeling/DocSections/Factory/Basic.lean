import DocSections.Catalog.Basic
import DocSections.Shape.Basic

/-! Factories, which say what shape a section has, and the registry that holds them by family and
section id. -/

namespace DocSections

/-- How the shape of a section is made. A composite is a record over the children of its section; a
container is any object, whose children are only addressed on their own; a leaf has a shape of its
own for each document type. These are indexed under the id of the section. A shared shape is indexed
under given ids, whatever section it is made for. -/
inductive Factory where
  | composite
  | container
  | leaf (shape : DocumentType → Shape)
  | shared (shape : Shape) (ids : List String)

abbrev FactoryTable := OrderedMap String Factory

/-- The factory tables by family id. -/
structure Registry where
  tables : OrderedMap UInt32 FactoryTable

namespace Registry

def empty : Registry := ⟨.empty⟩

def withTable (r : Registry) (family : UInt32) (table : FactoryTable) : Registry :=
  ⟨r.tables.insert family table⟩

def table? (r : Registry) (family : UInt32) : Option FactoryTable := r.tables.get? family

def factory? (r : Registry) (family : UInt32) (id : String) : Option Factory :=
  (r.table? family).bind (·.get? id)

end Registry

end DocSections
