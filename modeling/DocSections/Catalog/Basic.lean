import DocSections.Catalog.Codec
import DocSections.Digest.Sha256
import DocSections.Json.Printer
import DocSections.OrderedMap

/-! Catalogs: families by id, each of a sound structure. Every section of a family lies under it, no
section id occurs twice, and every parent that a section names is a section or the family. -/

namespace DocSections

/-- Why families make no catalog. -/
inductive StructureFault where
  | foreignSection (family : UInt32) (id : String)
  | duplicateSection (family : UInt32) (id : String)
  | orphanSection (family : UInt32) (id parent : String)
  | duplicateFamily (family : UInt32)
deriving DecidableEq, Repr

namespace StructureFault

def message : StructureFault → String
  | foreignSection family id =>
    "Section id " ++ id ++ " does not belong to family " ++ toString family.toNat
  | duplicateSection family id =>
    "Duplicate section id " ++ id ++ " in family " ++ toString family.toNat
  | orphanSection family id parent =>
    "Section " ++ id ++ " has no parent section " ++ parent ++ " in family " ++
      toString family.toNat
  | duplicateFamily family => "Duplicate family id " ++ toString family.toNat

end StructureFault

namespace Family

def owns (f : Family) (id : String) : Bool := (f.rootId.toList ++ ['.']).isPrefixOf id.toList

/-- Goes through sections in order, where `seen` are the ids before them. -/
def checkIds (f : Family) (seen : List String) : List Section → Except StructureFault Unit
  | [] => .ok ()
  | s :: rest =>
    if !f.owns s.id then .error (.foreignSection f.id s.id)
    else if seen.contains s.id then .error (.duplicateSection f.id s.id)
    else f.checkIds (s.id :: seen) rest

def checkParents (f : Family) : List Section → Except StructureFault Unit
  | [] => .ok ()
  | s :: rest =>
    match s.parentId? with
    | none => f.checkParents rest
    | some parent =>
      if parent == f.rootId || (f.section? parent).isSome then f.checkParents rest
      else .error (.orphanSection f.id s.id parent)

/-- All ids are checked before any parent is. -/
def checkStructure (f : Family) : Except StructureFault Unit := do
  f.checkIds [] f.sections
  f.checkParents f.sections

end Family

structure Catalog where
  byId : OrderedMap UInt32 Family

namespace Catalog

def empty : Catalog := ⟨.empty⟩

/-- Adds a family after checking its structure; its id must be new. -/
def add (c : Catalog) (f : Family) : Except StructureFault Catalog := do
  f.checkStructure
  if c.byId.contains f.id then .error (.duplicateFamily f.id) else .ok ⟨c.byId.insert f.id f⟩

def ofFamilies (families : List Family) : Except StructureFault Catalog :=
  families.foldlM add empty

def family? (c : Catalog) (id : UInt32) : Option Family := c.byId.get? id

def families (c : Catalog) : List Family := c.byId.values

def ids (c : Catalog) : List UInt32 := c.byId.keys

def size (c : Catalog) : Nat := c.byId.size

def familiesFor (c : Catalog) (d : DocumentType) : List Family :=
  c.families.filter (·.appliesTo d)

/-- The families in JSON, in ascending id order and with nothing between. -/
def text (c : Catalog) : String := String.join (c.families.map fun f => f.toJson.compact)

def fingerprint (c : Catalog) : String := Sha256.hex c.text.toUTF8.toList

end Catalog

end DocSections
