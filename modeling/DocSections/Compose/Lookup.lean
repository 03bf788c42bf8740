import DocSections.Compose.FamilySchema

/-! Schemas asked for by family id and section id. -/

namespace DocSections

inductive SchemaFault where
  | unknownFamily (family : UInt32)
  | unknownSection (family : UInt32) (id : String)
  | composition (fault : CompositionFault)
deriving DecidableEq, Repr

def SchemaFault.message : SchemaFault → String
  | unknownFamily family => "Family not found: " ++ toString family.toNat
  | unknownSection family id =>
    "Section not found: " ++ id ++ " in family " ++ toString family.toNat
  | composition fault => fault.message

namespace Catalog

def knownFamily (c : Catalog) (family : UInt32) : Except SchemaFault Family :=
  match c.family? family with
  | some f => .ok f
  | none => .error (.unknownFamily family)

def knownSection (c : Catalog) (family : UInt32) (id : String) : Except SchemaFault Section := do
  match (← c.knownFamily family).section? id with
  | some s => .ok s
  | none => .error (.unknownSection family id)

end Catalog

def Registry.schemaOf (r : Registry) (c : Catalog) (family : UInt32) (d : DocumentType) :
    Except SchemaFault FamilySchema := do
  match r.composeFamily (← c.knownFamily family) d with
  | .ok s => .ok s
  | .error fault => .error (.composition fault)

end DocSections
