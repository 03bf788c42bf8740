import DocSections.Catalog.Family

/-! Faults of composition: the ways in which a catalog and the factories do not fit. -/

namespace DocSections

/-- Where the catalog and the factories do not fit. -/
inductive CompositionFault where
  | missingFactory (id name : String)
  | unspecifiedApplicability (id : String) (documentType : DocumentType)
  | unregisteredSection (id : String)
  | duplicateKey (family : UInt32) (key id : String)
deriving DecidableEq, Repr

def CompositionFault.message : CompositionFault → String
  | missingFactory id name =>
    "No schema factory registered for section " ++ id ++ " (" ++ name ++
      "). This indicates a mismatch between the schema definition and JSON files."
  | unspecifiedApplicability id d =>
    "Section " ++ id ++ " does not declare applicability for document type '" ++ d.name ++ "'"
  | unregisteredSection id =>
    "Section " ++ id ++ " was not registered in byId by its own or its parent's factory"
  | duplicateKey family key id =>
    "Duplicate shape key '" ++ key ++ "' in family " ++ toString family.toNat ++
      " (section " ++ id ++ ")"

abbrev Composition := Except CompositionFault

/-- What a section declares for a document type; leaving it open is a fault. -/
def Section.applicabilityFor (s : Section) (d : DocumentType) :
    Composition Applicability :=
  match s.applicability.get? d with
  | some a => .ok a
  | none => .error (.unspecifiedApplicability s.id d)

end DocSections
