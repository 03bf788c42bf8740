import DocSections.Compose.Fault
import DocSections.Factory.Basic

/-! Whether the factories cover a catalog, decided without composing anything. -/

namespace DocSections

namespace Registry

/-- Checks that a section declares applicability for both document types and, if it applies to any,
has a factory. -/
def verifySection (r : Registry) (family : UInt32) (s : Section) : Composition Unit :=
  if s.isPlaceholder then .ok ()
  else do
    let plan ← s.applicabilityFor .plan
    let task ← s.applicabilityFor .task
    if (plan ≠ .omitted ∨ task ≠ .omitted) ∧ (r.factory? family s.id).isNone then
      .error (.missingFactory s.id s.name)

def verifyFamily (r : Registry) (f : Family) : Composition Unit :=
  f.sections.forM (r.verifySection f.id)

def verify (r : Registry) (c : Catalog) : Composition Unit :=
  c.families.forM r.verifyFamily

end Registry

end DocSections
