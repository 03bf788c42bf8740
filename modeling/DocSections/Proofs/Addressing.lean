import DocSections.Catalog.Basic
import DocSections.Factory.Builtin
import DocSections.Proofs.Composition

/-! Which of the sections that are reached the index holds. A section whose factory runs is there
with its children. What lies below a section that was only registered by another factory is looked
at by nobody. -/

namespace DocSections

namespace Registry

variable {r : Registry} {f : Family} {d : DocumentType} {schema : FamilySchema} {s : Section}

theorem Runs.reached (h : r.Runs f d s) : f.Reached d s := h.imp fun _ _ => trivial

theorem contains_byId_of_runs (h : r.composeFamily f d = .ok schema) (hs : r.Runs f d s) :
    schema.byId.contains s.id = true :=
  (settled_of_runs h hs).indexed

/-- The sections at the top run if they apply, and the children of a section that runs are in the
index whether they run or not. -/
theorem contains_byId_of_parent (h : r.composeFamily f d = .ok schema) (ha : s.Applies d)
    (hs : s ∈ f.topLevel ∨ ∃ p, r.Runs f d p ∧ s ∈ f.childrenOf p.id) :
    schema.byId.contains s.id = true := by
  rcases hs with hs | ⟨p, hp, hs⟩
  · exact contains_byId_of_runs h (.top hs ha)
  · exact (settled_of_runs h hp).childrenIndexed s hs ha

/-- The index holds every section that is reached exactly if other factories register each child
that applies of each section that is reached but does not run. -/
theorem reached_indexed_iff (h : r.composeFamily f d = .ok schema) :
    (∀ s, f.Reached d s → schema.byId.contains s.id = true) ↔
      ∀ p s, f.Reached d p → ¬ r.Runs f d p → s ∈ f.childrenOf p.id → s.Applies d →
        ∃ t, r.Runs f d t ∧ s.id ∈ (r.composer f d).registered t := by
  constructor
  · intro hall p s hp _ hs ha
    exact (contains_byId_iff h).mp (hall s (.child hp trivial hs ha))
  · intro hgap s hs
    obtain ⟨ha, htop | ⟨p, hp, hchild⟩⟩ := Family.reached_iff.mp hs
    · exact contains_byId_of_parent h ha (.inl htop)
    · by_cases hruns : r.Runs f d p
      · exact contains_byId_of_parent h ha (.inr ⟨p, hruns, hchild⟩)
      · exact (contains_byId_iff h).mpr (hgap p s hp hruns hchild ha)

end Registry

def requiredSection (id name : String) : Section :=
  { id, name, level := 2, applicability := .of .required .required, format := .text }

/-- A family with three sections, each under the one before. -/
def deliveryFamily : Family :=
  { id := 9, name := "Delivery", anchor := "delivery",
    applicability := .of .required .required,
    sections := [requiredSection "9.1" "Risks", requiredSection "9.1.1" "Owners",
      requiredSection "9.1.1.1" "Names"] }

def deliveryRegistry : Registry :=
  Registry.empty.withTable 9 (.ofPairs [("9.1", .composite), ("9.1.1", .container),
    ("9.1.1.1", Registry.fixed .textList)])

/-- Factories of which the first registers the second section along with its own. -/
def sharingRegistry : Registry :=
  Registry.empty.withTable 9 (.ofPairs [("9.1", .shared .anyObject ["9.1", "9.1.1"]),
    ("9.1.1", .composite), ("9.1.1.1", Registry.fixed .textList)])

theorem reached_indexed_iff_delivery :
    ∃ schema, deliveryRegistry.composeFamily deliveryFamily .plan = .ok schema ∧
      ((∀ s, deliveryFamily.Reached .plan s → schema.byId.contains s.id = true) ↔
        ∀ p s, deliveryFamily.Reached .plan p → ¬ deliveryRegistry.Runs deliveryFamily .plan p →
          s ∈ deliveryFamily.childrenOf p.id → s.Applies .plan →
          ∃ t, deliveryRegistry.Runs deliveryFamily .plan t ∧
            s.id ∈ (deliveryRegistry.composer deliveryFamily .plan).registered t) :=
  ⟨_, by rfl, Registry.reached_indexed_iff (by rfl)⟩

/-- The first section passes, since its child is registered; the child never runs, and the section
below it is missing. -/
theorem deep_section_not_indexed : deliveryFamily.checkStructure = .ok () ∧
    ∃ schema, sharingRegistry.composeFamily deliveryFamily .plan = .ok schema ∧
      deliveryFamily.Reached .plan (requiredSection "9.1.1.1" "Names") ∧
      schema.byId.contains "9.1.1.1" = false := by
  refine ⟨by rfl, _, by rfl, ?_, by decide +kernel⟩
  have hrisks : deliveryFamily.Reached .plan (requiredSection "9.1" "Risks") :=
    .top (by decide +kernel) (by decide +kernel)
  have howners : deliveryFamily.Reached .plan (requiredSection "9.1.1" "Owners") :=
    .child hrisks trivial (by decide +kernel) (by decide +kernel)
  exact .child howners trivial (by decide +kernel) (by decide +kernel)

end DocSections
