import DocSections.Proofs.Addressing
import DocSections.Proofs.Faults

/-! The section that a fault of composition names. It is a section of the family, what the fault
says of it is true, and composition really came by it: its parent is the family itself or a section
that applies. -/

namespace DocSections

namespace CompositionFault

def named : CompositionFault → String
  | missingFactory id _ => id
  | unspecifiedApplicability id _ => id
  | unregisteredSection id => id
  | duplicateKey _ _ id => id

/-- What is said of the section that is named, for each of the four ways to fail. -/
def HoldsOf (r : Registry) (f : Family) (d : DocumentType) (s : Section) : CompositionFault → Prop
  | missingFactory id name => s.name = name ∧ s.Applies d ∧ r.factory? f.id id = none
  | unspecifiedApplicability _ documentType =>
    documentType = d ∧ s.isPlaceholder = false ∧ s.applicability.get? d = none
  | unregisteredSection id => s.Applies d ∧ (r.factory? f.id id).isSome = true
  | duplicateKey family key _ =>
    family = f.id ∧ s.Applies d ∧ camelCase s.name = key ∧
      ∃ t, [t, s].Sublist f.sections ∧ t.parentId? = s.parentId? ∧ t.Applies d ∧
        camelCase t.name = key

end CompositionFault

namespace Registry

variable {r : Registry} {f : Family} {d : DocumentType} {fault : CompositionFault}

/-- A fault about the sections under one place is about one of them. -/
theorem exists_holdsOf_of_blames {place : String}
    (h : (r.composer f d).Blames (f.childrenOf place) fault) :
    ∃ s ∈ f.childrenOf place, s.id = fault.named ∧ fault.HoldsOf r f d s := by
  cases h with
  | @missingFactory s hs ha hf => exact ⟨s, hs, rfl, rfl, ha, hf⟩
  | @unspecifiedApplicability s hs hp hnone => exact ⟨s, hs, rfl, rfl, hp, hnone⟩
  | @unregisteredSection s hs ha hf => exact ⟨s, hs, rfl, ha, hf⟩
  | @duplicateKey before after s t hsplit ht hta hsa hkey =>
    have hs : s ∈ f.childrenOf place := hsplit ▸ List.mem_append_right before List.mem_cons_self
    have ht' : t ∈ f.childrenOf place := hsplit ▸ List.mem_append_left _ ht
    have horder : [t, s].Sublist (f.childrenOf place) := by
      rw [hsplit]
      exact (List.singleton_sublist.mpr ht).append (List.singleton_sublist.mpr List.mem_cons_self)
    refine ⟨s, hs, rfl, rfl, hsa, rfl, t, horder.trans List.filter_sublist, ?_, hta, hkey⟩
    rw [(Family.mem_childrenOf.mp ht').2, (Family.mem_childrenOf.mp hs).2]

/-- Where composition of a sound family fails, the family has the section that the fault names, what
the fault says is true of it, and its parent is the family or a section that applies. -/
theorem fault_names_section (hf : f.checkStructure = .ok ())
    (h : r.composeFamily f d = .error fault) :
    ∃ s, f.section? fault.named = some s ∧ fault.HoldsOf r f d s ∧
      (s.parentId? = some f.rootId ∨
        ∃ p, s.parentId? = some p.id ∧ f.section? p.id = some p ∧ p.Applies d) := by
  obtain ⟨place, hplace, hblames⟩ := exists_blames_of_composeFamily h
  obtain ⟨s, hs, hid, hholds⟩ := exists_holdsOf_of_blames hblames
  obtain ⟨hmem, hparent⟩ := Family.mem_childrenOf.mp hs
  refine ⟨s, hid ▸ Family.section?_eq_some_of_mem hf hmem, hholds, ?_⟩
  rcases hplace with rfl | ⟨p, hp, rfl⟩
  · exact .inl hparent
  · exact .inr ⟨p, hparent, Family.section?_eq_some_of_mem hf hp.mem, hp.applies⟩

end Registry

/-- A family in which two sections under the first one have names with one key. -/
def clashingFamily : Family :=
  { deliveryFamily with
    sections := [requiredSection "9.1.1" "Open Items", requiredSection "9.1" "Risks",
      requiredSection "9.2" "Open items", requiredSection "9.1.2" "Open-Items"] }

def clashingRegistry : Registry :=
  Registry.empty.withTable 9 (.ofPairs [("9.1", .container), ("9.1.1", .shared .text ["9.1.1"]),
    ("9.1.2", Registry.fixed .textList)])

/-- The section at the top with the same key is another matter, and so is its missing factory, which
composition does not come to. -/
theorem clashing_fault_names_section :
    let fault := CompositionFault.duplicateKey 9 "openItems" "9.1.2"
    clashingFamily.checkStructure = .ok () ∧
      clashingRegistry.composeFamily clashingFamily .plan = .error fault ∧
      ∃ s, clashingFamily.section? fault.named = some s ∧
        fault.HoldsOf clashingRegistry clashingFamily .plan s ∧
        (s.parentId? = some clashingFamily.rootId ∨
          ∃ p, s.parentId? = some p.id ∧ clashingFamily.section? p.id = some p ∧
            p.Applies .plan) := by
  intro fault
  have hfault : clashingRegistry.composeFamily clashingFamily .plan = .error fault := by rfl
  exact ⟨by rfl, hfault, Registry.fault_names_section (by rfl) hfault⟩

end DocSections
