import DocSections.Compose.Coverage
import DocSections.Proofs.Addressing
import DocSections.Proofs.Faults

/-! What it means that the factories cover a catalog. Composition of a family that is covered has no
cause left to end for want of a factory or of a declaration. -/

namespace DocSections

namespace Registry

/-- Whether a section declares something for every document type and has a factory, unless it is
omitted for all. Placeholders need nothing. -/
def Covers (r : Registry) (family : UInt32) (s : Section) : Prop :=
  s.isPlaceholder = false → (∀ d, (s.applicability.get? d).isSome = true) ∧
    ((∀ d, s.applicability.get? d = some .omitted) ∨ (r.factory? family s.id).isSome = true)

theorem forall_documentType {p : DocumentType → Prop} : (∀ d, p d) ↔ p .plan ∧ p .task := by
  constructor
  · intro h
    exact ⟨h .plan, h .task⟩
  · rintro ⟨hplan, htask⟩ d
    cases d with
    | plan => exact hplan
    | task => exact htask

theorem verifySection_eq_ok_iff {r : Registry} {family : UInt32} {s : Section} :
    r.verifySection family s = .ok () ↔ r.Covers family s := by
  unfold verifySection Covers
  rw [forall_documentType, forall_documentType]
  cases hp : s.isPlaceholder with
  | true => simp
  | false =>
    cases hplan : s.applicability.get? .plan with
    | none => simp [Section.applicabilityFor, hplan, bind, Except.bind]
    | some plan =>
      cases htask : s.applicability.get? .task with
      | none => simp [Section.applicabilityFor, hplan, htask, bind, Except.bind]
      | some task =>
        simp only [Section.applicabilityFor, hplan, htask, bind, Except.bind]
        cases r.factory? family s.id with
        | none =>
          by_cases homitted : plan = .omitted ∧ task = .omitted
          · simp [homitted, pure, Except.pure]
          · have happlies : plan ≠ .omitted ∨ task ≠ .omitted := not_and_or.mp homitted
            simp [homitted, happlies]
        | some factory => simp [pure, Except.pure]

theorem forM_eq_ok_iff {α : Type} {g : α → Composition Unit} {xs : List α} :
    xs.forM g = .ok () ↔ ∀ x ∈ xs, g x = .ok () := by
  induction xs with
  | nil => simp [List.forM, pure, Except.pure]
  | cons x rest ih =>
    rw [List.forall_mem_cons, ← ih]
    change Except.bind (g x) (fun _ => rest.forM g) = _ ↔ _
    cases g x with
    | error fault => simp [Except.bind]
    | ok _ => simp [Except.bind]

theorem verify_eq_ok_iff {r : Registry} {c : Catalog} :
    r.verify c = .ok () ↔ ∀ f ∈ c.families, ∀ s ∈ f.sections, r.Covers f.id s := by
  unfold verify verifyFamily
  simp only [forM_eq_ok_iff, verifySection_eq_ok_iff]

/-- Among sections that are covered, what is left to blame is that a section was not registered or
that a key comes twice. -/
theorem fault_of_blames_covered {r : Registry} {f : Family} {d : DocumentType}
    {siblings : List Section} {fault : CompositionFault}
    (hcovers : ∀ s ∈ siblings, r.Covers f.id s) (h : (r.composer f d).Blames siblings fault) :
    (∃ id, fault = .unregisteredSection id) ∨ ∃ key id, fault = .duplicateKey f.id key id := by
  cases h with
  | @missingFactory s hs ha hf =>
    have hnone : r.factory? f.id s.id = none := hf
    rcases (hcovers s hs ha.1).2 with homitted | hsome
    · exact absurd rfl ((Section.applies_iff_ne_omitted ha.1 (homitted d)).mp ha)
    · rw [hnone] at hsome
      cases hsome
  | @unspecifiedApplicability s hs hp ha =>
    have hsome := (hcovers s hs hp).1 d
    have hnone : s.applicability.get? d = none := ha
    rw [hnone] at hsome
    cases hsome
  | unregisteredSection => exact .inl ⟨_, rfl⟩
  | duplicateKey => exact .inr ⟨_, _, rfl⟩

/-- Verification accepts exactly the catalogs that the factories cover. Of these, composing a family
can only end with a section that was not registered or a key that comes twice. -/
theorem verify_guards_composition (r : Registry) (c : Catalog) :
    (r.verify c = .ok () ↔ ∀ f ∈ c.families, ∀ s ∈ f.sections, r.Covers f.id s) ∧
      (r.verify c = .ok () → ∀ f ∈ c.families, ∀ d fault, r.composeFamily f d = .error fault →
        (∃ id, fault = .unregisteredSection id) ∨ ∃ key id, fault = .duplicateKey f.id key id) := by
  refine ⟨verify_eq_ok_iff, fun h f hf d fault hfault => ?_⟩
  obtain ⟨place, -, hblames⟩ := exists_blames_of_composeFamily hfault
  refine fault_of_blames_covered (fun s hs => ?_) hblames
  exact verify_eq_ok_iff.mp h f hf s (Family.mem_childrenOf.mp hs).1

end Registry

def deliveryCatalog : Catalog := ⟨OrderedMap.empty.insert 9 deliveryFamily⟩

/-- Factories for all sections of the family, of which the first is a leaf above the others. -/
def hidingRegistry : Registry :=
  Registry.empty.withTable 9 (.ofPairs [("9.1", Registry.fixed .textList), ("9.1.1", .composite),
    ("9.1.1.1", Registry.fixed .textList)])

theorem hidingRegistry_verified : hidingRegistry.verify deliveryCatalog = .ok () ∧
    hidingRegistry.composeFamily deliveryFamily .plan = .error (.unregisteredSection "9.1.1") ∧
    ∀ f ∈ deliveryCatalog.families, ∀ d fault, hidingRegistry.composeFamily f d = .error fault →
      (∃ id, fault = .unregisteredSection id) ∨ ∃ key id, fault = .duplicateKey f.id key id :=
  ⟨by rfl, by rfl, (Registry.verify_guards_composition hidingRegistry deliveryCatalog).2 (by rfl)⟩

end DocSections
