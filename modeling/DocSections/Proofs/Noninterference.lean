import DocSections.Proofs.Relaxation

/-! Composition for a document type looks at the ids and names of the sections and at what they
declare for that type. What else a family says is for its readers or for other document types, and
has no part in the outcome. -/

namespace DocSections

namespace Section

/-- Whether a second section is named as the first one and declares the same for a document type. -/
structure SameFor (d : DocumentType) (s t : Section) : Prop where
  id_eq : t.id = s.id
  name_eq : t.name = s.name
  applicability_eq : t.applicability.get? d = s.applicability.get? d

namespace SameFor

variable {d : DocumentType} {s t : Section}

theorem relaxesTo (h : s.SameFor d t) : s.RelaxesTo d t :=
  ⟨h.id_eq, h.name_eq, .inl h.applicability_eq⟩

theorem parentId?_eq (h : s.SameFor d t) : t.parentId? = s.parentId? := by
  rw [parentId?, parentId?, h.id_eq]

theorem applicabilityFor_eq (h : s.SameFor d t) : t.applicabilityFor d = s.applicabilityFor d := by
  rw [applicabilityFor, applicabilityFor, h.id_eq, h.applicability_eq]

end SameFor

end Section

/-- Whether a second family has the id of the first one, and sections that differ from those of the
first one only in what does not matter for a document type. -/
structure Family.SameFor (d : DocumentType) (f g : Family) : Prop where
  id_eq : g.id = f.id
  sections : List.Forall₂ (Section.SameFor d) f.sections g.sections

theorem Family.SameFor.childrenOf {d : DocumentType} {f g : Family} (h : f.SameFor d g)
    (parent : String) :
    List.Forall₂ (Section.SameFor d) (f.childrenOf parent) (g.childrenOf parent) :=
  List.rel_filter (fun s t hst => by simp only [hst.parentId?_eq]) h.sections

namespace Composer

variable {c : Composer} {s t : Section}

/-- A section is composed as one that is the same for the document type. -/
theorem compose_node_eq (h : s.SameFor c.documentType t) (os : List Outline) (index : ShapeIndex) :
    c.compose (.node t os) index = c.compose (.node s os) index := by
  simp only [compose, composeSection, composeApplicable, fieldOf, h.relaxesTo.isPlaceholder_eq,
    h.applicabilityFor_eq, h.id_eq, h.name_eq]

theorem composeAll_eq {f g : Family} {ss ts : List Section}
    (hsame : List.Forall₂ (Section.SameFor c.documentType) ss ts)
    (h : ∀ s ∈ ss, ∀ t, s.SameFor c.documentType t → ∀ index,
      c.compose (g.branch t) index = c.compose (f.branch s) index)
    (keys : List String) (index : ShapeIndex) :
    c.composeAll (ts.map g.branch) keys index = c.composeAll (ss.map f.branch) keys index := by
  induction hsame generalizing keys index with
  | nil => rfl
  | @cons s t _ _ hst _ ih =>
    have hrest := ih fun u hu => h u (List.mem_cons_of_mem _ hu)
    simp only [List.map_cons, composeAll, h s List.mem_cons_self t hst, Family.top_branch, addField,
      hst.id_eq, hrest]

end Composer

namespace Registry

variable {f g : Family} {d : DocumentType}

theorem composeAll_sameFor (r : Registry) (h : f.SameFor d g) (parent : String)
    (keys : List String) (index : ShapeIndex) :
    (r.composer f d).composeAll ((g.childrenOf parent).map g.branch) keys index =
      (r.composer f d).composeAll ((f.childrenOf parent).map f.branch) keys index := by
  induction parent using f.children_induction generalizing keys index with
  | step parent ih =>
    refine Composer.composeAll_eq (h.childrenOf parent) (fun s hs t hst index => ?_) keys index
    rw [Family.branch_eq, Family.branch_eq, Composer.compose_node_eq hst, hst.id_eq]
    refine Composer.compose_node_congr (fun index => ih s hs [] index) (fun index => ?_) index
    rw [Family.map_top_branch, Family.map_top_branch]
    exact Composer.checkChildren_eq (.refl index) ((h.childrenOf s.id).imp fun _ _ h => h.relaxesTo)

/-- Families that differ only in what they say to readers and of other document types are composed
with the same outcome, the same schema or the same fault. -/
theorem composeFamily_eq_of_sameFor (r : Registry) (h : f.SameFor d g) :
    r.composeFamily g d = r.composeFamily f d := by
  have hcomposer : r.composer g d = r.composer f d := by rw [composer, composer, h.id_eq]
  have hroot : g.rootId = f.rootId := by rw [Family.rootId, Family.rootId, h.id_eq]
  rw [composeFamily_eq, composeFamily_eq, hcomposer, h.id_eq, Family.topLevel, hroot,
    r.composeAll_sameFor h]
  rfl

end Registry

/-- The sections of `deliveryFamily` with other words for readers, in a family that belongs to tasks
only and omits its first section from them. -/
def rewordedFamily : Family :=
  { id := 9, name := "Deliveries", anchor := "deliveries", rationale := some "Late work",
    notes := some "Draft", applicability := .of .omitted .required,
    sections := [
      { id := "9.1", name := "Risks", level := 3, applicability := .of .required .omitted,
        format := .table, description := "What can go wrong", notes := some "Weekly",
        fields := [{ name := "Risk", required := true }] },
      { id := "9.1.1", name := "Owners", level := 0, applicability := ⟨some .required, none⟩,
        format := .diagram, examples := [{ content := .of (.str "Ada") }] },
      { id := "9.1.1.1", name := "Names", level := 2, applicability := .of .required .optional,
        format := .container }] }

/-- For plans the reworded family has the schema that it had before, or the same fault where it had
one. For tasks nothing is left of it. -/
theorem reworded_composeFamily_eq :
    deliveryFamily.SameFor .plan rewordedFamily ∧
      (∃ schema, deliveryRegistry.composeFamily deliveryFamily .plan = .ok schema ∧
        deliveryRegistry.composeFamily rewordedFamily .plan = .ok schema) ∧
      Registry.empty.composeFamily rewordedFamily .plan =
        .error (.missingFactory "9.1" "Risks") ∧
      (deliveryRegistry.composeFamily rewordedFamily .task).map FamilySchema.keys = .ok [] := by
  have hsame : deliveryFamily.SameFor .plan rewordedFamily :=
    ⟨rfl, .cons ⟨rfl, rfl, rfl⟩ (.cons ⟨rfl, rfl, rfl⟩ (.cons ⟨rfl, rfl, rfl⟩ .nil))⟩
  refine ⟨hsame, ⟨_, by rfl, ?_⟩, ?_, by rfl⟩
  · exact (Registry.composeFamily_eq_of_sameFor deliveryRegistry hsame).trans (by rfl)
  · exact (Registry.composeFamily_eq_of_sameFor .empty hsame).trans (by rfl)

end DocSections
