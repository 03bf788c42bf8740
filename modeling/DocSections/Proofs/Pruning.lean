import DocSections.Proofs.Addressing

/-! Sections that are left out of a document type might as well not be in the catalog: neither they
nor what lies under them has a part in composition, whether it succeeds or fails. -/

namespace DocSections

namespace SectionId

/-- Whether an id goes on after another one with a point. -/
def isUnder (id above : String) : Bool := (above.toList ++ ['.']).isPrefixOf id.toList

theorem isUnder_iff {id above : String} :
    isUnder id above = true ↔ ∃ rest, id.toList = above.toList ++ '.' :: rest := by
  rw [isUnder, List.isPrefixOf_iff_prefix]
  constructor
  · rintro ⟨rest, h⟩
    exact ⟨rest, by rw [← h, List.append_assoc, List.singleton_append]⟩
  · rintro ⟨rest, h⟩
    exact ⟨rest, by rw [h, List.append_assoc, List.singleton_append]⟩

theorem length_lt_of_isUnder {id above : String} (h : isUnder id above = true) :
    above.toList.length < id.toList.length := by
  obtain ⟨rest, h⟩ := isUnder_iff.mp h
  rw [h, List.length_append, List.length_cons]
  omega

/-- What an id lies under is its parent or what the parent lies under. -/
theorem isUnder_of_parent? {id parent : String} (h : parent? id = some parent) (above : String) :
    isUnder id above = true ↔ above = parent ∨ isUnder parent above = true := by
  obtain ⟨before, hb, rfl⟩ := Option.map_eq_some_iff.mp h
  obtain ⟨leaf, hleaf, hid⟩ := eq_of_beforeLastPoint hb
  rw [isUnder_iff, isUnder_iff, hid, String.toList_ofList]
  constructor
  · rintro ⟨rest, hrest⟩
    -- the last point of the id cannot lie in `above`, since the leaf behind it has none
    rcases List.append_eq_append_iff.mp hrest with ⟨more, habove, hleafs⟩ | ⟨more, hbefore, hrest⟩
    · cases more with
      | nil =>
        rw [List.append_nil] at habove
        exact .inl (by rw [← habove, String.ofList_toList])
      | cons c more =>
        obtain ⟨-, rfl⟩ := List.cons.inj hleafs
        exact absurd (List.mem_append_right more List.mem_cons_self) hleaf
    · cases more with
      | nil =>
        rw [List.append_nil] at hbefore
        exact .inl (by rw [hbefore, String.ofList_toList])
      | cons c more =>
        obtain ⟨rfl, -⟩ := List.cons.inj hrest
        exact .inr ⟨more, hbefore⟩
  · rintro (rfl | ⟨rest, hrest⟩)
    · exact ⟨leaf, by rw [String.toList_ofList]⟩
    · exact ⟨rest ++ '.' :: leaf, by rw [hrest, List.append_assoc, List.cons_append]⟩

end SectionId

namespace Section

/-- Whether the section has no part in documents of a type. -/
def isLeftOut (s : Section) (d : DocumentType) : Bool :=
  s.isPlaceholder || s.applicability.get? d == some .omitted

variable {s : Section} {d : DocumentType}

theorem isLeftOut_iff : s.isLeftOut d = true ↔
    s.isPlaceholder = true ∨ s.applicability.get? d = some .omitted := by
  rw [isLeftOut, Bool.or_eq_true, beq_iff_eq]

theorem not_applies_of_isLeftOut (h : s.isLeftOut d = true) : ¬ s.Applies d := by
  rintro ⟨hp, ha⟩
  rcases isLeftOut_iff.mp h with hplaceholder | homitted
  · rw [hp] at hplaceholder
    cases hplaceholder
  · rw [homitted] at ha
    rcases ha with ha | ha <;> cases ha

theorem declares_of_isLeftOut (h : s.isLeftOut d = true) : s.Declares d := by
  rcases isLeftOut_iff.mp h with hplaceholder | homitted
  · exact declares_of_isPlaceholder hplaceholder
  · intro _
    rw [homitted]
    rfl

end Section

namespace Family

/-- Whether an id is that of a section that is left out, or lies under one. -/
def cutsOff (f : Family) (d : DocumentType) (id : String) : Bool :=
  f.sections.any fun t => t.isLeftOut d && (id == t.id || SectionId.isUnder id t.id)

/-- The family without the sections that are left out and all that lies under them. -/
def pruned (f : Family) (d : DocumentType) : Family :=
  { f with sections := f.sections.filter fun s => !f.cutsOff d s.id }

variable {f : Family} {d : DocumentType} {s : Section} {parent : String}

theorem cutsOff_iff {id : String} : f.cutsOff d id = true ↔
    ∃ t ∈ f.sections, t.isLeftOut d = true ∧ (id = t.id ∨ SectionId.isUnder id t.id = true) := by
  simp [cutsOff]

theorem owns_of_checkStructure (h : f.checkStructure = .ok ()) (hs : s ∈ f.sections) :
    SectionId.isUnder s.id f.rootId = true :=
  ((checkIds_eq_ok_iff.mp (checkStructure_eq_ok_iff.mp h).1).1 s hs).1

/-- The root itself is never cut off, since every section lies under it. -/
theorem not_cutsOff_rootId (h : f.checkStructure = .ok ()) : f.cutsOff d f.rootId = false := by
  rw [Bool.eq_false_iff, Ne, cutsOff_iff]
  rintro ⟨t, ht, -, hroot⟩
  have hlt := SectionId.length_lt_of_isUnder (owns_of_checkStructure h ht)
  rcases hroot with hroot | hroot
  · rw [hroot] at hlt
    exact Nat.lt_irrefl _ hlt
  · exact Nat.lt_asymm hlt (SectionId.length_lt_of_isUnder hroot)

/-- A section whose parent is not cut off is cut off only if it is itself left out. -/
theorem cutsOff_child (h : f.checkStructure = .ok ()) (hparent : f.cutsOff d parent = false)
    (hs : s ∈ f.childrenOf parent) : f.cutsOff d s.id = s.isLeftOut d := by
  obtain ⟨hmem, hsp⟩ := mem_childrenOf.mp hs
  rw [Bool.eq_iff_iff, cutsOff_iff]
  constructor
  · rintro ⟨t, ht, hout, hst | hst⟩
    · have heq : s = t := List.inj_on_of_nodup_map (nodup_ids_of_checkStructure h) hmem ht hst
      rwa [heq]
    · rw [SectionId.isUnder_of_parent? hsp] at hst
      have hcut : f.cutsOff d parent = true :=
        cutsOff_iff.mpr ⟨t, ht, hout, hst.imp_left Eq.symm⟩
      rw [hparent] at hcut
      cases hcut
  · intro hout
    exact ⟨s, hmem, hout, .inl rfl⟩

theorem childrenOf_pruned (h : f.checkStructure = .ok ()) (hparent : f.cutsOff d parent = false) :
    (f.pruned d).childrenOf parent = (f.childrenOf parent).filter fun s => !s.isLeftOut d := by
  rw [childrenOf, childrenOf, pruned, List.filter_filter, List.filter_filter]
  refine List.filter_congr fun s hs => ?_
  cases hsp : s.parentId? == some parent with
  | false => rw [Bool.false_and, Bool.and_false]
  | true =>
    have hchild : s ∈ f.childrenOf parent := mem_childrenOf.mpr ⟨hs, eq_of_beq hsp⟩
    rw [cutsOff_child h hparent hchild, Bool.true_and, Bool.and_true]

end Family

namespace Composer

variable {c : Composer} {s : Section} {os : List Outline}

theorem compose_of_isLeftOut (h : s.isLeftOut c.documentType = true) (index : ShapeIndex) :
    c.compose (.node s os) index = .ok (none, index) := by
  rw [compose_eq_ok_iff_of_not_applies (Section.not_applies_of_isLeftOut h)]
  exact ⟨Section.declares_of_isLeftOut h, rfl, rfl⟩

theorem checkChildren_filter (index : ShapeIndex) (ss : List Section) :
    c.checkChildren index (ss.filter fun s => !s.isLeftOut c.documentType) =
      c.checkChildren index ss := by
  induction ss with
  | nil => rfl
  | cons u rest ih =>
    rw [List.filter_cons]
    cases hout : u.isLeftOut c.documentType with
    | false => simp only [Bool.not_false, if_true, checkChildren, ih]
    | true =>
      simp only [Bool.not_true, Bool.false_eq_true, if_false, ih, checkChildren]
      cases hp : u.isPlaceholder with
      | true => rfl
      | false =>
        have homitted := (Section.isLeftOut_iff.mp hout).resolve_left (by simp [hp])
        simp [Section.applicabilityFor, homitted, bind, Except.bind]

/-- Sections that are left out can be left out of a composition one after another. -/
theorem composeAll_filter {f g : Family} {ss : List Section}
    (h : ∀ s ∈ ss, s.isLeftOut c.documentType = false → ∀ index,
      c.compose (g.branch s) index = c.compose (f.branch s) index)
    (keys : List String) (index : ShapeIndex) :
    c.composeAll ((ss.filter fun s => !s.isLeftOut c.documentType).map g.branch) keys index =
      c.composeAll (ss.map f.branch) keys index := by
  induction ss generalizing keys index with
  | nil => rfl
  | cons u rest ih =>
    have hrest := ih fun s hs => h s (List.mem_cons_of_mem _ hs)
    rw [List.filter_cons, List.map_cons, composeAll]
    cases hout : u.isLeftOut c.documentType with
    | false =>
      simp only [Bool.not_false, if_true, List.map_cons, composeAll, hrest,
        h u List.mem_cons_self hout, Family.top_branch]
    | true =>
      simp only [Bool.not_true, Bool.false_eq_true, if_false, hrest]
      rw [Family.branch_eq, compose_of_isLeftOut hout]
      rfl

end Composer

namespace Registry

variable {r : Registry} {f : Family} {d : DocumentType}

theorem composeAll_pruned (hf : f.checkStructure = .ok ()) {parent : String}
    (hparent : f.cutsOff d parent = false) (keys : List String) (index : ShapeIndex) :
    (r.composer f d).composeAll (((f.pruned d).childrenOf parent).map (f.pruned d).branch) keys
        index =
      (r.composer f d).composeAll ((f.childrenOf parent).map f.branch) keys index := by
  induction parent using f.children_induction generalizing keys index with
  | step parent ih =>
    rw [Family.childrenOf_pruned hf hparent]
    refine Composer.composeAll_filter (fun s hs hin index => ?_) keys index
    have hs' : f.cutsOff d s.id = false := (Family.cutsOff_child hf hparent hs).trans hin
    rw [Family.branch_eq, Family.branch_eq]
    refine Composer.compose_node_congr (fun index => ih s hs hs' [] index) (fun index => ?_) index
    rw [Family.map_top_branch, Family.map_top_branch, Family.childrenOf_pruned hf hs']
    exact Composer.checkChildren_filter index _

/-- Composition of a sound family is what it is without the sections that are left out of the
document type and without what lies under them, the schema as well as the fault. -/
theorem composeFamily_pruned (hf : f.checkStructure = .ok ()) :
    r.composeFamily (f.pruned d) d = r.composeFamily f d := by
  have hroot := Family.not_cutsOff_rootId (d := d) hf
  rw [composeFamily_eq, composeFamily_eq]
  exact congrArg _ (composeAll_pruned hf hroot [] .empty)

end Registry

/-- A family of which a plan has the first section only. -/
def draftFamily : Family :=
  { deliveryFamily with
    sections := [requiredSection "9.1" "Risks",
      { requiredSection "9.2" "Notes" with applicability := .of .omitted .required },
      requiredSection "9.2.1" "Authors", requiredSection "9.3" "\x7b\x7bsection\x7d\x7d",
      requiredSection "9.3.1" "Risks"] }

theorem draftFamily_pruned : draftFamily.checkStructure = .ok () ∧
    (draftFamily.pruned .plan).sections.map Section.id = ["9.1"] ∧
    deliveryRegistry.composeFamily (draftFamily.pruned .plan) .plan =
      deliveryRegistry.composeFamily draftFamily .plan :=
  ⟨by rfl, by decide +kernel, Registry.composeFamily_pruned (by rfl)⟩

end DocSections
