import DocSections.Proofs.Addressing
import DocSections.Proofs.Issues
import Mathlib.Data.List.Forall2
import Mathlib.Data.Option.Basic

/-! Relaxing a family: some sections that a document type requires become optional. Composition runs
in step with that of the family as it was. It fails where that fails, with the same fault, or makes
a schema with the same keys and ids that accepts all that the other one does. -/

namespace DocSections

namespace Composition

/-- Two compositions fail with one fault, or succeed with results that are related. -/
inductive Agree {α β : Type} (R : α → β → Prop) : Composition α → Composition β → Prop
  | ok {a : α} {b : β} : R a b → Agree R (.ok a) (.ok b)
  | error (fault : CompositionFault) : Agree R (.error fault) (.error fault)

namespace Agree

variable {α β γ δ : Type} {R : α → β → Prop} {S : γ → δ → Prop} {x : Composition α}
  {y : Composition β}

theorem bind {g : α → Composition γ} {k : β → Composition δ} (h : Agree R x y)
    (hnext : ∀ a b, R a b → Agree S (g a) (k b)) : Agree S (x >>= g) (y >>= k) := by
  cases h with
  | ok hab => exact hnext _ _ hab
  | error fault => exact .error fault

theorem map {g : α → γ} {k : β → δ} (h : Agree R x y) (hmap : ∀ a b, R a b → S (g a) (k b)) :
    Agree S (x.map g) (y.map k) := by
  cases h with
  | ok hab => exact .ok (hmap _ _ hab)
  | error fault => exact .error fault

theorem error_iff (h : Agree R x y) (fault : CompositionFault) :
    y = .error fault ↔ x = .error fault := by
  cases h with
  | ok _ => exact ⟨nofun, nofun⟩
  | error other => rw [Except.error.injEq, Except.error.injEq]

theorem ok_iff (h : Agree R x y) : (∃ b, y = .ok b) ↔ ∃ a, x = .ok a := by
  cases h with
  | ok _ => exact ⟨fun _ => ⟨_, rfl⟩, fun _ => ⟨_, rfl⟩⟩
  | error fault =>
    constructor
    · rintro ⟨b, hb⟩
      cases hb
    · rintro ⟨a, ha⟩
      cases ha

theorem rel {a : α} {b : β} (h : Agree R (.ok a) (.ok b)) : R a b := by
  cases h with
  | ok hab => exact hab

end Agree

end Composition

open DocSections.Composition (Agree)

namespace Shape

/-- Whether a second shape may be absent where the first one may, and accepts what the first one
accepts with the same data. -/
structure WidensTo (narrow wide : Shape) : Prop where
  mayLack : narrow.isOptional = true → wide.isOptional = true
  accepts : ∀ value data, narrow.validate value = .ok data → wide.validate value = .ok data

namespace WidensTo

variable {narrow wide : Shape}

theorem refl (shape : Shape) : shape.WidensTo shape := ⟨id, fun _ _ h => h⟩

theorem to_orAbsent (h : narrow.WidensTo wide) : narrow.WidensTo wide.orAbsent := by
  refine ⟨fun _ => isOptional_orAbsent wide, ?_⟩
  rw [validate_orAbsent]
  exact h.accepts

theorem orAbsent (h : narrow.WidensTo wide) : narrow.orAbsent.WidensTo wide.orAbsent := by
  refine ⟨fun _ => isOptional_orAbsent wide, ?_⟩
  rw [validate_orAbsent, validate_orAbsent]
  exact h.accepts

/-- A member that gives no issues under the first shape gives none under the second, and the same
data. -/
theorem member (h : narrow.WidensTo wide) {key : String} {members : List (String × Json)}
    (hnone : Check.memberIssues key narrow.isOptional narrow.issues members = []) :
    Check.memberIssues key wide.isOptional wide.issues members = [] ∧
      Check.memberData key wide.data members = Check.memberData key narrow.data members := by
  unfold Check.memberIssues at hnone ⊢
  unfold Check.memberData
  cases hfind : Assoc.find? key members with
  | none =>
    simp only [hfind] at hnone ⊢
    cases hopt : narrow.isOptional with
    | true => simp [h.mayLack hopt]
    | false => simp [hopt] at hnone
  | some value =>
    simp only [hfind, List.map_eq_nil_iff] at hnone ⊢
    obtain ⟨hwide, hdata⟩ :=
      validate_eq_ok_iff.mp (h.accepts value _ (validate_eq_ok_iff.mpr ⟨hnone, rfl⟩))
    exact ⟨hwide, by rw [hdata]⟩

end WidensTo

end Shape

/-- Fields with one key, of which the second has a wider shape. -/
def Field.WidensTo (narrow wide : Field) : Prop := wide.1 = narrow.1 ∧ narrow.2.WidensTo wide.2

namespace Shape

variable {narrow wide : List Field}

theorem keys_eq_of_widensTo (h : List.Forall₂ Field.WidensTo narrow wide) :
    wide.map Prod.fst = narrow.map Prod.fst :=
  Assoc.keys_eq_of_forall₂ (fun _ _ hfield => hfield.1) h

theorem fields_of_widensTo (h : List.Forall₂ Field.WidensTo narrow wide)
    {members : List (String × Json)} (hnone : fieldIssues narrow members = []) :
    fieldIssues wide members = [] ∧ fieldData wide members = fieldData narrow members := by
  induction h with
  | nil => exact ⟨rfl, rfl⟩
  | @cons a b _ _ hfield _ ih =>
    obtain ⟨key, shape⟩ := a
    obtain ⟨key', shape'⟩ := b
    obtain ⟨hkey, hwidens⟩ := hfield
    cases hkey
    rw [fieldIssues, List.append_eq_nil_iff] at hnone
    obtain ⟨hmember, hrest⟩ := hnone
    obtain ⟨hissues, hdata⟩ := hwidens.member hmember
    obtain ⟨hothers, hotherData⟩ := ih hrest
    rw [fieldIssues, fieldData, fieldData, hissues, hothers, hdata, hotherData]
    exact ⟨rfl, rfl⟩

theorem WidensTo.record (h : List.Forall₂ Field.WidensTo narrow wide) :
    (Shape.record narrow).WidensTo (Shape.record wide) := by
  refine ⟨nofun, fun value data hok => ?_⟩
  obtain ⟨hnone, rfl⟩ := validate_eq_ok_iff.mp hok
  rw [validate_eq_ok_iff]
  cases value with
  | obj members =>
    rw [issues, List.append_eq_nil_iff] at hnone
    obtain ⟨hissues, hdata⟩ := fields_of_widensTo h hnone.1
    rw [issues, keys_eq_of_widensTo h, hissues, hnone.2, Shape.data, Shape.data, hdata]
    exact ⟨rfl, rfl⟩
  | _ => exact absurd hnone (List.cons_ne_nil _ _)

end Shape

def ShapeIndex.WidensTo (narrow wide : ShapeIndex) : Prop :=
  ∀ id, Option.Rel Shape.WidensTo (narrow.get? id) (wide.get? id)

namespace ShapeIndex.WidensTo

variable {narrow wide : ShapeIndex}

theorem refl (index : ShapeIndex) : ShapeIndex.WidensTo index index := by
  intro id
  cases index.get? id with
  | none => exact .none
  | some shape => exact .some (.refl shape)

theorem empty : ShapeIndex.WidensTo .empty .empty := refl .empty

theorem insert (h : ShapeIndex.WidensTo narrow wide) (id : String) {shape shape' : Shape}
    (hshape : shape.WidensTo shape') :
    ShapeIndex.WidensTo (narrow.insert id shape) (wide.insert id shape') := by
  intro other
  by_cases hid : other = id
  · rw [hid, OrderedMap.get?_insert_self, OrderedMap.get?_insert_self]
    exact .some hshape
  · rw [OrderedMap.get?_insert_of_ne _ hid, OrderedMap.get?_insert_of_ne _ hid]
    exact h other

theorem insert_foldl (h : ShapeIndex.WidensTo narrow wide) (shape : Shape) (ids : List String) :
    ShapeIndex.WidensTo (ids.foldl (fun index id => index.insert id shape) narrow)
      (ids.foldl (fun index id => index.insert id shape) wide) := by
  induction ids generalizing narrow wide with
  | nil => exact h
  | cons id rest ih => exact ih (h.insert id (.refl shape))

theorem get? (h : ShapeIndex.WidensTo narrow wide) {id : String} {shape : Shape}
    (hshape : narrow.get? id = some shape) :
    ∃ shape', wide.get? id = some shape' ∧ shape.WidensTo shape' := by
  have hid := h id
  rw [hshape] at hid
  revert hid
  cases wide.get? id with
  | none => nofun
  | some shape' => exact fun hid => ⟨shape', rfl, Option.rel_some_some.mp hid⟩

theorem contains_eq (h : ShapeIndex.WidensTo narrow wide) (id : String) :
    wide.contains id = narrow.contains id := by
  have hid := h id
  unfold OrderedMap.contains
  revert hid
  cases narrow.get? id <;> cases wide.get? id <;> intro hid <;> cases hid <;> rfl

theorem keys_eq (h : ShapeIndex.WidensTo narrow wide) : wide.keys = narrow.keys :=
  OrderedMap.keys_eq_of_contains_eq h.contains_eq

end ShapeIndex.WidensTo

def Applicability.relaxed : Applicability → Applicability
  | .required => .optional
  | a => a

def ApplicabilityMap.relaxed (m : ApplicabilityMap) : DocumentType → ApplicabilityMap
  | .plan => { m with plan := m.plan.map Applicability.relaxed }
  | .task => { m with task := m.task.map Applicability.relaxed }

theorem ApplicabilityMap.get?_relaxed (m : ApplicabilityMap) (d : DocumentType) :
    (m.relaxed d).get? d = (m.get? d).map Applicability.relaxed := by
  cases d <;> rfl

def Section.relaxed (s : Section) (d : DocumentType) : Section :=
  { s with applicability := s.applicability.relaxed d }

/-- The family in which the chosen sections are optional for a document type if it required them. -/
def Family.relaxed (f : Family) (d : DocumentType) (chosen : Section → Bool) : Family :=
  { f with sections := f.sections.map fun s => if chosen s then s.relaxed d else s }

namespace Section

/-- Whether a second section is like the first one for composition, but may be optional where the
first one is required. -/
structure RelaxesTo (d : DocumentType) (s t : Section) : Prop where
  id_eq : t.id = s.id
  name_eq : t.name = s.name
  applicability : t.applicability.get? d = s.applicability.get? d ∨
    t.applicability.get? d = (s.applicability.get? d).map Applicability.relaxed

theorem relaxesTo_relaxed (d : DocumentType) (s : Section) (choice : Bool) :
    s.RelaxesTo d (if choice then s.relaxed d else s) := by
  cases choice with
  | true => exact ⟨rfl, rfl, .inr (s.applicability.get?_relaxed d)⟩
  | false => exact ⟨rfl, rfl, .inl rfl⟩

variable {d : DocumentType} {s t : Section}

theorem RelaxesTo.isPlaceholder_eq (h : s.RelaxesTo d t) : t.isPlaceholder = s.isPlaceholder := by
  rw [isPlaceholder, isPlaceholder, h.name_eq]

theorem RelaxesTo.applicabilityFor (h : s.RelaxesTo d t) :
    Agree (fun a b => b = a ∨ b = a.relaxed) (s.applicabilityFor d) (t.applicabilityFor d) := by
  unfold Section.applicabilityFor
  rw [h.id_eq]
  rcases h.applicability with ha | ha
  · rw [ha]
    cases s.applicability.get? d with
    | none => exact .error _
    | some a => exact .ok (.inl rfl)
  · rw [ha]
    cases s.applicability.get? d with
    | none => exact .error _
    | some a => exact .ok (.inr rfl)

end Section

theorem Applicability.relaxed_eq_omitted_iff {a b : Applicability} (h : b = a ∨ b = a.relaxed) :
    b = .omitted ↔ a = .omitted := by
  rcases h with rfl | rfl
  · rfl
  · cases a <;> simp [relaxed]

namespace Composer

variable {c : Composer} {s t : Section} {index index' : ShapeIndex}

def ResultsWiden (narrow wide : List Field × ShapeIndex) : Prop :=
  List.Forall₂ Field.WidensTo narrow.1 wide.1 ∧ ShapeIndex.WidensTo narrow.2 wide.2

def ResultWidens (narrow wide : Option Field × ShapeIndex) : Prop :=
  Option.Rel Field.WidensTo narrow.1 wide.1 ∧ ShapeIndex.WidensTo narrow.2 wide.2

theorem fieldOf_widensTo (h : s.RelaxesTo c.documentType t) {a b : Applicability}
    (hab : b = a ∨ b = a.relaxed) {shape shape' : Shape} (hshape : shape.WidensTo shape') :
    Field.WidensTo (fieldOf s a shape) (fieldOf t b shape') := by
  refine ⟨by rw [fieldOf, fieldOf, h.name_eq], ?_⟩
  rcases hab with rfl | rfl
  · unfold fieldOf
    split_ifs
    · exact hshape.orAbsent
    · exact hshape
  · cases a with
    | required => exact hshape.to_orAbsent
    | optional => exact hshape.orAbsent
    | omitted => exact hshape

/-- Whether children are registered is asked of sections that are alike, with the same answer. -/
theorem checkChildren_eq (hindex : ShapeIndex.WidensTo index index') {below below' : List Section}
    (h : List.Forall₂ (Section.RelaxesTo c.documentType) below below') :
    c.checkChildren index' below' = c.checkChildren index below := by
  induction h with
  | nil => rfl
  | @cons u v _ _ huv _ ih =>
    rw [checkChildren, checkChildren, huv.isPlaceholder_eq]
    cases u.isPlaceholder with
    | true => exact ih
    | false =>
      have ha := huv.applicabilityFor
      rw [if_neg Bool.false_ne_true, if_neg Bool.false_ne_true]
      revert ha
      cases u.applicabilityFor c.documentType with
      | error fault =>
        intro ha
        rw [(ha.error_iff fault).mpr rfl]
        rfl
      | ok a =>
        intro ha
        obtain ⟨b, hb⟩ := ha.ok_iff.mpr ⟨a, rfl⟩
        rw [hb] at ha ⊢
        simp only [bind, Except.bind, Applicability.relaxed_eq_omitted_iff ha.rel, huv.id_eq,
          huv.name_eq, hindex.contains_eq, ih]

section

variable {children children' : ShapeIndex → Composition (List Field × ShapeIndex)}
  (hchildren : ∀ i i', ShapeIndex.WidensTo i i' → Agree ResultsWiden (children i) (children' i'))
  (hindex : ShapeIndex.WidensTo index index')

include hchildren hindex

theorem make_agree (factory : Factory) (id : String) :
    Agree (fun a b => a.1.WidensTo b.1 ∧ ShapeIndex.WidensTo a.2 b.2)
      (c.make factory id children index) (c.make factory id children' index') := by
  cases factory with
  | composite =>
    refine (hchildren _ _ hindex).bind fun a b hab => .ok ?_
    have hrecord := Shape.WidensTo.record hab.1
    exact ⟨hrecord, hab.2.insert id hrecord⟩
  | container =>
    refine (hchildren _ _ hindex).bind fun a b hab => .ok ?_
    exact ⟨.refl _, hab.2.insert id (.refl _)⟩
  | leaf shape => exact .ok ⟨.refl _, hindex.insert id (.refl _)⟩
  | shared shape ids => exact .ok ⟨.refl _, hindex.insert_foldl shape ids⟩

/-- A section and a relaxed one are composed alike, if what is below them is. -/
theorem composeSection_agree (h : s.RelaxesTo c.documentType t) {below below' : List Section}
    (hbelow : List.Forall₂ (Section.RelaxesTo c.documentType) below below') :
    Agree ResultWidens (c.composeSection s below children index)
      (c.composeSection t below' children' index') := by
  rw [composeSection, composeSection, h.isPlaceholder_eq]
  cases s.isPlaceholder with
  | true => exact .ok ⟨.none, hindex⟩
  | false =>
    rw [if_neg Bool.false_ne_true, if_neg Bool.false_ne_true]
    refine h.applicabilityFor.bind fun a b hab => ?_
    -- what becomes optional was required before, so both are omitted or neither is
    simp only [Applicability.relaxed_eq_omitted_iff hab]
    split_ifs
    · exact .ok ⟨.none, hindex⟩
    · unfold composeApplicable
      rw [h.id_eq]
      cases c.factory? s.id with
      | none =>
        rw [h.name_eq]
        exact .error _
      | some factory =>
        refine (make_agree hchildren hindex factory s.id).bind fun made made' hmade => ?_
        obtain ⟨shape, index⟩ := made
        obtain ⟨shape', index'⟩ := made'
        obtain ⟨hshape, hindex⟩ := hmade
        simp only [hindex.contains_eq, checkChildren_eq hindex hbelow]
        split_ifs
        · cases c.checkChildren index below with
          | error fault => exact .error fault
          | ok _ => exact .ok ⟨.some (fieldOf_widensTo h hab hshape), hindex⟩
        · exact .error _

end

theorem composeAll_agree {f g : Family} {relax : Section → Section} {ss : List Section}
    (h : ∀ s ∈ ss, (relax s).id = s.id ∧ ∀ i i', ShapeIndex.WidensTo i i' →
      Agree ResultWidens (c.compose (f.branch s) i) (c.compose (g.branch (relax s)) i'))
    (keys : List String) (hindex : ShapeIndex.WidensTo index index') :
    Agree ResultsWiden (c.composeAll (ss.map f.branch) keys index)
      (c.composeAll ((ss.map relax).map g.branch) keys index') := by
  induction ss generalizing keys index index' with
  | nil => exact .ok ⟨.nil, hindex⟩
  | cons s rest ih =>
    obtain ⟨⟨hid, hcompose⟩, hrest⟩ := List.forall_mem_cons.mp h
    rw [List.map_cons, List.map_cons, List.map_cons, composeAll, composeAll]
    refine (hcompose _ _ hindex).bind fun a b hab => ?_
    obtain ⟨field, index⟩ := a
    obtain ⟨field', index'⟩ := b
    obtain ⟨hfield, hindex⟩ := hab
    simp only [Family.top_branch]
    cases hfield with
    | none => exact ih hrest keys hindex
    | @some field field' hfield =>
      unfold addField
      simp only [hfield.1, hid]
      split_ifs
      · exact .error _
      · exact (ih hrest _ hindex).bind fun a b hab => .ok ⟨.cons hfield hab.1, hab.2⟩

end Composer

theorem Family.childrenOf_relaxed (f : Family) (d : DocumentType) (chosen : Section → Bool)
    (parent : String) : (f.relaxed d chosen).childrenOf parent =
      (f.childrenOf parent).map fun s => if chosen s then s.relaxed d else s := by
  rw [childrenOf, relaxed, List.filter_map]
  congr 1
  refine List.filter_congr fun s _ => ?_
  simp only [Function.comp, Section.parentId?, (s.relaxesTo_relaxed d (chosen s)).id_eq]

namespace Registry

variable {f : Family} {d : DocumentType} {chosen : Section → Bool}

/-- The sections under a parent are composed in step with those of the relaxed family. -/
theorem composeAll_relaxed (r : Registry) (parent : String) (keys : List String)
    {index index' : ShapeIndex} (hindex : ShapeIndex.WidensTo index index') :
    Agree Composer.ResultsWiden
      ((r.composer f d).composeAll ((f.childrenOf parent).map f.branch) keys index)
      ((r.composer f d).composeAll
        (((f.relaxed d chosen).childrenOf parent).map (f.relaxed d chosen).branch) keys
        index') := by
  -- the two indexes are not the same below a section, so the claim is for all that are related
  induction parent using f.children_induction generalizing keys index index' with
  | step parent ih =>
    rw [Family.childrenOf_relaxed]
    refine Composer.composeAll_agree (fun s hs => ?_) keys hindex
    have hrelax := s.relaxesTo_relaxed d (chosen s)
    refine ⟨hrelax.id_eq, fun i i' hi => ?_⟩
    rw [Family.branch_eq, Family.branch_eq, Composer.compose, Composer.compose,
      Family.map_top_branch, Family.map_top_branch, hrelax.id_eq]
    refine Composer.composeSection_agree (fun i i' hi => ih s hs [] hi) hi hrelax ?_
    rw [Family.childrenOf_relaxed, List.forall₂_map_right_iff, List.forall₂_same]
    exact fun u _ => u.relaxesTo_relaxed d (chosen u)

/-- If sections that a document type requires become optional, composition succeeds as it did or
fails with the same fault. It gives the same keys and ids, and a schema that accepts what the
schema before accepted, whole or section by section, with the same data. -/
theorem composeFamily_relaxed (r : Registry) (f : Family) (d : DocumentType)
    (chosen : Section → Bool) :
    ((∃ wide, r.composeFamily (f.relaxed d chosen) d = .ok wide) ↔
        ∃ schema, r.composeFamily f d = .ok schema) ∧
      (∀ fault, r.composeFamily (f.relaxed d chosen) d = .error fault ↔
        r.composeFamily f d = .error fault) ∧
      ∀ schema wide, r.composeFamily f d = .ok schema →
        r.composeFamily (f.relaxed d chosen) d = .ok wide →
        wide.keys = schema.keys ∧ wide.byId.keys = schema.byId.keys ∧
          ∀ content data,
            (schema.validate content = .ok data → wide.validate content = .ok data) ∧
            ∀ id, schema.validateSection? id content = some (.ok data) →
              wide.validateSection? id content = some (.ok data) := by
  have hagree : Agree (fun schema wide : FamilySchema =>
      List.Forall₂ Field.WidensTo schema.fields wide.fields ∧
        ShapeIndex.WidensTo schema.byId wide.byId)
      (r.composeFamily f d) (r.composeFamily (f.relaxed d chosen) d) := by
    rw [composeFamily_eq, composeFamily_eq]
    exact (composeAll_relaxed r f.rootId [] .empty).map fun _ _ h => h
  refine ⟨hagree.ok_iff, hagree.error_iff, fun schema wide hschema hwide => ?_⟩
  rw [hschema, hwide] at hagree
  obtain ⟨hfields, hindex⟩ := hagree.rel
  refine ⟨Shape.keys_eq_of_widensTo hfields, hindex.keys_eq, fun content data => ⟨?_, ?_⟩⟩
  · exact (Shape.WidensTo.record hfields).accepts content data
  · intro id hok
    have hid := hindex id
    unfold FamilySchema.validateSection? FamilySchema.section? at hok ⊢
    obtain ⟨shape, hshape, hvalid⟩ := Option.map_eq_some_iff.mp hok
    obtain ⟨shape', hshape', hwidens⟩ := hindex.get? hshape
    rw [hshape', Option.map_some, hwidens.accepts content data hvalid]

end Registry

/-- Factories of which the second registers the third section along with its own. -/
def chartRegistry : Registry :=
  Registry.empty.withTable 9 (.ofPairs [("9.1", .composite),
    ("9.1.1", .shared (.diagram .graph) ["9.1.1", "9.1.1.1"]), ("9.1.1.1", .composite)])

/-- A section below a composite becomes optional: content that has it is taken as before, content
that lacks it is taken too. -/
theorem chart_composeFamily_relaxed :
    let relaxed := deliveryFamily.relaxed .plan fun s => s.id == "9.1.1"
    let chart := Json.obj [("diagram", .str "graph TD")]
    let read := Json.obj [("diagram", .obj [("content", .str ""), ("diagramType", .str "graph"),
      ("direction", .str "TD"), ("type", .str "mermaid")])]
    let content := Json.obj [("risks", .obj [("owners", chart)])]
    let data := Json.obj [("risks", .obj [("owners", read)])]
    let lacking := Json.obj [("risks", .obj [])]
    ∃ schema wide, chartRegistry.composeFamily deliveryFamily .plan = .ok schema ∧
      chartRegistry.composeFamily relaxed .plan = .ok wide ∧
      schema.validate content = .ok data ∧
      schema.validateSection? "9.1.1.1" chart = some (.ok read) ∧
      (wide.keys = schema.keys ∧ wide.byId.keys = schema.byId.keys ∧
        wide.validate content = .ok data ∧
        wide.validateSection? "9.1.1.1" chart = some (.ok read)) ∧
      (schema.validate lacking).isOk = false ∧ (wide.validate lacking).isOk = true := by
  dsimp only
  refine ⟨_, _, by rfl, by rfl, by decide +kernel, by decide +kernel, ?_, by decide +kernel,
    by decide +kernel⟩
  obtain ⟨-, -, hwiden⟩ := Registry.composeFamily_relaxed chartRegistry deliveryFamily .plan
    fun s => s.id == "9.1.1"
  obtain ⟨hkeys, hids, haccepts⟩ := hwiden _ _ (by rfl) (by rfl)
  exact ⟨hkeys, hids, (haccepts _ _).1 (by decide +kernel),
    (haccepts _ _).2 "9.1.1.1" (by decide +kernel)⟩

end DocSections
