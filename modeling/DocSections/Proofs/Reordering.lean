import DocSections.Proofs.Forest
import DocSections.Proofs.Sectionwise
import Mathlib.Data.List.Perm.Basic
import Mathlib.Data.Option.Basic

/-! The order in which a family lists its sections. It decides in which order records declare their
fields, and so in which order issues are reported. What is composed and which content is accepted
does not depend on it: what fits, what is reached and which shape a section has is said of the
sections of each parent as a set. -/

namespace DocSections

/-- Two verdicts on one content that differ at most in the order of the issues. -/
inductive SameVerdict : Except (List Issue) Json → Except (List Issue) Json → Prop
  | accepted (data : Json) : SameVerdict (.ok data) (.ok data)
  | rejected {issues others : List Issue} : others.Perm issues →
      SameVerdict (.error issues) (.error others)

theorem Check.unknownIssues_eq_of_perm {declared others : List String} (h : others.Perm declared)
    (members : List (String × Json)) :
    unknownIssues others members = unknownIssues declared members := by
  have hkeys : unknownKeys others members = unknownKeys declared members := by
    refine List.filter_congr fun key _ => ?_
    rw [List.contains_eq_mem, List.contains_eq_mem]
    simp only [h.mem_iff]
  rw [unknownIssues, unknownIssues, hkeys]

namespace Shape

/-- Whether two shapes say the same of every value, up to the order of the issues. -/
structure SameUpToOrder (s t : Shape) : Prop where
  isOptional_eq : t.isOptional = s.isOptional
  issues_perm : ∀ value, (t.issues value).Perm (s.issues value)
  data_eq : t.data = s.data

namespace SameUpToOrder

variable {s t : Shape}

theorem refl (s : Shape) : s.SameUpToOrder s := ⟨rfl, fun _ => .refl _, rfl⟩

theorem orAbsent (h : s.SameUpToOrder t) : s.orAbsent.SameUpToOrder t.orAbsent := by
  refine ⟨by rw [isOptional_orAbsent, isOptional_orAbsent], fun value => ?_, ?_⟩
  · rw [issues_orAbsent, issues_orAbsent]
    exact h.issues_perm value
  · rw [data_orAbsent, data_orAbsent, h.data_eq]

theorem placed {c : Composer} {u : Section} (h : s.SameUpToOrder t) :
    (c.placed u s).2.SameUpToOrder (c.placed u t).2 := by
  unfold Composer.placed
  split_ifs
  · exact h.orAbsent
  · exact h

theorem validate (h : s.SameUpToOrder t) (value : Json) :
    SameVerdict (s.validate value) (t.validate value) := by
  have hperm := h.issues_perm value
  rw [validate_eq, validate_eq, h.data_eq]
  by_cases hnone : s.issues value = []
  · rw [hnone] at hperm
    rw [if_pos hnone, if_pos hperm.eq_nil]
    exact .accepted _
  · rw [if_neg hnone, if_neg fun ht => hnone (ht ▸ hperm).nil_eq.symm]
    exact .rejected hperm

theorem memberIssues_perm (h : s.SameUpToOrder t) (key : String) (members : List (String × Json)) :
    (Check.memberIssues key t.isOptional t.issues members).Perm
      (Check.memberIssues key s.isOptional s.issues members) := by
  unfold Check.memberIssues
  rw [h.isOptional_eq]
  cases Assoc.find? key members with
  | none => exact .refl _
  | some value => exact (h.issues_perm value).map _

section

variable {α : Type} {us vs : List α} {g k : α → Field} (hperm : vs.Perm us)
  (hfields : ∀ u ∈ us, (k u).1 = (g u).1 ∧ (g u).2.SameUpToOrder (k u).2)

include hperm hfields

theorem keys_perm : ((vs.map k).map Prod.fst).Perm ((us.map g).map Prod.fst) := by
  have hkeys : (us.map k).map Prod.fst = (us.map g).map Prod.fst := by
    rw [List.map_map, List.map_map]
    exact List.map_congr_left fun u hu => (hfields u hu).1
  rw [← hkeys]
  exact (hperm.map k).map Prod.fst

theorem fieldIssues_perm (members : List (String × Json)) :
    (fieldIssues (vs.map k) members).Perm (fieldIssues (us.map g) members) := by
  rw [fieldIssues_eq_flatMap, fieldIssues_eq_flatMap, List.flatMap_map, List.flatMap_map]
  refine (hperm.flatMap_right _).trans (List.Perm.flatMap_left us fun u hu => ?_)
  obtain ⟨hkey, hshape⟩ := hfields u hu
  rw [hkey]
  exact hshape.memberIssues_perm (g u).1 members

theorem fieldData_perm (members : List (String × Json)) :
    (fieldData (vs.map k) members).Perm (fieldData (us.map g) members) := by
  rw [fieldData_eq_flatMap, fieldData_eq_flatMap, List.flatMap_map, List.flatMap_map]
  refine (hperm.flatMap_right _).trans (List.Perm.flatMap_left us fun u hu => ?_)
  obtain ⟨hkey, hshape⟩ := hfields u hu
  rw [hkey, hshape.data_eq]

end

end SameUpToOrder

/-- Data is given under the keys of the fields, and under each at most once. -/
theorem sublist_keys_fieldData (fields : List (String × Shape)) (members : List (String × Json)) :
    ((fieldData fields members).map Prod.fst).Sublist (fields.map Prod.fst) := by
  induction fields with
  | nil => exact .slnil
  | cons field rest ih =>
    obtain ⟨key, shape⟩ := field
    rw [fieldData, List.map_append, List.map_cons, ← List.singleton_append]
    refine List.Sublist.append ?_ ih
    unfold Check.memberData
    cases Assoc.find? key members with
    | none => exact List.nil_sublist _
    | some value => exact .refl _

/-- A record with its fields in another order, and with fields that say the same up to order. -/
theorem SameUpToOrder.record {α : Type} {us vs : List α} {g k : α → Field} (hperm : vs.Perm us)
    (hfields : ∀ u ∈ us, (k u).1 = (g u).1 ∧ (g u).2.SameUpToOrder (k u).2)
    (hkeys : ((us.map g).map Prod.fst).Nodup) :
    (Shape.record (us.map g)).SameUpToOrder (Shape.record (vs.map k)) := by
  refine ⟨rfl, fun value => ?_, funext fun value => ?_⟩
  · cases value with
    | obj members =>
      rw [issues, issues, Check.unknownIssues_eq_of_perm (keys_perm hperm hfields)]
      exact (fieldIssues_perm hperm hfields members).append_right _
    | _ => exact .refl _
  · cases value with
    | obj members =>
      rw [Shape.data, Shape.data, Json.ofMembers, Json.ofMembers]
      congr 1
      exact Assoc.ofPairs_eq_of_perm ((sublist_keys_fieldData _ members).nodup hkeys)
        (fieldData_perm hperm hfields members)
    | _ => rfl

end Shape

namespace Family

def relisted (f : Family) (ss : List Section) : Family := { f with sections := ss }

variable {f g : Family} {d : DocumentType} {enters : Section → Prop} {root : String} {s : Section}

/-- A walk sees the children of a section, whatever their order. -/
theorem Visited.of_mem_childrenOf
    (h : ∀ parent s, s ∈ f.childrenOf parent → s ∈ g.childrenOf parent)
    (hs : f.Visited d enters root s) : g.Visited d enters root s := by
  induction hs with
  | top hs ha => exact .top (h _ _ hs) ha
  | child _ he hs ha ih => exact .child ih he (h _ _ hs) ha

variable {ss : List Section} (hperm : ss.Perm f.sections)

include hperm

theorem childrenOf_perm (parent : String) :
    ((f.relisted ss).childrenOf parent).Perm (f.childrenOf parent) :=
  hperm.filter _

theorem visited_iff_of_perm :
    (f.relisted ss).Visited d enters root s ↔ f.Visited d enters root s :=
  ⟨.of_mem_childrenOf fun parent _ => (childrenOf_perm hperm parent).mem_iff.mp,
    .of_mem_childrenOf fun parent _ => (childrenOf_perm hperm parent).mem_iff.mpr⟩

/-- The sections of a sound family may be listed in any order. -/
theorem checkStructure_of_perm (h : f.checkStructure = .ok ()) :
    (f.relisted ss).checkStructure = .ok () := by
  obtain ⟨hids, hparents⟩ := checkStructure_eq_ok_iff.mp h
  rw [checkIds_eq_ok_iff] at hids
  rw [checkParents_eq_ok_iff] at hparents
  rw [checkStructure_eq_ok_iff, checkIds_eq_ok_iff, checkParents_eq_ok_iff]
  refine ⟨⟨fun s hs => hids.1 s (hperm.subset hs), (hperm.map Section.id).nodup_iff.mpr hids.2⟩, ?_⟩
  intro s hs parent hparent
  rcases hparents s (hperm.subset hs) parent hparent with hroot | ⟨p, hp, hid⟩
  · exact .inl hroot
  · exact .inr ⟨p, hperm.symm.subset hp, hid⟩

end Family

namespace Registry

variable {r : Registry} {f : Family} {d : DocumentType} {schema other : FamilySchema}
  {ss : List Section} {s : Section}

theorem Fits.of_perm (hperm : ss.Perm f.sections) (h : r.Fits f d) :
    r.Fits (f.relisted ss) d where
  declares s hs := by
    refine h.declares s ?_
    rcases hs with hs | ⟨p, hp, hs⟩
    · exact .inl ((Family.childrenOf_perm hperm _).subset hs)
    · exact .inr ⟨p, (Family.visited_iff_of_perm hperm).mp hp,
        (Family.childrenOf_perm hperm _).subset hs⟩
  hasFactory s hs := h.hasFactory s ((Family.visited_iff_of_perm hperm).mp hs)
  leavesEnd p s hp hs := h.leavesEnd p s ((Family.visited_iff_of_perm hperm).mp hp)
    ((Family.visited_iff_of_perm hperm).mp hs)
  keysDiffer s t hs ht := h.keysDiffer s t ((Family.visited_iff_of_perm hperm).mp hs)
    ((Family.visited_iff_of_perm hperm).mp ht)

theorem Unshared.relisted (h : r.Unshared f.id) : r.Unshared (f.relisted ss).id := h

/-- A section that is reached has the same shape up to order. -/
theorem shapeOf_sameUpToOrder (hperm : ss.Perm f.sections) (h : r.composeFamily f d = .ok schema)
    (hs : r.Runs f d s) :
    ((r.composer f d).shapeOf (f.branch s)).SameUpToOrder
      ((r.composer f d).shapeOf ((f.relisted ss).branch s)) := by
  induction hid : s.id using f.children_induction generalizing s with
  | step parent ih =>
    subst hid
    have hsettled := settled_of_runs h hs
    obtain ⟨factory, hfactory⟩ := Option.isSome_iff_exists.mp hsettled.hasFactory
    rw [Family.branch_eq, Family.branch_eq, Composer.shapeOf, Composer.shapeOf, hfactory,
      Composer.fieldsOf_map_branch, Composer.fieldsOf_map_branch]
    cases factory with
    | composite =>
      have ho : (r.composer f d).Opens s := (Composer.opens_iff hfactory).mpr rfl
      refine .record ((Family.childrenOf_perm hperm s.id).filter _) (fun u hu => ?_) ?_
      · obtain ⟨hu, ha⟩ := List.mem_filter.mp hu
        have ha := of_decide_eq_true ha
        exact ⟨rfl, .placed (ih u hu (.child hs ho hu ha) rfl)⟩
      · rw [List.map_map]
        exact hsettled.keysDiffer ho
    | container => exact .refl _
    | leaf shape => exact .refl _
    | shared shape ids => exact .refl _

section

variable (hperm : ss.Perm f.sections) (h : r.composeFamily f d = .ok schema)
  (h' : r.composeFamily (f.relisted ss) d = .ok other)

include hperm h h'

theorem shape_sameUpToOrder : schema.shape.SameUpToOrder other.shape := by
  rw [FamilySchema.shape, FamilySchema.shape, fields_eq_map h, fields_eq_map h']
  refine .record ((Family.childrenOf_perm hperm f.rootId).filter _) (fun u hu => ?_) ?_
  · obtain ⟨hu, ha⟩ := List.mem_filter.mp hu
    exact ⟨rfl, .placed (shapeOf_sameUpToOrder hperm h (.top hu (of_decide_eq_true ha)))⟩
  · obtain ⟨hkeys, hnodup⟩ := keys_eq_map h
    rw [List.map_map]
    exact hkeys ▸ hnodup

variable (hr : r.Unshared f.id)

include hr

theorem mem_keys_byId_iff_of_perm (id : String) :
    id ∈ other.byId.keys ↔ id ∈ schema.byId.keys := by
  rw [mem_keys_byId_iff hr h, mem_keys_byId_iff hr.relisted h']
  simp only [Family.Reached, Family.visited_iff_of_perm hperm]
  rfl

theorem section?_sameUpToOrder (id : String) :
    Option.Rel Shape.SameUpToOrder (schema.section? id) (other.section? id) := by
  by_cases hid : id ∈ schema.byId.keys
  · obtain ⟨s, hs, rfl⟩ := (mem_keys_byId_iff hr h).mp hid
    have hs' : (f.relisted ss).Reached d s := (Family.visited_iff_of_perm hperm).mpr hs
    have hruns := runs_of_reached hr h hs
    have hruns' := runs_of_reached hr.relisted h' hs'
    rw [section?_eq_shapeOf hr h hruns, section?_eq_shapeOf hr.relisted h' hruns']
    exact .some (shapeOf_sameUpToOrder hperm h hruns)
  · have hid' := (mem_keys_byId_iff_of_perm hperm h h' hr id).not.mpr hid
    rw [← OrderedMap.contains_iff_mem_keys, OrderedMap.contains, Bool.not_eq_true,
      Option.isSome_eq_false_iff, Option.isNone_iff_eq_none] at hid hid'
    rw [FamilySchema.section?, FamilySchema.section?, hid, hid']
    exact .none

end

/-- Composition of a sound family succeeds in every order of its sections or in none. The schemas
then hold the same ids and give the same verdict on every content, whole or section by section: the
same data, or the same issues in another order. -/
theorem composeFamily_relisted (hf : f.checkStructure = .ok ()) (hr : r.Unshared f.id)
    (hperm : ss.Perm f.sections) :
    ((∃ other, r.composeFamily (f.relisted ss) d = .ok other) ↔
        ∃ schema, r.composeFamily f d = .ok schema) ∧
      ∀ schema other, r.composeFamily f d = .ok schema →
        r.composeFamily (f.relisted ss) d = .ok other →
        other.byId.keys = schema.byId.keys ∧
          ∀ content, SameVerdict (schema.validate content) (other.validate content) ∧
            ∀ id, Option.Rel SameVerdict (schema.validateSection? id content)
              (other.validateSection? id content) := by
  have hf' := Family.checkStructure_of_perm hperm hf
  refine ⟨⟨?_, ?_⟩, fun schema other h h' => ⟨?_, fun content => ⟨?_, fun id => ?_⟩⟩⟩
  · rintro ⟨other, h'⟩
    have hfits : r.Fits ((f.relisted ss).relisted f.sections) d :=
      (fits_of_composeFamily hr.relisted h').of_perm hperm.symm
    exact composeFamily_of_fits hr hfits hf
  · rintro ⟨schema, h⟩
    exact composeFamily_of_fits hr.relisted ((fits_of_composeFamily hr h).of_perm hperm) hf'
  · refine OrderedMap.keys_eq_of_contains_eq fun id => Bool.eq_iff_iff.mpr ?_
    rw [OrderedMap.contains_iff_mem_keys, OrderedMap.contains_iff_mem_keys]
    exact mem_keys_byId_iff_of_perm hperm h h' hr id
  · exact (shape_sameUpToOrder hperm h h').validate content
  · have hsection := section?_sameUpToOrder hperm h h' hr id
    unfold FamilySchema.validateSection?
    generalize schema.section? id = found, other.section? id = found' at hsection
    cases hsection with
    | none => exact .none
    | some hshape => exact .some (hshape.validate content)

end Registry

def branchedFamily : Family :=
  { deliveryFamily with
    sections := [requiredSection "9.1" "Risks", requiredSection "9.1.1" "Owners",
      requiredSection "9.1.2" "Dates", requiredSection "9.2" "Notes"] }

def branchedRegistry : Registry :=
  Registry.empty.withTable 9 (.ofPairs [("9.1", .composite), ("9.1.1", Registry.fixed .textList),
    ("9.1.2", .container), ("9.2", Registry.fixed .textList)])

theorem unshared_branchedRegistry : branchedRegistry.Unshared branchedFamily.id :=
  Registry.forall_factory_withTable (P := fun factory => factory.isShared = false)
    Registry.forall_factory_empty (by decide)

/-- Read backwards, with children before their parents, the family reports the same issues
backwards. -/
theorem branched_relisted :
    let backwards := branchedFamily.sections.reverse
    let content := Json.obj [("risks", .obj [])]
    let owners : Issue := ⟨.required, [.key "risks", .key "owners"], "Required"⟩
    let dates : Issue := ⟨.required, [.key "risks", .key "dates"], "Required"⟩
    let notes : Issue := ⟨.required, [.key "notes"], "Required"⟩
    branchedFamily.checkStructure = .ok () ∧ branchedRegistry.Unshared branchedFamily.id ∧
      backwards.Perm branchedFamily.sections ∧
      ∃ schema other, branchedRegistry.composeFamily branchedFamily .plan = .ok schema ∧
        branchedRegistry.composeFamily (branchedFamily.relisted backwards) .plan = .ok other ∧
        schema.validate content = .error [owners, dates, notes] ∧
        other.validate content = .error [notes, dates, owners] ∧
        other.byId.keys = schema.byId.keys ∧
        SameVerdict (schema.validate content) (other.validate content) ∧
        Option.Rel SameVerdict (schema.validateSection? "9.1" (.obj []))
          (other.validateSection? "9.1" (.obj [])) := by
  dsimp only
  have hperm : branchedFamily.sections.reverse.Perm branchedFamily.sections :=
    List.reverse_perm _
  refine ⟨by rfl, unshared_branchedRegistry, hperm, _, _, by rfl, by rfl, by rfl, by rfl, ?_⟩
  obtain ⟨-, hsame⟩ := Registry.composeFamily_relisted (d := .plan) (f := branchedFamily) (by rfl)
    unshared_branchedRegistry hperm
  obtain ⟨hkeys, hverdicts⟩ := hsame _ _ (by rfl) (by rfl)
  exact ⟨hkeys, (hverdicts _).1, (hverdicts (.obj [])).2 "9.1"⟩

end DocSections
