import DocSections.Proofs.Location
import DocSections.Proofs.Registration
import DocSections.Proofs.Sectionwise

/-! Which members must be there. A record reports a key that is missing unless the shape of its
field may be absent, and the field of a required section has the shape that its factory made. So a
required section is mandatory exactly if its factory does not make a shape that may be absent. In
the content of a family, a section answers for its own place alone: the keys of a record are
different, so an issue at a place comes from the one section that stands there. -/

namespace DocSections

namespace Issue

/-- That an object lacks a key. -/
def missing (key : String) : Issue := ⟨.required, [.key key], "Required"⟩

theorem under_inj {path : Path} {i j : Issue} : i.under path = j.under path ↔ i = j := by
  obtain ⟨code, here, message⟩ := i
  obtain ⟨code', here', message'⟩ := j
  simp [under]

end Issue

namespace Json

variable {path : Path} {value part : Json}

theorem at?_append (path rest : Path) (value : Json) :
    value.at? (path ++ rest) = (value.at? path).bind (at? rest) := by
  induction path generalizing value with
  | nil => rfl
  | cons segment path ih =>
    rw [List.cons_append, at?, at?, Option.bind_assoc]
    exact Option.bind_congr fun part _ => ih part

theorem at?_key_eq_some_iff {key : String} : value.at? (.key key :: path) = some part ↔
    ∃ members member, value = .obj members ∧ Assoc.find? key members = some member ∧
      member.at? path = some part := by
  rw [at?, Option.bind_eq_some_iff]
  cases value with
  | obj members => simp [step?, member?]
  | _ => simp [step?, member?]

theorem at?_index_eq_some_iff {i : Nat} : value.at? (.index i :: path) = some part ↔
    ∃ items item, value = .arr items ∧ items[i]? = some item ∧ item.at? path = some part := by
  rw [at?, Option.bind_eq_some_iff]
  cases value with
  | arr items => simp [step?]
  | _ => simp [step?]

end Json

namespace Check

variable {key : String} {members : List (String × Json)}

theorem own_eq_of_mem_memberIssues {own : String} {mayLack : Bool} {issues : Json → List Issue}
    {i : Issue} (h : i ∈ memberIssues own mayLack issues members)
    (hkey : i.path.head? = some (.key key)) : own = key := by
  have hhead := head?_path_of_mem_memberIssues h
  rw [hkey, Option.some.injEq, PathSegment.key.injEq] at hhead
  exact hhead.symm

theorem missing_mem_memberIssues_iff (hlacks : key ∉ members.map Prod.fst) {own : String}
    {mayLack : Bool} {issues : Json → List Issue} :
    Issue.missing key ∈ memberIssues own mayLack issues members ↔ own = key ∧ mayLack = false := by
  constructor
  · intro h
    have hown : own = key := own_eq_of_mem_memberIssues h rfl
    rcases mem_memberIssues_iff.mp h with ⟨-, hmay, -⟩ | ⟨v, hfind, -⟩
    · exact ⟨hown, hmay⟩
    · rw [hown, Assoc.find?_eq_none_iff.mpr hlacks] at hfind
      cases hfind
  · rintro ⟨rfl, hmay⟩
    exact mem_memberIssues_iff.mpr (.inl ⟨Assoc.find?_eq_none_iff.mpr hlacks, hmay, rfl⟩)

theorem missing_not_mem_unknownIssues (declared : List String) :
    Issue.missing key ∉ unknownIssues declared members := by
  unfold unknownIssues
  cases unknownKeys declared members with
  | nil => exact List.not_mem_nil
  | cons unknown rest =>
    intro h
    have hcode : IssueCode.required = .unrecognizedKeys :=
      congrArg Issue.code (List.mem_singleton.mp h)
    cases hcode

theorem under_mem_memberIssues (mayLack : Bool) {issues : Json → List Issue} {value : Json}
    (hfind : Assoc.find? key members = some value) {i : Issue} {path : Path}
    (h : i.under path ∈ issues value) :
    i.under (.key key :: path) ∈ memberIssues key mayLack issues members :=
  mem_memberIssues_iff.mpr
    (.inr ⟨value, hfind, _, h, (Issue.under_under [.key key] path i).symm⟩)

theorem under_mem_listIssues {item : Json → List Issue} {values : List Json} {j : Nat}
    {value : Json} (hj : values[j]? = some value) {i : Issue} {path : Path}
    (h : i.under path ∈ item value) :
    i.under (.index j :: path) ∈ listIssues item (.arr values) := by
  cases values with
  | nil => cases hj
  | cons v rest =>
    rw [listIssues]
    · refine mem_itemIssues_iff.mpr ⟨j, value, hj, i.under path, h, ?_⟩
      rw [Nat.zero_add, Issue.under_under, List.singleton_append]
    · exact List.cons_ne_nil v rest

end Check

namespace Shape

variable {fields : List Field} {key : String} {shape node : Shape}
  {members : List (String × Json)}

/-- A record that declares a key once reports that it is missing exactly if the shape of the field
may not be absent. -/
theorem missing_mem_issues_iff (hnodup : (fields.map Prod.fst).Nodup)
    (hfield : (key, shape) ∈ fields) (hlacks : key ∉ members.map Prod.fst) :
    Issue.missing key ∈ (record fields).issues (.obj members) ↔ shape.isOptional = false := by
  rw [issues, List.mem_append, or_iff_left (Check.missing_not_mem_unknownIssues _),
    fieldIssues_eq_flatMap, List.mem_flatMap]
  constructor
  · rintro ⟨own, hown, hmem⟩
    obtain ⟨hkey, hmay⟩ := (Check.missing_mem_memberIssues_iff hlacks).mp hmem
    have heq : own = (key, shape) :=
      List.inj_on_of_nodup_map hnodup hown hfield hkey
    rwa [heq] at hmay
  · intro hmay
    exact ⟨(key, shape), hfield, (Check.missing_mem_memberIssues_iff hlacks).mpr ⟨rfl, hmay⟩⟩

theorem reported_iff {value : Json} {i : Issue} :
    (∃ issues, shape.validate value = .error issues ∧ i ∈ issues) ↔ i ∈ shape.issues value := by
  constructor
  · rintro ⟨issues, herror, hmem⟩
    rwa [← (validate_eq_error_iff.mp herror).2]
  · intro hmem
    exact ⟨_, validate_eq_error_iff.mpr ⟨List.ne_nil_of_mem hmem, rfl⟩, hmem⟩

/-- At a key that a record declares once, it finds what the shape of the field finds there. -/
theorem under_key_mem_issues_iff (hnodup : (fields.map Prod.fst).Nodup)
    (hfield : (key, shape) ∈ fields) {value : Json} (hfind : Assoc.find? key members = some value)
    {i : Issue} :
    i.under [.key key] ∈ (record fields).issues (.obj members) ↔ i ∈ shape.issues value := by
  rw [issues, List.mem_append, fieldIssues_eq_flatMap, List.mem_flatMap]
  constructor
  · rintro (⟨own, hown, hmem⟩ | hunknown)
    · have hkey : own.1 = key := Check.own_eq_of_mem_memberIssues hmem rfl
      rw [List.inj_on_of_nodup_map hnodup hown hfield hkey] at hmem
      rcases Check.mem_memberIssues_iff.mp hmem with ⟨hnone, -⟩ | ⟨v, hv, inner, hinner, heq⟩
      · rw [hfind] at hnone
        cases hnone
      · rw [hfind, Option.some.injEq] at hv
        rwa [Issue.under_inj.mp heq, hv]
    · have hnil := Check.path_eq_nil_of_mem_unknownIssues hunknown
      cases hnil
  · intro hmem
    exact .inl ⟨(key, shape), hfield,
      Check.mem_memberIssues_iff.mpr (.inr ⟨value, hfind, i, hmem, rfl⟩)⟩

/-- What a node finds wrong with a part of a value is wrong with the value, seen from there. -/
theorem under_mem_issues {path : Path} (h : shape.Checks path node) {value part : Json}
    (hat : value.at? path = some part) {i : Issue} (hi : i ∈ node.issues part) :
    i.under path ∈ shape.issues value := by
  induction h generalizing value with
  | here shape =>
    rw [Json.at?_nil, Option.some.injEq] at hat
    rw [hat, i.under_nil]
    exact hi
  | optional _ ih =>
    rw [issues]
    exact ih hat hi
  | item index _ ih =>
    obtain ⟨items, item, rfl, hitem, hat⟩ := Json.at?_index_eq_some_iff.mp hat
    rw [issues]
    exact Check.under_mem_listIssues hitem (ih hat hi)
  | @field fields key shape _ path hfield _ ih =>
    obtain ⟨members, member, rfl, hfind, hat⟩ := Json.at?_key_eq_some_iff.mp hat
    rw [issues, List.mem_append, fieldIssues_eq_flatMap, List.mem_flatMap]
    exact .inl ⟨(key, shape), hfield, Check.under_mem_memberIssues _ hfind (ih hat hi)⟩
  | diagramText _ ih =>
    obtain ⟨members, member, rfl, hfind, hat⟩ := Json.at?_key_eq_some_iff.mp hat
    rw [issues, Check.diagramOrTextIssues, List.mem_append, List.mem_append, List.mem_append]
    have hmem := ih hat hi
    rw [textList, issues] at hmem
    exact .inl (.inl (.inr (Check.under_mem_memberIssues _ hfind hmem)))

end Shape

namespace Factory

def allowsAbsence (d : DocumentType) : Factory → Bool
  | leaf shape => (shape d).isOptional
  | shared shape _ => shape.isOptional
  | composite | container => false

theorem isOptional_shapeFor_eq (factory : Factory) (d : DocumentType) (fields : List Field) :
    (factory.shapeFor d fields).isOptional = factory.allowsAbsence d := by
  cases factory <;> rfl

end Factory

namespace Registry

variable {r : Registry} {f : Family} {d : DocumentType} {schema : FamilySchema} {s p : Section}

/-- Whether the shape that the factory of a section makes may be absent. -/
def allowsAbsence (r : Registry) (f : Family) (d : DocumentType) (s : Section) : Bool :=
  (r.factory? f.id s.id).any (·.allowsAbsence d)

theorem isOptional_made (r : Registry) (f : Family) (d : DocumentType) (s : Section) :
    (r.made f d s).isOptional = r.allowsAbsence f d s := by
  have hfactory : (r.composer f d).factory? s.id = r.factory? f.id s.id := rfl
  rw [made, Family.branch_eq, Composer.shapeOf, allowsAbsence, hfactory]
  cases r.factory? f.id s.id with
  | none => rfl
  | some factory => exact factory.isOptional_shapeFor_eq d _

theorem opens_of_composite (hp : r.factory? f.id p.id = some .composite) :
    (r.composer f d).Opens p := by
  have hfactory : (r.composer f d).factory? p.id = some .composite := hp
  exact (Composer.opens_iff hfactory).mpr rfl

/-- The place of a section in the content of its family: its key, behind those of the composite
sections above it. -/
inductive StandsAt (r : Registry) (f : Family) (d : DocumentType) : Section → Path → Prop
  | top {s : Section} : s ∈ f.topLevel → s.Applies d → StandsAt r f d s [.key (camelCase s.name)]
  | child {p s : Section} {path : Path} : StandsAt r f d p path →
      r.factory? f.id p.id = some .composite → s ∈ f.childrenOf p.id → s.Applies d →
      StandsAt r f d s (path ++ [.key (camelCase s.name)])

theorem StandsAt.runs {path : Path} (hs : r.StandsAt f d s path) : r.Runs f d s := by
  induction hs with
  | top hs ha => exact .top hs ha
  | child _ hfactory hs ha ih => exact .child ih (opens_of_composite hfactory) hs ha

theorem runs_of_encloses {fields : List Field} (ha : s.Applies d)
    (he : r.Encloses f d schema s fields) : r.Runs f d s := by
  cases he with
  | family htop => exact .top htop ha
  | composite hp hfactory hmem _ =>
    exact .child hp (opens_of_composite hfactory) hmem ha

section

variable (h : r.composeFamily f d = .ok schema)

include h

theorem nodup_keys_of_encloses {fields : List Field} (he : r.Encloses f d schema s fields) :
    (fields.map Prod.fst).Nodup := by
  cases he with
  | family _ => exact (keys_eq_map h).2
  | @composite p _ hp hfactory _ hmade =>
    rw [made_of_composite hfactory, Shape.record.injEq] at hmade
    rw [← hmade, Composer.map_fst_fieldsOf, Family.map_top_branch]
    exact (settled_of_runs h hp).keysDiffer (opens_of_composite hfactory)

/-- At the key of a section, the record around it finds what the section finds. -/
theorem under_key_mem_issues_iff_of_encloses (hs : r.Runs f d s) {fields : List Field}
    (he : r.Encloses f d schema s fields) {members : List (String × Json)} {value : Json}
    (hfind : Assoc.find? (camelCase s.name) members = some value) {i : Issue} :
    i.under [.key (camelCase s.name)] ∈ (Shape.record fields).issues (.obj members) ↔
      i ∈ (r.made f d s).issues value := by
  have hfield : (camelCase s.name, ((r.composer f d).placed s (r.made f d s)).2) ∈ fields :=
    placed_mem_of_encloses h hs he
  rw [Shape.under_key_mem_issues_iff (nodup_keys_of_encloses h he) hfield hfind,
    Composer.issues_placed]

/-- At the place of a section, the family finds what the section finds. -/
theorem StandsAt.under_mem_issues_iff {path : Path} (hs : r.StandsAt f d s path)
    {value part : Json} (hat : value.at? path = some part) {i : Issue} :
    i.under path ∈ schema.shape.issues value ↔ i ∈ (r.made f d s).issues part := by
  induction hs generalizing part i with
  | @top s htop ha =>
    obtain ⟨members, member, rfl, hfind, hpart⟩ := Json.at?_key_eq_some_iff.mp hat
    cases hpart
    exact under_key_mem_issues_iff_of_encloses h (.top htop ha) (.family htop) hfind
  | @child p s path hp hfactory hmem ha ih =>
    rw [Json.at?_append, Option.bind_eq_some_iff] at hat
    obtain ⟨above, habove, hat⟩ := hat
    obtain ⟨members, member, rfl, hfind, hpart⟩ := Json.at?_key_eq_some_iff.mp hat
    cases hpart
    have hmade := made_of_composite (d := d) hfactory
    rw [← Issue.under_under, ih habove, hmade]
    have hruns := StandsAt.runs (.child hp hfactory hmem ha)
    have hencloses : r.Encloses f d schema s _ := .composite hp.runs hfactory hmem hmade
    exact under_key_mem_issues_iff_of_encloses h hruns hencloses hfind

variable (hs : s.isPlaceholder = false) (hreq : s.applicability.get? d = some .required)

include hs hreq

theorem made_mem_of_encloses {fields : List Field} (he : r.Encloses f d schema s fields) :
    (camelCase s.name, r.made f d s) ∈ fields := by
  have hplaced := placed_mem_of_encloses h (runs_of_encloses ⟨hs, .inl hreq⟩ he) he
  have hnot : ¬ s.applicability.get? (r.composer f d).documentType = some .optional := by
    intro hopt
    have heq : some Applicability.required = some .optional := hreq.symm.trans hopt
    cases heq
  rwa [Composer.placed, if_neg hnot] at hplaced

theorem missing_reported_iff_of_encloses {fields : List Field}
    (he : r.Encloses f d schema s fields) {members : List (String × Json)}
    (hlacks : camelCase s.name ∉ members.map Prod.fst) :
    (∃ issues, (Shape.record fields).validate (.obj members) = .error issues ∧
      Issue.missing (camelCase s.name) ∈ issues) ↔ r.allowsAbsence f d s = false := by
  rw [← isOptional_made, Shape.reported_iff]
  exact Shape.missing_mem_issues_iff (nodup_keys_of_encloses h he)
    (made_mem_of_encloses h hs hreq he) hlacks

/-- Content without the key of a required section is answered by an issue at that key exactly if
the factory of the section does not make a shape that may be absent. So it is at the top, and for
the children of a composite section, by its record and at its place in the content of the family;
and an issue of that record shows wherever else it checks the content. -/
theorem absence_reported_iff :
    (s ∈ f.topLevel → ∀ members : List (String × Json),
      camelCase s.name ∉ members.map Prod.fst →
        ((∃ issues, schema.validate (.obj members) = .error issues ∧
          Issue.missing (camelCase s.name) ∈ issues) ↔ r.allowsAbsence f d s = false)) ∧
      ∀ p, r.Runs f d p → r.factory? f.id p.id = some .composite → s ∈ f.childrenOf p.id →
        ∀ members : List (String × Json), camelCase s.name ∉ members.map Prod.fst →
          ((∃ issues, (r.made f d p).validate (.obj members) = .error issues ∧
            Issue.missing (camelCase s.name) ∈ issues) ↔ r.allowsAbsence f d s = false) ∧
          (r.allowsAbsence f d s = false → ∀ path value,
            schema.shape.Checks path (r.made f d p) → value.at? path = some (.obj members) →
            ∃ issues, schema.validate value = .error issues ∧
              (Issue.missing (camelCase s.name)).under path ∈ issues) ∧
          (∀ path value, r.StandsAt f d p path → value.at? path = some (.obj members) →
            ((∃ issues, schema.validate value = .error issues ∧
              (Issue.missing (camelCase s.name)).under path ∈ issues) ↔
                r.allowsAbsence f d s = false)) := by
  constructor
  · intro htop members hlacks
    exact missing_reported_iff_of_encloses h hs hreq (.family htop) hlacks
  · intro p hp hfactory hmem members hlacks
    have hmade := made_of_composite (d := d) hfactory
    have hencloses : r.Encloses f d schema s _ := .composite hp hfactory hmem hmade
    have hown := missing_reported_iff_of_encloses h hs hreq hencloses hlacks
    rw [← hmade] at hown
    refine ⟨hown, fun hmay path value hchecks hat => ?_, fun path value hplace hat => ?_⟩
    · -- the record of `p` finds it on its own, and so does what has that record as a node
      have hunder := Shape.under_mem_issues hchecks hat (Shape.reported_iff.mp (hown.mpr hmay))
      exact Shape.reported_iff.mpr hunder
    · -- at its place, the record of `p` is the only one to find it
      have hthere : (∃ issues, schema.validate value = .error issues ∧
          (Issue.missing (camelCase s.name)).under path ∈ issues) ↔
            Issue.missing (camelCase s.name) ∈ (r.made f d p).issues (.obj members) :=
        Shape.reported_iff.trans (hplace.under_mem_issues_iff h hat)
      rw [hthere, ← hown, Shape.reported_iff]

end

end Registry

/-- The section at the top and the one below its composite are mandatory. -/
theorem delivery_absence_reported_iff :
    let risks := requiredSection "9.1" "Risks"
    let owners := requiredSection "9.1.1" "Owners"
    let lacking : Json := .obj [("risks", .obj [])]
    ∃ schema, deliveryRegistry.composeFamily deliveryFamily .plan = .ok schema ∧
      deliveryRegistry.allowsAbsence deliveryFamily .plan risks = false ∧
      (∃ issues, schema.validate (.obj []) = .error issues ∧ Issue.missing "risks" ∈ issues) ∧
      deliveryRegistry.allowsAbsence deliveryFamily .plan owners = false ∧
      (∃ issues, schema.validate lacking = .error issues ∧
        (Issue.missing "owners").under [.key "risks"] ∈ issues) := by
  have hrisks : deliveryRegistry.Runs deliveryFamily .plan (requiredSection "9.1" "Risks") :=
    .top (by decide +kernel) (by decide +kernel)
  refine ⟨_, by rfl, by rfl, ?_, by rfl, ?_⟩
  · have htop := (Registry.absence_reported_iff (r := deliveryRegistry) (f := deliveryFamily)
      (d := .plan) (s := requiredSection "9.1" "Risks") (by rfl) (by decide +kernel) (by rfl)).1
    exact (htop (by decide +kernel) [] (by decide +kernel)).mpr (by rfl)
  · have hbelow := (Registry.absence_reported_iff (r := deliveryRegistry) (f := deliveryFamily)
      (d := .plan) (s := requiredSection "9.1.1" "Owners") (by rfl) (by decide +kernel) (by rfl)).2
    have hchild := hbelow _ hrisks (by rfl) (by decide +kernel) [] (by decide +kernel)
    have hplace : deliveryRegistry.StandsAt deliveryFamily .plan (requiredSection "9.1" "Risks")
        [.key "risks"] := .top (by decide +kernel) (by decide +kernel)
    exact (hchild.2.2 _ _ hplace (by rfl)).mpr (by rfl)

/-- A factory whose shape may be absent for a required section: no member has to be there. -/
theorem required_section_absent :
    let f : Family := { deliveryFamily with sections := [requiredSection "9.1" "Risks"] }
    let r := Registry.empty.withTable 9 (.ofPairs [("9.1", .shared (.optional .text) ["9.1"])])
    f.checkStructure = .ok () ∧ ∃ schema, r.composeFamily f .plan = .ok schema ∧
      ∃ s ∈ f.topLevel, s.isPlaceholder = false ∧ s.applicability.get? .plan = some .required ∧
        schema.validate (.obj []) = .ok (.obj []) := by
  refine ⟨by rfl, _, by rfl, requiredSection "9.1" "Risks", ?_, ?_, by rfl, by rfl⟩
  · decide +kernel
  · decide +kernel

end DocSections
