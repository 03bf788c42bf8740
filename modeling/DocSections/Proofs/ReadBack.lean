import DocSections.Catalog.Codec
import DocSections.Diagram
import DocSections.Proofs.Assembly
import DocSections.Proofs.Fingerprint

/-! Families read back from the JSON that they are written as. A reader looks members up by name, so
the order in which they are written does not matter to it; what is left out is read as unset. -/

namespace DocSections

theorem mapM_eq_some_map_of_mem {α β : Type} {read? : α → Option β} {g : α → β} {items : List α}
    (h : ∀ a ∈ items, read? a = some (g a)) : items.mapM read? = some (items.map g) := by
  induction items with
  | nil => rfl
  | cons a rest ih =>
    obtain ⟨ha, hrest⟩ := List.forall_mem_cons.mp h
    rw [List.mapM_cons, ha, ih hrest]
    rfl

theorem mapM_eq_some_map {α β : Type} {read? : α → Option β} {g : α → β}
    (h : ∀ a, read? a = some (g a)) (items : List α) : items.mapM read? = some (items.map g) :=
  mapM_eq_some_map_of_mem fun a _ => h a

namespace Source

/-- Where no key is repeated, the members with a key are the one that is found there. -/
theorem filter_ofMembers {members : List (String × Json)} (h : (members.map Prod.fst).Nodup)
    (name : String) : (ofMembers members).filter (·.1 == some name) =
      ((Assoc.find? name members).map fun value => (some name, ofJson value)).toList := by
  induction members with
  | nil => rfl
  | cons m rest ih =>
    obtain ⟨key, value⟩ := m
    obtain ⟨hnew, hrest⟩ := List.nodup_cons.mp h
    rw [ofMembers, List.filter_cons, Assoc.find?_cons, ih hrest]
    by_cases hkey : name = key
    · have hnone : Assoc.find? name rest = none := Assoc.find?_eq_none_iff.mpr (hkey ▸ hnew)
      simp [hkey, hkey ▸ hnone]
    · have hdiffer : ¬ key = name := fun heq => hkey heq.symm
      simp [hkey, hdiffer]

@[simp] theorem withDefault?_some {α : Type} (default : α) (read? : Source → Option α)
    (item : Source) : withDefault? default read? (some item) = read? item := rfl

theorem fields?_ofJson {members : List (String × Json)} (h : (members.map Prod.fst).Nodup)
    (names : List String) : (ofJson (.obj members)).fields? names =
      some (names.map fun name => (Assoc.find? name members).map ofJson) := by
  have hkeys : (ofMembers members).any (·.1.isNone) = false := by
    rw [ofMembers_eq_map, List.any_map]
    simp
  rw [ofJson, fields?, hkeys, if_neg Bool.false_ne_true]
  refine mapM_eq_some_map (fun name => ?_) names
  rw [filter_ofMembers h]
  cases Assoc.find? name members <;> rfl

end Source

namespace Json

/-- Whether values stay what they are, but for the order of members in objects without repeated
keys. Canonical values are left alone. -/
structure Reorders (order : Json → Json) : Prop where
  str (s : String) : order (.str s) = .str s
  bool (b : Bool) : order (.bool b) = .bool b
  num (n : Number) : order (.num n) = .num n
  arr (items : List Json) : order (.arr items) = .arr (items.map order)
  obj {members : List (String × Json)} : (members.map Prod.fst).Nodup →
    ∃ others, order (.obj members) = .obj others ∧
      others.Perm (members.map fun m => (m.1, order m.2))
  canonical {j : Json} : j.Canonical → order j = j

theorem reorders_id : Reorders id where
  str _ := rfl
  bool _ := rfl
  num _ := rfl
  arr items := by rw [id, List.map_id]
  obj {members} _ := ⟨members, rfl, by simp⟩
  canonical _ := rfl

theorem sortItems_eq_map (items : List Json) : sortItems items = items.map sortKeys := by
  induction items with
  | nil => rfl
  | cons item rest ih => rw [sortItems, ih, List.map_cons]

theorem sortMembers_eq_map (members : List (String × Json)) :
    sortMembers members = members.map fun m => (m.1, m.2.sortKeys) := by
  induction members with
  | nil => rfl
  | cons m rest ih => rw [sortMembers, ih, List.map_cons]

theorem reorders_sortKeys : Reorders sortKeys where
  str _ := rfl
  bool _ := rfl
  num _ := rfl
  arr items := by rw [sortKeys, sortItems_eq_map]
  obj {members} h := by
    have hkeys : ((members.map fun m => (m.1, m.2.sortKeys)).map Prod.fst).Nodup := by
      rw [List.map_map]
      exact h
    exact ⟨_, by rw [sortKeys, sortMembers_eq_map, ofMembers], Assoc.ofPairs_perm hkeys⟩
  canonical := sortKeys_of_canonical

theorem sublist_keys_setMembers (members : List (String × Option Json)) :
    ((setMembers members).map Prod.fst).Sublist (members.map Prod.fst) := by
  induction members with
  | nil => exact .slnil
  | cons m rest ih =>
    obtain ⟨key, value⟩ := m
    cases value with
    | none =>
      rw [setMembers_cons_none]
      exact ih.cons key
    | some value =>
      rw [setMembers_cons_some]
      exact ih.cons_cons key

theorem find?_setMembers {members : List (String × Option Json)}
    (h : (members.map Prod.fst).Nodup) {m : String × Option Json} (hm : m ∈ members) :
    Assoc.find? m.1 (setMembers members) = m.2 := by
  cases hvalue : m.2 with
  | some value =>
    refine (Assoc.find?_eq_some_iff ((sublist_keys_setMembers members).nodup h)).mpr ?_
    exact List.mem_filterMap.mpr ⟨m, hm, by rw [hvalue, Option.map_some]⟩
  | none =>
    refine Assoc.find?_eq_none_iff.mpr fun hkey => ?_
    -- another member with this name would repeat it
    obtain ⟨e, he, hname⟩ := List.mem_map.mp hkey
    obtain ⟨n, hn, hset⟩ := List.mem_filterMap.mp he
    obtain ⟨value, hsome, rfl⟩ := Option.map_eq_some_iff.mp hset
    have hsame : n = m := List.inj_on_of_nodup_map h hn hm hname
    rw [hsame, hvalue] at hsome
    cases hsome

/-- What a reader sees of a member that is set or left out. -/
def seen (order : Json → Json) (value : Option Json) : Option Source :=
  value.map fun v => .ofJson (order v)

@[simp] theorem seen_some (order : Json → Json) (value : Json) :
    seen order (some value) = some (.ofJson (order value)) := rfl

/-- Whether a reader gets back every value from what it is written as. -/
def ReadsBack {α : Type} (order : Json → Json) (toJson : α → Json) (read? : Source → Option α) :
    Prop :=
  ∀ a, read? (.ofJson (order (toJson a))) = some a

/-- What is set is found under its name, and what is left out is not, in whatever order the members
stand. -/
theorem fields?_of_perm {order : Json → Json} {members : List (String × Option Json)}
    {others : List (String × Json)} {names : List String} (hnames : names = members.map Prod.fst)
    (h : names.Nodup)
    (hperm : others.Perm ((setMembers members).map fun m => (m.1, order m.2))) :
    (Source.ofJson (.obj others)).fields? names =
      some (members.map fun m => seen order m.2) := by
  subst hnames
  have hkeys : (((setMembers members).map fun m => (m.1, order m.2)).map Prod.fst).Nodup := by
    rw [List.map_map]
    exact (sublist_keys_setMembers members).nodup h
  have hothers : (others.map Prod.fst).Nodup := (hperm.map Prod.fst).nodup_iff.mpr hkeys
  rw [Source.fields?_ofJson hothers, List.map_map]
  congr 1
  refine List.map_congr_left fun m hm => ?_
  have hfind := Assoc.find?_map m.1 (fun _ => order) (setMembers members)
  rw [find?_setMembers h hm] at hfind
  rw [Function.comp, Assoc.find?_eq_of_perm hkeys hperm, hfind, seen, Option.map_map]
  rfl

section

variable {order : Json → Json} (ho : Reorders order)

include ho

theorem Reorders.fields?_inOrder {members : List (String × Option Json)} {names : List String}
    (hnames : names = members.map Prod.fst) (h : names.Nodup) :
    (Source.ofJson (order (inOrder members))).fields? names =
      some (members.map fun m => seen order m.2) := by
  obtain ⟨others, heq, hperm⟩ := ho.obj ((sublist_keys_setMembers members).nodup (hnames ▸ h))
  have horder : order (inOrder members) = .obj others := heq
  rw [horder]
  exact fields?_of_perm hnames h hperm

namespace ReadsBack

theorem str : ReadsBack order Json.str Source.str? := by
  intro s
  rw [ho.str]
  rfl

theorem bool : ReadsBack order Json.bool Source.bool? := by
  intro b
  rw [ho.bool]
  rfl

theorem nat {n bound : Nat} (h : n < bound) :
    (Source.ofJson (order (Json.nat n))).natBelow? bound = some n := by
  rw [Json.nat, ho.num]
  exact if_pos h

theorem word {α : Type} [Vocabulary α] :
    ReadsBack order (Vocabulary.toJson : α → Json) Vocabulary.ofSource? := by
  intro a
  rw [Vocabulary.toJson, ho.str]
  exact Vocabulary.ofSource?_toJson a

theorem content : ReadsBack order Content.json Content.ofSource? := by
  intro c
  rw [ho.canonical c.canonical]
  exact Content.ofSource?_ofJson c

variable {α : Type} {toJson : α → Json} {read? : Source → Option α}

theorem list_of_mem {items : List α}
    (h : ∀ a ∈ items, read? (.ofJson (order (toJson a))) = some a) :
    Source.list? read? (.ofJson (order (.arr (items.map toJson)))) = some items := by
  rw [ho.arr, Source.ofJson, Source.ofItems_eq_map, Source.list?, List.map_map, List.map_map,
    List.mapM_map]
  have hall := mapM_eq_some_map_of_mem (g := id) h
  rwa [List.map_id] at hall

theorem list (h : ReadsBack order toJson read?) :
    ReadsBack order (fun items => .arr (items.map toJson)) (Source.list? read?) :=
  fun _ => list_of_mem ho fun a _ => h a

/-- An empty list is left out, which is what a reader takes as empty. -/
theorem nonEmptyList (h : ReadsBack order toJson read?) (items : List α) :
    Source.withDefault? [] (Source.list? read?) (seen order (Json.nonEmptyList toJson items)) =
      some items := by
  cases items with
  | nil => rfl
  | cons item rest => exact h.list ho (item :: rest)

omit ho in
/-- An option that is unset is left out; one that is set is not written as null. -/
theorem option (h : ReadsBack order toJson read?) (hnull : read? .null = none) (a : Option α) :
    Source.optional? read? (seen order (a.map toJson)) = some a := by
  cases a with
  | none => rfl
  | some a =>
    have hread := h a
    rw [Option.map_some, seen_some, Source.optional?, hread, Option.map_some]
    -- null would be read as unset, but nothing that is set is written so
    intro heq
    rw [heq, hnull] at hread
    cases hread

end ReadsBack

end

end Json

section

variable {order : Json → Json} (ho : Json.Reorders order)

include ho

open Json (ReadsBack)

theorem ApplicabilityMap.readsBack : ReadsBack order toJson ofSource? := by
  intro m
  rw [ofSource?, toJson, ho.fields?_inOrder]
  · simp [(ReadsBack.word ho).option rfl]
  · rfl
  · decide

theorem SectionField.readsBack : ReadsBack order toJson ofSource? := by
  intro f
  rw [ofSource?, toJson, ho.fields?_inOrder]
  · simp [ReadsBack.str ho _, ReadsBack.bool ho _,
      (ReadsBack.str ho).option rfl]
  · rfl
  · decide

theorem SectionExample.readsBack : ReadsBack order toJson ofSource? := by
  intro e
  rw [ofSource?, toJson, ho.fields?_inOrder]
  · simp [ReadsBack.content ho _, (ReadsBack.word ho).option rfl, (ReadsBack.str ho).option rfl]
  · rfl
  · decide

theorem Section.readsBack : ReadsBack order toJson ofSource? := by
  intro s
  rw [ofSource?, toJson, ho.fields?_inOrder]
  · simp [ReadsBack.str ho _, ReadsBack.nat ho s.level.toNat_lt,
      ReadsBack.word ho _, (ReadsBack.str ho).option rfl, ApplicabilityMap.readsBack ho _,
      (SectionField.readsBack ho).nonEmptyList ho, (SectionExample.readsBack ho).nonEmptyList ho]
  · rfl
  · decide

theorem Family.readsBack : ReadsBack order toJson ofSource? := by
  intro f
  rw [ofSource?, toJson, ho.fields?_inOrder]
  · simp [ReadsBack.str ho _, ReadsBack.nat ho f.id.toNat_lt,
      (ReadsBack.str ho).option rfl, ApplicabilityMap.readsBack ho _,
      (Section.readsBack ho).list ho _]
  · rfl
  · decide

end

namespace DiagramRecord

def members (r : DiagramRecord) : List (String × Option Json) :=
  [("type", some (.str "mermaid")), ("diagramType", some (Vocabulary.toJson r.kind)),
    ("direction", r.direction.map Vocabulary.toJson), ("content", some (.str r.content))]

theorem nodup_keys_members (r : DiagramRecord) : (r.members.map Prod.fst).Nodup := by
  change ["type", "diagramType", "direction", "content"].Nodup
  decide

theorem exists_toJson_eq_obj (r : DiagramRecord) :
    ∃ fields, r.toJson = .obj fields ∧ fields.Perm (Json.setMembers r.members) :=
  ⟨_, rfl, Assoc.ofPairs_perm ((Json.sublist_keys_setMembers r.members).nodup r.nodup_keys_members)⟩

theorem ofSource?_of_perm {r : DiagramRecord} {fields : List (String × Json)}
    (h : fields.Perm (Json.setMembers r.members)) : ofSource? (.ofJson (.obj fields)) = some r := by
  have hperm : fields.Perm ((Json.setMembers r.members).map fun m => (m.1, id m.2)) := by
    simpa using h
  have hfound : (Source.ofJson (.obj fields)).fields?
      ["type", "diagramType", "direction", "content"] =
        some (r.members.map fun m => Json.seen id m.2) :=
    Json.fields?_of_perm rfl r.nodup_keys_members hperm
  have hdirection := (Json.ReadsBack.word Json.reorders_id).option rfl r.direction
  rw [ofSource?, hfound]
  simp [members, Source.ofJson, Source.word?, Source.str?, hdirection]

theorem ofSource?_toJson (r : DiagramRecord) : ofSource? (.ofJson r.toJson) = some r := by
  obtain ⟨fields, heq, hperm⟩ := r.exists_toJson_eq_obj
  rw [heq]
  exact ofSource?_of_perm hperm

end DiagramRecord

/-- Written to JSON and read back, a family is what it was, also where the members of the JSON were
brought into another order. -/
theorem Family.ofJson?_toJson (f : Family) :
    ofJson? f.toJson = some f ∧ ofJson? f.toJson.sortKeys = some f :=
  ⟨Family.readsBack Json.reorders_id f, Family.readsBack Json.reorders_sortKeys f⟩

namespace Catalog

variable {c : Catalog}

/-- A catalog is built again from the families that it holds. -/
theorem Sound.ofFamilies_families (h : c.Sound) : ofFamilies c.families = .ok c := by
  refine ofFamilies_eq_ok_iff.mpr ⟨fun f hf => h.checkStructure hf, h.nodup_ids, ?_⟩
  rw [h.filed_families, Assoc.ofPairs_of_ascending c.byId.ascending]

/-- Every family is read back from its JSON as it was. So a catalog built from the families of
another one, each of them written and read back, is that catalog, with its fingerprint. -/
theorem families_read_back :
    (∀ f : Family, Family.ofJson? f.toJson = some f ∧ Family.ofJson? f.toJson.sortKeys = some f) ∧
      ∀ fs c, ofFamilies fs = .ok c → ∃ read again,
        (c.families.mapM fun f => Family.ofJson? f.toJson) = some read ∧
          (c.families.mapM fun f => Family.ofJson? f.toJson.sortKeys) = some read ∧
          ofFamilies read = .ok again ∧ again = c ∧ again.fingerprint = c.fingerprint := by
  refine ⟨Family.ofJson?_toJson, fun fs c h => ⟨c.families, c, ?_, ?_, ?_, rfl, rfl⟩⟩
  · have hread := mapM_eq_some_map (fun f : Family => f.ofJson?_toJson.1) c.families
    rwa [List.map_id'] at hread
  · have hread := mapM_eq_some_map (fun f : Family => f.ofJson?_toJson.2) c.families
    rwa [List.map_id'] at hread
  · exact (sound_of_ofFamilies h).ofFamilies_families

end Catalog

/-- A family in which options are unset, set and set to nothing, with null as an example. -/
def workedFamily : Family :=
  { unevenFamily with
    rationale := some ""
    applicability := ⟨none, some .omitted⟩
    sections :=
      [{ requiredSection "9.1" "Risks" with
          applicability := ⟨some .optional, none⟩
          fields := [⟨"Owner", none, true⟩, ⟨"", some "", false⟩]
          examples := [⟨none, some "", .of .null⟩,
            ⟨some .task, none, .of (.obj [("b", .arr []), ("a", .obj [])])⟩] }] }

theorem workedFamily_read_back :
    ∃ c, Catalog.ofFamilies [ninetyFirstFamily, workedFamily] = .ok c ∧ ∃ read again,
      (c.families.mapM fun f => Family.ofJson? f.toJson) = some read ∧
        (c.families.mapM fun f => Family.ofJson? f.toJson.sortKeys) = some read ∧
        Catalog.ofFamilies read = .ok again ∧ again = c ∧ again.fingerprint = c.fingerprint :=
  ⟨_, by rfl, Catalog.families_read_back.2 [ninetyFirstFamily, workedFamily] _ (by rfl)⟩

end DocSections
