import DocSections.Compose.FamilySchema
import DocSections.Proofs.Lookup
import DocSections.Proofs.Nesting

/-! What composition makes of a tree of sections. Where it succeeds, the fields that it gives and
the entries that it writes to the index depend on the tree and the factories alone, and every
section that it composed is settled in the index that it leaves. -/

namespace DocSections

namespace OrderedMap

variable {κ α : Type} [Ord κ] [Std.TransOrd κ] [Std.LawfulEqOrd κ]

theorem insertAll_keys_eq_foldl (m : OrderedMap κ α) (ks : List κ) (a : α) :
    m.insertAll (ks.map fun k => (k, a)) = ks.foldl (fun m k => m.insert k a) m := by
  rw [insertAll, List.foldl_map]

end OrderedMap

namespace Factory

/-- Whether the sections under a section with this factory are composed. -/
def opens : Factory → Bool
  | composite | container => true
  | leaf _ | shared _ _ => false

def shapeFor (d : DocumentType) (fields : List Field) : Factory → Shape
  | composite => .record fields
  | container => .anyObject
  | leaf shape => shape d
  | shared shape _ => shape

def idsFor (id : String) : Factory → List String
  | shared _ ids => ids
  | _ => [id]

def ownShapes : Factory → List Shape
  | composite | container => []
  | leaf shape => [shape .plan, shape .task]
  | shared shape _ => [shape]

/-- A factory makes the record over the children, any object, or a shape of its own. -/
theorem shapeFor_induction {P : Shape → Prop} {factory : Factory}
    (hown : ∀ shape ∈ factory.ownShapes, P shape) (hobject : P .anyObject) (d : DocumentType)
    {fields : List Field} (hfields : factory.opens = true → P (.record fields)) :
    P (factory.shapeFor d fields) := by
  cases factory with
  | composite => exact hfields rfl
  | container => exact hobject
  | leaf shape =>
    cases d with
    | plan => exact hown _ List.mem_cons_self
    | task => exact hown _ (List.mem_cons_of_mem _ List.mem_cons_self)
  | shared shape ids => exact hown _ List.mem_cons_self

theorem shapeFor_of_not_opens {factory : Factory} (h : factory.opens = false) (d : DocumentType)
    (fields fields' : List Field) : factory.shapeFor d fields = factory.shapeFor d fields' := by
  cases factory with
  | composite => cases h
  | container => cases h
  | leaf shape => rfl
  | shared shape ids => rfl

end Factory

namespace Composer

variable {c : Composer} {s : Section} {os : List Outline} {keys : List String}
  {index index' : ShapeIndex} {field : Option Field} {fields : List Field}

def placed (c : Composer) (s : Section) (shape : Shape) : Field :=
  (camelCase s.name,
    if s.applicability.get? c.documentType = some .optional then shape.orAbsent else shape)

/-- A factory composes what is under its section if it opens it, and then writes its own shape. -/
theorem make_eq (factory : Factory) (id : String) (index : ShapeIndex) :
    c.make factory id (fun index => c.composeAll os [] index) index =
      (c.composeAll (if factory.opens then os else []) [] index).bind fun (fields, index) =>
        .ok (factory.shapeFor c.documentType fields,
          index.insertAll ((factory.idsFor id).map fun i =>
            (i, factory.shapeFor c.documentType fields))) := by
  cases factory with
  | composite => rfl
  | container => rfl
  | leaf shape => rfl
  | shared shape ids =>
    simp only [OrderedMap.insertAll_keys_eq_foldl]
    rfl

/-- Composing a section looks at what is below it through two things only: what composing that
gives, and what the check of the sections right under it says. -/
theorem compose_node_congr {os' : List Outline}
    (hbelow : ∀ index, c.composeAll os [] index = c.composeAll os' [] index)
    (hcheck : ∀ index, c.checkChildren index (os.map Outline.top) =
      c.checkChildren index (os'.map Outline.top)) (index : ShapeIndex) :
    c.compose (.node s os) index = c.compose (.node s os') index := by
  have hchildren : (fun index => c.composeAll os [] index) =
      fun index => c.composeAll os' [] index := funext hbelow
  rw [compose, compose, hchildren]
  simp only [composeSection, composeApplicable, hcheck]

theorem checkChildren_eq_ok_iff {children : List Section} :
    c.checkChildren index children = .ok () ↔ ∀ u ∈ children, u.Declares c.documentType ∧
      (u.Applies c.documentType → index.contains u.id = true) := by
  induction children with
  | nil => simp [checkChildren]
  | cons u rest ih =>
    rw [List.forall_mem_cons, checkChildren, ← ih]
    cases hp : u.isPlaceholder with
    | true => simp [Section.Declares, Section.Applies, hp]
    | false =>
      cases ha : u.applicability.get? c.documentType with
      | none => simp [Section.Declares, Section.applicabilityFor, hp, ha, bind, Except.bind]
      | some a =>
        have hd : u.Declares c.documentType := fun _ => by rw [ha]; rfl
        rw [if_neg (by simp), Section.applicabilityFor_eq_ok_iff.mpr ha,
          Section.applies_iff_ne_omitted hp ha]
        simp only [bind, Except.bind, hd, true_and]
        by_cases hc : a = .omitted ∨ index.contains u.id = true
        · rw [if_pos hc]
          tauto
        · rw [if_neg hc]
          have hn : ¬ (a ≠ .omitted → index.contains u.id = true) := by tauto
          split_ifs <;> simp [hn]

theorem compose_eq_ok_iff_of_not_applies (hs : ¬ s.Applies c.documentType) :
    c.compose (.node s os) index = .ok (field, index') ↔
      s.Declares c.documentType ∧ field = none ∧ index' = index := by
  have hsame : (Except.ok (none, index) : Composition (Option Field × ShapeIndex)) =
      .ok (field, index') ↔ field = none ∧ index' = index := by
    rw [Except.ok.injEq, Prod.mk.injEq, eq_comm, eq_comm (a := index)]
  rw [compose, composeSection]
  cases hp : s.isPlaceholder with
  | true =>
    rw [if_pos rfl, hsame]
    exact (and_iff_right (Section.declares_of_isPlaceholder hp)).symm
  | false =>
    rw [if_neg Bool.false_ne_true, Section.declares_iff_isSome hp]
    cases ha : s.applicability.get? c.documentType with
    | none => simp [Section.applicabilityFor, ha, bind, Except.bind]
    | some a =>
      have ho : a = .omitted := by
        rw [Section.applies_iff_ne_omitted hp ha] at hs
        exact Classical.not_not.mp hs
      rw [Section.applicabilityFor_eq_ok_iff.mpr ha, ← hsame]
      simp [bind, Except.bind, ho]

/-- A section that applies needs a factory, what the factory composes, and itself and its children
in the index afterwards. -/
theorem compose_eq_ok_iff_of_applies (hs : s.Applies c.documentType) :
    c.compose (.node s os) index = .ok (field, index') ↔
      ∃ factory fields below, c.factory? s.id = some factory ∧
        c.composeAll (if factory.opens then os else []) [] index = .ok (fields, below) ∧
        index' = below.insertAll ((factory.idsFor s.id).map fun id =>
          (id, factory.shapeFor c.documentType fields)) ∧
        index'.contains s.id = true ∧
        c.checkChildren index' (os.map Outline.top) = .ok () ∧
        field = some (c.placed s (factory.shapeFor c.documentType fields)) := by
  obtain ⟨hp, hand⟩ := hs
  obtain ⟨a, ha⟩ : ∃ a, s.applicability.get? c.documentType = some a := by
    rcases hand with h | h <;> exact ⟨_, h⟩
  have hne : a ≠ .omitted := (Section.applies_iff_ne_omitted hp ha).mp ⟨hp, hand⟩
  have hplaced : ∀ shape, fieldOf s a shape = c.placed s shape := fun shape => by
    simp [fieldOf, placed, ha]
  rw [compose, composeSection, hp, if_neg Bool.false_ne_true,
    Section.applicabilityFor_eq_ok_iff.mpr ha]
  simp only [bind, Except.bind, hne, if_false, composeApplicable]
  constructor
  · intro h
    cases hf : c.factory? s.id with
    | none =>
      rw [hf] at h
      cases h
    | some factory =>
      simp only [hf, make_eq] at h
      cases hb : c.composeAll (if factory.opens then os else []) [] index with
      | error fault =>
        rw [hb] at h
        cases h
      | ok r =>
        obtain ⟨fields, below⟩ := r
        simp only [hb, Except.bind] at h
        split_ifs at h with hc
        split at h
        · cases h
        · rename_i hk
          cases h
          exact ⟨factory, fields, below, rfl, hb, rfl, hc, hk, by rw [hplaced]⟩
  · rintro ⟨factory, fields, below, hf, hb, rfl, hc, hk, rfl⟩
    simp only [hf, make_eq, hb, Except.bind]
    rw [if_pos hc, hk, hplaced]

/-- Sections are composed one after another. The key of a field is new to those before it. -/
theorem composeAll_cons_eq_ok_iff {o : Outline} :
    c.composeAll (o :: os) keys index = .ok (fields, index') ↔
      ∃ field mid others, c.compose o index = .ok (field, mid) ∧
        (∀ f, field = some f → f.1 ∉ keys) ∧
        c.composeAll os (field.toList.map Prod.fst ++ keys) mid = .ok (others, index') ∧
        fields = field.toList ++ others := by
  rw [composeAll]
  simp only [bind, Except.bind]
  constructor
  · intro h
    cases hc : c.compose o index with
    | error fault =>
      rw [hc] at h
      cases h
    | ok r =>
      obtain ⟨field, mid⟩ := r
      rw [hc] at h
      cases field with
      | none => exact ⟨none, mid, fields, rfl, nofun, h, rfl⟩
      | some f =>
        simp only [addField, bind, Except.bind] at h
        split_ifs at h with hk
        split at h
        · cases h
        · rename_i r hr
          cases h
          refine ⟨some f, mid, r.1, rfl, ?_, hr, rfl⟩
          intro g hg hm
          cases hg
          exact hk (List.contains_iff_mem.mpr hm)
  · rintro ⟨field, mid, others, hc, hnew, hrest, rfl⟩
    rw [hc]
    cases field with
    | none => exact hrest
    | some f =>
      have hk : ¬ keys.contains f.1 = true := fun hm => hnew f rfl (List.contains_iff_mem.mp hm)
      simp only [addField, bind, Except.bind]
      rw [if_neg hk]
      simp only [Option.toList, List.map_cons, List.map_nil, List.singleton_append] at hrest
      rw [hrest]
      rfl

def Opens (c : Composer) (s : Section) : Prop := (c.factory? s.id).any Factory.opens = true

instance (c : Composer) (s : Section) : Decidable (c.Opens s) :=
  inferInstanceAs (Decidable (_ = true))

theorem opens_iff {factory : Factory} (hf : c.factory? s.id = some factory) :
    c.Opens s ↔ factory.opens = true := by
  rw [Opens, hf]
  rfl

def registered (c : Composer) (s : Section) : List String :=
  ((c.factory? s.id).map (Factory.idsFor s.id)).getD []

mutual

def shapeOf (c : Composer) : Outline → Shape
  | .node s os => ((c.factory? s.id).map (Factory.shapeFor c.documentType (c.fieldsOf os))).getD
      .anyObject

def fieldsOf (c : Composer) : List Outline → List Field
  | [] => []
  | o :: rest =>
    (if o.top.Applies c.documentType then [c.placed o.top (c.shapeOf o)] else []) ++ c.fieldsOf rest

end

mutual

/-- What composing a section writes to the index: below it first, then for itself. -/
def entries (c : Composer) : Outline → List (String × Shape)
  | .node s os =>
    if s.Applies c.documentType then
      (if c.Opens s then c.entriesAll os else []) ++
        (c.registered s).map fun id => (id, c.shapeOf (.node s os))
    else []

def entriesAll (c : Composer) : List Outline → List (String × Shape)
  | [] => []
  | o :: rest => c.entries o ++ c.entriesAll rest

end

theorem fieldsOf_eq_map (os : List Outline) :
    c.fieldsOf os = (os.filter (·.top.Applies c.documentType)).map fun o =>
      c.placed o.top (c.shapeOf o) := by
  induction os with
  | nil => rfl
  | cons o rest ih =>
    rw [fieldsOf, List.filter_cons, ih]
    by_cases ha : o.top.Applies c.documentType <;> simp [ha]

theorem map_fst_fieldsOf (os : List Outline) : (c.fieldsOf os).map Prod.fst =
    ((os.map Outline.top).filter (·.Applies c.documentType)).map (camelCase ·.name) := by
  rw [fieldsOf_eq_map, List.map_map, List.filter_map, List.map_map]
  rfl

mutual

/-- The branches whose factories run, in the order in which they return. -/
def runOrder (c : Composer) : Outline → List Outline
  | .node s os =>
    if s.Applies c.documentType then
      (if c.Opens s then c.runOrderAll os else []) ++ [.node s os]
    else []

def runOrderAll (c : Composer) : List Outline → List Outline
  | [] => []
  | o :: rest => c.runOrder o ++ c.runOrderAll rest

end

def written (c : Composer) (o : Outline) : List (String × Shape) :=
  (c.registered o.top).map fun id => (id, c.shapeOf o)

mutual

theorem entries_eq_flatMap : (o : Outline) → c.entries o = (c.runOrder o).flatMap c.written
  | .node s os => by
    rw [entries, runOrder]
    split_ifs with ha ho
    · rw [entriesAll_eq_flatMap_runOrderAll os, List.flatMap_append, List.flatMap_singleton]
      rfl
    · rw [List.nil_append, List.nil_append, List.flatMap_singleton]
      rfl
    · rfl

theorem entriesAll_eq_flatMap_runOrderAll : (os : List Outline) →
    c.entriesAll os = (c.runOrderAll os).flatMap c.written
  | [] => rfl
  | o :: rest => by
    rw [entriesAll, runOrderAll, List.flatMap_append, entries_eq_flatMap o,
      entriesAll_eq_flatMap_runOrderAll rest]

end

theorem runOrderAll_eq_flatMap (os : List Outline) :
    c.runOrderAll os = os.flatMap c.runOrder := by
  induction os with
  | nil => rfl
  | cons o rest ih => rw [runOrderAll, ih, List.flatMap_cons]

mutual

/-- A section that is composed gives the field and writes the entries that its tree says. -/
theorem compose_eq_ok : (o : Outline) → {index index' : ShapeIndex} → {field : Option Field} →
    c.compose o index = .ok (field, index') →
    field = (if o.top.Applies c.documentType then some (c.placed o.top (c.shapeOf o)) else none) ∧
      index' = index.insertAll (c.entries o)
  | .node s os, index, index', field, h => by
    by_cases ha : s.Applies c.documentType
    · obtain ⟨factory, fields, below, hf, hb, hi, -, -, hfield⟩ :=
        (compose_eq_ok_iff_of_applies ha).mp h
      have hreg : c.registered s = factory.idsFor s.id := by rw [registered, hf]; rfl
      have hshape : c.shapeOf (.node s os) = factory.shapeFor c.documentType (c.fieldsOf os) := by
        rw [shapeOf, hf]
        rfl
      rw [Outline.top, if_pos ha, entries, if_pos ha, hreg, hshape, OrderedMap.insertAll_append]
      cases ho : factory.opens with
      | true =>
        rw [ho, if_pos rfl] at hb
        obtain ⟨hfs, hbelow⟩ := composeAll_eq_ok os hb
        rw [if_pos ((opens_iff hf).mpr ho), ← hbelow, ← hfs]
        exact ⟨hfield, hi⟩
      | false =>
        -- nothing was composed below, and the shape is the same for any fields
        rw [ho, if_neg Bool.false_ne_true] at hb
        cases hb
        rw [if_neg (by rw [opens_iff hf, ho]; exact Bool.false_ne_true),
          Factory.shapeFor_of_not_opens ho c.documentType _ []]
        exact ⟨hfield, hi⟩
    · obtain ⟨-, hfield, hi⟩ := (compose_eq_ok_iff_of_not_applies ha).mp h
      rw [Outline.top, if_neg ha, entries, if_neg ha]
      exact ⟨hfield, hi⟩

theorem composeAll_eq_ok : (os : List Outline) → {keys : List String} →
    {index index' : ShapeIndex} → {fields : List Field} →
    c.composeAll os keys index = .ok (fields, index') →
    fields = c.fieldsOf os ∧ index' = index.insertAll (c.entriesAll os)
  | [], keys, index, index', fields, h => by
    cases h
    exact ⟨rfl, rfl⟩
  | o :: rest, keys, index, index', fields, h => by
    obtain ⟨field, mid, others, hc, -, hrest, rfl⟩ := composeAll_cons_eq_ok_iff.mp h
    obtain ⟨hfield, hmid⟩ := compose_eq_ok o hc
    obtain ⟨hothers, hi⟩ := composeAll_eq_ok rest hrest
    rw [fieldsOf, entriesAll, OrderedMap.insertAll_append, ← hmid, ← hothers, hfield]
    refine ⟨?_, hi⟩
    split_ifs <;> rfl

end

theorem declares_of_compose {o : Outline} (h : c.compose o index = .ok (field, index')) :
    o.top.Declares c.documentType := by
  obtain ⟨s, os⟩ := o
  by_cases ha : s.Applies c.documentType
  · exact ha.declares
  · exact ((compose_eq_ok_iff_of_not_applies ha).mp h).1

theorem contains_insertAll_of_contains {entries : List (String × Shape)} {id : String}
    (h : index.contains id = true) : (index.insertAll entries).contains id = true :=
  (OrderedMap.contains_insertAll index entries id).mpr (.inl h)

/-- Each of the sections is composed on the way, and the ids it leaves in the index stay there. -/
theorem exists_compose_of_mem (h : c.composeAll os keys index = .ok (fields, index')) {o : Outline}
    (ho : o ∈ os) :
    ∃ before field after, c.compose o before = .ok (field, after) ∧
      ∀ id, after.contains id = true → index'.contains id = true := by
  induction os generalizing keys index fields with
  | nil => cases ho
  | cons first rest ih =>
    obtain ⟨field, mid, others, hc, -, hrest, -⟩ := composeAll_cons_eq_ok_iff.mp h
    rcases List.mem_cons.mp ho with rfl | ho
    · refine ⟨index, field, mid, hc, fun id hid => ?_⟩
      rw [(composeAll_eq_ok rest hrest).2]
      exact contains_insertAll_of_contains hid
    · exact ih hrest ho

theorem nodup_keys_of_composeAll (h : c.composeAll os keys index = .ok (fields, index')) :
    (fields.map Prod.fst).Nodup ∧ ∀ key ∈ fields.map Prod.fst, key ∉ keys := by
  induction os generalizing keys index fields with
  | nil =>
    cases h
    exact ⟨List.nodup_nil, nofun⟩
  | cons o rest ih =>
    obtain ⟨field, mid, others, -, hnew, hrest, rfl⟩ := composeAll_cons_eq_ok_iff.mp h
    obtain ⟨hnodup, hothers⟩ := ih hrest
    cases field with
    | none => exact ⟨hnodup, hothers⟩
    | some f =>
      have hf : ∀ key ∈ others.map Prod.fst, key ≠ f.1 ∧ key ∉ keys := fun key hkey => by
        have := hothers key hkey
        rwa [Option.toList, List.map_cons, List.map_nil, List.singleton_append, List.mem_cons,
          not_or] at this
      refine ⟨List.nodup_cons.mpr ⟨fun hm => (hf _ hm).1 rfl, hnodup⟩, fun key hkey => ?_⟩
      rcases List.mem_cons.mp hkey with rfl | hkey
      · exact hnew f rfl
      · exact (hf key hkey).2

/-- Sections of which each can be composed, whatever the index, are composed if their keys are new
and all different. -/
theorem exists_composeAll (hc : ∀ o ∈ os, ∀ index, ∃ r, c.compose o index = .ok r)
    (hnodup : ((c.fieldsOf os).map Prod.fst).Nodup)
    (hnew : ∀ key ∈ (c.fieldsOf os).map Prod.fst, key ∉ keys) :
    ∃ r, c.composeAll os keys index = .ok r := by
  induction os generalizing keys index with
  | nil => exact ⟨_, rfl⟩
  | cons o rest ih =>
    obtain ⟨⟨field, mid⟩, ho⟩ := hc o List.mem_cons_self index
    have hfield : c.fieldsOf (o :: rest) = field.toList ++ c.fieldsOf rest := by
      rw [fieldsOf, (compose_eq_ok o ho).1]
      split_ifs <;> rfl
    rw [hfield, List.map_append] at hnodup hnew
    obtain ⟨-, hrest, hdisjoint⟩ := List.nodup_append.mp hnodup
    have hothers : ∀ key ∈ (c.fieldsOf rest).map Prod.fst,
        key ∉ field.toList.map Prod.fst ++ keys := fun key hkey hm => by
      rcases List.mem_append.mp hm with hm | hm
      · exact hdisjoint key hm key hkey rfl
      · exact hnew key (List.mem_append_right _ hkey) hm
    obtain ⟨⟨others, index'⟩, h⟩ := ih (fun o ho => hc o (List.mem_cons_of_mem _ ho)) hrest hothers
    refine ⟨_, composeAll_cons_eq_ok_iff.mpr ⟨field, mid, others, ho, fun f hf => ?_, h, rfl⟩⟩
    subst hf
    exact hnew f.1 (List.mem_append_left _ (by simp))

variable {f : Family} {parent : String} {t : Section}

theorem shapeOf_branch_congr (h : s.id = t.id) :
    c.shapeOf (f.branch s) = c.shapeOf (f.branch t) := by
  rw [Family.branch_eq, Family.branch_eq, shapeOf, shapeOf, h]

theorem fieldsOf_map_branch (ss : List Section) : c.fieldsOf (ss.map f.branch) =
    (ss.filter (·.Applies c.documentType)).map fun u => c.placed u (c.shapeOf (f.branch u)) := by
  rw [fieldsOf_eq_map, List.filter_map, List.map_map]
  rfl

theorem mem_fieldsOf_iff {field : Field} :
    field ∈ c.fieldsOf ((f.childrenOf parent).map f.branch) ↔
      ∃ u ∈ f.childrenOf parent, u.Applies c.documentType ∧
        field = c.placed u (c.shapeOf (f.branch u)) := by
  rw [fieldsOf_map_branch, List.mem_map]
  constructor
  · rintro ⟨u, hu, rfl⟩
    obtain ⟨hu, ha⟩ := List.mem_filter.mp hu
    exact ⟨u, hu, of_decide_eq_true ha, rfl⟩
  · rintro ⟨u, hu, ha, rfl⟩
    exact ⟨u, List.mem_filter.mpr ⟨hu, decide_eq_true ha⟩, rfl⟩

/-- The factories that run are those of the sections that a walk through opened sections meets. -/
theorem mem_runOrderAll_iff {o : Outline} :
    o ∈ c.runOrderAll ((f.childrenOf parent).map f.branch) ↔
      ∃ t, f.Visited c.documentType c.Opens parent t ∧ o = f.branch t := by
  induction parent using f.children_induction with
  | step parent ih =>
    have hown : ∀ u ∈ f.childrenOf parent, (o ∈ c.runOrder (f.branch u) ↔
        u.Applies c.documentType ∧ ((c.Opens u ∧ ∃ t, f.Visited c.documentType c.Opens u.id t ∧
          o = f.branch t) ∨ o = f.branch u)) := fun u hu => by
      rw [← ih u hu, Family.branch_eq, runOrder]
      split_ifs <;> simp [*]
    rw [runOrderAll_eq_flatMap, List.flatMap_map, List.mem_flatMap]
    constructor
    · rintro ⟨u, hu, ho⟩
      obtain ⟨ha, ⟨hopens, t, ht, rfl⟩ | rfl⟩ := (hown u hu).mp ho
      · exact ⟨t, ht.descend hu ha hopens, rfl⟩
      · exact ⟨u, .top hu ha, rfl⟩
    · rintro ⟨t, ht, rfl⟩
      obtain ⟨u, hu, ha, rfl | ⟨hopens, ht⟩⟩ := Family.visited_iff.mp ht
      · exact ⟨t, hu, (hown t hu).mpr ⟨ha, .inr rfl⟩⟩
      · exact ⟨u, hu, (hown u hu).mpr ⟨ha, .inl ⟨hopens, t, ht, rfl⟩⟩⟩

theorem mem_entriesAll_iff {e : String × Shape} :
    e ∈ c.entriesAll ((f.childrenOf parent).map f.branch) ↔
      ∃ t, f.Visited c.documentType c.Opens parent t ∧ e.1 ∈ c.registered t ∧
        e.2 = c.shapeOf (f.branch t) := by
  rw [entriesAll_eq_flatMap_runOrderAll, List.mem_flatMap]
  constructor
  · rintro ⟨o, ho, he⟩
    obtain ⟨t, ht, rfl⟩ := mem_runOrderAll_iff.mp ho
    obtain ⟨id, hid, rfl⟩ := List.mem_map.mp he
    exact ⟨t, ht, hid, rfl⟩
  · rintro ⟨t, ht, hid, hshape⟩
    refine ⟨f.branch t, mem_runOrderAll_iff.mpr ⟨t, ht, rfl⟩, List.mem_map.mpr ⟨e.1, hid, ?_⟩⟩
    rw [← hshape]

/-- What composing a section sees to, for itself and the sections right under it. -/
structure Settled (c : Composer) (index : ShapeIndex) (s : Section) (children : List Section) :
    Prop where
  hasFactory : (c.factory? s.id).isSome = true
  indexed : index.contains s.id = true
  childrenDeclare : ∀ u ∈ children, u.Declares c.documentType
  childrenIndexed : ∀ u ∈ children, u.Applies c.documentType → index.contains u.id = true
  keysDiffer : c.Opens s →
    ((children.filter (·.Applies c.documentType)).map (camelCase ·.name)).Nodup

theorem Settled.mono {children : List Section} (h : c.Settled index s children)
    (hle : ∀ id, index.contains id = true → index'.contains id = true) :
    c.Settled index' s children :=
  { h with
    indexed := hle _ h.indexed
    childrenIndexed := fun u hu ha => hle _ (h.childrenIndexed u hu ha) }

theorem settled_of_compose (h : c.compose (.node s os) index = .ok (field, index'))
    (ha : s.Applies c.documentType) : c.Settled index' s (os.map Outline.top) := by
  obtain ⟨factory, fields, below, hf, hb, -, hown, hchildren, -⟩ :=
    (compose_eq_ok_iff_of_applies ha).mp h
  have hchildren := checkChildren_eq_ok_iff.mp hchildren
  refine ⟨by rw [hf]; rfl, hown, fun u hu => (hchildren u hu).1, fun u hu => (hchildren u hu).2, ?_⟩
  intro ho
  rw [if_pos ((opens_iff hf).mp ho)] at hb
  rw [← map_fst_fieldsOf, ← (composeAll_eq_ok os hb).1]
  exact (nodup_keys_of_composeAll hb).1

/-- Every section that the walk through opened sections meets is settled in the end. -/
theorem settled_of_visited
    (h : c.composeAll ((f.childrenOf parent).map f.branch) keys index = .ok (fields, index'))
    (ht : f.Visited c.documentType c.Opens parent t) :
    c.Settled index' t (f.childrenOf t.id) := by
  -- the walk begins with some `u`, which was composed on the way with an index that only grows
  induction parent using f.children_induction generalizing keys index fields index' with
  | step parent ih =>
    obtain ⟨u, hu, ha, hcase⟩ := Family.visited_iff.mp ht
    obtain ⟨before, field, after, hcompose, hle⟩ :=
      exists_compose_of_mem h (List.mem_map_of_mem (f := f.branch) hu)
    rw [Family.branch_eq] at hcompose
    rcases hcase with rfl | ⟨ho, ht⟩
    · have hsettled := settled_of_compose hcompose ha
      rw [Family.map_top_branch] at hsettled
      exact hsettled.mono hle
    · obtain ⟨factory, fields, below, hf, hb, hafter, -⟩ :=
        (compose_eq_ok_iff_of_applies ha).mp hcompose
      rw [if_pos ((opens_iff hf).mp ho)] at hb
      refine (ih u hu hb ht).mono fun id hid => hle id ?_
      rw [hafter]
      exact contains_insertAll_of_contains hid

end Composer

namespace Registry

variable {r : Registry} {f : Family} {d : DocumentType} {schema : FamilySchema} {s : Section}

def composer (r : Registry) (f : Family) (d : DocumentType) : Composer := ⟨r, f.id, d⟩

/-- The factory of a section runs if the factories of all sections above it open them. -/
def Runs (r : Registry) (f : Family) (d : DocumentType) : Section → Prop :=
  f.Visited d (r.composer f d).Opens f.rootId

theorem composeFamily_eq (r : Registry) (f : Family) (d : DocumentType) :
    r.composeFamily f d =
      ((r.composer f d).composeAll (f.topLevel.map f.branch) [] .empty).map fun result =>
        ⟨f.id, d, result.1, result.2⟩ := by
  rw [composeFamily, composeWithin, Family.outlineFrom_eq_map (by omega)]
  change Except.bind ((r.composer f d).composeAll (f.topLevel.map f.branch) [] .empty) _ = _
  cases (r.composer f d).composeAll (f.topLevel.map f.branch) [] .empty <;> rfl

theorem composeFamily_eq_ok_iff : r.composeFamily f d = .ok schema ↔
    ∃ fields index, (r.composer f d).composeAll (f.topLevel.map f.branch) [] .empty =
      .ok (fields, index) ∧ schema = ⟨f.id, d, fields, index⟩ := by
  rw [composeFamily_eq]
  cases (r.composer f d).composeAll (f.topLevel.map f.branch) [] .empty with
  | error fault => exact ⟨nofun, nofun⟩
  | ok result =>
    constructor
    · intro h
      cases h
      exact ⟨result.1, result.2, rfl, rfl⟩
    · rintro ⟨fields, index, hc, rfl⟩
      cases hc
      rfl

theorem contains_byId_iff (h : r.composeFamily f d = .ok schema) {id : String} :
    schema.byId.contains id = true ↔
      ∃ t, r.Runs f d t ∧ id ∈ (r.composer f d).registered t := by
  obtain ⟨fields, index, hc, rfl⟩ := composeFamily_eq_ok_iff.mp h
  rw [(Composer.composeAll_eq_ok _ hc).2, OrderedMap.contains_insertAll, List.mem_map]
  constructor
  · rintro (hid | ⟨e, he, rfl⟩)
    · cases hid
    · obtain ⟨t, ht, hid, -⟩ := Composer.mem_entriesAll_iff.mp he
      exact ⟨t, ht, hid⟩
  · rintro ⟨t, ht, hid⟩
    exact .inr ⟨(id, (r.composer f d).shapeOf (f.branch t)),
      Composer.mem_entriesAll_iff.mpr ⟨t, ht, hid, rfl⟩, rfl⟩

theorem settled_of_runs (h : r.composeFamily f d = .ok schema) (hs : r.Runs f d s) :
    (r.composer f d).Settled schema.byId s (f.childrenOf s.id) := by
  obtain ⟨fields, index, hc, rfl⟩ := composeFamily_eq_ok_iff.mp h
  exact Composer.settled_of_visited hc hs

theorem declares_of_mem_topLevel (h : r.composeFamily f d = .ok schema) (hs : s ∈ f.topLevel) :
    s.Declares d := by
  obtain ⟨fields, index, hc, rfl⟩ := composeFamily_eq_ok_iff.mp h
  have hmem : f.branch s ∈ f.topLevel.map f.branch := List.mem_map_of_mem hs
  obtain ⟨before, field, after, hcompose, -⟩ := Composer.exists_compose_of_mem hc hmem
  have hdeclares := Composer.declares_of_compose hcompose
  rwa [Family.top_branch] at hdeclares

/-- The keys at the top are those of the sections at the top that apply, and all different. -/
theorem keys_eq_map (h : r.composeFamily f d = .ok schema) :
    schema.keys = (f.topLevel.filter (·.Applies d)).map (camelCase ·.name) ∧
      schema.keys.Nodup := by
  obtain ⟨fields, index, hc, rfl⟩ := composeFamily_eq_ok_iff.mp h
  refine ⟨?_, (Composer.nodup_keys_of_composeAll hc).1⟩
  rw [FamilySchema.keys, FamilySchema.shape, Shape.keys, (Composer.composeAll_eq_ok _ hc).1,
    Composer.map_fst_fieldsOf, Family.map_top_branch]
  rfl

/-- What holds of the shapes that factories have of their own, and of records over such shapes whose
keys are all different and made from the names of sections, holds of every shape that is
composed. -/
theorem composed_induction {P : Shape → Prop} (h : r.composeFamily f d = .ok schema)
    (hown : ∀ id factory, r.factory? f.id id = some factory → ∀ shape ∈ factory.ownShapes, P shape)
    (hobject : P .anyObject) (horAbsent : ∀ shape, P shape → P shape.orAbsent)
    (hrecord : ∀ fields : List Field, (fields.map Prod.fst).Nodup →
      (∀ field ∈ fields, (∃ s : Section, field.1 = camelCase s.name) ∧ P field.2) →
      P (.record fields)) :
    (∀ s, r.Runs f d s → P ((r.composer f d).shapeOf (f.branch s))) ∧ P schema.shape := by
  have hfield : ∀ (u : Section) {shape : Shape}, P shape →
      (∃ s : Section, ((r.composer f d).placed u shape).1 = camelCase s.name) ∧
        P ((r.composer f d).placed u shape).2 := by
    intro u shape hshape
    refine ⟨⟨u, rfl⟩, ?_⟩
    unfold Composer.placed
    split_ifs
    · exact horAbsent shape hshape
    · exact hshape
  have hruns : ∀ s, r.Runs f d s → P ((r.composer f d).shapeOf (f.branch s)) := by
    intro s hs
    induction hid : s.id using f.children_induction generalizing s with
    | step parent ih =>
      subst hid
      have hsettled := settled_of_runs h hs
      obtain ⟨factory, hf⟩ := Option.isSome_iff_exists.mp hsettled.hasFactory
      rw [Family.branch_eq, Composer.shapeOf, hf]
      refine Factory.shapeFor_induction (hown _ factory hf) hobject _ fun hopens => ?_
      -- the fields are those of the children, whose factories run too
      have ho : (r.composer f d).Opens s := (Composer.opens_iff hf).mpr hopens
      refine hrecord _ ?_ fun field hmem => ?_
      · rw [Composer.map_fst_fieldsOf, Family.map_top_branch]
        exact hsettled.keysDiffer ho
      · obtain ⟨u, hu, ha, rfl⟩ := Composer.mem_fieldsOf_iff.mp hmem
        exact hfield u (ih u hu u (.child hs ho hu ha) rfl)
  refine ⟨hruns, hrecord _ (keys_eq_map h).2 fun field hmem => ?_⟩
  obtain ⟨fields, index, hc, rfl⟩ := composeFamily_eq_ok_iff.mp h
  rw [(Composer.composeAll_eq_ok _ hc).1] at hmem
  obtain ⟨u, hu, ha, rfl⟩ := Composer.mem_fieldsOf_iff.mp hmem
  exact hfield u (hruns u (.top hu ha))

end Registry

end DocSections
