import DocSections.Proofs.Addressing

/-! When composition succeeds. A registry without shared shapes fits a family if every section that
is reached has a factory, every section next to those declares something, nothing is reached below a
leaf, and no two keys under one parent are the same. -/

namespace DocSections

/-- Whether a factory has a shape and ids of its own, whatever section it is made for. -/
def Factory.isShared : Factory → Bool
  | shared _ _ => true
  | _ => false

theorem Factory.idsFor_of_not_isShared {factory : Factory} (h : factory.isShared = false)
    (id : String) : factory.idsFor id = [id] := by
  cases factory with
  | shared shape ids => cases h
  | _ => rfl

/-- Whether a factory is like the built-in ones: it registers its shape for its section alone, and
a shape of its own cannot be absent. -/
def Factory.isPlain : Factory → Bool
  | composite | container => true
  | leaf shape => !(shape .plan).isOptional && !(shape .task).isOptional
  | shared _ _ => false

theorem Factory.not_isShared_of_isPlain {factory : Factory} (h : factory.isPlain = true) :
    factory.isShared = false := by
  cases factory with
  | shared shape ids => cases h
  | _ => rfl

theorem Registry.mem_of_builtinFactory? {id : String} {factory : Factory}
    (h : builtinFactory? id = some factory) :
    (id, factory) ∈ businessTable ++ planningTable ++ qualityTable ++ designTable := by
  obtain ⟨before, after, htables, -⟩ := List.lookup_eq_some_iff.mp h
  exact htables ▸ List.mem_append_right before List.mem_cons_self

namespace Registry

def Unshared (r : Registry) (family : UInt32) : Prop :=
  ∀ id factory, r.factory? family id = some factory → factory.isShared = false

def Plain (r : Registry) (family : UInt32) : Prop :=
  ∀ id factory, r.factory? family id = some factory → factory.isPlain = true

theorem Plain.unshared {r : Registry} {family : UInt32} (h : r.Plain family) :
    r.Unshared family := by
  intro id factory hf
  exact Factory.not_isShared_of_isPlain (h id factory hf)

/-- What a family has to be like for composition. -/
structure Fits (r : Registry) (f : Family) (d : DocumentType) : Prop where
  declares : ∀ s, s ∈ f.topLevel ∨ (∃ p, f.Reached d p ∧ s ∈ f.childrenOf p.id) → s.Declares d
  hasFactory : ∀ s, f.Reached d s → (r.factory? f.id s.id).isSome = true
  leavesEnd : ∀ p s, f.Reached d p → f.Reached d s → s.parentId? = some p.id →
    ∀ shape, r.factory? f.id p.id ≠ some (.leaf shape)
  keysDiffer : ∀ s t, f.Reached d s → f.Reached d t → s.parentId? = t.parentId? →
    camelCase s.name = camelCase t.name → s = t

variable {r : Registry} {f : Family} {d : DocumentType} {schema : FamilySchema} {p s t : Section}

section Succeeds

variable (hr : r.Unshared f.id) (h : r.composeFamily f d = .ok schema)

include hr

theorem registered_eq {factory : Factory} (hf : r.factory? f.id s.id = some factory) :
    (r.composer f d).registered s = [s.id] := by
  have hf' : (r.composer f d).factory? s.id = some factory := hf
  rw [Composer.registered, hf']
  exact Factory.idsFor_of_not_isShared (hr _ _ hf) s.id

theorem eq_of_mem_registered {id : String} (hid : id ∈ (r.composer f d).registered s) :
    id = s.id := by
  cases hf : r.factory? f.id s.id with
  | none =>
    have hf' : (r.composer f d).factory? s.id = none := hf
    rw [Composer.registered, hf'] at hid
    cases hid
  | some factory =>
    rw [registered_eq hr hf] at hid
    exact List.mem_singleton.mp hid

include h

/-- A section that has a child in the index opens it, since only the parent of the child does. -/
theorem opens_of_child (hp : r.Runs f d p) (hs : s ∈ f.childrenOf p.id) (ha : s.Applies d) :
    (r.composer f d).Opens p := by
  obtain ⟨t, ht, hid⟩ := (contains_byId_iff h).mp (contains_byId_of_parent h ha (.inr ⟨p, hp, hs⟩))
  have hparent : t.parentId? = some p.id := by
    rw [Section.parentId?, ← eq_of_mem_registered hr hid]
    exact (Family.mem_childrenOf.mp hs).2
  cases ht with
  | top htop _ =>
    -- `p` would be the root, but the walk only meets what lies deeper
    have hroot : f.rootId = p.id :=
      Option.some.inj ((Family.mem_childrenOf.mp htop).2.symm.trans hparent)
    have hdeeper := hp.depth_lt
    rw [hroot] at hdeeper
    exact absurd hdeeper (Nat.lt_irrefl _)
  | @child q _ _ ho hchild _ =>
    have hq : q.id = p.id :=
      Option.some.inj ((Family.mem_childrenOf.mp hchild).2.symm.trans hparent)
    rwa [Composer.Opens, hq] at ho

theorem runs_of_reached (hs : f.Reached d s) : r.Runs f d s := by
  induction hs with
  | top hs ha => exact .top hs ha
  | child _ _ hs ha ih => exact .child ih (opens_of_child hr h ih hs ha) hs ha

/-- The index holds the sections that are reached and nothing else. -/
theorem mem_keys_byId_iff {id : String} :
    id ∈ schema.byId.keys ↔ ∃ s, f.Reached d s ∧ s.id = id := by
  rw [← OrderedMap.contains_iff_mem_keys, contains_byId_iff h]
  constructor
  · rintro ⟨t, ht, hid⟩
    exact ⟨t, ht.reached, (eq_of_mem_registered hr hid).symm⟩
  · rintro ⟨s, hs, rfl⟩
    have hruns := runs_of_reached hr h hs
    exact (contains_byId_iff h).mp (contains_byId_of_runs h hruns)

/-- The index holds for a section the shape that the section has in its family. -/
theorem section?_eq_shapeOf (hs : r.Runs f d s) :
    schema.section? s.id = some ((r.composer f d).shapeOf (f.branch s)) := by
  have hin := contains_byId_of_runs h hs
  obtain ⟨fields, index, hc, rfl⟩ := composeFamily_eq_ok_iff.mp h
  have hindex := (Composer.composeAll_eq_ok _ hc).2
  simp only [FamilySchema.section?, hindex, OrderedMap.contains_insertAll] at hin ⊢
  rcases hin with hin | hin
  · cases hin
  · refine OrderedMap.get?_insertAll_of_forall _ hin fun e he hid => ?_
    obtain ⟨t, -, hreg, hshape⟩ := Composer.mem_entriesAll_iff.mp he
    rw [hshape]
    exact Composer.shapeOf_branch_congr ((eq_of_mem_registered hr hreg).symm.trans hid)

theorem fits_of_composeFamily : r.Fits f d where
  declares s hs := by
    rcases hs with hs | ⟨p, hp, hs⟩
    · exact declares_of_mem_topLevel h hs
    · exact (settled_of_runs h (runs_of_reached hr h hp)).childrenDeclare s hs
  hasFactory s hs := (settled_of_runs h (runs_of_reached hr h hs)).hasFactory
  leavesEnd p s hp hs hparent shape hleaf := by
    have hmem : s ∈ f.childrenOf p.id := Family.mem_childrenOf.mpr ⟨hs.mem, hparent⟩
    have hopen := opens_of_child hr h (runs_of_reached hr h hp) hmem hs.applies
    have hfactory : (r.composer f d).factory? p.id = some (.leaf shape) := hleaf
    rw [Composer.opens_iff hfactory] at hopen
    cases hopen
  keysDiffer s t hs ht hparent hkey := by
    -- both sections are in one list of children, in which no key comes twice
    have inj : ∀ {children : List Section}, s ∈ children → t ∈ children →
        ((children.filter (·.Applies d)).map (camelCase ·.name)).Nodup → s = t := by
      intro children hsc htc hnodup
      exact List.inj_on_of_nodup_map hnodup
        (List.mem_filter.mpr ⟨hsc, decide_eq_true hs.applies⟩)
        (List.mem_filter.mpr ⟨htc, decide_eq_true ht.applies⟩) hkey
    obtain ⟨-, htop | ⟨p, hp, hs'⟩⟩ := Family.reached_iff.mp hs
    · have hroot := (Family.mem_childrenOf.mp htop).2
      obtain ⟨hkeys, hnodup⟩ := keys_eq_map h
      rw [hkeys] at hnodup
      exact inj htop (Family.mem_childrenOf.mpr ⟨ht.mem, hparent ▸ hroot⟩) hnodup
    · have hroot := (Family.mem_childrenOf.mp hs').2
      have hruns := runs_of_reached hr h hp
      exact inj hs' (Family.mem_childrenOf.mpr ⟨ht.mem, hparent ▸ hroot⟩)
        ((settled_of_runs h hruns).keysDiffer (opens_of_child hr h hruns hs' hs.applies))

end Succeeds

section Fits

variable (hr : r.Unshared f.id) (hfits : r.Fits f d)

include hr hfits

/-- A section that is reached is composed if what is under it can be. -/
theorem exists_compose_of_fits (hs : f.Reached d s) (index : ShapeIndex)
    (hbelow : ∃ result, (r.composer f d).composeAll ((f.childrenOf s.id).map f.branch) [] index =
      .ok result) :
    ∃ result, (r.composer f d).compose (f.branch s) index = .ok result := by
  obtain ⟨factory, hfactory⟩ := Option.isSome_iff_exists.mp (hfits.hasFactory s hs)
  have hunshared := hr _ _ hfactory
  obtain ⟨fields, below, hb⟩ : ∃ fields below, (r.composer f d).composeAll
      (if factory.opens then (f.childrenOf s.id).map f.branch else []) [] index =
        .ok (fields, below) := by
    cases factory.opens with
    | true => exact hbelow.elim fun result h => ⟨result.1, result.2, h⟩
    | false => exact ⟨[], index, rfl⟩
  rw [Family.branch_eq]
  refine ⟨_, (Composer.compose_eq_ok_iff_of_applies hs.applies).mpr
    ⟨factory, fields, below, hfactory, hb, rfl, ?_, ?_, rfl⟩⟩
  · rw [Factory.idsFor_of_not_isShared hunshared, OrderedMap.contains_insertAll]
    exact .inr List.mem_cons_self
  · rw [Composer.checkChildren_eq_ok_iff, Family.map_top_branch]
    intro u hu
    refine ⟨hfits.declares u (.inr ⟨s, hs, hu⟩), fun ha => ?_⟩
    -- what a factory opens was composed below, and under a leaf no section applies
    cases factory with
    | shared shape ids => cases hunshared
    | leaf shape =>
      have hparent := (Family.mem_childrenOf.mp hu).2
      exact absurd hfactory (hfits.leavesEnd s u hs (.child hs trivial hu ha) hparent shape)
    | composite =>
      exact Composer.contains_insertAll_of_contains
        (Composer.settled_of_visited hb (.top hu ha)).indexed
    | container =>
      exact Composer.contains_insertAll_of_contains
        (Composer.settled_of_visited hb (.top hu ha)).indexed

/-- At the top and under every section that is reached, all sections are composed. -/
theorem exists_composeAll_of_fits (hf : f.checkStructure = .ok ()) {parent : String}
    (hparent : parent = f.rootId ∨ ∃ p, f.Reached d p ∧ p.id = parent) (index : ShapeIndex) :
    ∃ result, (r.composer f d).composeAll ((f.childrenOf parent).map f.branch) [] index =
      .ok result := by
  -- `hparent` holds again for the id of each section that applies, since that section is reached
  induction parent using f.children_induction generalizing index with
  | step parent ih =>
    have hplace : ∀ u ∈ f.childrenOf parent,
        u ∈ f.topLevel ∨ ∃ p, f.Reached d p ∧ u ∈ f.childrenOf p.id := by
      intro u hu
      rcases hparent with rfl | ⟨p, hp, rfl⟩
      · exact .inl hu
      · exact .inr ⟨p, hp, hu⟩
    have hreached : ∀ u ∈ f.childrenOf parent, u.Applies d → f.Reached d u := fun u hu ha =>
      Family.reached_iff.mpr ⟨ha, hplace u hu⟩
    refine Composer.exists_composeAll ?_ ?_ nofun
    · intro o ho index
      obtain ⟨u, hu, rfl⟩ := List.mem_map.mp ho
      by_cases ha : u.Applies d
      · have hu' := hreached u hu ha
        exact exists_compose_of_fits hr hfits hu' index (ih u hu (.inr ⟨u, hu', rfl⟩) index)
      · exact ⟨_, (Composer.compose_eq_ok_iff_of_not_applies ha).mpr
          ⟨hfits.declares u (hplace u hu), rfl, rfl⟩⟩
    · rw [Composer.map_fst_fieldsOf, Family.map_top_branch]
      refine List.Nodup.map_on ?_ ((Family.nodup_childrenOf hf parent).filter _)
      intro s hs t ht hkey
      obtain ⟨hs, hsa⟩ := List.mem_filter.mp hs
      obtain ⟨ht, hta⟩ := List.mem_filter.mp ht
      refine hfits.keysDiffer s t (hreached s hs (of_decide_eq_true hsa))
        (hreached t ht (of_decide_eq_true hta)) ?_ hkey
      rw [(Family.mem_childrenOf.mp hs).2, (Family.mem_childrenOf.mp ht).2]

theorem composeFamily_of_fits (hf : f.checkStructure = .ok ()) :
    ∃ schema, r.composeFamily f d = .ok schema := by
  obtain ⟨⟨fields, index⟩, hc⟩ := exists_composeAll_of_fits hr hfits hf (.inl rfl) .empty
  exact ⟨_, composeFamily_eq_ok_iff.mpr ⟨fields, index, hc, rfl⟩⟩

end Fits

/-- Composition succeeds exactly for what fits; then the index holds the sections that are reached,
and the keys are those of the sections at the top that are reached, in catalog order. -/
theorem composeFamily_succeeds_iff (hf : f.checkStructure = .ok ()) (hr : r.Unshared f.id) :
    ((∃ schema, r.composeFamily f d = .ok schema) ↔ r.Fits f d) ∧
      ∀ schema, r.composeFamily f d = .ok schema →
        (∀ id, id ∈ schema.byId.keys ↔ ∃ s, f.Reached d s ∧ s.id = id) ∧
        schema.keys = (f.topLevel.filter (·.Applies d)).map (camelCase ·.name) := by
  refine ⟨⟨?_, fun hfits => composeFamily_of_fits hr hfits hf⟩, fun schema h => ?_⟩
  · rintro ⟨schema, h⟩
    exact fits_of_composeFamily hr h
  · exact ⟨fun id => mem_keys_byId_iff hr h, (keys_eq_map h).1⟩

end Registry

theorem Registry.forall_factory_empty {family : UInt32} {P : Factory → Prop} (id : String)
    (factory : Factory) (h : empty.factory? family id = some factory) : P factory := by
  cases h

/-- What holds of the factories of a family, and of those that a table was built from, holds of the
factories of the family when some family has been given that table. -/
theorem Registry.forall_factory_withTable {r : Registry} {family changed : UInt32}
    {pairs : List (String × Factory)} {P : Factory → Prop}
    (hr : ∀ id factory, r.factory? family id = some factory → P factory)
    (hall : ∀ e ∈ pairs, P e.2) (id : String) (factory : Factory)
    (h : (r.withTable changed (.ofPairs pairs)).factory? family id = some factory) : P factory := by
  by_cases hfamily : family = changed
  · subst hfamily
    have htable : (r.withTable family (.ofPairs pairs)).table? family = some (.ofPairs pairs) :=
      OrderedMap.get?_insert_self _ _ _
    rw [factory?, htable] at h
    exact hall _ (Assoc.mem_ofPairs (Assoc.mem_of_find? h))
  · have htable : (r.withTable changed (.ofPairs pairs)).table? family = r.table? family :=
      OrderedMap.get?_insert_of_ne _ hfamily _
    rw [factory?, htable] at h
    exact hr id factory h

theorem plain_deliveryRegistry : deliveryRegistry.Plain deliveryFamily.id :=
  Registry.forall_factory_withTable (P := fun factory => factory.isPlain = true)
    Registry.forall_factory_empty (by decide)

theorem delivery_succeeds_iff :
    deliveryFamily.checkStructure = .ok () ∧ deliveryRegistry.Unshared deliveryFamily.id ∧
      ((∃ schema, deliveryRegistry.composeFamily deliveryFamily .task = .ok schema) ↔
        deliveryRegistry.Fits deliveryFamily .task) ∧
      ∀ schema, deliveryRegistry.composeFamily deliveryFamily .task = .ok schema →
        (∀ id, id ∈ schema.byId.keys ↔ ∃ s, deliveryFamily.Reached .task s ∧ s.id = id) ∧
        schema.keys =
          (deliveryFamily.topLevel.filter (·.Applies .task)).map (camelCase ·.name) := by
  have hunshared := plain_deliveryRegistry.unshared
  exact ⟨by rfl, hunshared, Registry.composeFamily_succeeds_iff (by rfl) hunshared⟩

end DocSections
