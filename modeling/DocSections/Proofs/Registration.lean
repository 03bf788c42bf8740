import DocSections.Proofs.Addressing

/-! Who decides what the index holds. Factories run in an order, each after those below it, and any
of them may register under any id: the last one to register an id decides. So a section is found
under its id with the shape that its own factory made only if nobody puts another one there
later. -/

namespace DocSections

namespace Registry

/-- The sections whose factories run, in the order in which they return. -/
def runOrder (r : Registry) (f : Family) (d : DocumentType) : List Section :=
  ((r.composer f d).runOrderAll (f.topLevel.map f.branch)).map Outline.top

def made (r : Registry) (f : Family) (d : DocumentType) (s : Section) : Shape :=
  (r.composer f d).shapeOf (f.branch s)

def Registers (r : Registry) (f : Family) (d : DocumentType) (s : Section) (id : String) : Prop :=
  id ∈ (r.composer f d).registered s

/-- Of the factories that run, that of `t` is the last to register an id. -/
def LastToRegister (r : Registry) (f : Family) (d : DocumentType) (id : String) (t : Section) :
    Prop :=
  ∃ before after, r.runOrder f d = before ++ t :: after ∧ r.Registers f d t id ∧
    ∀ u ∈ after, ¬ r.Registers f d u id

/-- The record that a section at the top or under a composite belongs to. -/
inductive Encloses (r : Registry) (f : Family) (d : DocumentType) (schema : FamilySchema)
    (s : Section) : List Field → Prop
  | family : s ∈ f.topLevel → Encloses r f d schema s schema.fields
  | composite {p : Section} {fields : List Field} : r.Runs f d p →
      r.factory? f.id p.id = some .composite → s ∈ f.childrenOf p.id →
      r.made f d p = .record fields → Encloses r f d schema s fields

variable {r : Registry} {f : Family} {d : DocumentType} {schema : FamilySchema} {s t : Section}
  {id : String}

theorem made_of_composite {p : Section} (hp : r.factory? f.id p.id = some .composite) :
    r.made f d p = .record ((r.composer f d).fieldsOf ((f.childrenOf p.id).map f.branch)) := by
  have hfactory : (r.composer f d).factory? p.id = some .composite := hp
  rw [made, Family.branch_eq, Composer.shapeOf, hfactory]
  rfl

theorem mem_runOrder_iff : t ∈ r.runOrder f d ↔ r.Runs f d t := by
  rw [runOrder, List.mem_map]
  constructor
  · rintro ⟨o, ho, rfl⟩
    obtain ⟨t, ht, rfl⟩ := Composer.mem_runOrderAll_iff.mp ho
    exact ht
  · intro ht
    exact ⟨f.branch t, Composer.mem_runOrderAll_iff.mpr ⟨t, ht, rfl⟩, rfl⟩

theorem LastToRegister.runs (h : r.LastToRegister f d id t) : r.Runs f d t := by
  obtain ⟨before, after, horder, -, -⟩ := h
  refine mem_runOrder_iff.mp ?_
  rw [horder]
  exact List.mem_append_right _ List.mem_cons_self

theorem LastToRegister.registers (h : r.LastToRegister f d id t) : r.Registers f d t id :=
  h.choose_spec.choose_spec.2.1

instance : Decidable (r.Registers f d t id) := inferInstanceAs (Decidable (_ ∈ _))

/-- If an id is registered at all, some factory is the last to do so. -/
theorem exists_lastToRegister (ht : r.Runs f d t) (hid : r.Registers f d t id) :
    ∃ u, r.LastToRegister f d id u := by
  -- the last is the first in the reversed order
  have hmem : t ∈ (r.runOrder f d).reverse := List.mem_reverse.mpr (mem_runOrder_iff.mpr ht)
  have hsome : ((r.runOrder f d).reverse.find? fun u => r.Registers f d u id).isSome = true :=
    List.find?_isSome.mpr ⟨t, hmem, decide_eq_true hid⟩
  obtain ⟨u, hu⟩ := Option.isSome_iff_exists.mp hsome
  obtain ⟨hreg, after, before, horder, hafter⟩ := List.find?_eq_some_iff_append.mp hu
  refine ⟨u, before.reverse, after.reverse, ?_, of_decide_eq_true hreg, fun v hv => ?_⟩
  · rw [← List.reverse_reverse (r.runOrder f d), horder]
    simp
  · simpa using hafter v (List.mem_reverse.mp hv)

theorem entriesAll_eq_flatMap_runOrder (r : Registry) (f : Family) (d : DocumentType) :
    (r.composer f d).entriesAll (f.topLevel.map f.branch) =
      (r.runOrder f d).flatMap fun t =>
        ((r.composer f d).registered t).map fun id => (id, r.made f d t) := by
  rw [Composer.entriesAll_eq_flatMap_runOrderAll, runOrder, List.flatMap_map]
  refine List.flatMap_congr fun o ho => ?_
  obtain ⟨t, -, rfl⟩ := Composer.mem_runOrderAll_iff.mp ho
  rfl

section

variable (h : r.composeFamily f d = .ok schema)

include h

/-- The index holds at an id what the last factory to register it made. -/
theorem section?_of_lastToRegister (ht : r.LastToRegister f d id t) :
    schema.section? id = some (r.made f d t) := by
  obtain ⟨before, after, horder, hid, hafter⟩ := ht
  obtain ⟨fields, index, hc, rfl⟩ := composeFamily_eq_ok_iff.mp h
  have hindex := (Composer.composeAll_eq_ok _ hc).2
  rw [entriesAll_eq_flatMap_runOrder, horder, List.flatMap_append, List.flatMap_cons,
    OrderedMap.insertAll_append, OrderedMap.insertAll_append] at hindex
  rw [FamilySchema.section?, hindex, OrderedMap.get?_insertAll_of_not_mem]
  · refine OrderedMap.get?_insertAll_of_forall _ ?_ ?_
    · simpa [Registers] using hid
    · intro p hp _
      obtain ⟨i, -, rfl⟩ := List.mem_map.mp hp
      rfl
  · simpa [Registers] using hafter

theorem exists_lastToRegister_self (hs : r.Runs f d s) : ∃ t, r.LastToRegister f d s.id t := by
  obtain ⟨t, ht, hid⟩ := (contains_byId_iff h).mp (contains_byId_of_runs h hs)
  exact exists_lastToRegister ht hid

/-- The record around a section has the field that its own factory made. -/
theorem placed_mem_of_encloses (hs : r.Runs f d s) {fields : List Field}
    (he : r.Encloses f d schema s fields) :
    (r.composer f d).placed s (r.made f d s) ∈ fields := by
  have hfield : ∀ {parent}, s ∈ f.childrenOf parent → (r.composer f d).placed s (r.made f d s) ∈
      (r.composer f d).fieldsOf ((f.childrenOf parent).map f.branch) := fun hmem =>
    Composer.mem_fieldsOf_iff.mpr ⟨s, hmem, hs.applies, rfl⟩
  cases he with
  | family htop =>
    obtain ⟨fields, index, hc, rfl⟩ := composeFamily_eq_ok_iff.mp h
    rw [(Composer.composeAll_eq_ok _ hc).1]
    exact hfield htop
  | @composite p _ hp hfactory hmem hmade =>
    rw [made_of_composite hfactory] at hmade
    cases hmade
    exact hfield hmem

/-- A section whose factory ran is found under its id with the shape that this factory made and the
record around it has, exactly if the last factory to register the id made the same shape. If no
other factory registers the id, its own has to. -/
theorem section?_eq_made_iff (hs : r.Runs f d s) :
    (schema.section? s.id = some (r.made f d s) ↔
        ∀ t, r.LastToRegister f d s.id t → r.made f d t = r.made f d s) ∧
      (∀ fields, r.Encloses f d schema s fields →
        (r.composer f d).placed s (r.made f d s) ∈ fields) ∧
      ((∀ t, r.Runs f d t → r.Registers f d t s.id → t = s) →
        r.Registers f d s s.id ∧ schema.section? s.id = some (r.made f d s)) := by
  obtain ⟨last, hlast⟩ := exists_lastToRegister_self h hs
  have hfound := section?_of_lastToRegister h hlast
  refine ⟨⟨fun hown t ht => ?_, fun hsame => ?_⟩, fun fields => placed_mem_of_encloses h hs,
    fun halone => ?_⟩
  · rw [section?_of_lastToRegister h ht] at hown
    exact Option.some.inj hown
  · rw [hfound, hsame last hlast]
  · have heq := halone last hlast.runs hlast.registers
    rw [heq] at hlast hfound
    exact ⟨hlast.registers, hfound⟩

end

end Registry

def notesFamily : Family :=
  { deliveryFamily with
    sections := [requiredSection "9.1" "Risks", requiredSection "9.2" "Notes"] }

/-- Factories of which the first registers both sections. -/
def notesRegistry (notes : Factory) : Registry :=
  Registry.empty.withTable 9 (.ofPairs [("9.1", .shared .anyObject ["9.1", "9.2"]), ("9.2", notes)])

theorem notes_runs (notes : Factory) :
    (notesRegistry notes).Runs notesFamily .plan (requiredSection "9.2" "Notes") :=
  .top (by decide +kernel) (by decide +kernel)

/-- A factory that registers its own section after another one did has the last word. -/
theorem section?_eq_made_iff_notes :
    let r := notesRegistry (Registry.fixed .textList)
    let s := requiredSection "9.2" "Notes"
    ∃ schema, r.composeFamily notesFamily .plan = .ok schema ∧ r.Runs notesFamily .plan s ∧
      schema.section? s.id = some .textList ∧
      (schema.section? s.id = some (r.made notesFamily .plan s) ↔
        ∀ t, r.LastToRegister notesFamily .plan s.id t →
          r.made notesFamily .plan t = r.made notesFamily .plan s) :=
  ⟨_, by rfl, notes_runs _, by rfl, (Registry.section?_eq_made_iff (by rfl) (notes_runs _)).1⟩

/-- A factory that registers nothing passes where another one registered its section. The index then
has the shape of the other one, and the record has its own. -/
theorem foreign_shape_indexed :
    let r := notesRegistry (.shared .textList [])
    let s := requiredSection "9.2" "Notes"
    notesFamily.checkStructure = .ok () ∧
      ∃ schema, r.composeFamily notesFamily .plan = .ok schema ∧ r.Runs notesFamily .plan s ∧
        ¬ r.Registers notesFamily .plan s s.id ∧ r.made notesFamily .plan s = .textList ∧
        ("notes", .textList) ∈ schema.fields ∧ schema.section? s.id = some .anyObject := by
  refine ⟨by rfl, _, by rfl, notes_runs _, by decide +kernel, by rfl, ?_, by rfl⟩
  exact List.mem_cons_of_mem _ List.mem_cons_self

end DocSections
