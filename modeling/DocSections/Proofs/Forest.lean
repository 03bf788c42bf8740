import DocSections.Proofs.Pruning

/-! Catalogs as forests. The sections of a family that is accepted form a tree under the family's
id, by the parents that their ids name, and no id occurs twice in a catalog. -/

namespace DocSections

theorem Text.eq_of_repr_eq {m n : Nat} (h : m.repr = n.repr) : m = n := by
  have hdigits := congrArg (fun s => Nat.ofDigitChars 10 s.toList 0) h
  simpa only [Nat.toList_repr, Nat.ofDigitChars_ten_toDigits] using hdigits

namespace SectionId

theorem isUnder_or_eq_iff {id above : String} :
    id = above ∨ isUnder id above = true ↔
      ∃ rest, id.toList = above.toList ++ rest ∧ ∀ c ∈ rest.head?, c = '.' := by
  rw [isUnder_iff]
  constructor
  · rintro (rfl | ⟨rest, h⟩)
    · exact ⟨[], by simp⟩
    · exact ⟨_, h, by simp⟩
  · rintro ⟨rest, h, hhead⟩
    cases rest with
    | nil =>
      rw [List.append_nil] at h
      exact .inl (String.toList_inj.mp h)
    | cons c rest =>
      rw [hhead c rfl] at h
      exact .inr ⟨rest, h⟩

theorem isUnder_trans {id middle above : String} (h : isUnder id middle = true)
    (habove : isUnder middle above = true) : isUnder id above = true := by
  obtain ⟨rest, hid⟩ := isUnder_iff.mp h
  obtain ⟨more, hmiddle⟩ := isUnder_iff.mp habove
  rw [hmiddle, List.append_assoc] at hid
  exact isUnder_iff.mpr ⟨_, hid⟩

/-- Above an id there is one id at each depth. -/
theorem eq_of_depth_eq {id a b : String} (hdepth : depth a = depth b)
    (ha : id = a ∨ isUnder id a = true) (hb : id = b ∨ isUnder id b = true) : a = b := by
  have longer : ∀ {x y : String} {more rest : List Char}, depth x = depth y →
      y.toList = x.toList ++ more → (∀ c ∈ (more ++ rest).head?, c = '.') → x = y := by
    intro x y more rest hd hy hhead
    cases more with
    | nil =>
      rw [List.append_nil] at hy
      exact (String.toList_inj.mp hy).symm
    | cons c more =>
      have hc : c = '.' := hhead c rfl
      rw [depth, depth, hy, hc, List.count_append, List.count_cons_self] at hd
      omega
  obtain ⟨restA, hidA, hheadA⟩ := isUnder_or_eq_iff.mp ha
  obtain ⟨restB, hidB, hheadB⟩ := isUnder_or_eq_iff.mp hb
  rw [hidA] at hidB
  rcases List.append_eq_append_iff.mp hidB with ⟨more, hmore, hrest⟩ | ⟨more, hmore, hrest⟩
  · rw [hrest] at hheadA
    exact longer hdepth hmore hheadA
  · rw [hrest] at hheadB
    exact (longer hdepth.symm hmore hheadB).symm

theorem exists_parent?_of_isUnder {id above : String} (h : isUnder id above = true) :
    ∃ parent, parent? id = some parent := by
  obtain ⟨rest, hid⟩ := isUnder_iff.mp h
  have hpoint : beforeLastPoint id.toList ≠ none := by
    rw [Ne, beforeLastPoint_eq_none_iff, hid]
    simp
  obtain ⟨before, hbefore⟩ := Option.ne_none_iff_exists'.mp hpoint
  exact ⟨_, by rw [parent?, hbefore, Option.map_some]⟩

end SectionId

namespace Family

/-- The sections under `parent` in the order of a walk: each right before those under it. -/
def walk (f : Family) (parent : String) : List Section :=
  (f.childrenOf parent).attach.flatMap fun s => s.1 :: f.walk s.1.id
termination_by f.maxDepth - SectionId.depth parent
decreasing_by
  have hdeeper := depth_of_mem_childrenOf s.2
  have hbound := depth_le_maxDepth (mem_childrenOf.mp s.2).1
  omega

/-- A section from which the parents lead, over sections that exist, to the id of the family. -/
inductive Rooted (f : Family) : Section → Prop
  | top {s : Section} : s.parentId? = some f.rootId → Rooted f s
  | under {s p : Section} : s.parentId? = some p.id → p ∈ f.sections → Rooted f p → Rooted f s

variable {f : Family} {parent : String} {s t p : Section}

theorem walk_eq (f : Family) (parent : String) :
    f.walk parent = (f.childrenOf parent).flatMap fun s => s :: f.walk s.id := by
  rw [walk, List.flatMap_subtype (g := fun s => s :: f.walk s.id) (fun _ _ => rfl),
    List.unattach_attach]

theorem mem_walk_iff :
    t ∈ f.walk parent ↔ ∃ s ∈ f.childrenOf parent, t = s ∨ t ∈ f.walk s.id := by
  rw [walk_eq, List.mem_flatMap]
  simp only [List.mem_cons]

theorem mem_sections_of_mem_walk (h : t ∈ f.walk parent) : t ∈ f.sections := by
  induction parent using f.children_induction with
  | step parent ih =>
    obtain ⟨s, hs, rfl | ht⟩ := mem_walk_iff.mp h
    · exact (mem_childrenOf.mp hs).1
    · exact ih s hs ht

theorem mem_walk_of_mem_childrenOf (hp : p ∈ f.walk parent) (hs : s ∈ f.childrenOf p.id) :
    s ∈ f.walk parent := by
  induction parent using f.children_induction with
  | step parent ih =>
    obtain ⟨t, ht, rfl | hp⟩ := mem_walk_iff.mp hp
    · exact mem_walk_iff.mpr ⟨p, ht, .inr (mem_walk_iff.mpr ⟨s, hs, .inl rfl⟩)⟩
    · exact mem_walk_iff.mpr ⟨t, ht, .inr (ih t ht hp)⟩

theorem isUnder_of_mem_childrenOf (h : s ∈ f.childrenOf parent) :
    SectionId.isUnder s.id parent = true :=
  (SectionId.isUnder_of_parent? (mem_childrenOf.mp h).2 parent).mpr (.inl rfl)

theorem isUnder_of_mem_walk (h : t ∈ f.walk parent) : SectionId.isUnder t.id parent = true := by
  induction parent using f.children_induction with
  | step parent ih =>
    obtain ⟨s, hs, rfl | ht⟩ := mem_walk_iff.mp h
    · exact isUnder_of_mem_childrenOf hs
    · exact SectionId.isUnder_trans (ih s hs ht) (isUnder_of_mem_childrenOf hs)

/-- Where ids are not repeated, a walk meets no section twice: two children of one parent have no
section under both of them. -/
theorem nodup_walk (h : f.checkStructure = .ok ()) (parent : String) : (f.walk parent).Nodup := by
  induction parent using f.children_induction with
  | step parent ih =>
    rw [walk_eq, List.nodup_flatMap]
    constructor
    · intro s hs
      refine List.nodup_cons.mpr ⟨fun hself => ?_, ih s hs⟩
      exact Nat.lt_irrefl _ (SectionId.length_lt_of_isUnder (isUnder_of_mem_walk hself))
    · refine (nodup_childrenOf h parent).imp_of_mem fun {s t} hs ht hne u hus hut => hne ?_
      have below : ∀ v, u ∈ v :: f.walk v.id →
          u.id = v.id ∨ SectionId.isUnder u.id v.id = true := by
        intro v hu
        rcases List.mem_cons.mp hu with rfl | hu
        · exact .inl rfl
        · exact .inr (isUnder_of_mem_walk hu)
      have hdepth : SectionId.depth s.id = SectionId.depth t.id := by
        rw [depth_of_mem_childrenOf hs, depth_of_mem_childrenOf ht]
      have hid := SectionId.eq_of_depth_eq hdepth (below s hus) (below t hut)
      exact List.inj_on_of_nodup_map (nodup_ids_of_checkStructure h) (mem_childrenOf.mp hs).1
        (mem_childrenOf.mp ht).1 hid

theorem mem_walk_of_rooted (hs : s ∈ f.sections) (h : f.Rooted s) : s ∈ f.walk f.rootId := by
  induction h with
  | top hparent => exact mem_walk_iff.mpr ⟨_, mem_childrenOf.mpr ⟨hs, hparent⟩, .inl rfl⟩
  | under hparent hp _ ih =>
    exact mem_walk_of_mem_childrenOf (ih hp) (mem_childrenOf.mpr ⟨hs, hparent⟩)

theorem checkParents_eq_ok_iff {ss : List Section} :
    f.checkParents ss = .ok () ↔ ∀ s ∈ ss, ∀ parent, s.parentId? = some parent →
      parent = f.rootId ∨ ∃ p ∈ f.sections, p.id = parent := by
  induction ss with
  | nil => simp [checkParents]
  | cons s rest ih =>
    rw [checkParents, List.forall_mem_cons, ← ih]
    cases s.parentId? with
    | none => simp
    | some parent =>
      have hknown : (parent == f.rootId || (f.section? parent).isSome) = true ↔
          parent = f.rootId ∨ ∃ p ∈ f.sections, p.id = parent := by
        simp [section?]
      simp only [Option.some.injEq, forall_eq', ← hknown]
      split_ifs with hc <;> simp [hc]

/-- Every section of a sound family lies under its id: a parent is less deep than its child, so a
chain of parents ends, and it can only end there. -/
theorem rooted_of_checkStructure (h : f.checkStructure = .ok ()) (hs : s ∈ f.sections) :
    f.Rooted s := by
  induction hn : SectionId.depth s.id using Nat.strongRecOn generalizing s with
  | ind n ih =>
    obtain ⟨parent, hparent⟩ := SectionId.exists_parent?_of_isUnder (owns_of_checkStructure h hs)
    have hdepth := SectionId.depth_of_parent? hparent
    rcases checkParents_eq_ok_iff.mp (checkStructure_eq_ok_iff.mp h).2 s hs parent hparent with
      hroot | ⟨p, hp, rfl⟩
    · rw [hroot] at hparent
      exact .top hparent
    · exact .under hparent hp (ih _ (by omega) hp rfl)

theorem point_not_mem_rootId (f : Family) : '.' ∉ f.rootId.toList := by
  intro h
  rw [rootId, Nat.toString_eq_repr, Nat.toList_repr] at h
  exact absurd (Nat.isDigit_of_mem_toDigits (by decide) (by decide) h) (by decide)

theorem rootId_injective {g : Family} (h : f.rootId = g.rootId) : f.id = g.id :=
  UInt32.toNat_inj.mp (Text.eq_of_repr_eq h)

theorem id_eq_of_isUnder {g : Family} {id : String} (hf : SectionId.isUnder id f.rootId = true)
    (hg : SectionId.isUnder id g.rootId = true) : f.id = g.id := by
  have hdepth : ∀ f : Family, SectionId.depth f.rootId = 0 := fun f =>
    List.count_eq_zero.mpr f.point_not_mem_rootId
  refine rootId_injective (SectionId.eq_of_depth_eq ?_ (.inr hf) (.inr hg))
  rw [hdepth, hdepth]

end Family

namespace Catalog

/-- Each family is filed under its own id, and is of a sound structure. -/
def Sound (c : Catalog) : Prop :=
  ∀ e ∈ c.byId.entries, e.1 = e.2.id ∧ e.2.checkStructure = .ok ()

theorem sound_empty : empty.Sound := nofun

theorem add_eq_ok_iff {c c' : Catalog} {f : Family} : c.add f = .ok c' ↔
    f.checkStructure = .ok () ∧ c.byId.contains f.id = false ∧ c' = ⟨c.byId.insert f.id f⟩ := by
  unfold add
  cases f.checkStructure with
  | error fault => simp [bind, Except.bind]
  | ok _ => cases c.byId.contains f.id <;> simp [bind, Except.bind, eq_comm]

theorem Sound.add {c c' : Catalog} {f : Family} (h : c.Sound) (hadd : c.add f = .ok c') :
    c'.Sound := by
  obtain ⟨hf, -, rfl⟩ := add_eq_ok_iff.mp hadd
  intro e he
  rcases Assoc.mem_insert he with rfl | he
  · exact ⟨rfl, hf⟩
  · exact h e he

theorem sound_of_foldlM {fs : List Family} {c c' : Catalog} (h : c.Sound)
    (hadd : fs.foldlM Catalog.add c = .ok c') : c'.Sound := by
  induction fs generalizing c with
  | nil =>
    cases hadd
    exact h
  | cons f rest ih =>
    rw [List.foldlM_cons] at hadd
    cases hf : c.add f with
    | error fault =>
      rw [hf] at hadd
      cases hadd
    | ok next =>
      rw [hf] at hadd
      exact ih (h.add hf) hadd

theorem sound_of_ofFamilies {fs : List Family} {c : Catalog} (h : ofFamilies fs = .ok c) :
    c.Sound :=
  sound_of_foldlM sound_empty h

theorem Sound.checkStructure {c : Catalog} (h : c.Sound) {f : Family} (hf : f ∈ c.families) :
    f.checkStructure = .ok () := by
  obtain ⟨e, he, rfl⟩ := List.mem_map.mp hf
  exact (h e he).2

theorem Sound.ids_eq_map {c : Catalog} (h : c.Sound) : c.ids = c.families.map Family.id := by
  rw [families, OrderedMap.values, List.map_map, ids, OrderedMap.keys]
  exact List.map_congr_left fun e he => (h e he).1

theorem Sound.nodup_ids {c : Catalog} (h : c.Sound) : (c.families.map Family.id).Nodup := by
  rw [← h.ids_eq_map]
  exact c.byId.ascending.nodup_keys

theorem Sound.nodup_section_ids {c : Catalog} (h : c.Sound) :
    ((c.families.flatMap Family.sections).map Section.id).Nodup := by
  rw [List.map_flatMap, List.nodup_flatMap]
  constructor
  · intro f hf
    exact Family.nodup_ids_of_checkStructure (h.checkStructure hf)
  · refine (List.pairwise_map.mp h.nodup_ids).imp_of_mem fun {f g} hf hg hne id hidf hidg => hne ?_
    obtain ⟨s, hs, rfl⟩ := List.mem_map.mp hidf
    obtain ⟨t, ht, hst⟩ := List.mem_map.mp hidg
    have hunder := Family.owns_of_checkStructure (h.checkStructure hg) ht
    rw [hst] at hunder
    exact Family.id_eq_of_isUnder (Family.owns_of_checkStructure (h.checkStructure hf) hs) hunder

/-- In a catalog the parents of each section lead to its own family, a walk from the top of a family
meets each of its sections once, and no section id occurs twice. -/
theorem ofFamilies_forest {fs : List Family} {c : Catalog} (h : ofFamilies fs = .ok c) :
    (∀ f ∈ c.families, (∀ s ∈ f.sections, f.Rooted s) ∧
      (f.walk f.rootId).Nodup ∧ ∀ s, s ∈ f.walk f.rootId ↔ s ∈ f.sections) ∧
    ((c.families.flatMap Family.sections).map Section.id).Nodup := by
  have hsound := sound_of_ofFamilies h
  refine ⟨fun f hf => ?_, hsound.nodup_section_ids⟩
  have hstructure := hsound.checkStructure hf
  have hrooted : ∀ s ∈ f.sections, f.Rooted s := fun s hs =>
    Family.rooted_of_checkStructure hstructure hs
  refine ⟨hrooted, Family.nodup_walk hstructure _, fun s => ⟨Family.mem_sections_of_mem_walk, ?_⟩⟩
  exact fun hs => Family.mem_walk_of_rooted hs (hrooted s hs)

end Catalog

def unevenFamily : Family :=
  { deliveryFamily with
    sections := [requiredSection "9..1" "Risks", requiredSection "9." "Notes"] }

/-- A family whose id begins like that of the other one. -/
def ninetyFirstFamily : Family :=
  { deliveryFamily with
    id := 91
    sections := [requiredSection "91.9" "Risks", requiredSection "91.9.1" "Owners"] }

theorem unevenFamily_forest :
    ∃ c, Catalog.ofFamilies [ninetyFirstFamily, unevenFamily] = .ok c ∧
      c.families = [unevenFamily, ninetyFirstFamily] ∧
      (∀ f ∈ c.families, (∀ s ∈ f.sections, f.Rooted s) ∧
        (f.walk f.rootId).Nodup ∧ ∀ s, s ∈ f.walk f.rootId ↔ s ∈ f.sections) ∧
      ((c.families.flatMap Family.sections).map Section.id).Nodup := by
  obtain ⟨c, hok, hfamilies⟩ : ∃ c, Catalog.ofFamilies [ninetyFirstFamily, unevenFamily] = .ok c ∧
      c.families = [unevenFamily, ninetyFirstFamily] := ⟨_, by rfl, by rfl⟩
  exact ⟨c, hok, hfamilies, Catalog.ofFamilies_forest hok⟩

end DocSections
