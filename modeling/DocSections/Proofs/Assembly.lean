import DocSections.Proofs.Forest

/-! Which families make a catalog, and which catalog they make. They make one exactly if each is of
a sound structure and no two have one id; the catalog then holds these families and no others, so
the order in which they come does not matter. -/

namespace DocSections

theorem OrderedMap.contains_insert_eq_false_iff {κ α : Type} [Ord κ] [Std.TransOrd κ]
    [Std.LawfulEqOrd κ] [DecidableEq κ] (m : OrderedMap κ α) (k l : κ) (a : α) :
    (m.insert k a).contains l = false ↔ l ≠ k ∧ m.contains l = false := by
  rw [contains, get?, insert, Assoc.find?_insert]
  split_ifs with hl
  · simp [hl]
  · rw [and_iff_right hl]
    rfl

namespace Catalog

variable {c c' d : Catalog} {fs gs : List Family}

def filed (fs : List Family) : List (UInt32 × Family) := fs.map fun f => (f.id, f)

theorem map_fst_filed (fs : List Family) : (filed fs).map Prod.fst = fs.map Family.id := by
  rw [filed, List.map_map]
  rfl

theorem map_snd_filed (fs : List Family) : (filed fs).map Prod.snd = fs := by
  rw [filed, List.map_map]
  exact List.map_id fs

theorem Sound.filed_families (h : c.Sound) : filed c.families = c.byId.entries := by
  have hsame : ∀ e ∈ c.byId.entries, (e.2.id, e.2) = id e := fun e he =>
    Prod.ext (h e he).1.symm rfl
  rw [filed, families, OrderedMap.values, List.map_map]
  exact (List.map_congr_left hsame).trans (List.map_id _)

theorem eq_of_entries_eq (h : c.byId.entries = d.byId.entries) : c = d := by
  obtain ⟨⟨entries, _⟩⟩ := c
  obtain ⟨⟨entries', _⟩⟩ := d
  cases h
  rfl

/-- A catalog takes further families exactly if each is of a sound structure and has an id that
neither the catalog nor another one of them has. -/
theorem foldlM_add_eq_ok_iff : fs.foldlM add c = .ok c' ↔
    (∀ f ∈ fs, f.checkStructure = .ok () ∧ c.byId.contains f.id = false) ∧
      (fs.map Family.id).Nodup ∧
      c'.byId.entries =
        (filed fs).foldl (fun entries p => Assoc.insert p.1 p.2 entries) c.byId.entries := by
  induction fs generalizing c with
  | nil =>
    simp only [List.foldlM_nil, List.not_mem_nil, false_implies, implies_true, List.map_nil,
      List.nodup_nil, true_and, filed, List.foldl_nil]
    constructor
    · intro h
      cases h
      rfl
    · intro h
      rw [eq_of_entries_eq h]
      rfl
  | cons f rest ih =>
    have hstep : (f :: rest).foldlM add c = .ok c' ↔
        ∃ next, c.add f = .ok next ∧ rest.foldlM add next = .ok c' := by
      rw [List.foldlM_cons]
      cases c.add f with
      | error fault => exact ⟨nofun, fun ⟨_, h, _⟩ => nomatch h⟩
      | ok next => exact ⟨fun h => ⟨next, rfl, h⟩, fun ⟨_, h, hrest⟩ => by cases h; exact hrest⟩
    rw [hstep]
    simp only [add_eq_ok_iff, and_assoc, exists_and_left, exists_eq_left, ih]
    -- an id is new to the next catalog if it is new to this one and not the one just filed
    have hnew : (∀ g ∈ rest, g.checkStructure = .ok () ∧
          (c.byId.insert f.id f).contains g.id = false) ↔
        f.id ∉ rest.map Family.id ∧
          ∀ g ∈ rest, g.checkStructure = .ok () ∧ c.byId.contains g.id = false := by
      simp only [OrderedMap.contains_insert_eq_false_iff, List.mem_map, not_exists, not_and]
      constructor
      · intro h
        exact ⟨fun g hg => (h g hg).2.1, fun g hg => ⟨(h g hg).1, (h g hg).2.2⟩⟩
      · rintro ⟨hne, h⟩ g hg
        exact ⟨(h g hg).1, hne g hg, (h g hg).2⟩
    rw [hnew, List.forall_mem_cons, List.map_cons, List.nodup_cons]
    tauto

/-- Families make a catalog exactly if each is of a sound structure and no two have one id; the
catalog has each family under its id. -/
theorem ofFamilies_eq_ok_iff : ofFamilies fs = .ok c ↔
    (∀ f ∈ fs, f.checkStructure = .ok ()) ∧ (fs.map Family.id).Nodup ∧
      c.byId.entries = Assoc.ofPairs (filed fs) := by
  have hempty : ∀ f : Family, empty.byId.contains f.id = false := fun _ => rfl
  rw [ofFamilies, foldlM_add_eq_ok_iff]
  simp only [hempty, and_true]
  rfl

theorem exists_ofFamilies_iff : (∃ c, ofFamilies fs = .ok c) ↔
    (∀ f ∈ fs, f.checkStructure = .ok ()) ∧ (fs.map Family.id).Nodup := by
  simp only [ofFamilies_eq_ok_iff]
  constructor
  · rintro ⟨c, hfs, hids, -⟩
    exact ⟨hfs, hids⟩
  · rintro ⟨hfs, hids⟩
    exact ⟨⟨.ofPairs (filed fs)⟩, hfs, hids, rfl⟩

theorem ofFamilies_of_perm (hperm : gs.Perm fs) (h : ofFamilies fs = .ok c) :
    ofFamilies gs = .ok c := by
  obtain ⟨hfs, hids, hentries⟩ := ofFamilies_eq_ok_iff.mp h
  refine ofFamilies_eq_ok_iff.mpr ⟨fun g hg => hfs g (hperm.mem_iff.mp hg), ?_, ?_⟩
  · exact (hperm.map Family.id).nodup_iff.mpr hids
  · have hnodup : ((filed fs).map Prod.fst).Nodup := by rwa [map_fst_filed]
    rw [hentries]
    exact (Assoc.ofPairs_eq_of_perm hnodup (hperm.map _)).symm

theorem families_perm (h : ofFamilies fs = .ok c) : c.families.Perm fs := by
  obtain ⟨-, hids, hentries⟩ := ofFamilies_eq_ok_iff.mp h
  have hpairs : (Assoc.ofPairs (filed fs)).Perm (filed fs) :=
    Assoc.ofPairs_perm (by rwa [map_fst_filed])
  have hvalues := hpairs.map Prod.snd
  rwa [← hentries, map_snd_filed] at hvalues

theorem family?_of_mem (h : ofFamilies fs = .ok c) {f : Family} (hf : f ∈ fs) :
    c.family? f.id = some f := by
  obtain ⟨-, hids, hentries⟩ := ofFamilies_eq_ok_iff.mp h
  rw [family?, OrderedMap.get?, ← Assoc.mem_iff_find? c.byId.ascending, hentries,
    Assoc.mem_ofPairs_iff (by rwa [map_fst_filed])]
  exact List.mem_map.mpr ⟨f, hf, rfl⟩

theorem ids_ascending (c : Catalog) : c.ids.Pairwise (· < ·) :=
  List.pairwise_map.mpr (c.byId.ascending.imp Std.compare_eq_lt.mp)

structure Holds (c : Catalog) (fs : List Family) : Prop where
  families : c.families.Perm fs
  found : ∀ f ∈ fs, c.family? f.id = some f
  ids : c.ids = c.families.map Family.id
  ascending : c.ids.Pairwise (· < ·)

theorem holds_of_ofFamilies (h : ofFamilies fs = .ok c) : c.Holds fs where
  families := families_perm h
  found _ hf := family?_of_mem h hf
  ids := (sound_of_ofFamilies h).ids_eq_map
  ascending := c.ids_ascending

/-- Families make a catalog in one order exactly if they do in another, namely if each is of a sound
structure and no two have one id. Both catalogs hold every family, by ascending id, and they are
equal and have one fingerprint. -/
theorem ofFamilies_reordered (hperm : gs.Perm fs) :
    ((∃ c, ofFamilies fs = .ok c) ↔
      (∀ f ∈ fs, f.checkStructure = .ok ()) ∧ (fs.map Family.id).Nodup) ∧
    ((∃ d, ofFamilies gs = .ok d) ↔ ∃ c, ofFamilies fs = .ok c) ∧
    ∀ c d, ofFamilies fs = .ok c → ofFamilies gs = .ok d →
      c.Holds fs ∧ d.Holds fs ∧ d = c ∧ d.fingerprint = c.fingerprint := by
  refine ⟨exists_ofFamilies_iff, ?_, ?_⟩
  · constructor
    · rintro ⟨d, hd⟩
      exact ⟨d, ofFamilies_of_perm hperm.symm hd⟩
    · rintro ⟨c, hc⟩
      exact ⟨c, ofFamilies_of_perm hperm hc⟩
  · intro c d hc hd
    have heq : d = c := Except.ok.inj (hd.symm.trans (ofFamilies_of_perm hperm hc))
    have hholds := holds_of_ofFamilies hc
    exact ⟨hholds, heq ▸ hholds, heq, by rw [heq]⟩

end Catalog

/-- The families come by descending id, by ascending id they make the same catalog; a second family
with the id of the first makes none in any order. -/
theorem unevenFamily_reordered :
    ∃ c d, Catalog.ofFamilies [ninetyFirstFamily, unevenFamily] = .ok c ∧
      Catalog.ofFamilies [unevenFamily, ninetyFirstFamily] = .ok d ∧
      c.Holds [ninetyFirstFamily, unevenFamily] ∧ d.Holds [ninetyFirstFamily, unevenFamily] ∧
      d = c ∧ d.fingerprint = c.fingerprint ∧
      ¬ ∃ c, Catalog.ofFamilies [unevenFamily, ninetyFirstFamily, deliveryFamily] = .ok c := by
  have hswap : [unevenFamily, ninetyFirstFamily].Perm [ninetyFirstFamily, unevenFamily] :=
    List.Perm.swap _ _ _
  obtain ⟨c, hc⟩ : ∃ c, Catalog.ofFamilies [ninetyFirstFamily, unevenFamily] = .ok c :=
    ⟨_, by rfl⟩
  obtain ⟨d, hd⟩ := (Catalog.ofFamilies_reordered hswap).2.1.mpr ⟨c, hc⟩
  obtain ⟨hcholds, hdholds, heq, hfingerprint⟩ := (Catalog.ofFamilies_reordered hswap).2.2 c d hc hd
  refine ⟨c, d, hc, hd, hcholds, hdholds, heq, hfingerprint, ?_⟩
  rw [(Catalog.ofFamilies_reordered (.refl _)).1]
  rintro ⟨-, hids⟩
  exact absurd hids (by decide)

end DocSections
