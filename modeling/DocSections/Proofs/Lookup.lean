import DocSections.OrderedMap
import Mathlib.Data.List.Forall2
import Mathlib.Data.List.Nodup

/-! What a look-up finds in an association list: after appending, after changing the values, and
after writing many pairs. An ascending list is known by its look-ups. -/

namespace DocSections

namespace Assoc

theorem keys_eq_of_forall₂ {κ α β : Type} {R : κ × α → κ × β → Prop}
    (hkey : ∀ a b, R a b → b.1 = a.1) {entries : List (κ × α)} {others : List (κ × β)}
    (h : List.Forall₂ R entries others) : others.map Prod.fst = entries.map Prod.fst := by
  induction h with
  | nil => rfl
  | cons hab _ ih => rw [List.map_cons, List.map_cons, ih, hkey _ _ hab]

variable {κ α β : Type} [Ord κ] [Std.LawfulEqOrd κ] [DecidableEq κ]

theorem find?_cons (k l : κ) (a : α) (rest : List (κ × α)) :
    find? k ((l, a) :: rest) = if k = l then some a else find? k rest := by
  simp only [find?, Std.compare_eq_iff_eq]

theorem mem_of_find? {k : κ} {a : α} {entries : List (κ × α)} (h : find? k entries = some a) :
    (k, a) ∈ entries := by
  induction entries with
  | nil => cases h
  | cons e rest ih =>
    obtain ⟨l, b⟩ := e
    rw [find?_cons] at h
    split_ifs at h with hk
    · subst hk
      cases h
      exact List.mem_cons_self
    · exact List.mem_cons_of_mem _ (ih h)

theorem find?_eq_none_iff {k : κ} {entries : List (κ × α)} :
    find? k entries = none ↔ k ∉ entries.map Prod.fst := by
  induction entries with
  | nil => simp [find?]
  | cons e rest ih =>
    obtain ⟨l, b⟩ := e
    rw [find?_cons]
    by_cases hk : k = l
    · simp [hk]
    · simp [hk, ih]

theorem find?_append (k : κ) (first second : List (κ × α)) :
    find? k (first ++ second) = (find? k first).or (find? k second) := by
  induction first with
  | nil => rfl
  | cons e rest ih =>
    obtain ⟨l, b⟩ := e
    rw [List.cons_append, find?_cons, find?_cons, ih]
    split_ifs <;> rfl

theorem find?_map (k : κ) (g : κ → α → β) (entries : List (κ × α)) :
    find? k (entries.map fun e => (e.1, g e.1 e.2)) = (find? k entries).map (g k) := by
  induction entries with
  | nil => rfl
  | cons e rest ih =>
    obtain ⟨l, b⟩ := e
    rw [List.map_cons, find?_cons, find?_cons, ih]
    by_cases hk : k = l
    · subst hk
      simp
    · simp [hk]

omit [Std.LawfulEqOrd κ] [DecidableEq κ] in
theorem Ascending.map (g : κ → α → β) {entries : List (κ × α)} (h : Ascending entries) :
    Ascending (entries.map fun e => (e.1, g e.1 e.2)) :=
  List.Pairwise.map _ (fun _ _ hlt => hlt) h

omit [DecidableEq κ] in
theorem Ascending.nodup_keys {entries : List (κ × α)} (h : Ascending entries) :
    (entries.map Prod.fst).Nodup := by
  rw [List.Nodup, List.pairwise_map]
  refine h.imp fun hlt heq => ?_
  rw [heq, Std.compare_eq_iff_eq.mpr rfl] at hlt
  cases hlt

theorem find?_eq_some_iff {k : κ} {a : α} {entries : List (κ × α)}
    (h : (entries.map Prod.fst).Nodup) : find? k entries = some a ↔ (k, a) ∈ entries := by
  refine ⟨mem_of_find?, fun hm => ?_⟩
  induction entries with
  | nil => cases hm
  | cons e rest ih =>
    obtain ⟨l, b⟩ := e
    obtain ⟨hnew, hrest⟩ := List.nodup_cons.mp h
    rw [find?_cons]
    rcases List.mem_cons.mp hm with he | hlater
    · cases he
      simp
    · have hne : k ≠ l := by
        rintro rfl
        exact hnew (List.mem_map.mpr ⟨_, hlater, rfl⟩)
      rw [if_neg hne]
      exact ih hrest hlater

theorem find?_eq_of_perm {entries others : List (κ × α)} (h : (entries.map Prod.fst).Nodup)
    (hperm : others.Perm entries) (k : κ) : find? k others = find? k entries := by
  have hothers : (others.map Prod.fst).Nodup := (hperm.map Prod.fst).nodup_iff.mpr h
  refine Option.ext fun a => ?_
  rw [find?_eq_some_iff hothers, find?_eq_some_iff h, hperm.mem_iff]

theorem mem_iff_find? {k : κ} {a : α} {entries : List (κ × α)} (h : Ascending entries) :
    (k, a) ∈ entries ↔ find? k entries = some a :=
  (find?_eq_some_iff h.nodup_keys).symm

theorem ext_of_find? [Std.OrientedOrd κ] {first second : List (κ × α)} (hf : Ascending first)
    (hs : Ascending second) (h : ∀ k, find? k first = find? k second) : first = second := by
  have nodup : ∀ {entries : List (κ × α)}, Ascending entries → entries.Nodup := fun ha =>
    ha.nodup_keys.of_map Prod.fst
  refine List.Perm.eq_of_pairwise ?_ hf hs ?_
  · intro a b _ _ hab hba
    rw [Std.OrientedCmp.gt_iff_lt.mpr hab] at hba
    cases hba
  · refine (List.perm_ext_iff_of_nodup (nodup hf) (nodup hs)).mpr fun e => ?_
    rw [mem_iff_find? hf, mem_iff_find? hs, h]

theorem find?_insert (k l : κ) (a : α) (entries : List (κ × α)) :
    find? l (insert k a entries) = if l = k then some a else find? l entries := by
  split_ifs with hl
  · subst hl
    exact find?_insert_self l a entries
  · exact find?_insert_of_ne hl a entries

/-- The last pair of a key decides what is found there. -/
theorem find?_ofPairs (k : κ) (pairs : List (κ × α)) :
    find? k (ofPairs pairs) = find? k pairs.reverse := by
  suffices h : ∀ acc : List (κ × α), find? k (pairs.foldl (fun acc p => insert p.1 p.2 acc) acc) =
      (find? k pairs.reverse).or (find? k acc) by
    rw [ofPairs, h]
    simp [find?]
  induction pairs with
  | nil => intro acc; rfl
  | cons p rest ih =>
    intro acc
    rw [List.foldl_cons, ih, List.reverse_cons, find?_append, find?_insert, Option.or_assoc,
      find?_cons]
    split_ifs <;> rfl

theorem mem_ofPairs_iff [Std.TransOrd κ] {pairs : List (κ × α)} (h : (pairs.map Prod.fst).Nodup)
    {e : κ × α} : e ∈ ofPairs pairs ↔ e ∈ pairs := by
  obtain ⟨k, a⟩ := e
  have hreverse : (pairs.reverse.map Prod.fst).Nodup := by
    rw [List.map_reverse]
    exact List.nodup_reverse.mpr h
  rw [mem_iff_find? (ofPairs_ascending pairs), find?_ofPairs, find?_eq_some_iff hreverse,
    List.mem_reverse]

theorem ofPairs_perm [Std.TransOrd κ] {pairs : List (κ × α)} (h : (pairs.map Prod.fst).Nodup) :
    (ofPairs pairs).Perm pairs := by
  have hpairs : (ofPairs pairs).Nodup := (ofPairs_ascending pairs).nodup_keys.of_map Prod.fst
  exact (List.perm_ext_iff_of_nodup hpairs (h.of_map Prod.fst)).mpr fun e => mem_ofPairs_iff h

/-- Pairs with different keys may be written in any order. -/
theorem ofPairs_eq_of_perm [Std.TransOrd κ] {pairs others : List (κ × α)}
    (h : (pairs.map Prod.fst).Nodup) (hperm : others.Perm pairs) :
    ofPairs others = ofPairs pairs := by
  refine ext_of_find? (ofPairs_ascending others) (ofPairs_ascending pairs) fun k => ?_
  have hreverse : (pairs.reverse.map Prod.fst).Nodup := by
    rw [List.map_reverse]
    exact List.nodup_reverse.mpr h
  rw [find?_ofPairs, find?_ofPairs]
  exact find?_eq_of_perm hreverse
    ((List.reverse_perm others).trans (hperm.trans (List.reverse_perm pairs).symm)) k

end Assoc

namespace OrderedMap

variable {κ α : Type} [Ord κ] [Std.TransOrd κ] [Std.LawfulEqOrd κ]

omit [Std.TransOrd κ] in
theorem contains_iff_mem_keys [DecidableEq κ] (m : OrderedMap κ α) (k : κ) :
    m.contains k = true ↔ k ∈ m.keys := by
  rw [contains, get?, keys, ← not_iff_not, ← Assoc.find?_eq_none_iff, Bool.not_eq_true,
    Option.isSome_eq_false_iff, Option.isNone_iff_eq_none]

theorem keys_eq_of_contains_eq [DecidableEq κ] {m n : OrderedMap κ α}
    (h : ∀ k, m.contains k = n.contains k) : m.keys = n.keys := by
  -- the maps with the values left out have the same look-ups
  have hentries : m.entries.map (fun e => (e.1, ())) = n.entries.map fun e => (e.1, ()) := by
    refine Assoc.ext_of_find? (m.ascending.map fun _ _ => ()) (n.ascending.map fun _ _ => ())
      fun k => ?_
    rw [Assoc.find?_map k (fun _ _ => ()), Assoc.find?_map k (fun _ _ => ())]
    have hk := h k
    unfold contains get? at hk
    revert hk
    cases Assoc.find? k m.entries <;> cases Assoc.find? k n.entries <;> simp
  have hkeys := congrArg (List.map Prod.fst) hentries
  rw [List.map_map, List.map_map] at hkeys
  exact hkeys

def insertAll (m : OrderedMap κ α) (pairs : List (κ × α)) : OrderedMap κ α :=
  pairs.foldl (fun m p => m.insert p.1 p.2) m

theorem insertAll_append (m : OrderedMap κ α) (first second : List (κ × α)) :
    m.insertAll (first ++ second) = (m.insertAll first).insertAll second := by
  simp only [insertAll, List.foldl_append]

variable [DecidableEq κ]

theorem get?_insertAll (m : OrderedMap κ α) (pairs : List (κ × α)) (k : κ) :
    (m.insertAll pairs).get? k = (Assoc.find? k pairs.reverse).or (m.get? k) := by
  induction pairs generalizing m with
  | nil => rfl
  | cons p rest ih =>
    rw [insertAll, List.foldl_cons, ← insertAll, ih, List.reverse_cons, Assoc.find?_append,
      Option.or_assoc, Assoc.find?_cons]
    congr 1
    rw [get?, insert, Assoc.find?_insert]
    split_ifs <;> rfl

/-- What is found at a key stays there while other keys are written. -/
theorem get?_insertAll_of_not_mem (m : OrderedMap κ α) {pairs : List (κ × α)} {k : κ}
    (hk : k ∉ pairs.map Prod.fst) : (m.insertAll pairs).get? k = m.get? k := by
  have hnone : Assoc.find? k pairs.reverse = none := by
    rw [Assoc.find?_eq_none_iff, List.map_reverse, List.mem_reverse]
    exact hk
  rw [get?_insertAll, hnone, Option.none_or]

theorem contains_insertAll (m : OrderedMap κ α) (pairs : List (κ × α)) (k : κ) :
    (m.insertAll pairs).contains k = true ↔ m.contains k = true ∨ k ∈ pairs.map Prod.fst := by
  have hfind : (Assoc.find? k pairs.reverse).isSome = true ↔ k ∈ pairs.map Prod.fst := by
    rw [← not_iff_not, Bool.not_eq_true, Option.isSome_eq_false_iff, Option.isNone_iff_eq_none,
      Assoc.find?_eq_none_iff]
    simp
  rw [contains, get?_insertAll, Option.isSome_or, Bool.or_eq_true, hfind, or_comm]
  rfl

/-- Pairs that give one value to a key leave it there. -/
theorem get?_insertAll_of_forall (m : OrderedMap κ α) {pairs : List (κ × α)} {k : κ} {a : α}
    (hk : k ∈ pairs.map Prod.fst) (h : ∀ p ∈ pairs, p.1 = k → p.2 = a) :
    (m.insertAll pairs).get? k = some a := by
  rw [get?_insertAll]
  cases hf : Assoc.find? k pairs.reverse with
  | none =>
    have := Assoc.find?_eq_none_iff.mp hf
    simp only [List.map_reverse, List.mem_reverse] at this
    exact absurd hk this
  | some b =>
    have hm : (k, b) ∈ pairs := List.mem_reverse.mp (Assoc.mem_of_find? hf)
    have hb : b = a := h _ hm rfl
    rw [hb]
    rfl

end OrderedMap

end DocSections
