import DocSections.Proofs.CompactText
import DocSections.Proofs.Forest
import DocSections.Proofs.Utf8

/-! What a fingerprint says of a catalog. The text that is hashed tells every family of a catalog,
so two catalogs with one fingerprint hold equal families unless two different messages have one
digest. -/

namespace DocSections

namespace Json

def setMembers (members : List (String × Option Json)) : List (String × Json) :=
  members.filterMap fun m => m.2.map (m.1, ·)

theorem setMembers_cons_none (key : String) (members : List (String × Option Json)) :
    setMembers ((key, none) :: members) = setMembers members := rfl

theorem setMembers_cons_some (key : String) (value : Json)
    (members : List (String × Option Json)) :
    setMembers ((key, some value) :: members) = (key, value) :: setMembers members := rfl

theorem key_mem_of_mem_setMembers {members : List (String × Option Json)} {m : String × Json}
    (h : m ∈ setMembers members) : m.1 ∈ members.map Prod.fst := by
  obtain ⟨n, hn, hset⟩ := List.mem_filterMap.mp h
  obtain ⟨value, -, rfl⟩ := Option.map_eq_some_iff.mp hset
  exact List.mem_map.mpr ⟨n, hn, rfl⟩

/-- Where names are not repeated, the members that are set tell which ones are left out. -/
theorem inOrder_alike_iff {members others : List (String × Option Json)}
    (hkeys : members.map Prod.fst = others.map Prod.fst) (hnodup : (members.map Prod.fst).Nodup) :
    (inOrder members).Alike (inOrder others) ↔
      List.Forall₂ (Option.Rel Alike) (members.map Prod.snd) (others.map Prod.snd) := by
  show (obj (setMembers members)).Alike (obj (setMembers others)) ↔ _
  rw [Alike, alikeMembers_iff]
  induction members generalizing others with
  | nil =>
    rw [List.map_eq_nil_iff.mp hkeys.symm]
    simp [setMembers]
  | cons m members ih =>
    cases others with
    | nil => cases hkeys
    | cons n others =>
      obtain ⟨key, value⟩ := m
      obtain ⟨key', other⟩ := n
      obtain ⟨rfl, hrest⟩ := List.cons.inj hkeys
      obtain ⟨hnew, hnodup⟩ := List.nodup_cons.mp hnodup
      have ih := ih hrest hnodup
      rw [List.map_cons, List.map_cons, List.forall₂_cons, ← ih]
      cases value with
      | none =>
        cases other with
        | none => simp [setMembers_cons_none]
        | some b =>
          rw [setMembers_cons_none, setMembers_cons_some]
          refine iff_of_false (fun h => ?_) (by simp)
          -- the member that only one side sets would have to come again further on
          obtain ⟨m, _, ⟨hm, -⟩, -, hmembers⟩ := List.forall₂_cons_right_iff.mp h
          have hmem := key_mem_of_mem_setMembers (hmembers ▸ List.mem_cons_self)
          exact hnew (hm ▸ hmem)
      | some a =>
        cases other with
        | none =>
          rw [setMembers_cons_none, setMembers_cons_some]
          refine iff_of_false (fun h => ?_) (by simp)
          obtain ⟨n, _, ⟨hn, -⟩, -, hothers⟩ := List.forall₂_cons_left_iff.mp h
          have hmem := key_mem_of_mem_setMembers (hothers ▸ List.mem_cons_self)
          rw [← hrest, ← hn] at hmem
          exact hnew hmem
        | some b =>
          rw [setMembers_cons_some, setMembers_cons_some]
          simp

/-- Whether the values that are related are those that are encoded alike. -/
def Encodes {α : Type} (toJson : α → Json) (R : α → α → Prop) : Prop :=
  ∀ a b, (toJson a).Alike (toJson b) ↔ R a b

namespace Encodes

variable {α : Type} {toJson : α → Json} {R : α → α → Prop}

theorem str : Encodes Json.str Eq := fun _ _ => Iff.rfl

theorem bool : Encodes Json.bool Eq := fun _ _ => Iff.rfl

theorem nat : Encodes Json.nat Eq := by
  intro m n
  show toString (m : Int) = toString (n : Int) ↔ m = n
  rw [Int.toString_eq_repr, Int.toString_eq_repr, Int.repr_eq_if, Int.repr_eq_if,
    if_pos (Int.natCast_nonneg m), if_pos (Int.natCast_nonneg n), Int.toNat_natCast,
    Int.toNat_natCast]
  exact ⟨Text.eq_of_repr_eq, congrArg Nat.repr⟩

theorem word [Vocabulary α] : Encodes (Vocabulary.toJson : α → Json) Eq :=
  fun _ _ => ⟨Vocabulary.word_injective, congrArg Vocabulary.word⟩

theorem option (h : Encodes toJson Eq) (a b : Option α) :
    Option.Rel Alike (a.map toJson) (b.map toJson) ↔ a = b := by
  cases a <;> cases b <;> simp [h _ _]

theorem list (h : Encodes toJson R) :
    Encodes (fun items : List α => arr (items.map toJson)) (List.Forall₂ R) := by
  intro items others
  rw [Alike, alikeItems_iff, List.forall₂_map_left_iff, List.forall₂_map_right_iff]
  constructor
  · exact List.Forall₂.imp fun a b => (h a b).mp
  · exact List.Forall₂.imp fun a b => (h a b).mpr

theorem nonEmptyList (h : Encodes toJson R) (items others : List α) :
    Option.Rel Alike (nonEmptyList toJson items) (nonEmptyList toJson others) ↔
      List.Forall₂ R items others := by
  cases items with
  | nil => cases others <;> simp [Json.nonEmptyList]
  | cons item items =>
    cases others with
    | nil => simp [Json.nonEmptyList]
    | cons other others =>
      simp only [Json.nonEmptyList, List.isEmpty_cons, Bool.false_eq_true, if_false,
        Option.rel_some_some]
      exact h.list (item :: items) (other :: others)

end Encodes

end Json

theorem ApplicabilityMap.encodes : Json.Encodes ApplicabilityMap.toJson Eq := by
  intro m n
  rw [toJson, toJson, Json.inOrder_alike_iff (by rfl) (by simp)]
  cases m
  cases n
  simp [Json.Encodes.word.option]

theorem SectionField.encodes : Json.Encodes SectionField.toJson Eq := by
  intro f g
  rw [toJson, toJson, Json.inOrder_alike_iff (by rfl) (by simp)]
  cases f
  cases g
  simp [Json.Encodes.str.option, Json.Encodes.str _ _, Json.Encodes.bool _ _]

/-- Equality of examples, numbers in their contents being compared as they are written. -/
def SectionExample.Alike (e e' : SectionExample) : Prop :=
  e.documentType = e'.documentType ∧ e.description = e'.description ∧
    e.content.json.Alike e'.content.json

theorem SectionExample.encodes : Json.Encodes SectionExample.toJson SectionExample.Alike := by
  intro e e'
  rw [toJson, toJson, Json.inOrder_alike_iff (by rfl) (by simp)]
  simp [Json.Encodes.str.option, Json.Encodes.word.option, SectionExample.Alike]

def Section.Alike (s t : Section) : Prop :=
  { s with examples := [] } = { t with examples := [] } ∧
    List.Forall₂ SectionExample.Alike s.examples t.examples

theorem Section.encodes : Json.Encodes Section.toJson Section.Alike := by
  intro s t
  rw [toJson, toJson, Json.inOrder_alike_iff (by rfl) (by simp)]
  simp [Section.Alike, Json.Encodes.str _ _, Json.Encodes.nat _ _, Json.Encodes.word _ _,
    Json.Encodes.str.option, ApplicabilityMap.encodes _ _, SectionField.encodes.nonEmptyList,
    SectionExample.encodes.nonEmptyList, UInt8.toNat_inj, and_assoc]

def Family.Alike (f g : Family) : Prop :=
  { f with sections := [] } = { g with sections := [] } ∧
    List.Forall₂ Section.Alike f.sections g.sections

theorem Family.encodes : Json.Encodes Family.toJson Family.Alike := by
  intro f g
  rw [toJson, toJson, Json.inOrder_alike_iff (by rfl) (by simp)]
  simp [Family.Alike, Json.Encodes.str _ _, Json.Encodes.nat _ _, Json.Encodes.str.option,
    ApplicabilityMap.encodes _ _, Section.encodes.list _ _, UInt32.toNat_inj, and_assoc]

namespace Family

def text (f : Family) : String := f.toJson.compact

variable {f g : Family}

theorem alike_iff_text_eq : f.Alike g ↔ f.text = g.text := by
  rw [text, text, Json.compact_eq_iff]
  exact (Family.encodes f g).symm

theorem Alike.id_eq (h : f.Alike g) : f.id = g.id := (Family.mk.inj h.1).1

theorem exists_text_append (f : Family) (r : List Char) :
    ∃ rest, f.text.toList ++ r = '\x7b' :: rest :=
  ⟨_, Json.compact_obj_append _ r⟩

theorem alike_of_text_append {r s : List Char} (hr : Json.Delimited r) (hs : Json.Delimited s)
    (h : f.text.toList ++ r = g.text.toList ++ s) : f.Alike g ∧ r = s := by
  obtain ⟨halike, hrest⟩ := Json.alike_of_compact_append _ _ hr hs h
  exact ⟨(Family.encodes f g).mp halike, hrest⟩

end Family

theorem forall₂_iff_map_eq {α β : Type} {R : α → α → Prop} {g : α → β}
    (hg : ∀ a b, R a b ↔ g a = g b) {xs ys : List α} :
    List.Forall₂ R xs ys ↔ xs.map g = ys.map g := by
  rw [← List.forall₂_eq_eq_eq, List.forall₂_map_left_iff, List.forall₂_map_right_iff]
  exact ⟨List.Forall₂.imp fun a b => (hg a b).mp, List.Forall₂.imp fun a b => (hg a b).mpr⟩

namespace Catalog

variable {c d : Catalog}

theorem text_eq (c : Catalog) : c.text = String.join (c.families.map Family.text) := rfl

theorem toList_text (c : Catalog) :
    c.text.toList = c.families.flatMap fun f => f.text.toList := by
  rw [text_eq, String.toList_join, List.flatMap_map]

/-- The families can be told from their texts though nothing stands between these. -/
theorem text_eq_iff : c.text = d.text ↔ List.Forall₂ Family.Alike c.families d.families := by
  constructor
  · intro h
    have hlist : (c.families.flatMap fun f => f.text.toList) ++ [] =
        (d.families.flatMap fun f => f.text.toList) ++ [] := by
      rw [← toList_text, ← toList_text, h]
    have hend : Json.Delimited [] := by simp [Json.Delimited]
    refine (forall₂_of_flatMap_append (P := Json.Delimited) ?_ ?_ hend hend ?_ hlist).1
    · intro f _ g _ r s hr hs h
      exact Family.alike_of_text_append hr hs h
    · intro f t
      obtain ⟨rest, hrest⟩ := f.exists_text_append t
      rw [hrest]
      exact Json.delimited_cons rfl rest
    · intro f t
      obtain ⟨rest, hrest⟩ := f.exists_text_append t
      rw [hrest]
      exact ⟨List.cons_ne_nil _ _, List.cons_ne_nil _ _⟩
  · intro h
    have hmap := (forall₂_iff_map_eq (g := Family.text) fun _ _ => Family.alike_iff_text_eq).mp h
    rw [text_eq, text_eq, hmap]

/-- Whether two catalogs hold families at the same ids, each equal to the other one but for numbers
in examples, which are compared as they are written. -/
def Alike (c d : Catalog) : Prop :=
  ∀ id, Option.Rel Family.Alike (c.family? id) (d.family? id)

def texts (c : Catalog) : List (UInt32 × String) := c.byId.entries.map fun e => (e.1, e.2.text)

theorem ascending_texts (c : Catalog) : Assoc.Ascending c.texts :=
  c.byId.ascending.map fun _ : UInt32 => Family.text

theorem find?_texts (c : Catalog) (id : UInt32) :
    Assoc.find? id c.texts = (c.family? id).map Family.text :=
  Assoc.find?_map id (fun _ : UInt32 => Family.text) c.byId.entries

theorem alike_iff_texts_eq : c.Alike d ↔ c.texts = d.texts := by
  have hrel : ∀ a b : Option Family,
      Option.Rel Family.Alike a b ↔ a.map Family.text = b.map Family.text := by
    intro a b
    cases a <;> cases b <;> simp [Family.alike_iff_text_eq]
  constructor
  · intro h
    refine Assoc.ext_of_find? c.ascending_texts d.ascending_texts fun id => ?_
    rw [find?_texts, find?_texts, ← hrel]
    exact h id
  · intro h id
    rw [hrel, ← find?_texts, ← find?_texts, h]

theorem Sound.texts_eq_map (h : c.Sound) : c.texts = c.families.map fun f => (f.id, f.text) := by
  rw [texts, families, OrderedMap.values, List.map_map]
  refine List.map_congr_left fun e he => ?_
  rw [(h e he).1]
  rfl

theorem Sound.alike_iff (hc : c.Sound) (hd : d.Sound) :
    c.Alike d ↔ List.Forall₂ Family.Alike c.families d.families := by
  rw [alike_iff_texts_eq, hc.texts_eq_map, hd.texts_eq_map]
  refine (forall₂_iff_map_eq fun f g => ?_).symm
  rw [Prod.mk.injEq, ← Family.alike_iff_text_eq]
  exact ⟨fun h => ⟨h.id_eq, h⟩, And.right⟩

end Catalog

namespace Text

theorem digitValue_hexDigit {n : Nat} (h : n < 16) : digitValue (hexDigit n) = n := by
  interval_cases n <;> rfl

theorem hexDigit_inj {m n : Nat} (hm : m < 16) (hn : n < 16) (h : hexDigit m = hexDigit n) :
    m = n := by
  rw [← digitValue_hexDigit hm, h, digitValue_hexDigit hn]

end Text

namespace Sha256

def Collide (m n : List UInt8) : Prop := m ≠ n ∧ digest m = digest n

theorem digest_eq_of_hex_eq {m n : List UInt8} (h : hex m = hex n) : digest m = digest n := by
  have hdigits := congrArg (fun s => s.toList ++ []) h
  simp only [hex, String.toList_ofList] at hdigits
  have hbytes := (forall₂_of_flatMap_append (R := Eq) (P := fun _ => True) ?_
    (fun _ _ => trivial) trivial trivial (by simp) hdigits).1
  · rwa [List.forall₂_eq_eq_eq] at hbytes
  · intro a _ b _ r s _ _ hab
    simp only [List.cons_append, List.nil_append, List.cons.injEq] at hab
    obtain ⟨hhigh, hlow, hrest⟩ := hab
    have high : ∀ x : UInt8, x.toNat / 16 < 16 := fun x => by
      have := x.toNat_lt
      omega
    have low : ∀ x : UInt8, x.toNat % 16 < 16 := fun x => Nat.mod_lt _ (by decide)
    have hdiv := Text.hexDigit_inj (high a) (high b) hhigh
    have hmod := Text.hexDigit_inj (low a) (low b) hlow
    exact ⟨UInt8.toNat_inj.mp (by omega), hrest⟩

end Sha256

namespace Catalog

variable {fs gs : List Family} {c d : Catalog}

/-- What is hashed tells which families a catalog holds, so two catalogs with different families
have one fingerprint only if two messages have one digest. -/
theorem fingerprint_identifies (hc : ofFamilies fs = .ok c) (hd : ofFamilies gs = .ok d) :
    (c.text.toUTF8.toList = d.text.toUTF8.toList ↔ c.Alike d) ∧
      (c.fingerprint = d.fingerprint ↔
        c.Alike d ∨ Sha256.Collide c.text.toUTF8.toList d.text.toUTF8.toList) := by
  have hbytes : c.text.toUTF8.toList = d.text.toUTF8.toList ↔ c.Alike d := by
    rw [Text.utf8_inj, text_eq_iff, (sound_of_ofFamilies hc).alike_iff (sound_of_ofFamilies hd)]
  refine ⟨hbytes, ?_⟩
  rw [← hbytes]
  constructor
  · intro h
    by_cases heq : c.text.toUTF8.toList = d.text.toUTF8.toList
    · exact .inl heq
    · exact .inr ⟨heq, Sha256.digest_eq_of_hex_eq h⟩
  · rintro (heq | ⟨-, hdigest⟩)
    · rw [fingerprint, heq, fingerprint]
    · rw [fingerprint, fingerprint, Sha256.hex, hdigest, Sha256.hex]

end Catalog

def notedFamily : Family := { unevenFamily with notes := some "" }

theorem notedFamily_fingerprint :
    ∃ c d, Catalog.ofFamilies [unevenFamily, ninetyFirstFamily] = .ok c ∧
      Catalog.ofFamilies [ninetyFirstFamily, notedFamily] = .ok d ∧
      c.text.toUTF8.toList ≠ d.text.toUTF8.toList ∧
      (c.fingerprint = d.fingerprint ↔
        Sha256.Collide c.text.toUTF8.toList d.text.toUTF8.toList) := by
  obtain ⟨c, hc, hfound⟩ : ∃ c, Catalog.ofFamilies [unevenFamily, ninetyFirstFamily] = .ok c ∧
      c.family? 9 = some unevenFamily := ⟨_, by rfl, by rfl⟩
  obtain ⟨d, hd, hfound'⟩ : ∃ d, Catalog.ofFamilies [ninetyFirstFamily, notedFamily] = .ok d ∧
      d.family? 9 = some notedFamily := ⟨_, by rfl, by rfl⟩
  have hdiffer : ¬ c.Alike d := by
    intro h
    have hnine := h 9
    rw [hfound, hfound', Option.rel_some_some] at hnine
    cases congrArg Family.notes hnine.1
  obtain ⟨hbytes, hfingerprint⟩ := Catalog.fingerprint_identifies hc hd
  refine ⟨c, d, hc, hd, fun h => hdiffer (hbytes.mp h), ?_⟩
  rw [hfingerprint, or_iff_right hdiffer]

end DocSections
