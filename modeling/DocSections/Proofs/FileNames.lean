import DocSections.Catalog.Directory
import Mathlib.Data.List.Basic
import Mathlib.Tactic.SplitIfs

/-! Which files hold families, by their names. A name is of the right form if it consists of digits,
one or more words of small letters and digits, each behind a hyphen, and the extension `json`; the
digits spell the number of the family. -/

namespace DocSections

namespace Text

variable {α : Type} [DecidableEq α] {separator : α}

theorem split_of_not_mem {piece : List α} (h : separator ∉ piece) :
    split separator piece = [piece] := by
  induction piece with
  | nil => rfl
  | cons c rest ih =>
    simp only [List.mem_cons, not_or] at h
    rw [split, if_neg (Ne.symm h.1), ih h.2, consFirst]

omit [DecidableEq α] in
theorem consFirst_append (c : α) {pieces : List (List α)} (h : pieces ≠ [])
    (others : List (List α)) : consFirst c (pieces ++ others) = consFirst c pieces ++ others := by
  cases pieces with
  | nil => exact absurd rfl h
  | cons piece rest => rfl

theorem split_ne_nil (cs : List α) : split separator cs ≠ [] := by
  cases cs with
  | nil => exact List.cons_ne_nil _ _
  | cons c rest =>
    rw [split]
    split_ifs
    · exact List.cons_ne_nil _ _
    · cases split separator rest <;> exact List.cons_ne_nil _ _

theorem split_append_cons (before after : List α) :
    split separator (before ++ separator :: after) =
      split separator before ++ split separator after := by
  induction before with
  | nil => simp [split]
  | cons c before ih =>
    rw [List.cons_append, split, split, ih]
    split_ifs
    · rfl
    · exact consFirst_append c (split_ne_nil before) _

/-- Pieces without separators are found again when each but the first follows a separator, and every
text is split into such pieces. -/
theorem split_eq_cons_iff {cs first : List α} {rest : List (List α)} :
    split separator cs = first :: rest ↔
      cs = first ++ rest.flatMap (separator :: ·) ∧ separator ∉ first ∧
        ∀ piece ∈ rest, separator ∉ piece := by
  constructor
  · intro h
    induction cs generalizing first rest with
    | nil =>
      cases h
      simp
    | cons c cs ih =>
      rw [split] at h
      obtain ⟨next, more, hsplit⟩ : ∃ next more, split separator cs = next :: more :=
        List.exists_cons_of_ne_nil (split_ne_nil cs)
      obtain ⟨hcs, hnext, hmore⟩ := ih hsplit
      rw [hsplit] at h
      split_ifs at h with hc
      · cases h
        rw [hc, hcs]
        simpa using ⟨hnext, hmore⟩
      · cases h
        rw [hcs]
        simpa using ⟨⟨Ne.symm hc, hnext⟩, hmore⟩
  · rintro ⟨rfl, hfirst, hrest⟩
    induction rest generalizing first with
    | nil => simpa using split_of_not_mem hfirst
    | cons piece rest ih =>
      rw [List.flatMap_cons, List.cons_append, split_append_cons, split_of_not_mem hfirst,
        ih (hrest piece List.mem_cons_self) fun p hp => hrest p (List.mem_cons_of_mem _ hp)]
      rfl

theorem isDigit_iff {c : Char} : c.isDigit = true ↔ '0' ≤ c ∧ c ≤ '9' := by
  simp [Char.isDigit, Char.le_def]

theorem isLower_iff {c : Char} : c.isLower = true ↔ 'a' ≤ c ∧ c ≤ 'z' := by
  change (decide ('a'.val ≤ c.val) && decide (c.val ≤ 'z'.val)) = true ↔ _
  rw [Bool.and_eq_true, decide_eq_true_iff, decide_eq_true_iff, Char.le_def, Char.le_def]

end Text

namespace FamilyFileName

/-- A file name that consists of digits, of words of small letters and digits, each behind a hyphen,
and of the extension. -/
structure Consists (name : String) (digits : List Char) (words : List (List Char)) : Prop where
  name_eq : name.toList = digits ++ words.flatMap ('-' :: ·) ++ ".json".toList
  digits_ne_nil : digits ≠ []
  digits : ∀ c ∈ digits, '0' ≤ c ∧ c ≤ '9'
  words_ne_nil : words ≠ []
  words : ∀ word ∈ words, word ≠ [] ∧ ∀ c ∈ word, ('a' ≤ c ∧ c ≤ 'z') ∨ ('0' ≤ c ∧ c ≤ '9')

/-- A file name of the right form, with a number below 2³² in front. -/
def Numbered (name : String) (number : Nat) : Prop :=
  ∃ digits words, Consists name digits words ∧ Nat.ofDigitChars 10 digits 0 = number ∧
    number < UInt32.size

variable {name : String} {number : UInt32}

theorem isSlugChar_iff {c : Char} :
    isSlugChar c = true ↔ ('a' ≤ c ∧ c ≤ 'z') ∨ ('0' ≤ c ∧ c ≤ '9') := by
  rw [isSlugChar, Bool.or_eq_true, Text.isDigit_iff, Text.isLower_iff, or_comm]

theorem isSlugWord_iff {word : List Char} : isSlugWord word = true ↔
    word ≠ [] ∧ ∀ c ∈ word, ('a' ≤ c ∧ c ≤ 'z') ∨ ('0' ≤ c ∧ c ≤ '9') := by
  simp [isSlugWord, isSlugChar_iff]

theorem withoutExtension?_eq_some_iff {cs stem : List Char} :
    withoutExtension? cs = some stem ↔ cs = stem ++ ".json".toList := by
  unfold withoutExtension?
  constructor
  · intro h
    split_ifs at h with hsuffix
    obtain ⟨before, rfl⟩ := List.isSuffixOf_iff_suffix.mp hsuffix
    cases h
    simp
  · rintro rfl
    rw [if_pos (List.isSuffixOf_iff_suffix.mpr (List.suffix_append _ _))]
    simp

theorem number?_eq_some_iff {digits : List Char} : number? digits = some number ↔
    digits ≠ [] ∧ (∀ c ∈ digits, '0' ≤ c ∧ c ≤ '9') ∧
      Nat.ofDigitChars 10 digits 0 = number.toNat := by
  unfold number? Text.natural?
  have hall : digits.all Char.isDigit = true ↔ ∀ c ∈ digits, '0' ≤ c ∧ c ≤ '9' := by
    simp [Text.isDigit_iff]
  by_cases hdigits : digits ≠ [] ∧ digits.all Char.isDigit
  · have hvalue := Text.decimalOf_eq_ofDigitChars (List.all_eq_true.mp hdigits.2)
    rw [if_pos hdigits, and_iff_right hdigits.1, and_iff_right (hall.mp hdigits.2), ← hvalue]
    simp only [Option.map_eq_some_iff, Option.filter_eq_some_iff, Option.some.injEq,
      decide_eq_true_eq]
    constructor
    · rintro ⟨n, ⟨rfl, hsmall⟩, rfl⟩
      exact (UInt32.toNat_ofNat_of_lt' hsmall).symm
    · intro h
      exact ⟨_, ⟨rfl, h ▸ number.toNat_lt_size⟩, by rw [h, UInt32.ofNat_toNat]⟩
  · rw [if_neg hdigits]
    refine iff_of_false (by simp) ?_
    rintro ⟨hne, hd, -⟩
    exact hdigits ⟨hne, hall.mpr hd⟩

theorem Consists.hyphen_not_mem {digits : List Char} {words : List (List Char)}
    (h : Consists name digits words) : '-' ∉ digits ∧ ∀ word ∈ words, '-' ∉ word := by
  refine ⟨fun hd => ?_, fun word hword hd => ?_⟩
  · exact absurd (h.digits _ hd) (by decide)
  · exact absurd ((h.words word hword).2 _ hd) (by decide)

/-- The number is read from a name exactly if the name is of the right form. -/
theorem familyNumber?_eq_some_iff :
    familyNumber? name = some number ↔ Numbered name number.toNat := by
  unfold familyNumber?
  rw [Option.bind_eq_bind, Option.bind_eq_some_iff]
  constructor
  · rintro ⟨stem, hstem, h⟩
    split at h
    · rename_i digits word words hsplit
      split_ifs at h with hwords
      obtain ⟨hne, hdigits, hvalue⟩ := number?_eq_some_iff.mp h
      have hname := withoutExtension?_eq_some_iff.mp hstem
      rw [(Text.split_eq_cons_iff.mp hsplit).1] at hname
      refine ⟨digits, word :: words, ⟨hname, hne, hdigits, List.cons_ne_nil _ _, ?_⟩, hvalue,
        number.toNat_lt_size⟩
      exact fun w hw => isSlugWord_iff.mp (List.all_eq_true.mp hwords w hw)
    · cases h
  · rintro ⟨digits, words, h, hvalue, -⟩
    refine ⟨_, withoutExtension?_eq_some_iff.mpr h.name_eq, ?_⟩
    rw [Text.split_eq_cons_iff.mpr ⟨rfl, h.hyphen_not_mem⟩]
    obtain ⟨word, rest, rfl⟩ := List.exists_cons_of_ne_nil h.words_ne_nil
    have hwords : (word :: rest).all isSlugWord = true :=
      List.all_eq_true.mpr fun w hw => isSlugWord_iff.mpr (h.words w hw)
    simp only [hwords, if_true]
    exact number?_eq_some_iff.mpr ⟨h.digits_ne_nil, h.digits, hvalue⟩

theorem familyNumber?_eq_none_iff : familyNumber? name = none ↔ ∀ n, ¬ Numbered name n := by
  constructor
  · rintro hnone n ⟨digits, words, h, hvalue, hsmall⟩
    have hnumber : (UInt32.ofNat n).toNat = n := UInt32.toNat_ofNat_of_lt' hsmall
    have hsome : familyNumber? name = some (.ofNat n) :=
      familyNumber?_eq_some_iff.mpr ⟨digits, words, h, by rw [hnumber, hvalue], by rwa [hnumber]⟩
    rw [hnone] at hsome
    cases hsome
  · intro h
    cases hread : familyNumber? name with
    | none => rfl
    | some number => exact absurd (familyNumber?_eq_some_iff.mp hread) (h _)

end FamilyFileName

/-- A path whose last component is the name of a family file, with the number in front. -/
def PathText.NamesFamily (path : String) (number : Nat) : Prop :=
  ∃ name, PathText.fileName? path = some name ∧ FamilyFileName.Numbered name number

theorem PathText.namesFamily_iff {path : String} {number : UInt32} :
    NamesFamily path number.toNat ↔
      (fileName? path).bind FamilyFileName.familyNumber? = some number := by
  simp only [NamesFamily, Option.bind_eq_some_iff, FamilyFileName.familyNumber?_eq_some_iff]

theorem PathText.forall_not_namesFamily_iff {path : String} :
    (∀ n, ¬ NamesFamily path n) ↔
      (fileName? path).bind FamilyFileName.familyNumber? = none := by
  simp only [NamesFamily, Option.bind_eq_none_iff, FamilyFileName.familyNumber?_eq_none_iff,
    not_exists, not_and]
  exact ⟨fun h name hname n => h n name hname, fun h n name hname => h name hname n⟩

section

variable {path text : String}

theorem parseFamilyFile_of_unnamed (h : ∀ n, ¬ PathText.NamesFamily path n) :
    parseFamilyFile path text = .error (.invalidFile path .naming) := by
  rw [parseFamilyFile, PathText.forall_not_namesFamily_iff.mp h]

theorem parseFamilyFile_of_unread {number : UInt32}
    (h : PathText.NamesFamily path number.toNat) (htext : Family.ofText? text = none) :
    parseFamilyFile path text = .error (.invalidFile path (.notAFamily (firstLine text))) := by
  simp only [parseFamilyFile, PathText.namesFamily_iff.mp h, htext]

theorem parseFamilyFile_of_read {number : UInt32} {f : Family}
    (h : PathText.NamesFamily path number.toNat) (htext : Family.ofText? text = some f) :
    parseFamilyFile path text =
      if f.id = number then .ok f
      else .error (.invalidFile path (.numberMismatch number f.id)) := by
  simp only [parseFamilyFile, PathText.namesFamily_iff.mp h, htext]

theorem PathText.NamesFamily.eq {m n : UInt32} (hm : PathText.NamesFamily path m.toNat)
    (hn : PathText.NamesFamily path n.toNat) : m = n :=
  Option.some.inj ((PathText.namesFamily_iff.mp hm).symm.trans (PathText.namesFamily_iff.mp hn))

theorem PathText.exists_namesFamily (h : ¬ ∀ n, ¬ PathText.NamesFamily path n) :
    ∃ number : UInt32, PathText.NamesFamily path number.toNat := by
  rw [PathText.forall_not_namesFamily_iff] at h
  obtain ⟨number, hnumber⟩ := Option.ne_none_iff_exists'.mp h
  exact ⟨number, PathText.namesFamily_iff.mpr hnumber⟩

theorem parseFamilyFile_eq_ok_iff {f : Family} : parseFamilyFile path text = .ok f ↔
    PathText.NamesFamily path f.id.toNat ∧ Family.ofText? text = some f := by
  constructor
  · intro h
    by_cases hunnamed : ∀ n, ¬ PathText.NamesFamily path n
    · rw [parseFamilyFile_of_unnamed hunnamed] at h
      cases h
    · obtain ⟨number, hnamed⟩ := PathText.exists_namesFamily hunnamed
      cases htext : Family.ofText? text with
      | none =>
        rw [parseFamilyFile_of_unread hnamed htext] at h
        cases h
      | some g =>
        rw [parseFamilyFile_of_read hnamed htext] at h
        split_ifs at h with hid
        cases h
        rw [hid]
        exact ⟨hnamed, rfl⟩
  · rintro ⟨hnamed, htext⟩
    rw [parseFamilyFile_of_read hnamed htext, if_pos rfl]

end

/-- A family is read from a file exactly if the file's name is of the right form, the text is a
family document, and the number in the name is the id of the family. The fault is that of the name
whenever the name is not of the right form, and the numbers are compared only where name and text
are both right. -/
theorem parseFamilyFile_by_name (path text : String) :
    (∀ f, parseFamilyFile path text = .ok f ↔
      PathText.NamesFamily path f.id.toNat ∧ Family.ofText? text = some f) ∧
    (parseFamilyFile path text = .error (.invalidFile path .naming) ↔
      ∀ n, ¬ PathText.NamesFamily path n) ∧
    ((∃ line, parseFamilyFile path text = .error (.invalidFile path (.notAFamily line))) ↔
      (∃ n, PathText.NamesFamily path n) ∧ Family.ofText? text = none) ∧
    (∀ number id,
      parseFamilyFile path text = .error (.invalidFile path (.numberMismatch number id)) ↔
        PathText.NamesFamily path number.toNat ∧
          (∃ f, Family.ofText? text = some f ∧ f.id = id) ∧ id ≠ number) ∧
    ((∃ f, parseFamilyFile path text = .ok f) ∨
      ∃ fault, parseFamilyFile path text = .error (.invalidFile path fault)) := by
  refine ⟨fun f => parseFamilyFile_eq_ok_iff, ?_⟩
  by_cases hunnamed : ∀ n, ¬ PathText.NamesFamily path n
  · simp [parseFamilyFile_of_unnamed hunnamed, hunnamed]
  · obtain ⟨number, hnamed⟩ := PathText.exists_namesFamily hunnamed
    have honly : ∀ n : UInt32, PathText.NamesFamily path n.toNat ↔ n = number := fun n =>
      ⟨fun h => h.eq hnamed, fun h => h ▸ hnamed⟩
    cases htext : Family.ofText? text with
    | none =>
      have hsome : ∃ n, PathText.NamesFamily path n := ⟨_, hnamed⟩
      simp [parseFamilyFile_of_unread hnamed htext, hsome, hunnamed]
    | some f =>
      rw [parseFamilyFile_of_read hnamed htext]
      by_cases hid : f.id = number
      · rw [if_pos hid]
        simpa [honly, hunnamed] using hid
      · rw [if_neg hid]
        refine ⟨by simp [hunnamed], by simp, fun n id => ?_, .inr ⟨_, rfl⟩⟩
        simp only [honly, Except.error.injEq, LoadFault.invalidFile.injEq, true_and,
          FamilyFileFault.numberMismatch.injEq, Option.some.injEq, exists_eq_left']
        constructor
        · rintro ⟨rfl, rfl⟩
          exact ⟨rfl, rfl, hid⟩
        · rintro ⟨rfl, rfl, -⟩
          exact ⟨rfl, rfl⟩

def risksText : String :=
  "\x7b\"id\": 42, \"name\": \"Risks\", \"anchor\": \"risks\", \"sections\": []\x7d"

def risksFamily : Family :=
  { id := 42, name := "Risks", anchor := "risks", applicability := .unset, sections := [] }

/-- A file that holds a family, and one for each fault. Digits of other scripts and numbers that do
not fit are faults of the name, whatever the text. -/
theorem parseFamilyFile_by_name_risks :
    parseFamilyFile "families/0042-risks-2.json" risksText = .ok risksFamily ∧
    parseFamilyFile "42.json" risksText = .error (.invalidFile "42.json" .naming) ∧
    parseFamilyFile "4٢-risks.json" risksText = .error (.invalidFile "4٢-risks.json" .naming) ∧
    parseFamilyFile "4294967296-risks.json" "" =
      .error (.invalidFile "4294967296-risks.json" .naming) ∧
    parseFamilyFile "41-risks.json" "\n[]" =
      .error (.invalidFile "41-risks.json" (.notAFamily 2)) ∧
    parseFamilyFile "41-risks.json" risksText =
      .error (.invalidFile "41-risks.json" (.numberMismatch 41 42)) := by
  have hnamed : PathText.NamesFamily "families/0042-risks-2.json" risksFamily.id.toNat :=
    PathText.namesFamily_iff.mpr (by decide +kernel)
  have htext : Family.ofText? risksText = some risksFamily := by decide +kernel
  refine ⟨((parseFamilyFile_by_name _ _).1 _).mpr ⟨hnamed, htext⟩, ?_⟩
  decide +kernel

end DocSections
