import DocSections.Proofs.Assembly
import DocSections.Proofs.FileNames
import DocSections.Proofs.FileWriting
import DocSections.Proofs.Utf8
import Mathlib.Data.List.Perm.Basic

/-! Catalogs in directories. A directory is loaded from its family files alone, which are the files
with the extension `json`; of their names only the numbers count. All files are read, in the order
of the bytes of their names, before any family is checked. -/

namespace DocSections

section

variable {ε α β : Type} {g : α → Except ε β} {xs : List α} {ys : List β} {e : ε}

theorem exists_mem_of_forall₂ {R : α → β → Prop} (h : List.Forall₂ R xs ys) {x : α}
    (hx : x ∈ xs) : ∃ y ∈ ys, R x y := by
  induction h with
  | nil => cases hx
  | cons hab _ ih =>
    rcases List.mem_cons.mp hx with rfl | hx
    · exact ⟨_, List.mem_cons_self, hab⟩
    · obtain ⟨y, hy, hxy⟩ := ih hx
      exact ⟨y, List.mem_cons_of_mem _ hy, hxy⟩

theorem mapM_eq_ok_iff : xs.mapM g = .ok ys ↔ List.Forall₂ (fun x y => g x = .ok y) xs ys := by
  induction xs generalizing ys with
  | nil =>
    rw [List.mapM_nil, List.forall₂_nil_left_iff]
    exact ⟨fun h => (Except.ok.inj h).symm, fun h => by rw [h]; rfl⟩
  | cons x rest ih =>
    rw [List.mapM_cons, List.forall₂_cons_left_iff]
    cases hx : g x with
    | error own => simp [bind, Except.bind]
    | ok y =>
      cases hrest : rest.mapM g with
      | error own =>
        refine iff_of_false nofun ?_
        rintro ⟨z, zs, -, hzs, -⟩
        rw [ih.mpr hzs] at hrest
        cases hrest
      | ok zs =>
        simp only [bind, Except.bind, pure, Except.pure, Except.ok.injEq, ← ih, hrest]
        constructor
        · rintro rfl
          exact ⟨y, zs, rfl, rfl, rfl⟩
        · rintro ⟨_, _, rfl, rfl, rfl⟩
          rfl

theorem exists_of_mapM_eq_error (h : xs.mapM g = .error e) : ∃ before x after,
    xs = before ++ x :: after ∧ (∀ y ∈ before, ∃ b, g y = .ok b) ∧ g x = .error e := by
  induction xs with
  | nil => cases h
  | cons x rest ih =>
    rw [List.mapM_cons] at h
    cases hx : g x with
    | error own =>
      rw [hx] at h
      cases h
      exact ⟨[], x, rest, rfl, nofun, hx⟩
    | ok y =>
      rw [hx] at h
      cases hrest : rest.mapM g with
      | ok zs =>
        simp only [bind, Except.bind, hrest] at h
        cases h
      | error own =>
        simp only [bind, Except.bind, hrest] at h
        cases h
        obtain ⟨before, z, after, hsplit, hbefore, hz⟩ := ih hrest
        refine ⟨x :: before, z, after, by rw [hsplit]; rfl, ?_, hz⟩
        exact List.forall_mem_cons.mpr ⟨⟨y, hx⟩, hbefore⟩

theorem exists_mapM_eq_ok_iff :
    (∃ ys, xs.mapM g = .ok ys) ↔ ∀ x ∈ xs, ∃ y, g x = .ok y := by
  constructor
  · rintro ⟨ys, h⟩ x hx
    obtain ⟨y, -, hxy⟩ := exists_mem_of_forall₂ (mapM_eq_ok_iff.mp h) hx
    exact ⟨y, hxy⟩
  · intro h
    cases hxs : xs.mapM g with
    | ok ys => exact ⟨ys, rfl⟩
    | error e =>
      obtain ⟨before, x, after, hsplit, -, hx⟩ := exists_of_mapM_eq_error hxs
      obtain ⟨y, hy⟩ := h x (by rw [hsplit]; exact List.mem_append_right _ List.mem_cons_self)
      rw [hx] at hy
      cases hy

end

namespace PathText

theorem fileName?_of_slash {path name : String} (before : List Char)
    (hpath : path.toList = before ++ '/' :: name.toList) (hslash : '/' ∉ name.toList)
    (hname : name ∉ ["", ".", ".."]) : fileName? path = some name := by
  simp only [List.mem_cons, List.not_mem_nil, or_false, not_or] at hname
  have hlast : (names path).getLast? = some name := by
    rw [names, hpath, Text.split_append_cons, Text.split_of_not_mem hslash, List.map_append,
      List.filter_append]
    simp [hname]
  rw [fileName?, hlast]
  simp [hname]

theorem fileName?_join {directory name : String} (hslash : '/' ∉ name.toList)
    (hname : name ∉ ["", ".", ".."]) : fileName? (join directory name) = some name := by
  have hslashes : "/".toList = ['/'] := rfl
  unfold join
  split_ifs with hdirectory
  · rw [Bool.or_eq_true, decide_eq_true_eq] at hdirectory
    rcases hdirectory with rfl | hends
    · simp only [List.mem_cons, List.not_mem_nil, or_false, not_or] at hname
      rw [String.empty_append, fileName?, names, Text.split_of_not_mem hslash]
      simp [hname]
    · rw [endsInSlash, beq_iff_eq, List.getLast?_eq_some_iff] at hends
      obtain ⟨before, hbefore⟩ := hends
      refine fileName?_of_slash before ?_ hslash hname
      rw [String.toList_append, hbefore, List.append_assoc, List.singleton_append]
  · refine fileName?_of_slash directory.toList ?_ hslash hname
    rw [String.toList_append, String.toList_append, hslashes, List.append_assoc,
      List.singleton_append]

end PathText

namespace FileTree

variable {entries : List (String × FileTree)}

/-- Names as they stand in a directory: each is one component of a path, and none comes twice. -/
structure WellNamed (entries : List (String × FileTree)) : Prop where
  nodup : (entries.map Prod.fst).Nodup
  noSlash : ∀ e ∈ entries, '/' ∉ e.1.toList

def familyFile? (e : String × FileTree) : Option (String × ByteArray) :=
  match e.2 with
  | directory _ => none
  | file bytes => if PathText.extension? e.1 = some "json" then some (e.1, bytes) else none

def familyFiles (entries : List (String × FileTree)) : List (String × ByteArray) :=
  entries.filterMap familyFile?

theorem familyFile?_eq_some_iff {e : String × FileTree} {name : String} {bytes : ByteArray} :
    familyFile? e = some (name, bytes) ↔
      e = (name, file bytes) ∧ PathText.extension? name = some "json" := by
  obtain ⟨own, item⟩ := e
  cases item with
  | directory items => simp [familyFile?]
  | file content =>
    simp only [familyFile?]
    split_ifs with hext
    · simp only [Option.some.injEq, Prod.mk.injEq, file.injEq]
      constructor
      · rintro ⟨rfl, rfl⟩
        exact ⟨⟨rfl, rfl⟩, hext⟩
      · exact And.left
    · refine iff_of_false nofun ?_
      rintro ⟨he, hname⟩
      cases he
      exact hext hname

theorem mem_familyFiles {name : String} {bytes : ByteArray} :
    (name, bytes) ∈ familyFiles entries ↔
      (name, file bytes) ∈ entries ∧ PathText.extension? name = some "json" := by
  simp only [familyFiles, List.mem_filterMap, familyFile?_eq_some_iff]
  constructor
  · rintro ⟨_, he, rfl, hext⟩
    exact ⟨he, hext⟩
  · rintro ⟨he, hext⟩
    exact ⟨_, he, rfl, hext⟩

theorem familyFiles_ofPairs_perm (h : (entries.map Prod.fst).Nodup) :
    (familyFiles (Assoc.ofPairs entries)).Perm (familyFiles entries) :=
  (Assoc.ofPairs_perm h).filterMap _

/-- Family files are listed in the order of the bytes of their names. -/
theorem familyFiles_ofPairs_ascending (entries : List (String × FileTree)) :
    (familyFiles (Assoc.ofPairs entries)).Pairwise
      fun a b => a.1.toUTF8.toList < b.1.toUTF8.toList := by
  refine (Assoc.ofPairs_ascending entries).filterMap _ fun e e' hlt a ha b hb => ?_
  rw [(familyFile?_eq_some_iff.mp ha).1, (familyFile?_eq_some_iff.mp hb).1] at hlt
  exact Text.compare_eq_lt_iff_utf8.mp hlt

end FileTree

namespace Catalog

open FileTree

variable {directory : String} {entries : List (String × FileTree)} {c : Catalog}

/-- Reads a family file of the directory: its bytes as text, and the text as a family document. -/
def readFile (directory : String) (file : String × ByteArray) : Except LoadFault Family :=
  match Files.textOf file.2 with
  | .error fault => .error (.unreadable fault)
  | .ok text => parseFamilyFile (PathText.join directory file.1) text

theorem readEntry_of_other {e : String × FileTree} (h : familyFile? e = none) :
    readEntry directory e.1 e.2 = .ok none := by
  obtain ⟨name, item⟩ := e
  cases item with
  | directory items => rfl
  | file bytes =>
    simp only [familyFile?] at h
    split_ifs at h with hext
    simp only [readEntry, if_neg hext]

theorem readEntry_of_familyFile {e : String × FileTree} {found : String × ByteArray}
    (h : familyFile? e = some found) :
    readEntry directory e.1 e.2 = (readFile directory found).map some := by
  obtain ⟨rfl, hext⟩ := familyFile?_eq_some_iff.mp h
  simp only [readEntry, if_pos hext, readFile]
  cases Files.textOf found.2 <;> rfl

theorem readEntries_eq_mapM (directory : String) (entries : List (String × FileTree)) :
    readEntries directory entries = (familyFiles entries).mapM (readFile directory) := by
  induction entries with
  | nil => rfl
  | cons e rest ih =>
    rw [readEntries, ih]
    cases hfile : familyFile? e with
    | none =>
      have hfiles : familyFiles (e :: rest) = familyFiles rest := List.filterMap_cons_none hfile
      rw [readEntry_of_other hfile, hfiles]
      show Except.bind _ _ = _
      cases (familyFiles rest).mapM (readFile directory) <;> rfl
    | some found =>
      have hfiles : familyFiles (e :: rest) = found :: familyFiles rest :=
        List.filterMap_cons_some hfile
      rw [readEntry_of_familyFile hfile, hfiles, List.mapM_cons]
      show Except.bind _ _ = Except.bind _ _
      cases readFile directory found with
      | error fault => rfl
      | ok f => cases (familyFiles rest).mapM (readFile directory) <;> rfl

/-- The families that the files of a directory are read as, one for each file. -/
def ReadAs (directory : String) (found : List (String × ByteArray)) (fs : List Family) : Prop :=
  List.Forall₂ (fun file f => readFile directory file = .ok f) found fs

theorem exists_readAs_of_perm {found others : List (String × ByteArray)} {fs : List Family}
    (hperm : others.Perm found) (h : ReadAs directory found fs) :
    ∃ gs, ReadAs directory others gs ∧ gs.Perm fs :=
  List.perm_comp_forall₂ hperm h

theorem ofEntries_eq_ok_iff (hnodup : (entries.map Prod.fst).Nodup) :
    ofEntries directory entries = .ok c ↔
      ∃ fs, ReadAs directory (familyFiles entries) fs ∧ ofFamilies fs = .ok c := by
  have hperm := familyFiles_ofPairs_perm hnodup
  have hlisted : ofEntries directory entries = .ok c ↔ ∃ fs,
      ReadAs directory (familyFiles (Assoc.ofPairs entries)) fs ∧ ofFamilies fs = .ok c := by
    simp only [ReadAs, ← mapM_eq_ok_iff, ← readEntries_eq_mapM]
    unfold ofEntries
    show Except.bind _ _ = _ ↔ _
    cases readEntries directory (Assoc.ofPairs entries) with
    | error fault => exact ⟨nofun, fun ⟨_, h, _⟩ => nomatch h⟩
    | ok fs =>
      simp only [Except.bind, Except.ok.injEq, exists_eq_left']
      cases ofFamilies fs <;> simp
  rw [hlisted]
  constructor
  · rintro ⟨fs, hread, hok⟩
    obtain ⟨gs, hgs, hperm⟩ := exists_readAs_of_perm hperm.symm hread
    exact ⟨gs, hgs, ofFamilies_of_perm hperm hok⟩
  · rintro ⟨fs, hread, hok⟩
    obtain ⟨gs, hgs, hperm⟩ := exists_readAs_of_perm hperm hread
    exact ⟨gs, hgs, ofFamilies_of_perm hperm hok⟩

theorem ofEntries_eq_error_of_readEntries {fault : LoadFault}
    (h : readEntries directory (Assoc.ofPairs entries) = .error fault) :
    ofEntries directory entries = .error fault := by
  unfold ofEntries
  rw [h]
  rfl

def numbered (found : String × ByteArray) : Option UInt32 × ByteArray :=
  (FamilyFileName.familyNumber? found.1, found.2)

/-- The family in a file with the number and the bytes. -/
def Contains (file : Option UInt32 × ByteArray) (f : Family) : Prop :=
  file.1 = some f.id ∧ ∃ text, Files.textOf file.2 = .ok text ∧ Family.ofText? text = some f

theorem readFile_eq_ok_iff (hnames : WellNamed entries) {found : String × ByteArray}
    (hfound : found ∈ familyFiles entries) {f : Family} :
    readFile directory found = .ok f ↔ Contains (numbered found) f := by
  obtain ⟨name, bytes⟩ := found
  obtain ⟨he, hext⟩ := mem_familyFiles.mp hfound
  have hname : name ∉ ["", ".", ".."] := by
    intro hmem
    simp only [List.mem_cons, List.not_mem_nil, or_false] at hmem
    rcases hmem with rfl | rfl | rfl
    · exact absurd hext (by decide)
    · exact absurd hext (by decide)
    · exact absurd hext (by decide)
  have hlast : PathText.fileName? (PathText.join directory name) = some name :=
    PathText.fileName?_join (hnames.noSlash _ he) hname
  have hparse : ∀ text, parseFamilyFile (PathText.join directory name) text = .ok f ↔
      FamilyFileName.familyNumber? name = some f.id ∧ Family.ofText? text = some f := by
    intro text
    rw [parseFamilyFile_eq_ok_iff, PathText.namesFamily_iff, hlast, Option.bind_some]
  unfold readFile Contains numbered
  cases Files.textOf bytes with
  | error fault => simp
  | ok text => simp [hparse]

/-- The families of a directory as the contents of its family files, where `found` may list these
in any order. -/
theorem readAs_iff (hnames : WellNamed entries) {found : List (String × ByteArray)}
    (hfound : ∀ file ∈ found, file ∈ familyFiles entries) {fs : List Family} :
    ReadAs directory found fs ↔ List.Forall₂ Contains (found.map numbered) fs := by
  rw [ReadAs, List.forall₂_map_left_iff]
  induction found generalizing fs with
  | nil => rw [List.forall₂_nil_left_iff, List.forall₂_nil_left_iff]
  | cons file rest ih =>
    obtain ⟨hfile, hrest⟩ := List.forall_mem_cons.mp hfound
    simp only [List.forall₂_cons_left_iff, readFile_eq_ok_iff hnames hfile, ih hrest]

/-- Two directories whose family files agree in numbers and bytes. Sub-directories and other files
do not count, nor does anything else in the names of the family files. -/
def SameFamilyFiles (entries others : List (String × FileTree)) : Prop :=
  ((familyFiles others).map numbered).Perm ((familyFiles entries).map numbered)

theorem ofEntries_of_sameFamilyFiles {others : List (String × FileTree)} {elsewhere : String}
    (hnames : WellNamed entries) (hothers : WellNamed others)
    (hsame : SameFamilyFiles entries others) (h : ofEntries directory entries = .ok c) :
    ofEntries elsewhere others = .ok c := by
  obtain ⟨fs, hread, hok⟩ := (ofEntries_eq_ok_iff hnames.nodup).mp h
  rw [readAs_iff hnames fun _ => id] at hread
  obtain ⟨gs, hgs, hperm⟩ := List.perm_comp_forall₂ hsame hread
  have hread' : ReadAs elsewhere (familyFiles others) gs :=
    (readAs_iff hothers fun _ => id).mpr hgs
  exact (ofEntries_eq_ok_iff hothers.nodup).mpr ⟨gs, hread', ofFamilies_of_perm hperm hok⟩

/-- If a family file cannot be read, the fault is that of the first one by the bytes of its name. -/
theorem ofEntries_fault (hnames : WellNamed entries)
    (hbad : ∃ file ∈ familyFiles entries, ∀ f, readFile directory file ≠ .ok f) :
    ∃ file ∈ familyFiles entries, ∃ fault, readFile directory file = .error fault ∧
      (∀ other ∈ familyFiles entries, (∀ f, readFile directory other ≠ .ok f) →
        other = file ∨ file.1.toUTF8.toList < other.1.toUTF8.toList) ∧
      ofEntries directory entries = .error fault := by
  have hperm := familyFiles_ofPairs_perm hnames.nodup
  cases hread : readEntries directory (Assoc.ofPairs entries) with
  | ok fs =>
    -- then every family file would have been read
    obtain ⟨file, hfile, hnone⟩ := hbad
    rw [readEntries_eq_mapM, mapM_eq_ok_iff] at hread
    obtain ⟨f, -, hf⟩ := exists_mem_of_forall₂ hread (hperm.mem_iff.mpr hfile)
    exact absurd hf (hnone f)
  | error fault =>
    have hofEntries := ofEntries_eq_error_of_readEntries hread
    rw [readEntries_eq_mapM] at hread
    obtain ⟨before, file, after, hsplit, hbefore, hfault⟩ := exists_of_mapM_eq_error hread
    have hascending := familyFiles_ofPairs_ascending entries
    rw [hsplit] at hascending
    have hmem : ∀ other, other ∈ before ++ file :: after ↔ other ∈ familyFiles entries := by
      intro other
      rw [← hsplit, hperm.mem_iff]
    refine ⟨file, (hmem file).mp (by simp), fault, hfault, fun other hother hnone => ?_, hofEntries⟩
    rcases List.mem_append.mp ((hmem other).mpr hother) with hb | ha
    · obtain ⟨f, hf⟩ := hbefore other hb
      exact absurd hf (hnone f)
    · rcases List.mem_cons.mp ha with rfl | ha
      · exact .inl rfl
      · exact .inr ((List.pairwise_cons.mp (List.pairwise_append.mp hascending).2.1).1 other ha)

/-- What a directory is loaded as. It is loaded exactly if each of its family files is read as a
family, the ids of these differ, and each is of a sound structure; the catalog holds these families,
and other directories with the same family files give the same catalog. Where a family file cannot
be read, the fault is that of the first such file by the bytes of its name. -/
theorem ofDirectory_loads {files : Files} {path : String}
    (hdirectory : files.lookup path = .ok (.directory entries)) (hnames : WellNamed entries) :
    ((∃ c, ofDirectory files path = .ok c) ↔
      ∃ fs, ReadAs path (familyFiles entries) fs ∧ (fs.map Family.id).Nodup ∧
        ∀ f ∈ fs, f.checkStructure = .ok ()) ∧
    (∀ c, ofDirectory files path = .ok c →
      (∃ fs, ReadAs path (familyFiles entries) fs ∧ c.Holds fs) ∧
      ∀ (others : List (String × FileTree)) (files' : Files) (path' : String),
        files'.lookup path' = .ok (.directory others) → WellNamed others →
          SameFamilyFiles entries others → ofDirectory files' path' = .ok c) ∧
    ((∃ file ∈ familyFiles entries, ∀ f, readFile path file ≠ .ok f) →
      ∃ file ∈ familyFiles entries, ∃ fault, readFile path file = .error fault ∧
        (∀ other ∈ familyFiles entries, (∀ f, readFile path other ≠ .ok f) →
          other = file ∨ file.1.toUTF8.toList < other.1.toUTF8.toList) ∧
        ofDirectory files path = .error fault) := by
  have hofDirectory : ∀ {files : Files} {path : String} {entries : List (String × FileTree)},
      files.lookup path = .ok (.directory entries) →
        ofDirectory files path = ofEntries path entries := by
    intro files path entries h
    rw [ofDirectory, h]
  rw [hofDirectory hdirectory]
  refine ⟨?_, fun c hc => ⟨?_, ?_⟩, ofEntries_fault hnames⟩
  · simp only [ofEntries_eq_ok_iff hnames.nodup]
    constructor
    · rintro ⟨c, fs, hread, hok⟩
      have hfamilies := exists_ofFamilies_iff.mp ⟨c, hok⟩
      exact ⟨fs, hread, hfamilies.2, hfamilies.1⟩
    · rintro ⟨fs, hread, hids, hfs⟩
      obtain ⟨c, hok⟩ := exists_ofFamilies_iff.mpr ⟨hfs, hids⟩
      exact ⟨c, fs, hread, hok⟩
  · obtain ⟨fs, hread, hok⟩ := (ofEntries_eq_ok_iff hnames.nodup).mp hc
    exact ⟨fs, hread, holds_of_ofFamilies hok⟩
  · intro others files' path' hothers hwell hsame
    rw [hofDirectory hothers]
    exact ofEntries_of_sameFamilyFiles hnames hwell hsame hc

end Catalog

def bareFamily (id : UInt32) (sectionIds : List String) : Family :=
  { id, name := "", anchor := "", applicability := .unset
    sections := sectionIds.map fun sectionId =>
      { id := sectionId, name := "", level := 0, applicability := .unset, format := .text } }

def Family.bytes (f : Family) : ByteArray := f.toJson.compact.toUTF8

def releaseEntries : List (String × FileTree) :=
  [("91-a.json", .file (bareFamily 91 []).bytes), ("notes.txt", .file ⟨#[0xFF]⟩),
    ("09-release.json", .file (bareFamily 9 []).bytes), ("9-old.json", .directory [])]

def renamedEntries : List (String × FileTree) :=
  [("0091-z.json", .file (bareFamily 91 []).bytes), ("9-b2-c.json", .file (bareFamily 9 []).bytes)]

/-- Two files that cannot be read, and before them a family with a section of another one. -/
def brokenEntries : List (String × FileTree) :=
  [("2-b.json", .file ⟨#[0xFF]⟩), ("10-a.json", .file "null".toUTF8),
    ("1-a.json", .file (bareFamily 1 ["3"]).bytes)]

def releaseFiles : Files :=
  ⟨.directory [("broken", .directory brokenEntries), ("catalog", .directory releaseEntries),
    ("renamed", .directory renamedEntries)], []⟩

theorem Catalog.contains_bytes {number : Option UInt32} {f : Family} (hnumber : number = some f.id)
    (h : Family.ofText? f.toJson.compact = some f) : Contains (number, f.bytes) f :=
  ⟨hnumber, _, Files.textOf_toUTF8 _, h⟩

theorem releaseFiles_load :
    ∃ c, Catalog.ofDirectory releaseFiles "catalog" = .ok c ∧
      (∃ fs, Catalog.ReadAs "catalog" (FileTree.familyFiles releaseEntries) fs ∧ c.Holds fs) ∧
      Catalog.ofDirectory releaseFiles "renamed" = .ok c ∧
      Catalog.ofDirectory releaseFiles "broken" =
        .error (.invalidFile "broken/10-a.json" (.notAFamily 1)) := by
  have hrelease : FileTree.WellNamed releaseEntries := ⟨by decide, by decide⟩
  have hrenamed : FileTree.WellNamed renamedEntries := ⟨by decide, by decide⟩
  have hbroken : FileTree.WellNamed brokenEntries := ⟨by decide, by decide⟩
  have hread : Catalog.ReadAs "catalog" (FileTree.familyFiles releaseEntries)
      [bareFamily 91 [], bareFamily 9 []] :=
    (Catalog.readAs_iff hrelease fun _ => id).mpr
      (.cons (Catalog.contains_bytes (by decide +kernel) (by decide +kernel))
        (.cons (Catalog.contains_bytes (by decide +kernel) (by decide +kernel)) .nil))
  obtain ⟨hloads, hcatalog, -⟩ := Catalog.ofDirectory_loads
    (show releaseFiles.lookup "catalog" = .ok (.directory releaseEntries) by rfl) hrelease
  obtain ⟨c, hc⟩ := hloads.mpr ⟨_, hread, by decide, by decide⟩
  obtain ⟨hholds, hsame⟩ := hcatalog c hc
  refine ⟨c, hc, hholds, ?_, ?_⟩
  · exact hsame renamedEntries releaseFiles "renamed" (by rfl) hrenamed (List.Perm.refl _)
  · obtain ⟨-, -, hfaults⟩ := Catalog.ofDirectory_loads
      (show releaseFiles.lookup "broken" = .ok (.directory brokenEntries) by rfl) hbroken
    have hfiles : FileTree.familyFiles brokenEntries = [("2-b.json", ⟨#[0xFF]⟩),
        ("10-a.json", "null".toUTF8), ("1-a.json", (bareFamily 1 ["3"]).bytes)] := by rfl
    have hnull : Catalog.readFile "broken" ("10-a.json", "null".toUTF8) =
        .error (.invalidFile "broken/10-a.json" (.notAFamily 1)) := by rfl
    have hfails : ∀ f, Catalog.readFile "broken" ("10-a.json", "null".toUTF8) ≠ .ok f := by
      intro f h
      rw [hnull] at h
      cases h
    have hmem : ("10-a.json", "null".toUTF8) ∈ FileTree.familyFiles brokenEntries := by
      rw [hfiles]
      simp
    obtain ⟨file, hfile, fault, hfault, hleast, hloaded⟩ := hfaults ⟨_, hmem, hfails⟩
    rcases hleast _ hmem hfails with rfl | hlt
    · rw [hnull] at hfault
      cases hfault
      exact hloaded
    · have hsound : Catalog.readFile "broken" ("1-a.json", (bareFamily 1 ["3"]).bytes) =
          .ok (bareFamily 1 ["3"]) :=
        (Catalog.readFile_eq_ok_iff hbroken (by rw [hfiles]; simp)).mpr
          (Catalog.contains_bytes (by decide +kernel) (by decide +kernel))
      rw [hfiles] at hfile
      simp only [List.mem_cons, List.not_mem_nil, or_false] at hfile
      rcases hfile with rfl | rfl | rfl
      · exact absurd hlt (by decide +kernel)
      · exact absurd hlt (by decide +kernel)
      · rw [hsound] at hfault
        cases hfault

end DocSections
