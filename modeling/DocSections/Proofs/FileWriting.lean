import DocSections.FileTree
import DocSections.Proofs.Lookup
import Mathlib.Tactic.SplitIfs

/-! What is written to a path is read from it afterwards. Writing replaces no directory, so a walk
that led to a directory before can be repeated. The walk to the directory of the file then leads to
the same place, which now has the file. -/

namespace DocSections

namespace FileTree

variable {item t u : FileTree} {entries : List (String × FileTree)}
  {around trail next : List FileTree} {names steps target : List String} {name step : String}

/-- What stands at the place that names lead to, the outermost first. -/
def at? : List String → FileTree → Option FileTree
  | [], t => some t
  | n :: rest, directory entries => (Assoc.find? n entries).bind (at? rest)
  | _ :: _, file _ => none

def IsOpen (names : List String) (t : FileTree) : Prop :=
  ∃ entries, at? names t = some (directory entries)

theorem at?_append (first second : List String) (t : FileTree) :
    at? (first ++ second) t = (at? first t).bind (at? second) := by
  induction first generalizing t with
  | nil => rfl
  | cons n rest ih =>
    cases t with
    | file bytes => rfl
    | directory entries =>
      rw [List.cons_append, at?, at?, Option.bind_assoc]
      congr
      exact funext ih

theorem at?_put_self (item : FileTree) (names : List String) (t : FileTree) :
    at? names (put item names t) = some item := by
  induction names generalizing t with
  | nil => rfl
  | cons n rest ih =>
    cases t with
    | file bytes =>
      rw [put, at?, Assoc.find?_cons, if_pos rfl]
      exact ih _
    | directory entries =>
      rw [put, at?, Assoc.find?_insert_self]
      exact ih _

/-- If what is replaced is not a directory, the directories stay. -/
theorem IsOpen.put (item : FileTree) (htarget : ¬ IsOpen target t) (h : IsOpen names t) :
    IsOpen names (put item target t) := by
  induction target generalizing names t with
  | nil =>
    obtain ⟨entries, h⟩ := h
    cases t with
    | directory inner => exact absurd ⟨inner, rfl⟩ htarget
    | file bytes => cases names <;> cases h
  | cons n rest ih =>
    obtain ⟨entries, h⟩ := h
    cases t with
    | file bytes => cases names <;> cases h
    | directory inner =>
      cases names with
      | nil => exact ⟨_, rfl⟩
      | cons m more =>
        rw [at?] at h
        rw [FileTree.put, IsOpen, at?, Assoc.find?_insert]
        split_ifs with hm
        -- the target lies in the entry on the way to it; any other entry stays as it was
        · subst hm
          cases hfind : Assoc.find? m inner with
          | none =>
            rw [hfind] at h
            cases h
          | some inside =>
            rw [hfind, Option.bind_some] at h
            refine ih (fun hopen => htarget ?_) ⟨entries, h⟩
            rwa [IsOpen, at?, hfind]
        · exact ⟨entries, h⟩

/-- The open directories on the way to a place, given by its names, the innermost first. -/
inductive LeadsTo (root : FileTree) : List String → List FileTree → Prop
  | here : LeadsTo root [] [root]
  | inside (names : List String) (name : String) (entries : List (String × FileTree))
      (around : List FileTree) (item : FileTree)
      (outer : LeadsTo root names (directory entries :: around))
      (found : Assoc.find? name entries = some item) :
      LeadsTo root (name :: names) (item :: directory entries :: around)

theorem LeadsTo.at?_reverse (h : LeadsTo t names (item :: around)) :
    at? names.reverse t = some item := by
  generalize htrail : item :: around = trail at h
  induction h generalizing item around with
  | here =>
    cases htrail
    rfl
  | inside names name entries outside found outer hfound ih =>
    cases htrail
    rw [List.reverse_cons, at?_append, ih rfl, Option.bind_some, FileTree.at?, hfound]
    rfl

theorem LeadsTo.at?_entry (h : LeadsTo t names (directory entries :: around)) (name : String) :
    at? (name :: names).reverse t = Assoc.find? name entries := by
  rw [List.reverse_cons, at?_append, h.at?_reverse, Option.bind_some, FileTree.at?]
  cases Assoc.find? name entries <;> rfl

/-- One step out. At the root, that leads nowhere. -/
theorem LeadsTo.tail (h : LeadsTo t names (item :: around)) :
    LeadsTo t names.tail (if around = [] then [item] else around) := by
  cases h with
  | here => exact .here
  | inside names name entries outside _ outer _ => exact outer

theorem LeadsTo.isOpen (h : LeadsTo t names (directory entries :: around)) :
    IsOpen names.reverse t :=
  ⟨entries, h.at?_reverse⟩

theorem LeadsTo.exists_of_isOpen (h : LeadsTo t names trail) (hopen : IsOpen names.reverse t) :
    ∃ entries around, trail = directory entries :: around := by
  obtain ⟨entries, hat⟩ := hopen
  cases trail with
  | nil => cases h
  | cons item around =>
    refine ⟨entries, around, ?_⟩
    rw [Option.some.inj (h.at?_reverse.symm.trans hat)]

/-- A step that is taken starts in a directory, and leads to the place that its name says. -/
theorem LeadsTo.of_enter (h : LeadsTo t names trail) (henter : enter trail step = .ok next) :
    IsOpen names.reverse t ∧ (step = "." ∨ step = ".." ∨ step.utf8ByteSize ≤ nameLimit) ∧
      LeadsTo t (PathText.stepTo names step) next := by
  unfold FileTree.enter at henter
  split at henter
  · cases henter
  · cases henter
  · rename_i entries around
    refine ⟨h.isOpen, ?_⟩
    unfold PathText.stepTo
    by_cases hdot : step = "."
    · rw [if_pos hdot] at henter ⊢
      cases henter
      exact ⟨.inl hdot, h⟩
    by_cases hdots : step = ".."
    · rw [if_neg hdot, if_pos hdots] at henter ⊢
      cases henter
      exact ⟨.inr (.inl hdots), h.tail⟩
    rw [if_neg hdot, if_neg hdots] at henter ⊢
    split_ifs at henter with hlong
    cases hfind : Assoc.find? step entries with
    | none =>
      rw [hfind] at henter
      cases henter
    | some item =>
      rw [hfind] at henter
      cases henter
      exact ⟨.inr (.inr (Nat.le_of_not_lt hlong)), .inside _ _ _ _ _ h hfind⟩

theorem LeadsTo.exists_enter (h : LeadsTo t names trail) (hopen : IsOpen names.reverse t)
    (hstep : step = "." ∨ step = ".." ∨ step.utf8ByteSize ≤ nameLimit)
    (hnext : IsOpen (PathText.stepTo names step).reverse t) :
    ∃ next, enter trail step = .ok next := by
  obtain ⟨entries, around, rfl⟩ := h.exists_of_isOpen hopen
  unfold PathText.stepTo at hnext
  rw [FileTree.enter]
  by_cases hdot : step = "."
  · exact ⟨_, if_pos hdot⟩
  by_cases hdots : step = ".."
  · exact ⟨_, (if_neg hdot).trans (if_pos hdots)⟩
  have hshort : ¬ nameLimit < step.utf8ByteSize := by
    obtain hstep | hstep | hstep := hstep
    · exact absurd hstep hdot
    · exact absurd hstep hdots
    · exact Nat.not_lt.mpr hstep
  rw [if_neg hdot, if_neg hdots] at hnext ⊢
  rw [if_neg hshort]
  obtain ⟨inner, hat⟩ := hnext
  rw [h.at?_entry] at hat
  rw [hat]
  exact ⟨_, rfl⟩

theorem walk_cons_eq_ok_iff {rest : List String} {last : List FileTree} :
    walk trail (step :: rest) = .ok last ↔
      ∃ next, enter trail step = .ok next ∧ walk next rest = .ok last := by
  rw [walk, List.foldlM_cons]
  cases enter trail step with
  | error fault => exact ⟨nofun, fun ⟨_, h, _⟩ => nomatch h⟩
  | ok next => exact ⟨fun h => ⟨next, rfl, h⟩, fun ⟨_, h, hrest⟩ => by cases h; exact hrest⟩

theorem walk_append_eq_ok_iff {first second : List String} {last : List FileTree} :
    walk trail (first ++ second) = .ok last ↔
      ∃ next, walk trail first = .ok next ∧ walk next second = .ok last := by
  rw [walk, List.foldlM_append]
  change (walk trail first).bind (walk · second) = _ ↔ _
  cases walk trail first with
  | error fault => exact ⟨nofun, fun ⟨_, h, _⟩ => nomatch h⟩
  | ok next => exact ⟨fun h => ⟨next, rfl, h⟩, fun ⟨_, h, hrest⟩ => by cases h; exact hrest⟩

/-- Walking in the tree and following the steps by name go together. -/
theorem LeadsTo.of_walk (h : LeadsTo t names trail) (hwalk : walk trail steps = .ok next) :
    LeadsTo t (steps.foldl PathText.stepTo names) next := by
  induction steps generalizing names trail with
  | nil =>
    cases hwalk
    exact h
  | cons step rest ih =>
    obtain ⟨middle, henter, hrest⟩ := walk_cons_eq_ok_iff.mp hwalk
    exact ih (h.of_enter henter).2.2 hrest

theorem LeadsTo.isOpen_of_walk (h : LeadsTo t names trail)
    (hwalk : walk trail steps = .ok (directory entries :: around)) : IsOpen names.reverse t := by
  cases steps with
  | nil =>
    cases hwalk
    exact h.isOpen
  | cons step rest =>
    obtain ⟨next, henter, -⟩ := walk_cons_eq_ok_iff.mp hwalk
    exact (h.of_enter henter).1

/-- A walk to a directory can be repeated where all directories are still there. -/
theorem LeadsTo.exists_walk (hkept : ∀ names, IsOpen names t → IsOpen names u)
    (h : LeadsTo t names trail) {others : List FileTree} (hothers : LeadsTo u names others)
    (hwalk : walk trail steps = .ok (directory entries :: around)) :
    ∃ next, walk others steps = .ok next := by
  induction steps generalizing names trail others with
  | nil => exact ⟨others, rfl⟩
  | cons step rest ih =>
    obtain ⟨next, henter, hrest⟩ := walk_cons_eq_ok_iff.mp hwalk
    obtain ⟨hopen, hstep, hnext⟩ := h.of_enter henter
    obtain ⟨otherNext, hother⟩ := hothers.exists_enter (hkept _ hopen) hstep
      (hkept _ (hnext.isOpen_of_walk hrest))
    obtain ⟨last, hlast⟩ := ih hnext (hothers.of_enter hother).2.2 hrest
    exact ⟨last, walk_cons_eq_ok_iff.mpr ⟨otherNext, hother, hlast⟩⟩

/-- Where a name in a directory is not that of a directory, what is put there is reached by the
same steps. -/
theorem exists_walk_put (item : FileTree)
    (hwalk : walk [t] steps = .ok (directory entries :: around))
    (hdot : name ≠ ".") (hdots : name ≠ "..") (hshort : name.utf8ByteSize ≤ nameLimit)
    (hfile : ∀ inner, Assoc.find? name entries ≠ some (directory inner)) :
    ∃ outer, walk [put item (PathText.place (steps ++ [name])).reverse t] (steps ++ [name]) =
      .ok (item :: outer) := by
  have hparent : LeadsTo t (PathText.place steps) (directory entries :: around) :=
    LeadsTo.here.of_walk hwalk
  have hplace : PathText.place (steps ++ [name]) = name :: PathText.place steps := by
    rw [PathText.place, List.foldl_append, List.foldl_cons, List.foldl_nil, PathText.stepTo,
      if_neg hdot, if_neg hdots, PathText.place]
  rw [hplace]
  set u := put item (name :: PathText.place steps).reverse t with hu
  have hkept : ∀ names, IsOpen names t → IsOpen names u := by
    intro names hopen
    refine hopen.put item ?_
    rintro ⟨inner, hat⟩
    exact hfile inner ((hparent.at?_entry name).symm.trans hat)
  -- the walk to the directory again, which may hold other entries now
  obtain ⟨next, hnext⟩ := LeadsTo.here.exists_walk hkept .here hwalk
  have hagain : LeadsTo u (PathText.place steps) next := LeadsTo.here.of_walk hnext
  obtain ⟨others, outer, rfl⟩ := hagain.exists_of_isOpen (hkept _ hparent.isOpen)
  have hfound : Assoc.find? name others = some item := by
    rw [← hagain.at?_entry, hu]
    exact at?_put_self item _ t
  have henter : enter (directory others :: outer) name =
      .ok (item :: directory others :: outer) := by
    rw [enter, if_neg hdot, if_neg hdots, if_neg (Nat.not_lt.mpr hshort), hfound]
  exact ⟨_, walk_append_eq_ok_iff.mpr ⟨_, hnext, walk_cons_eq_ok_iff.mpr ⟨_, henter, rfl⟩⟩⟩

end FileTree

namespace Files

open FileTree

variable {files written : Files} {path : String} {bytes : ByteArray}

theorem start_eq_ok_iff {trail : List FileTree} : files.start path = .ok trail ↔
    pathFault? path = none ∧ walk [files.root] (files.base path) = .ok trail := by
  unfold start
  cases pathFault? path <;> simp

theorem of_write (h : files.write path bytes = .ok written) :
    ∃ front name start entries around, PathText.steps path = front ++ [name] ∧
      files.start path = .ok start ∧ walk start front = .ok (.directory entries :: around) ∧
      name ≠ "." ∧ name ≠ ".." ∧ name.utf8ByteSize ≤ nameLimit ∧
      (∀ inner, Assoc.find? name entries ≠ some (.directory inner)) ∧
      written = { files with
        root := put (.file bytes) (PathText.place (files.base path ++ (front ++ [name]))).reverse
          files.root } := by
  unfold write at h
  cases hstart : files.start path with
  | error fault =>
    rw [hstart] at h
    cases h
  | ok start =>
    simp only [hstart, bind, Except.bind] at h
    split at h
    · cases h
    rename_i trail hwalk
    split at h
    · rename_i entries around
      by_cases hslash : PathText.endsInSlash path = true
      · rw [if_pos (.inl hslash)] at h
        cases h
      rw [if_neg hslash] at hwalk h
      cases hlast : (PathText.steps path).getLast? with
      | none =>
        rw [hlast, if_pos (.inr (.inl rfl))] at h
        cases h
      | some name =>
        obtain ⟨front, hsteps⟩ := List.getLast?_eq_some_iff.mp hlast
        rw [hsteps, List.dropLast_concat] at hwalk
        rw [hlast, Option.getD_some] at h
        split_ifs at h with hplain hlong
        rw [not_or, not_or] at hplain
        split at h
        · cases h
        rename_i hfile
        cases h
        refine ⟨front, name, start, entries, around, hsteps, rfl, hwalk, hplain.2.1, hplain.2.2,
          Nat.le_of_not_lt hlong, hfile, ?_⟩
        rw [hsteps]
    · cases h
    · cases h

/-- What is written to a path is read from it afterwards. -/
theorem read_write (h : files.write path bytes = .ok written) : written.read path = .ok bytes := by
  obtain ⟨front, name, start, entries, around, hsteps, hstart, hwalk, hdot, hdots, hshort, hfile,
    rfl⟩ := of_write h
  obtain ⟨hfault, hbase⟩ := start_eq_ok_iff.mp hstart
  have hparent : walk [files.root] (files.base path ++ front) =
      .ok (.directory entries :: around) := walk_append_eq_ok_iff.mpr ⟨start, hbase, hwalk⟩
  obtain ⟨outer, hlast⟩ := exists_walk_put (.file bytes) hparent hdot hdots hshort hfile
  rw [List.append_assoc] at hlast
  obtain ⟨again, hbegin, hend⟩ := walk_append_eq_ok_iff.mp hlast
  rw [read, lookup, start_eq_ok_iff.mpr ⟨hfault, hbegin⟩, hsteps]
  simp only [bind, Except.bind, hend]

theorem textOf_toUTF8 (text : String) : textOf text.toUTF8 = .ok text := by
  have hvalid : text.toUTF8.IsValidUTF8 := text.isValidUTF8
  unfold textOf String.fromUTF8?
  rw [dif_pos hvalid]
  rfl

theorem readText_write {text : String} (h : files.write path text.toUTF8 = .ok written) :
    written.readText path = .ok text := by
  rw [readText, read_write h]
  exact textOf_toUTF8 text

end Files

end DocSections
