import DocSections.Proofs.CompactText
import DocSections.Proofs.DataKey
import DocSections.Proofs.Forest

/-! What a displayed path tells. If no key has a point or a bracket in it, the display tells the
whole path, except for empty keys that it begins with: nothing is written for them, and so no point
before the key that follows. Where no key is empty either, different paths have different
displays. -/

namespace DocSections

namespace PathSegment

/-- A step as it is displayed after others. -/
def text : PathSegment → List Char
  | key name => '.' :: name.toList
  | index i => (index i).display.toList

/-- Whether the display of a step begins with the character. -/
def isMark (c : Char) : Bool := c == '.' || c == '['

theorem text_index (i : Nat) : (index i).text = '[' :: (i.repr.toList ++ [']']) := by
  simp [text, display, Nat.toString_eq_repr]

end PathSegment

/-- Whether no character of a key begins the display of a step. -/
def isPlainKey (name : String) : Bool := name.toList.all fun c => !PathSegment.isMark c

theorem isPlainKey_camelCase (name : String) : isPlainKey (camelCase name) = true := by
  refine List.all_eq_true.mpr fun c hc => ?_
  rw [Bool.not_eq_true', PathSegment.isMark, Bool.or_eq_false_iff, beq_eq_false_iff_ne,
    beq_eq_false_iff_ne]
  constructor
  · rintro rfl
    have hpoint := isAlphanumeric_of_mem_camelCase (by decide +kernel) hc
    exact absurd hpoint (by decide +kernel)
  · rintro rfl
    have hbracket := isAlphanumeric_of_mem_camelCase (by decide +kernel) hc
    exact absurd hbracket (by decide +kernel)

namespace Path

open PathSegment

def KeysSatisfy (p : String → Bool) (path : Path) : Prop :=
  ∀ name, .key name ∈ path → p name = true

/-- The path without the empty keys that it begins with. -/
def afterEmptyKeys (path : Path) : Path := path.dropWhile (· == .key "")

variable {path other : Path}

theorem KeysSatisfy.afterEmptyKeys {p : String → Bool} (h : path.KeysSatisfy p) :
    path.afterEmptyKeys.KeysSatisfy p :=
  fun name hname => h name ((List.dropWhile_sublist _).subset hname)

/-- Nothing is displayed for the empty keys that a path begins with. -/
theorem display_afterEmptyKeys (path : Path) : path.afterEmptyKeys.display = path.display := by
  induction path with
  | nil => rfl
  | cons segment rest ih =>
    rw [Path.afterEmptyKeys, List.dropWhile_cons]
    split
    · rename_i hempty
      rw [eq_of_beq hempty]
      exact ih
    · rfl

theorem head?_afterEmptyKeys (path : Path) : path.afterEmptyKeys.head? ≠ some (.key "") := by
  intro h
  have hhead := List.head?_dropWhile_not (· == PathSegment.key "") path
  rw [Path.afterEmptyKeys] at h
  simp [h] at hhead

theorem toList_displayAfter {written : String} (h : written ≠ "") (path : Path) :
    (path.displayAfter written).toList = written.toList ++ path.flatMap text := by
  -- once something is written, every step after it is displayed with its mark
  have hmore : ∀ more, written ++ more ≠ "" := fun more hempty =>
    h (String.append_eq_empty_iff.mp hempty).1
  induction path generalizing written with
  | nil => rw [displayAfter, List.flatMap_nil, List.append_nil]
  | cons segment rest ih =>
    have hmost : ∀ more other, written ++ more ++ other ≠ "" := fun more other hempty =>
      hmore more (String.append_eq_empty_iff.mp hempty).1
    cases segment with
    | key name =>
      rw [displayAfter, if_neg h, ih (hmost _ _)]
      · simp [text]
      · exact fun more hempty => hmost _ _ (String.append_eq_empty_iff.mp hempty).1
    | index i =>
      rw [displayAfter, ih (hmore _) (hmost _)]
      simp [text]

/-- The display of a path is what its steps are displayed as, but for the point at the beginning. -/
theorem toList_display_key {name : String} (h : name ≠ "") (rest : Path) :
    (display (.key name :: rest)).toList = name.toList ++ rest.flatMap text := by
  rw [Path.display, displayAfter, if_pos rfl]
  exact toList_displayAfter h rest

theorem toList_display_index (i : Nat) (rest : Path) :
    (display (.index i :: rest)).toList = List.flatMap text (.index i :: rest) := by
  rw [Path.display, displayAfter, toList_displayAfter, List.flatMap_cons, text]
  · simp
  · intro hempty
    have hlist := congrArg String.toList hempty
    simp [PathSegment.display] at hlist

/-- A step is told from what follows it, if keys are plain and what follows begins with a mark. -/
theorem text_append_inj {a b : PathSegment} {r s : List Char}
    (ha : KeysSatisfy isPlainKey [a]) (hb : KeysSatisfy isPlainKey [b])
    (hr : ∀ c ∈ r.head?, isMark c = true) (hs : ∀ c ∈ s.head?, isMark c = true)
    (h : a.text ++ r = b.text ++ s) : a = b ∧ r = s := by
  cases a with
  | key name =>
    cases b with
    | key name' =>
      have hchars := (List.cons.inj h).2
      have hplain := List.all_eq_true.mp (ha name List.mem_cons_self)
      have hplain' := List.all_eq_true.mp (hb name' List.mem_cons_self)
      obtain ⟨hname, hrest⟩ := append_inj_of_class hplain hplain'
        (fun c hc => by simp [hr c hc]) (fun c hc => by simp [hs c hc]) hchars
      exact ⟨congrArg PathSegment.key (String.toList_inj.mp hname), hrest⟩
    | index i =>
      rw [text_index] at h
      cases (List.cons.inj h).1
  | index i =>
    cases b with
    | key name =>
      rw [text_index] at h
      cases (List.cons.inj h).1
    | index j =>
      rw [text_index, text_index, List.cons_append, List.cons_append, List.append_assoc,
        List.append_assoc] at h
      -- the digits of an index end at its bracket
      have hdigits : ∀ n : Nat, ∀ c ∈ n.repr.toList, (c != ']') = true := by
        intro n c hc
        rw [Nat.toList_repr] at hc
        have hdigit := Nat.isDigit_of_mem_toDigits (by decide) (by decide) hc
        refine bne_iff_ne.mpr ?_
        rintro rfl
        exact absurd hdigit (by decide)
      obtain ⟨hrepr, hrest⟩ := append_inj_of_class (hdigits i) (hdigits j) (by simp) (by simp)
        (List.cons.inj h).2
      have hi := Text.eq_of_repr_eq (String.toList_inj.mp hrepr)
      exact ⟨congrArg PathSegment.index hi, (List.cons.inj hrest).2⟩

theorem KeysSatisfy.of_mem {p : String → Bool} (h : path.KeysSatisfy p) {segment : PathSegment}
    (hs : segment ∈ path) : KeysSatisfy p [segment] := by
  intro name hname
  rw [List.mem_singleton] at hname
  exact h name (hname ▸ hs)

/-- Plain steps are told from what they are displayed as one after another. -/
theorem eq_of_flatMap_text_eq (hp : path.KeysSatisfy isPlainKey)
    (ho : other.KeysSatisfy isPlainKey) (h : path.flatMap text = other.flatMap text) :
    path = other := by
  -- a plain step ends where the next mark is
  have hmarks : ∀ (a : PathSegment) (t : List Char), ∃ c rest, a.text ++ t = c :: rest ∧
      isMark c = true := by
    intro a t
    cases a with
    | key name => exact ⟨'.', _, rfl, rfl⟩
    | index i =>
      rw [text_index]
      exact ⟨'[', _, rfl, rfl⟩
  rw [← List.append_nil (path.flatMap text), ← List.append_nil (other.flatMap text)] at h
  have hsteps := forall₂_of_flatMap_append (R := Eq) (P := fun t => ∀ c ∈ t.head?, isMark c = true)
    (fun a ha b hb r s hr hs => text_append_inj (hp.of_mem ha) (ho.of_mem hb) hr hs)
    ?_ (by simp) (by simp) ?_ h
  · rw [← List.forall₂_eq_eq_eq]
    exact hsteps.1
  · intro a t
    obtain ⟨c, rest, heq, hc⟩ := hmarks a t
    rw [heq]
    simpa using hc
  · intro a t
    obtain ⟨c, rest, heq, -⟩ := hmarks a t
    rw [heq]
    exact ⟨List.cons_ne_nil c rest, List.cons_ne_nil c rest⟩

/-- A display with a point in front, unless it is empty or begins with a mark. -/
def withPoint : List Char → List Char
  | [] => []
  | c :: rest => if isMark c then c :: rest else '.' :: c :: rest

/-- The steps of a path are read off its display, if it begins with no empty key. -/
theorem flatMap_text_eq_withPoint (hp : path.KeysSatisfy isPlainKey)
    (h : path.head? ≠ some (.key "")) : path.flatMap text = withPoint path.display.toList := by
  cases path with
  | nil => rfl
  | cons segment rest =>
    cases segment with
    | key name =>
      have hname : name ≠ "" := by
        rintro rfl
        exact h rfl
      have hplain := List.all_eq_true.mp (hp name List.mem_cons_self)
      rw [toList_display_key hname, List.flatMap_cons, text]
      cases hchars : name.toList with
      | nil => exact absurd (String.toList_eq_nil_iff.mp hchars) hname
      | cons c more =>
        have hc := hplain c (hchars ▸ List.mem_cons_self)
        rw [Bool.not_eq_true'] at hc
        simp [withPoint, hc]
    | index i =>
      rw [toList_display_index, List.flatMap_cons, text_index]
      rfl

/-- Paths with plain keys have one display exactly if they are the same after the empty keys that
they begin with. -/
theorem display_eq_iff (hp : path.KeysSatisfy isPlainKey) (ho : other.KeysSatisfy isPlainKey) :
    path.display = other.display ↔ path.afterEmptyKeys = other.afterEmptyKeys := by
  constructor
  · intro h
    rw [← path.display_afterEmptyKeys, ← other.display_afterEmptyKeys] at h
    refine eq_of_flatMap_text_eq hp.afterEmptyKeys ho.afterEmptyKeys ?_
    rw [flatMap_text_eq_withPoint hp.afterEmptyKeys path.head?_afterEmptyKeys,
      flatMap_text_eq_withPoint ho.afterEmptyKeys other.head?_afterEmptyKeys, h]
  · intro h
    rw [← path.display_afterEmptyKeys, h, other.display_afterEmptyKeys]

/-- Whether every key on a path is some name without a point and without an opening bracket. -/
def WellNamed (path : Path) : Prop :=
  ∀ name, .key name ∈ path → name ≠ "" ∧ '.' ∉ name.toList ∧ '[' ∉ name.toList

theorem WellNamed.keysSatisfy (h : path.WellNamed) : path.KeysSatisfy isPlainKey := by
  intro name hname
  obtain ⟨-, hpoint, hbracket⟩ := h name hname
  refine List.all_eq_true.mpr fun c hc => ?_
  have hne : c ≠ '.' ∧ c ≠ '[' := ⟨fun heq => hpoint (heq ▸ hc), fun heq => hbracket (heq ▸ hc)⟩
  simp [isMark, hne]

theorem WellNamed.afterEmptyKeys_eq (h : path.WellNamed) : path.afterEmptyKeys = path := by
  cases path with
  | nil => rfl
  | cons segment rest =>
    have hnamed : segment ≠ .key "" := by
      rintro rfl
      exact (h "" List.mem_cons_self).1 rfl
    rw [Path.afterEmptyKeys, List.dropWhile_cons, if_neg (by simp [hnamed])]

end Path

/-- Issues whose paths are well named are displayed at one place exactly if they are at one place,
however long the paths are and however keys and indices follow one another on them. -/
theorem Issue.pathString_eq_iff {i j : Issue} (hi : i.path.WellNamed) (hj : j.path.WellNamed) :
    i.pathString = j.pathString ↔ i.path = j.path := by
  rw [pathString, pathString, Path.display_eq_iff hi.keysSatisfy hj.keysSatisfy,
    hi.afterEmptyKeys_eq, hj.afterEmptyKeys_eq]

/-- A key that looks like the end of one index and the beginning of another is told from both: the
first path is displayed as `[0].1]2`, the second as `[0].1][2]`. -/
theorem Issue.bracketed_pathString_ne :
    Path.WellNamed [.index 0, .key "1]2"] ∧ Path.WellNamed [.index 0, .key "1]", .index 2] ∧
      (Issue.mk .required [.index 0, .key "1]2"] "Required").pathString ≠
        (Issue.mk .required [.index 0, .key "1]", .index 2] "Required").pathString := by
  have hfirst : Path.WellNamed [.index 0, .key "1]2"] := by simp [Path.WellNamed]
  have hsecond : Path.WellNamed [.index 0, .key "1]", .index 2] := by simp [Path.WellNamed]
  refine ⟨hfirst, hsecond, fun heq => ?_⟩
  have hpath := (pathString_eq_iff (i := ⟨.required, _, _⟩) (j := ⟨.required, _, _⟩)
    hfirst hsecond).mp heq
  exact absurd hpath (by decide)

end DocSections
