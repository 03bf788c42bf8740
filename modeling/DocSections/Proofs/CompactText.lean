import DocSections.Json.Printer
import DocSections.Json.Reader
import Mathlib.Data.List.Forall2
import Mathlib.Tactic.IntervalCases

/-! JSON texts on one line are read in one way. Two values with the same compact text differ at most
in numbers that are written alike, also where more text follows, so texts can be put one after
another and are still told apart. -/

namespace DocSections

def isNumeralChar (c : Char) : Bool :=
  c.isDigit || c == '-' || c == '+' || c == '.' || c == 'e'

def IsNumeral (s : String) : Prop := ∀ c ∈ s.toList, isNumeralChar c = true

namespace IsNumeral

theorem of_all {s : String} (h : s.toList.all isNumeralChar = true) : IsNumeral s :=
  List.all_eq_true.mp h

theorem append {s t : String} (hs : IsNumeral s) (ht : IsNumeral t) : IsNumeral (s ++ t) := by
  intro c hc
  rw [String.toList_append, List.mem_append] at hc
  exact hc.elim (hs c) (ht c)

theorem of_subset {s : String} {cs : List Char} (hs : IsNumeral s) (h : cs ⊆ s.toList) :
    IsNumeral (String.ofList cs) := by
  intro c hc
  rw [String.toList_ofList] at hc
  exact hs c (h hc)

theorem nat (n : Nat) : IsNumeral (toString n) := by
  intro c hc
  rw [Nat.toString_eq_repr, Nat.toList_repr] at hc
  simp [isNumeralChar, Nat.isDigit_of_mem_toDigits (by decide) (by decide) hc]

theorem int (n : Int) : IsNumeral (toString n) := by
  rw [Int.toString_eq_repr, Int.repr_eq_if]
  split_ifs
  · exact nat _
  · exact append (of_all rfl) (nat _)

theorem zeros (n : Nat) : IsNumeral (Decimal.zeros n) := by
  intro c hc
  rw [Decimal.zeros, String.toList_ofList] at hc
  rw [List.eq_of_mem_replicate hc]
  rfl

theorem sign (d : Decimal) : IsNumeral d.sign := by
  rw [Decimal.sign]
  split_ifs <;> exact of_all rfl

theorem positional {mark : String} (hmark : IsNumeral mark) (d : Decimal) :
    IsNumeral (d.positional mark) := by
  rw [Decimal.positional]
  refine append (sign d) ?_
  split_ifs
  · exact append (of_all rfl) hmark
  · exact append (append (nat _) (zeros _)) hmark
  · exact append (append (of_subset (nat _) (List.take_subset _ _)) (of_all rfl))
      (of_subset (nat _) (List.drop_subset _ _))
  · exact append (append (of_all rfl) (zeros _)) (nat _)

theorem scientific (d : Decimal) : IsNumeral d.scientific := by
  rw [Decimal.scientific]
  refine append (append (append (append (sign d) ?_) ?_) ?_) (int _)
  · exact of_subset (nat _) (List.take_subset _ _)
  · split_ifs
    · exact of_all rfl
    · exact append (of_all rfl) (of_subset (nat _) (List.drop_subset _ _))
  · split_ifs <;> exact of_all rfl

theorem written (n : Number) : IsNumeral n.written := by
  cases n with
  | int n => exact int n
  | float d =>
    rw [Number.written, Decimal.written]
    split_ifs
    · exact positional (of_all rfl) d
    · exact scientific d

end IsNumeral

theorem Number.written_ne_nil (n : Number) : n.written.toList ≠ [] := by
  cases n with
  | int n =>
    rw [Number.written, Int.toString_eq_repr, Int.repr_eq_if]
    split_ifs
    · rw [Nat.toList_repr]
      exact Nat.toDigits_ne_nil
    · simp
  | float d =>
    rw [Number.written, Decimal.written]
    split_ifs
    · rw [Decimal.positional]
      split_ifs <;> simp
    · rw [Decimal.scientific]
      split_ifs <;> simp

/-- A word of characters of one class ends where a character outside the class follows. -/
theorem append_inj_of_class {p : Char → Bool} {u v r s : List Char} (hu : ∀ c ∈ u, p c = true)
    (hv : ∀ c ∈ v, p c = true) (hr : ∀ c ∈ r.head?, p c = false) (hs : ∀ c ∈ s.head?, p c = false)
    (h : u ++ r = v ++ s) : u = v ∧ r = s := by
  have word : ∀ {w t : List Char}, (∀ c ∈ w, p c = true) → (∀ c ∈ t.head?, p c = false) →
      (w ++ t).takeWhile p = w := by
    intro w t hw ht
    rw [List.takeWhile_append_of_pos hw]
    cases t with
    | nil => simp
    | cons c t => simp [ht c rfl]
  have huv := congrArg (List.takeWhile p) h
  rw [word hu hr, word hv hs] at huv
  rw [huv] at h
  exact ⟨huv, List.append_cancel_left h⟩

/-- Words that stand one after another are read one by one, if each is told from what follows it and
what comes after all of them begins with none. -/
theorem forall₂_of_flatMap_append {α : Type} {word : α → List Char} {R : α → α → Prop}
    {P : List Char → Prop} {as bs : List α} {r s : List Char}
    (hread : ∀ a ∈ as, ∀ b ∈ bs, ∀ r s, P r → P s → word a ++ r = word b ++ s → R a b ∧ r = s)
    (hword : ∀ a t, P (word a ++ t)) (hr : P r) (hs : P s)
    (hrs : ∀ a t, word a ++ t ≠ r ∧ word a ++ t ≠ s)
    (h : as.flatMap word ++ r = bs.flatMap word ++ s) : List.Forall₂ R as bs ∧ r = s := by
  -- behind each word stands another one or what comes after all of them
  have ends : ∀ (cs : List α) {t : List Char}, P t → P (cs.flatMap word ++ t) := by
    intro cs t ht
    cases cs with
    | nil => exact ht
    | cons c cs =>
      rw [List.flatMap_cons, List.append_assoc]
      exact hword c _
  induction as generalizing bs with
  | nil =>
    cases bs with
    | nil => exact ⟨.nil, h⟩
    | cons b bs =>
      rw [List.flatMap_cons, List.append_assoc] at h
      exact absurd h.symm (hrs b _).1
  | cons a as ih =>
    rw [List.flatMap_cons, List.append_assoc] at h
    cases bs with
    | nil => exact absurd h (hrs a _).2
    | cons b bs =>
      rw [List.flatMap_cons, List.append_assoc] at h
      obtain ⟨hab, hrest⟩ :=
        hread a List.mem_cons_self b List.mem_cons_self _ _ (ends as hr) (ends bs hs) h
      have hlater : ∀ x ∈ as, ∀ y ∈ bs, ∀ r s, P r → P s → word x ++ r = word y ++ s →
          R x y ∧ r = s := fun x hx y hy =>
        hread x (List.mem_cons_of_mem _ hx) y (List.mem_cons_of_mem _ hy)
      obtain ⟨has, hend⟩ := ih hlater hrest
      exact ⟨.cons hab has, hend⟩

namespace Json

/-- What can follow a number, as no character of a number comes first in it. -/
def Delimited (r : List Char) : Prop := ∀ c ∈ r.head?, isNumeralChar c = false

theorem delimited_cons {c : Char} (h : isNumeralChar c = false) (r : List Char) :
    Delimited (c :: r) := by
  simp [Delimited, h]

theorem numeral_append_inj {m n : Number} {r s : List Char} (hr : Delimited r) (hs : Delimited s)
    (h : m.written.toList ++ r = n.written.toList ++ s) : m.written = n.written ∧ r = s := by
  obtain ⟨hmn, hrest⟩ :=
    append_inj_of_class (IsNumeral.written m) (IsNumeral.written n) hr hs h
  exact ⟨String.toList_inj.mp hmn, hrest⟩

/-- The first character of a quoted text and what is after it. There is none before the quote that
closes the text. -/
def unescape : List Char → Option (Char × List Char)
  | [] => none
  | c :: rest =>
    if c = '"' then none
    else if c = '\\' then
      match rest with
      | 'u' :: _ :: _ :: a :: b :: rest =>
        some (Char.ofNat (Text.digitValue a * 16 + Text.digitValue b), rest)
      | d :: rest => (Source.unescape? d).map (·, rest)
      | [] => none
    else some (c, rest)

theorem unescape_escape_append (c : Char) (rest : List Char) :
    unescape (escape c ++ rest) = some (c, rest) := by
  by_cases hc : 0x20 ≤ c.toNat
  · rw [escape]
    split_ifs with hquote hbackslash
    · rw [hquote]
      rfl
    · rw [hbackslash]
      rfl
    · simp [unescape, hquote, hbackslash]
  · have control : ∀ n < 0x20, unescape (escape (Char.ofNat n) ++ rest) =
        some (Char.ofNat n, rest) := by
      intro n hn
      interval_cases n <;> rfl
    rw [← Char.ofNat_toNat c]
    exact control _ (by omega)

theorem toList_quoted (s : String) :
    (quoted s).toList = '"' :: (s.toList.flatMap escape ++ ['"']) := by
  simp [quoted]

theorem escape_append_ne_quote (c : Char) (r s : List Char) : escape c ++ r ≠ '"' :: s := by
  intro h
  have hread := congrArg unescape h
  rw [unescape_escape_append] at hread
  exact absurd hread (by simp [unescape])

theorem escape_append_inj {c d : Char} {r s : List Char} (h : escape c ++ r = escape d ++ s) :
    c = d ∧ r = s := by
  have hread := congrArg unescape h
  rw [unescape_escape_append, unescape_escape_append] at hread
  exact Prod.mk.inj (Option.some.inj hread)

theorem quoted_append_inj {s t : String} {r r' : List Char}
    (h : (quoted s).toList ++ r = (quoted t).toList ++ r') : s = t ∧ r = r' := by
  rw [toList_quoted, toList_quoted, List.cons_append, List.cons_append, List.append_assoc,
    List.append_assoc, List.cons.injEq] at h
  obtain ⟨hchars, hrest⟩ := forall₂_of_flatMap_append (R := Eq) (P := fun _ => True)
    (fun _ _ _ _ _ _ _ _ hcd => escape_append_inj hcd) (fun _ _ => trivial) trivial trivial
    (fun c _ => ⟨escape_append_ne_quote c _ _, escape_append_ne_quote c _ _⟩) h.2
  rw [List.forall₂_eq_eq_eq] at hchars
  exact ⟨String.toList_inj.mp hchars, (List.cons.inj hrest).2⟩

mutual

/-- Whether two values are equal, numbers being compared as they are written. -/
def Alike : Json → Json → Prop
  | null, null => True
  | bool b, bool c => b = c
  | num m, num n => m.written = n.written
  | str s, str t => s = t
  | arr items, arr others => AlikeItems items others
  | obj members, obj others => AlikeMembers members others
  | _, _ => False

def AlikeItems : List Json → List Json → Prop
  | [], [] => True
  | item :: rest, other :: others => item.Alike other ∧ AlikeItems rest others
  | _, _ => False

def AlikeMembers : List (String × Json) → List (String × Json) → Prop
  | [], [] => True
  | (key, value) :: rest, (key', other) :: others =>
    (key = key' ∧ value.Alike other) ∧ AlikeMembers rest others
  | _, _ => False

end

theorem alikeItems_iff {items others : List Json} :
    AlikeItems items others ↔ List.Forall₂ Alike items others := by
  induction items generalizing others with
  | nil => cases others <;> simp [AlikeItems]
  | cons _ _ ih => cases others <;> simp [AlikeItems, ih]

theorem alikeMembers_iff {members others : List (String × Json)} :
    AlikeMembers members others ↔
      List.Forall₂ (fun m n => m.1 = n.1 ∧ m.2.Alike n.2) members others := by
  induction members generalizing others with
  | nil => cases others <;> simp [AlikeMembers]
  | cons _ _ ih => cases others <;> simp [AlikeMembers, ih]

/-- What holds of an array or an object if it holds of the values inside holds of all values. -/
theorem induction {P : Json → Prop} (null : P null) (bool : ∀ b, P (bool b))
    (num : ∀ n, P (num n)) (str : ∀ s, P (str s))
    (arr : ∀ items, (∀ item ∈ items, P item) → P (arr items))
    (obj : ∀ members, (∀ m ∈ members, P m.2) → P (obj members)) (j : Json) : P j :=
  @Json.rec P (fun items => ∀ item ∈ items, P item) (fun members => ∀ m ∈ members, P m.2)
    (fun m => P m.2) null bool num str arr obj (List.forall_mem_nil _)
    (fun _ _ hitem hrest => List.forall_mem_cons.mpr ⟨hitem, hrest⟩) (List.forall_mem_nil _)
    (fun _ _ hm hrest => List.forall_mem_cons.mpr ⟨hm, hrest⟩) (fun _ _ h => h) j

theorem compactItems_eq_map (items : List Json) : compactItems items = items.map compact := by
  induction items with
  | nil => rfl
  | cons item rest ih => rw [compactItems, ih, List.map_cons]

def memberText (m : String × Json) : String := quoted m.1 ++ ":" ++ m.2.compact

theorem compactMembers_eq_map (members : List (String × Json)) :
    compactMembers members = members.map memberText := by
  induction members with
  | nil => rfl
  | cons m rest ih => rw [compactMembers, ih, List.map_cons, memberText]

def typeLedBy (c : Char) : Option String :=
  if isNumeralChar c then some "number"
  else [('n', "null"), ('t', "boolean"), ('f', "boolean"), ('"', "string"), ('[', "array"),
    ('\x7b', "object")].lookup c

theorem exists_head_compact (j : Json) :
    ∃ c, j.compact.toList.head? = some c ∧ typeLedBy c = some j.typeName := by
  cases j with
  | null => exact ⟨'n', rfl, rfl⟩
  | bool b => cases b with
    | false => exact ⟨'f', rfl, rfl⟩
    | true => exact ⟨'t', rfl, rfl⟩
  | num n =>
    obtain ⟨c, rest, hc⟩ := List.exists_cons_of_ne_nil n.written_ne_nil
    refine ⟨c, by rw [compact, hc, List.head?_cons], ?_⟩
    rw [typeLedBy, if_pos (IsNumeral.written n c (by rw [hc]; exact List.mem_cons_self)), typeName]
  | str s => exact ⟨'"', by rw [compact, toList_quoted, List.head?_cons], rfl⟩
  | arr items => exact ⟨'[', by simp [compact], rfl⟩
  | obj members => exact ⟨'\x7b', by simp [compact], rfl⟩

theorem typeName_eq_of_compact_append {j k : Json} {r s : List Char}
    (h : j.compact.toList ++ r = k.compact.toList ++ s) : j.typeName = k.typeName := by
  obtain ⟨c, hj, hc⟩ := exists_head_compact j
  obtain ⟨d, hk, hd⟩ := exists_head_compact k
  have hcd := congrArg List.head? h
  rw [List.head?_append, List.head?_append, hj, hk, Option.some_or, Option.some_or] at hcd
  rw [Option.some.inj hcd, hd] at hc
  exact (Option.some.inj hc).symm

theorem toList_intercalate_comma_cons (w : String) (ws : List String) :
    (",".intercalate (w :: ws)).toList = w.toList ++ ws.flatMap fun v => ',' :: v.toList := by
  induction ws generalizing w with
  | nil => simp
  | cons v ws ih =>
    rw [String.intercalate_cons_cons, String.toList_append, String.toList_append, ih,
      List.flatMap_cons]
    simp

/-- Words between commas are read one by one up to the mark that closes them. -/
theorem forall₂_of_intercalate_append {α : Type} {word : α → String} {R : α → α → Prop}
    {close : Char} (hclose : isNumeralChar close = false) (hcomma : close ≠ ',')
    {xs ys : List α} {r s : List Char}
    (hread : ∀ x ∈ xs, ∀ y r s, Delimited r → Delimited s →
      (word x).toList ++ r = (word y).toList ++ s → R x y ∧ r = s)
    (hword : ∀ x t u, (word x).toList ++ t ≠ close :: u)
    (h : (",".intercalate (xs.map word)).toList ++ close :: r =
      (",".intercalate (ys.map word)).toList ++ close :: s) :
    List.Forall₂ R xs ys ∧ r = s := by
  cases xs with
  | nil =>
    cases ys with
    | nil => exact ⟨.nil, by simpa using h⟩
    | cons y ys =>
      rw [List.map_cons, toList_intercalate_comma_cons, List.append_assoc] at h
      exact absurd h.symm (hword y _ _)
  | cons x xs =>
    rw [List.map_cons, toList_intercalate_comma_cons, List.append_assoc, List.flatMap_map] at h
    cases ys with
    | nil => exact absurd h (hword x _ _)
    | cons y ys =>
      rw [List.map_cons, toList_intercalate_comma_cons, List.append_assoc, List.flatMap_map] at h
      have comma : ∀ t, Delimited (',' :: t) := delimited_cons rfl
      have delimited : ∀ (zs : List α) (t : List Char),
          Delimited (zs.flatMap (fun z => ',' :: (word z).toList) ++ close :: t) := by
        intro zs t
        cases zs with
        | nil => exact delimited_cons hclose t
        | cons z zs => exact comma _
      -- the first word stands bare, and a comma leads each of the others
      obtain ⟨hxy, hrest⟩ := hread x List.mem_cons_self y _ _ (delimited xs r) (delimited ys s) h
      have hnext : ∀ (z : α) t u, ',' :: (word z).toList ++ t ≠ close :: u := by
        intro z t u hcons
        exact hcomma (List.cons.inj hcons).1.symm
      obtain ⟨hxs, hend⟩ := forall₂_of_flatMap_append (R := R) (P := Delimited)
        (fun z hz w _ r s hr hs hzw =>
          hread z (List.mem_cons_of_mem _ hz) w r s hr hs (List.cons.inj hzw).2)
        (fun _ _ => comma _) (delimited [] r) (delimited [] s)
        (fun z t => ⟨hnext z t r, hnext z t s⟩) hrest
      exact ⟨.cons hxy hxs, (List.cons.inj hend).2⟩

theorem compact_arr_append (items : List Json) (r : List Char) :
    (arr items).compact.toList ++ r =
      '[' :: ((",".intercalate (items.map compact)).toList ++ ']' :: r) := by
  simp [compact, compactItems_eq_map]

theorem compact_obj_append (members : List (String × Json)) (r : List Char) :
    (obj members).compact.toList ++ r =
      '\x7b' :: ((",".intercalate (members.map memberText)).toList ++ '\x7d' :: r) := by
  simp [compact, compactMembers_eq_map]

theorem memberText_append (m : String × Json) (r : List Char) :
    (memberText m).toList ++ r = (quoted m.1).toList ++ ':' :: (m.2.compact.toList ++ r) := by
  simp [memberText]

/-- A value does not begin with a character that leads no type. -/
theorem compact_append_ne {c : Char} (h : typeLedBy c = none) (j : Json) (r s : List Char) :
    j.compact.toList ++ r ≠ c :: s := by
  obtain ⟨d, hd, htype⟩ := exists_head_compact j
  intro hcons
  have hhead := congrArg List.head? hcons
  rw [List.head?_append, hd, Option.some_or, List.head?_cons] at hhead
  rw [Option.some.inj hhead, h] at htype
  cases htype

/-- The compact text of a value ends in one place, wherever it stands, and tells the value but for
numbers in it that are written alike. -/
theorem alike_of_compact_append (j k : Json) {r s : List Char} (hr : Delimited r)
    (hs : Delimited s) (h : j.compact.toList ++ r = k.compact.toList ++ s) :
    j.Alike k ∧ r = s := by
  -- the first character tells the type, so only values of one type are left to compare
  have htype := typeName_eq_of_compact_append h
  induction j using induction generalizing k r s with
  | null =>
    cases k with
    | null => exact ⟨trivial, List.append_cancel_left h⟩
    | _ => exact absurd htype (by simp [typeName])
  | bool b =>
    cases k with
    | bool c =>
      have hbc : b = c := by cases b <;> cases c <;> simp [compact] at h ⊢
      rw [hbc] at h ⊢
      exact ⟨rfl, List.append_cancel_left h⟩
    | _ => exact absurd htype (by simp [typeName])
  | num m =>
    cases k with
    | num n => exact numeral_append_inj hr hs h
    | _ => exact absurd htype (by simp [typeName])
  | str t =>
    cases k with
    | str u => exact quoted_append_inj h
    | _ => exact absurd htype (by simp [typeName])
  | arr items ih =>
    cases k with
    | arr others =>
      rw [compact_arr_append, compact_arr_append] at h
      rw [Alike, alikeItems_iff]
      exact forall₂_of_intercalate_append rfl (by decide)
        (fun item hitem other r s hr hs h =>
          ih item hitem other hr hs h (typeName_eq_of_compact_append h))
        (compact_append_ne rfl) (List.cons.inj h).2
    | _ => exact absurd htype (by simp [typeName])
  | obj members ih =>
    cases k with
    | obj others =>
      rw [compact_obj_append, compact_obj_append] at h
      rw [Alike, alikeMembers_iff]
      refine forall₂_of_intercalate_append rfl (by decide) (fun m hm n r s hr hs h => ?_)
        (fun m t u hcons => ?_) (List.cons.inj h).2
      · rw [memberText_append, memberText_append] at h
        obtain ⟨hkey, hvalue⟩ := quoted_append_inj h
        have hvalue := (List.cons.inj hvalue).2
        obtain ⟨halike, hend⟩ := ih m hm n.2 hr hs hvalue (typeName_eq_of_compact_append hvalue)
        exact ⟨⟨hkey, halike⟩, hend⟩
      · rw [memberText_append, toList_quoted, List.cons_append] at hcons
        exact absurd (List.cons.inj hcons).1 (by decide)
    | _ => exact absurd htype (by simp [typeName])

theorem map_eq_of_forall₂ {α β : Type} {R : α → α → Prop} {g : α → β} {xs ys : List α}
    (hg : ∀ x ∈ xs, ∀ y, R x y → g x = g y) (h : List.Forall₂ R xs ys) : xs.map g = ys.map g := by
  induction h with
  | nil => rfl
  | cons hxy _ ih =>
    rw [List.map_cons, List.map_cons, hg _ List.mem_cons_self _ hxy,
      ih fun x hx => hg x (List.mem_cons_of_mem _ hx)]

theorem compact_eq_of_alike {j k : Json} (h : j.Alike k) : j.compact = k.compact := by
  induction j using induction generalizing k with
  | null => cases k with
    | null => rfl
    | _ => cases h
  | bool b => cases k with
    | bool c => rw [show b = c from h]
    | _ => cases h
  | num m => cases k with
    | num n => exact h
    | _ => cases h
  | str s => cases k with
    | str t => rw [show s = t from h]
    | _ => cases h
  | arr items ih => cases k with
    | arr others =>
      rw [compact, compact, compactItems_eq_map, compactItems_eq_map,
        map_eq_of_forall₂ (fun item hitem _ => ih item hitem) (alikeItems_iff.mp h)]
    | _ => cases h
  | obj members ih => cases k with
    | obj others =>
      rw [compact, compact, compactMembers_eq_map, compactMembers_eq_map,
        map_eq_of_forall₂ (fun m hm n hmn => ?_) (alikeMembers_iff.mp h)]
      rw [memberText, memberText, hmn.1, ih m hm hmn.2]
    | _ => cases h

/-- Compact texts are equal exactly if the values are equal but for how numbers are held. -/
theorem compact_eq_iff {j k : Json} : j.compact = k.compact ↔ j.Alike k := by
  refine ⟨fun h => ?_, compact_eq_of_alike⟩
  exact (alike_of_compact_append j k (r := []) (s := []) (by simp [Delimited])
    (by simp [Delimited]) (by rw [h])).1

end Json

end DocSections
