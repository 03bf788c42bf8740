import DocSections.Json.Source
import DocSections.Proofs.JsonTokens

/-! Compact JSON texts are read back. The tokens of a value are put together as that value, whatever
arrays and objects are open around it, so long as it is not nested too deep. -/

namespace DocSections

/-- Whether a value can be read where `room` more arrays and objects may lie one in another: its
numbers are whole and fit in words, and it is not nested deeper than that. -/
inductive Json.Readable : Nat → Json → Prop
  | null {room : Nat} : Readable room .null
  | bool {room : Nat} (b : Bool) : Readable room (.bool b)
  | int {room : Nat} {n : Int} : Number.FitsWord n → Readable room (.num (.int n))
  | str {room : Nat} (s : String) : Readable room (.str s)
  | arr {room : Nat} {items : List Json} : (∀ item ∈ items, Readable room item) →
      Readable (room + 1) (.arr items)
  | obj {room : Nat} {members : List (String × Json)} : (∀ m ∈ members, Readable room m.2) →
      Readable (room + 1) (.obj members)

namespace Source

theorem foldlM_append_of_eq_some {r r' : Reading} {made others : List Token}
    (h : made.foldlM Reading.step r = some r') :
    (made ++ others).foldlM Reading.step r = others.foldlM Reading.step r' := by
  rw [List.foldlM_append, h]
  rfl

/-- Whether tokens are read as a value wherever a value may come and there is room for it. -/
def ReadAs (room : Nat) (v : Source) (made : List Token) : Prop :=
  ∀ frames place, place = .value ∨ place = .valueOrEnd → frames.length + room ≤ nestingLimit →
    made.foldlM Reading.step ⟨frames, place, none⟩ = some (.put v frames)

theorem readAs_value (room : Nat) (v : Source) : ReadAs room v [.value v] := by
  rintro frames place (rfl | rfl) - <;> rfl

theorem readAs_text (room : Nat) (t : String) : ReadAs room (str t) [.text (some t)] := by
  rintro frames place (rfl | rfl) - <;> rfl

section

variable {α β : Type} {word : α → String} {entry : α → β} {frame : List β → Frame}
  {first next : Place} {room : Nat}

/-- Whether tokens are read as one more entry of an open array or object, be it the first one or
another. -/
def EntersAs (frame : List β → Frame) (first next : Place) (room : Nat) (b : β)
    (made : List Token) : Prop :=
  ∀ bs frames place, place = first ∨ place = next → frames.length + room < nestingLimit →
    made.foldlM Reading.step ⟨frame bs :: frames, place, none⟩ =
      some ⟨frame (b :: bs) :: frames, .afterValue, none⟩

theorem stops_flatMap_append (word : α → String) (xs : List α) {r : List Char} (hr : Stops r) :
    Stops ((xs.flatMap fun x => ',' :: (word x).toList) ++ r) := by
  cases xs with
  | nil => exact hr
  | cons x xs =>
    intro c hc
    cases hc
    rfl

theorem exists_tokens_flatMap
    (hcomma : ∀ bs frames, Reading.step ⟨frame bs :: frames, .afterValue, none⟩ (.mark ',') =
      some ⟨frame bs :: frames, next, none⟩)
    {xs : List α} (h : ∀ x ∈ xs, ∃ made, LexesAs (word x).toList made ∧
      EntersAs frame first next room (entry x) made) :
    ∃ made, LexesAs (xs.flatMap fun x => ',' :: (word x).toList) made ∧
      ∀ bs frames, frames.length + room < nestingLimit →
        made.foldlM Reading.step ⟨frame bs :: frames, .afterValue, none⟩ =
          some ⟨frame ((xs.map entry).reverse ++ bs) :: frames, .afterValue, none⟩ := by
  induction xs with
  | nil => exact ⟨[], fun _ _ _ => rfl, fun _ _ _ => rfl⟩
  | cons x xs ih =>
    obtain ⟨hx, hxs⟩ := List.forall_mem_cons.mp h
    obtain ⟨made, hlex, hread⟩ := hx
    obtain ⟨others, hlexes, hreads⟩ := ih hxs
    refine ⟨.mark ',' :: made ++ others, fun r tokens hr => ?_, fun bs frames hroom => ?_⟩
    · have hstep : lexStep tokens ',' .between = some (.mark ',' :: tokens, .between) := rfl
      rw [List.flatMap_cons, List.append_assoc, List.cons_append, lexAll_cons_of_lexStep hstep,
        hlex _ _ (stops_flatMap_append word xs hr), hlexes _ _ hr]
      simp
    · have hhead : (Token.mark ',' :: made).foldlM Reading.step
          ⟨frame bs :: frames, .afterValue, none⟩ =
            some ⟨frame (entry x :: bs) :: frames, .afterValue, none⟩ := by
        rw [List.foldlM_cons, hcomma]
        exact hread bs frames next (.inr rfl) hroom
      rw [foldlM_append_of_eq_some hhead, hreads _ _ hroom]
      simp

/-- What stands between the marks of an array or object is read as all its entries. -/
theorem exists_tokens_intercalate
    (hcomma : ∀ bs frames, Reading.step ⟨frame bs :: frames, .afterValue, none⟩ (.mark ',') =
      some ⟨frame bs :: frames, next, none⟩)
    {xs : List α} (h : ∀ x ∈ xs, ∃ made, LexesAs (word x).toList made ∧
      EntersAs frame first next room (entry x) made) :
    ∃ made, LexesAs (",".intercalate (xs.map word)).toList made ∧
      ∀ frames, frames.length + room < nestingLimit → ∃ place,
        (place = first ∨ place = .afterValue) ∧
          made.foldlM Reading.step ⟨frame [] :: frames, first, none⟩ =
            some ⟨frame (xs.map entry).reverse :: frames, place, none⟩ := by
  cases xs with
  | nil => exact ⟨[], fun _ _ _ => rfl, fun _ _ => ⟨first, .inl rfl, rfl⟩⟩
  | cons x xs =>
    obtain ⟨hx, hxs⟩ := List.forall_mem_cons.mp h
    obtain ⟨made, hlex, hread⟩ := hx
    obtain ⟨others, hlexes, hreads⟩ := exists_tokens_flatMap hcomma hxs
    refine ⟨made ++ others, fun r tokens hr => ?_, fun frames hroom => ⟨.afterValue, .inr rfl, ?_⟩⟩
    · rw [List.map_cons, Json.toList_intercalate_comma_cons, List.flatMap_map, List.append_assoc,
        hlex _ _ (stops_flatMap_append word xs hr), hlexes _ _ hr]
      simp
    · rw [foldlM_append_of_eq_some (hread [] frames first (.inl rfl) hroom), hreads _ _ hroom]
      simp

end

section

variable {room : Nat} {v : Source} {made : List Token} {inner : List Char}

theorem LexesAs.enclose {opening closing : Char}
    (hopen : ∀ tokens, lexStep tokens opening .between = some (.mark opening :: tokens, .between))
    (hclose : ∀ tokens, lexStep tokens closing .between = some (.mark closing :: tokens, .between))
    (hstop : isStop closing = true) (h : LexesAs inner made) :
    LexesAs (opening :: (inner ++ [closing])) (.mark opening :: (made ++ [.mark closing])) := by
  intro r tokens _
  have hstops : Stops (closing :: r) := by
    intro c hc
    rw [← Option.some.inj hc]
    exact hstop
  rw [List.cons_append, lexAll_cons_of_lexStep (hopen tokens), List.append_assoc,
    List.singleton_append, h _ _ hstops, lexAll_cons_of_lexStep (hclose _)]
  simp

theorem ReadAs.entersArray (h : ReadAs room v made) :
    EntersAs .array .valueOrEnd .value room v made := by
  intro items frames place hplace hroom
  exact h (.array items :: frames) place hplace.symm (by rw [List.length_cons]; omega)

theorem ReadAs.entersObject (h : ReadAs room v made) (key : String) :
    EntersAs .object .keyOrEnd .key room (some key, v)
      (.text (some key) :: .mark ':' :: made) := by
  intro members frames place hplace hroom
  have hkey : ([.text (some key), .mark ':'] : List Token).foldlM Reading.step
      ⟨.object members :: frames, place, none⟩ =
        some ⟨.member members (some key) :: frames, .value, none⟩ := by
    rcases hplace with rfl | rfl <;> rfl
  have hvalue := h (.member members (some key) :: frames) .value (.inl rfl)
    (by rw [List.length_cons]; omega)
  exact (foldlM_append_of_eq_some hkey).trans hvalue

/-- What is closed is put where it belongs, if it was not opened too deep. -/
theorem close_eq_put {frames : List Frame} (h : frames.length + (room + 1) ≤ nestingLimit) :
    Reading.close v frames = .put v frames := by
  rw [Reading.close, if_neg (by omega)]

/-- Entries between an opening and a closing mark are read as one value. -/
theorem readAs_enclosed {β : Type} {frame : List β → Frame} {first : Place}
    {opening closing : Char} {whole : List β → Source} {bs : List β}
    (hopen : ∀ frames place, place = .value ∨ place = .valueOrEnd →
      Reading.step ⟨frames, place, none⟩ (.mark opening) = some ⟨frame [] :: frames, first, none⟩)
    (hclose : ∀ bs frames place, place = first ∨ place = .afterValue →
      Reading.step ⟨frame bs :: frames, place, none⟩ (.mark closing) =
        some (.close (whole bs.reverse) frames))
    (h : ∀ frames, frames.length + room < nestingLimit → ∃ place,
      (place = first ∨ place = .afterValue) ∧
        made.foldlM Reading.step ⟨frame [] :: frames, first, none⟩ =
          some ⟨frame bs.reverse :: frames, place, none⟩) :
    ReadAs (room + 1) (whole bs) (.mark opening :: (made ++ [.mark closing])) := by
  intro frames place hplace hroom
  obtain ⟨after, hafter, hread⟩ := h frames (by omega)
  have hwhole := hclose bs.reverse frames after hafter
  rw [List.reverse_reverse, close_eq_put hroom] at hwhole
  rw [List.foldlM_cons, hopen frames place hplace]
  change (made ++ [Token.mark closing]).foldlM Reading.step _ = _
  rw [foldlM_append_of_eq_some hread, List.foldlM_cons, hwhole]
  rfl

theorem lexesAs_memberText {m : String × Json} (h : LexesAs m.2.compact.toList made) :
    LexesAs (Json.memberText m).toList (.text (some m.1) :: .mark ':' :: made) := by
  intro r tokens hr
  have hcolon : ∀ tokens, lexStep tokens ':' .between = some (.mark ':' :: tokens, .between) :=
    fun _ => rfl
  rw [Json.memberText_append, lexAll_quoted, lexAll_cons_of_lexStep (hcolon _), h _ _ hr]
  simp

/-- A value that can be read is made of tokens that are read as it. -/
theorem exists_tokens_of_readable {j : Json} (h : j.Readable room) :
    ∃ made, LexesAs j.compact.toList made ∧ ReadAs room (.ofJson j) made := by
  induction h with
  | null => exact ⟨_, lexesAs_null, readAs_value _ _⟩
  | bool b => exact ⟨_, lexesAs_bool b, readAs_value _ _⟩
  | int hn => exact ⟨_, lexesAs_number hn, readAs_value _ _⟩
  | str t => exact ⟨_, lexesAs_quoted t, readAs_text _ t⟩
  | @arr room items _ ih =>
    -- inside the array, each item is read with the room that is left there
    have hitems : ∀ item ∈ items, ∃ made, LexesAs item.compact.toList made ∧
        EntersAs .array .valueOrEnd .value room (ofJson item) made := by
      intro item hitem
      obtain ⟨made, hlex, hread⟩ := ih item hitem
      exact ⟨made, hlex, hread.entersArray⟩
    obtain ⟨made, hlex, hread⟩ := exists_tokens_intercalate (fun _ _ => rfl) hitems
    have htext := Json.compact_arr_append items []
    rw [List.append_nil] at htext
    rw [htext, ofJson, ofItems_eq_map]
    refine ⟨_, hlex.enclose (fun _ => rfl) (fun _ => rfl) rfl, readAs_enclosed ?_ ?_ hread⟩
    · rintro frames place (rfl | rfl) <;> rfl
    · rintro items frames place (rfl | rfl) <;> rfl
  | @obj room members _ ih =>
    have hmembers : ∀ m ∈ members, ∃ made, LexesAs (Json.memberText m).toList made ∧
        EntersAs .object .keyOrEnd .key room (some m.1, ofJson m.2) made := by
      intro m hm
      obtain ⟨made, hlex, hread⟩ := ih m hm
      exact ⟨_, lexesAs_memberText hlex, hread.entersObject m.1⟩
    obtain ⟨made, hlex, hread⟩ := exists_tokens_intercalate (fun _ _ => rfl) hmembers
    have htext := Json.compact_obj_append members []
    rw [List.append_nil] at htext
    rw [htext, ofJson, ofMembers_eq_map]
    refine ⟨_, hlex.enclose (fun _ => rfl) (fun _ => rfl) rfl, readAs_enclosed ?_ ?_ hread⟩
    · rintro frames place (rfl | rfl) <;> rfl
    · rintro members frames place (rfl | rfl) <;> rfl

theorem lexAll_blanks {blanks : List Char} (h : ∀ c ∈ blanks, blank c = true)
    (tokens : List Token) : lexAll blanks (tokens, .between) = some tokens.reverse := by
  induction blanks with
  | nil => rfl
  | cons c blanks ih =>
    obtain ⟨hc, hblanks⟩ := List.forall_mem_cons.mp h
    have hstep : lexStep tokens c .between = some (tokens, .between) := by
      rw [lexStep, startToken, if_pos hc]
    rw [lexAll_cons_of_lexStep hstep, ih hblanks]

/-- The compact text of a value is read back as the value, also with blanks behind it. -/
theorem ofText?_compact {j : Json} (h : j.Readable nestingLimit) (blanks : String)
    (hblanks : ∀ c ∈ blanks.toList, blank c = true) :
    ofText? (j.compact ++ blanks) = some (ofJson j) := by
  obtain ⟨made, hlex, hread⟩ := exists_tokens_of_readable h
  have hstops : Stops blanks.toList := by
    intro c hc
    rw [isStop, hblanks c (List.mem_of_mem_head? hc), Bool.or_true]
  have htokens : tokens? (j.compact ++ blanks).toList = some made := by
    rw [tokens?_eq, String.toList_append, hlex _ _ hstops, lexAll_blanks hblanks]
    simp
  have hvalue := hread [] .value (.inl rfl) (Nat.le_of_eq (Nat.zero_add _))
  rw [ofText?, htokens]
  change (made.foldlM Reading.step _).bind Reading.result = _
  rw [hvalue]
  rfl

end

end Source

end DocSections
