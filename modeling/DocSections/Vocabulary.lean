import DocSections.Json.Source

/-! Closed sets of words. -/

namespace DocSections

/-- A type of finitely many values, each known by a word of its own. -/
class Vocabulary (α : Type) where
  values : List α
  word : α → String
  find?_word : ∀ a, values.find? (fun b => word b == word a) = some a

namespace Vocabulary

variable {α : Type} [Vocabulary α]

def ofWord? (w : String) : Option α := values.find? (fun a => word a == w)

def words (α : Type) [Vocabulary α] : List String := (values : List α).map word

def toJson (a : α) : Json := .str (word a)

def ofSource? (s : Source) : Option α := s.word?.bind ofWord?

@[simp] theorem ofWord?_word (a : α) : ofWord? (word a) = some a := find?_word a

theorem mem_values (a : α) : a ∈ (values : List α) := List.mem_of_find?_eq_some (find?_word a)

theorem word_of_ofWord? {w : String} {a : α} (h : ofWord? w = some a) : word a = w := by
  simpa using List.find?_some h

theorem ofWord?_eq_some_iff {w : String} {a : α} : ofWord? w = some a ↔ word a = w := by
  constructor
  · exact word_of_ofWord?
  · rintro rfl
    exact ofWord?_word a

theorem word_injective {a b : α} (h : word a = word b) : a = b := by
  have := ofWord?_word a
  rw [h, ofWord?_word] at this
  exact (Option.some.inj this).symm

@[simp] theorem ofSource?_toJson (a : α) : ofSource? (.ofJson (toJson a)) = some a := by
  simp [ofSource?, toJson, Source.ofJson, Source.word?]

end Vocabulary

end DocSections
