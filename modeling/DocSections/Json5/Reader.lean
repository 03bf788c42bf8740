import DocSections.Json5.Lexeme
import DocSections.OrderedMap

/-! Reading JSON5 texts. A comma may follow the last item of an array or object. -/

namespace DocSections.Json5

inductive Node where
  | null
  | boolean (value : Bool)
  | text (pieces : List Piece)
  | number (numeral : List Char)
  | array (items : List Node)
  | object (members : List (List Piece × Node))

namespace Node

mutual

def setting : Node → Except Problem Setting
  | null => .ok .unset
  | boolean b => .ok (.bool b)
  | text pieces => (spelled pieces).map .text
  | number numeral => numberOf numeral
  | array items => do .ok (.list (← settings items))
  | object members => do .ok (.table (Assoc.ofPairs (← settingMembers members)))

def settings : List Node → Except Problem (List Setting)
  | [] => .ok []
  | item :: rest => do .ok ((← item.setting) :: (← settings rest))

def settingMembers : List (List Piece × Node) → Except Problem (List (String × Setting))
  | [] => .ok []
  | (key, value) :: rest => do
    .ok ((← spelled key, ← value.setting) :: (← settingMembers rest))

end

end Node

namespace Search

def word (p : Part) (words : List (String × Node)) (c : Cursor) : Search (Node × Cursor) :=
  match words.findSome? fun w => (c.consume? w.1).map (w.2, ·) with
  | some found => return found
  | none => missing p c

def number (c : Cursor) : Search (Node × Cursor) :=
  match numeralLength? c.rest with
  | some n => return (.number (c.rest.take n), c.skip n)
  | none => missing .number c

def moreItems {α : Type} (item : Cursor → Search (α × Cursor)) :
    Nat → Cursor → Search (List α × Cursor)
  | 0, c => return ([], c)
  | n + 1, c => (do
      let after ← consume "," c.skipBlanks
      let (a, after) ← item after.skipBlanks
      let (others, after) ← moreItems item n after
      return (a :: others, after)) <|> return ([], c)

def items {α : Type} (p : Part) (opens closes : String) (item : Cursor → Search (α × Cursor))
    (c : Cursor) : Search (List α × Cursor) :=
  (do
    let inside := (← consume opens c).skipBlanks
    match inside.consume? closes with
    | some after => return ([], after)
    | none =>
      let (first, after) ← item inside
      let (others, after) ← moreItems item after.rest.length after
      let after := after.skipBlanks
      let after := (after.consume? ",").elim after Cursor.skipBlanks
      return (first :: others, ← consume closes after)) <|> missing p c

def member (value : Cursor → Search (Node × Cursor)) (c : Cursor) :
    Search ((List Piece × Node) × Cursor) := do
  let (key, after) ← name c <|> text c
  let after ← consume ":" after.skipBlanks
  let (v, after) ← value after.skipBlanks
  return ((key, v), after)

def value : Nat → Cursor → Search (Node × Cursor)
  | 0, _ => failure
  | n + 1, c =>
    word .null [("null", .null)] c <|>
    word .boolean [("true", .boolean true), ("false", .boolean false)] c <|>
    (do
      let (pieces, after) ← text c
      return (.text pieces, after)) <|>
    number c <|>
    (do
      let (members, after) ← items .object "\x7b" "\x7d" (member (value n)) c
      return (.object members, after)) <|>
    (do
      let (found, after) ← items .array "[" "]" (value n) c
      return (.array found, after))

def document (c : Cursor) : Search Node := do
  let c := c.skipBlanks
  let (v, after) ← value (c.rest.length + 1) c
  let after := after.skipBlanks
  if after.rest = [] then return v else missing .textEnd after

end Search

def ofText (text : String) : Except Problem Setting :=
  let cs := text.toList
  match (Search.document ⟨cs, 0⟩).run ⟨0, []⟩ with
  | (some v, _) => v.setting
  | (none, attempts) => .error (.malformed (attempts.message cs))

end DocSections.Json5
