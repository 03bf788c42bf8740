import DocSections.Text.Runs

/-! A JSON5 text while it is searched for the parts of its grammar. A text that is not well formed
is told by the furthest place where a part was looked for in vain. -/

namespace DocSections.Json5

/-- The parts of the grammar that are told when they are missing, in the order of their names. -/
inductive Part where
  | textEnd
  | array
  | boolean
  | escapedChar
  | char
  | hexDigits
  | name
  | escapedZero
  | null
  | number
  | object
  | text
  | unitDigits
deriving DecidableEq, Repr

namespace Part

def all : List Part :=
  [textEnd, array, boolean, escapedChar, char, hexDigits, name, escapedZero, null, number, object,
    text, unitDigits]

def told : Part → String
  | textEnd => "EOI"
  | array => "array"
  | boolean => "boolean"
  | escapedChar => "char_escape_sequence"
  | char => "char_literal"
  | hexDigits => "hex_escape_sequence"
  | name => "identifier"
  | escapedZero => "nul_escape_sequence"
  | null => "null"
  | number => "number"
  | object => "object"
  | text => "string"
  | unitDigits => "unicode_escape_sequence"

def toldAll : List Part → String
  | [] => ""
  | [p] => p.told
  | [p, q] => p.told ++ " or " ++ q.told
  | parts =>
    ", ".intercalate (parts.dropLast.map told) ++ ", or " ++ (parts.getLast?.elim "" told)

end Part

/-- The furthest place where parts were looked for in vain, counted in characters, and the
parts. -/
structure Attempts where
  index : Nat
  parts : List Part

def Attempts.note (a : Attempts) (index : Nat) (p : Part) : Attempts :=
  if a.index < index then ⟨index, [p]⟩
  else if a.index = index then ⟨index, p :: a.parts⟩
  else a

namespace Attempts

/-- Line and column of a place behind some characters, both counted from one. -/
def place : Nat × Nat → List Char → Nat × Nat
  | p, [] => p
  | (line, _), '\r' :: '\n' :: rest => place (line + 1, 1) rest
  | (line, _), '\n' :: rest => place (line + 1, 1) rest
  | (line, column), _ :: rest => place (line, column + 1) rest

/-- The line of a place, whose end shows when the place is there. -/
def lineAt (before after : List Char) : List Char :=
  let start := (before.reverse.takeWhile (· != '\n')).reverse
  let rest := after.takeWhile (· != '\n') ++ (after.dropWhile (· != '\n')).take 1
  let atEnd := after.head? == some '\n' || after.head? == some '\r'
  let shown (c : Char) : List Char :=
    if c = '\n' then if atEnd then ['␊'] else []
    else if c = '\r' then if atEnd then ['␍'] else []
    else [c]
  (start ++ rest).flatMap shown

/-- What is told of a text: where it goes wrong, and what was looked for there. -/
def message (a : Attempts) (cs : List Char) : String :=
  let before := cs.take a.index
  let (line, column) := place (1, 1) before
  let text := lineAt before (cs.drop a.index)
  let blanks := String.ofList (List.replicate (toString line).length ' ')
  let mark := String.ofList ((text.take (column - 1)).map fun c => if c = '\t' then c else ' ')
  blanks ++ "--> " ++ toString line ++ ":" ++ toString column ++ "\n" ++
    blanks ++ " |\n" ++
    toString line ++ " | " ++ String.ofList text ++ "\n" ++
    blanks ++ " | " ++ mark ++ "^---\n" ++
    blanks ++ " |\n" ++
    blanks ++ " = expected " ++ Part.toldAll (Part.all.filter a.parts.contains)

end Attempts

structure Cursor where
  rest : List Char
  index : Nat

namespace Cursor

def skip (c : Cursor) (n : Nat) : Cursor := ⟨c.rest.drop n, c.index + n⟩

def consume? (c : Cursor) (s : String) : Option Cursor :=
  if s.toList.isPrefixOf c.rest then some (c.skip s.length) else none

/-! Blanks and comments -/

def isLineEnd (c : Char) : Bool := c == '\n' || c == '\r' || c.toNat == 0x2028 || c.toNat == 0x2029

def isBlank (c : Char) : Bool :=
  isLineEnd c || [0x09, 0x0B, 0x0C, 0xFEFF].contains c.toNat ||
    Text.inRanges c.toNat
      [(0x20, 0x20), (0xA0, 0xA0), (0x1680, 0x1680), (0x2000, 0x200A), (0x202F, 0x202F),
       (0x205F, 0x205F), (0x3000, 0x3000)]

/-- The length of a block comment after its first two characters, if it ends. -/
def blockLength? : List Char → Option Nat
  | '*' :: '/' :: _ => some 2
  | _ :: rest => (blockLength? rest).map (· + 1)
  | [] => none

def commentLength? : List Char → Option Nat
  | '/' :: '*' :: rest => (blockLength? rest).map (· + 2)
  | '/' :: '/' :: rest => some ((rest.takeWhile (!isLineEnd ·)).length + 2)
  | _ => none

def skipBlanksUpTo : Nat → Cursor → Cursor
  | 0, c => c
  | n + 1, c =>
    let c := c.skip (c.rest.takeWhile isBlank).length
    match commentLength? c.rest with
    | some length => skipBlanksUpTo n (c.skip length)
    | none => c

def skipBlanks (c : Cursor) : Cursor := skipBlanksUpTo (c.rest.length + 1) c

end Cursor

/-- A search that may find nothing, but keeps what was looked for. -/
abbrev Search := OptionT (StateM Attempts)

namespace Search

def tried (p : Part) (c : Cursor) : Search Unit := modify (·.note c.index p)

def missing {α : Type} (p : Part) (c : Cursor) : Search α := do
  tried p c
  failure

def consume (s : String) (c : Cursor) : Search Cursor :=
  match c.consume? s with
  | some c => return c
  | none => failure

end Search

end DocSections.Json5
