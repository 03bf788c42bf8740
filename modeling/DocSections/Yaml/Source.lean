/-! A YAML text while it is read: what is left of it and the place in it. -/

namespace DocSections.Yaml

/-- A place in a text. Lines are counted from one, columns from zero. -/
structure Mark where
  index : Nat
  line : Nat
  column : Nat
deriving DecidableEq, Repr

structure Fault where
  problem : String
  place : Option Mark
deriving DecidableEq, Repr

def Fault.message (f : Fault) : String :=
  f.problem ++ f.place.elim "" fun m =>
    " at byte " ++ toString m.index ++ " line " ++ toString m.line ++ " column " ++
      toString (m.column + 1)

def endChar : Char := Char.ofNat 0

def isEnd (c : Char) : Bool := c == endChar

def isBreak (c : Char) : Bool := c == '\n' || c == '\r'

def isBlank (c : Char) : Bool := c == ' ' || c == '\t'

def endsLine (c : Char) : Bool := isBreak c || isEnd c

def partsWords (c : Char) : Bool := isBlank c || endsLine c

def isFlowMark (c : Char) : Bool := ",[]\x7b\x7d".toList.contains c

def isWordChar (c : Char) : Bool := c.isAlphanum || c == '_' || c == '-'

/-- Where the reader stands; `leading` says whether there were only blanks in the line so far. -/
structure Cursor where
  rest : List Char
  mark : Mark
  leading : Bool

namespace Cursor

def start (cs : List Char) : Cursor := ⟨cs, ⟨0, 1, 0⟩, true⟩

def charAt (c : Cursor) (n : Nat) : Char := c.rest.getD n endChar

def char (c : Cursor) : Char := c.charAt 0

def column (c : Cursor) : Nat := c.mark.column

def skip (c : Cursor) (n : Nat) : Cursor :=
  ⟨c.rest.drop n, ⟨c.mark.index + n, c.mark.line, c.mark.column + n⟩,
    c.leading && (c.rest.take n).all isBlank⟩

def skipBreak (c : Cursor) : Cursor :=
  match c.rest with
  | '\r' :: '\n' :: rest => ⟨rest, ⟨c.mark.index + 2, c.mark.line + 1, 0⟩, true⟩
  | d :: rest => if isBreak d then ⟨rest, ⟨c.mark.index + 1, c.mark.line + 1, 0⟩, true⟩ else c
  | [] => c

def skipLine (c : Cursor) : Cursor := c.skip (c.rest.takeWhile fun d => !endsLine d).length

def atIndicator (c : Cursor) (d : Char) : Bool :=
  c.column == 0 && c.charAt 0 == d && c.charAt 1 == d && c.charAt 2 == d &&
    partsWords (c.charAt 3)

def atDocument (c : Cursor) : Bool := c.atIndicator '-' || c.atIndicator '.'

def fault {α : Type} (c : Cursor) (problem : String) : Except Fault α :=
  .error ⟨problem, some c.mark⟩

end Cursor

/-- Takes steps until there is none, at most as many as told. -/
def steps {σ : Type} (step : σ → Except Fault (Option σ)) : Nat → σ → Except Fault σ
  | 0, s => .ok s
  | n + 1, s =>
    match step s with
    | .error fault => .error fault
    | .ok none => .ok s
    | .ok (some s') => steps step n s'

structure Gap where
  cursor : Cursor
  tab : Bool
  blank : Bool

namespace Cursor

def skipGap (tabs : Bool) (c : Cursor) : Except Fault Gap :=
  steps (fun g =>
    let d := g.cursor.char
    if d = ' ' then .ok (some { g with cursor := g.cursor.skip 1, blank := true })
    else if d = '\t' && tabs then .ok (some { g with cursor := g.cursor.skip 1, tab := true })
    else if d = '#' then
      if g.tab || g.blank then .ok (some { g with cursor := g.cursor.skipLine })
      else g.cursor.fault "comments must be separated from other tokens by whitespace"
    else .ok none) (c.rest.length + 1) ⟨c, false, false⟩

def skipToLineEnd (c : Cursor) : Except Fault Cursor := (c.skipGap true).map Gap.cursor

end Cursor

end DocSections.Yaml
