import DocSections.Text.Quoted

/-! A RON text while it is read: what is left of it and the place in it, and what may be wrong
there. -/

namespace DocSections.Ron

def startsName (c : Char) : Bool := c.isAlpha || c == '_'

def continuesName (c : Char) : Bool := c.isAlphanum || c == '_'

def isRawChar (c : Char) : Bool := continuesName c || c == '.' || c == '+' || c == '-'

inductive Problem where
  | endOfText
  | noAttribute
  | openAttribute
  | extension (name : String)
  | comma
  | colon
  | option
  | optionEnd
  | name
  | rawName (name : String)
  | text
  | textEnd
  | character
  | escape (reason : String)
  | float
  | floatUnderscore
  | unclosedComment
  | unexpected (c : Char)
  | tooDeep
  | key (found : String)
  | trailing
deriving DecidableEq, Repr

def toldName (s : String) : String :=
  if s.toList.all continuesName && s.toList.head?.any startsName then "\x60" ++ s ++ "\x60"
  else "\x60r#" ++ s ++ "\x60"

def Problem.message : Problem → String
  | endOfText => "Unexpected end of RON"
  | noAttribute => "Expected an \x60#![enable(...)]\x60 attribute"
  | openAttribute => "Expected closing \x60)]\x60 after the enable attribute"
  | extension e => "No RON extension named " ++ toldName e
  | comma => "Expected comma"
  | colon => "Expected colon"
  | option => "Expected option"
  | optionEnd => "Expected closing \x60)\x60"
  | name => "Expected identifier"
  | rawName s =>
    "Found invalid std identifier \x60" ++ s ++ "\x60, try the raw identifier \x60r#" ++ s ++
      "\x60 instead"
  | text => "Expected string"
  | textEnd => "Expected end of string"
  | character => "Expected char"
  | escape reason => reason
  | float => "Expected float"
  | floatUnderscore => "Unexpected underscore in float"
  | unclosedComment => "Unclosed block comment"
  | unexpected c => "Unexpected byte " ++ Text.quotedAlone c
  | tooDeep =>
    "Exceeded recursion limit, try increasing the limit and using \x60serde_stacker\x60 to " ++
      "protect against a stack overflow"
  | key found => "Expected a string but found " ++ found ++ " instead"
  | trailing => "Non-whitespace trailing characters"

/-- Where the reader stands. Lines and columns are counted from one, columns in bytes. -/
structure Cursor where
  rest : List Char
  line : Nat
  column : Nat

structure Fault where
  problem : Problem
  place : Option (Nat × Nat)
deriving DecidableEq, Repr

def Fault.message (f : Fault) : String :=
  (f.place.elim "" fun p => toString p.1 ++ ":" ++ toString p.2 ++ ": ") ++ f.problem.message

namespace Cursor

def behind (c : Cursor) (d : Char) (rest : List Char) : Cursor :=
  if d = '\n' then ⟨rest, c.line + 1, 1⟩ else ⟨rest, c.line, c.column + d.utf8Size⟩

def skip (c : Cursor) : Nat → Cursor
  | 0 => c
  | n + 1 =>
    match c.rest with
    | [] => c
    | d :: rest => (c.behind d rest).skip n

end Cursor

abbrev Reader := StateT Cursor (Except Fault)

namespace Reader

def fail {α : Type} (p : Problem) : Reader α := fun c => .error ⟨p, some (c.line, c.column)⟩

def rest : Reader (List Char) := fun c => .ok (c.rest, c)

def skip (n : Nat) : Reader Unit := fun c => .ok ((), c.skip n)

def peek : Reader Char := do
  match (← rest).head? with
  | some c => return c
  | none => fail .endOfText

def take : Reader Char := do
  let c ← peek
  skip 1
  return c

def consume (s : String) : Reader Bool := do
  if s.toList.isPrefixOf (← rest) then
    skip s.length
    return true
  else return false

def ahead {α : Type} (r : Reader α) : Reader α := fun c =>
  match r c with
  | .ok (a, _) => .ok (a, c)
  | .error fault => .error { fault with place := some (c.line, c.column) }

def attempt {α : Type} (r : Reader α) : Reader (Option α) := fun c =>
  match r c with
  | .ok (a, c) => .ok (some a, c)
  | .error _ => .ok (none, c)

def leadByte (c : Char) : Char :=
  let n := c.toNat
  Char.ofNat (
    if n < 0x80 then n
    else if n < 0x800 then 0xC0 + n / 0x40
    else if n < 0x10000 then 0xE0 + n / 0x1000
    else 0xF0 + n / 0x40000)

/-! Blanks and comments -/

def isBlank (c : Char) : Bool := c == ' ' || c == '\n' || c == '\t' || c == '\r'

def blockComment : Nat → Nat → Reader Unit
  | 0, _ => fail .unclosedComment
  | n + 1, level => do
    if level = 0 then return ()
    else if ← consume "/*" then blockComment n (level + 1)
    else if ← consume "*/" then blockComment n (level - 1)
    else if (← rest) = [] then fail .unclosedComment
    else
      skip 1
      blockComment n level

def comment : Reader Unit := do
  let c ← take
  let cs ← rest
  if c = '/' then skip (cs.takeWhile (· != '\n')).length
  else if c = '*' then blockComment (cs.length + 2) 1
  else fail (.unexpected (leadByte c))

def blanksUpTo : Nat → Reader Unit
  | 0 => return ()
  | n + 1 => do
    skip ((← rest).takeWhile isBlank).length
    if ← consume "/" then
      comment
      blanksUpTo n

def blanks : Reader Unit := do blanksUpTo ((← rest).length + 1)

def comma : Reader Bool := do
  blanks
  if ← consume "," then
    blanks
    return true
  else return false

end Reader

end DocSections.Ron
