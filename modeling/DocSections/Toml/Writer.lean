import DocSections.Text.Digits

/-! Writing TOML texts. A text is written in the plainest of several forms in which it can stand. -/

namespace DocSections.Toml

def isControl (c : Char) : Bool := c.toNat < 0x20 || c.toNat == 0x7F

/-- Whether the characters hold three times `q` in a row; `before` counts those right before. -/
def hasThree (q : Char) : Nat → List Char → Bool
  | _, [] => false
  | before, c :: rest =>
    if c = q then (2 ≤ before) || hasThree q (before + 1) rest else hasThree q 0 rest

def escape (c : Char) : List Char :=
  if c.toNat = 0x08 then ['\\', 'b']
  else if c = '\t' then ['\\', 't']
  else if c = '\n' then ['\\', 'n']
  else if c.toNat = 0x0C then ['\\', 'f']
  else if c = '\r' then ['\\', 'r']
  else if c = '"' then ['\\', '"']
  else if c = '\\' then ['\\', '\\']
  else if isControl c then
    ['\\', 'u', '0', '0', (Text.hexDigit (c.toNat / 16)).toUpper,
      (Text.hexDigit (c.toNat % 16)).toUpper]
  else [c]

/-- How characters are written between triple double quotes: line feeds stand for themselves, and so
do quotes except the last of three in a row. `before` counts the quotes right before. -/
def escapeLines : Nat → List Char → List Char
  | _, [] => []
  | before, c :: rest =>
    if c = '\n' then c :: escapeLines 0 rest
    else if c = '"' then
      if before < 2 then c :: escapeLines (before + 1) rest
      else '\\' :: '"' :: escapeLines 0 rest
    else escape c ++ escapeLines 0 rest

inductive TextForm where
  | basic
  | literal
  | basicLines
  | literalLines
deriving DecidableEq, Repr

def formOf (cs : List Char) : TextForm :=
  let lines := cs.contains '\n'
  let control := cs.any fun c => isControl c && c != '\t' && c != '\n'
  if control then if lines then .basicLines else .basic
  else if !cs.contains '\\' && !cs.contains '"' && !lines then .basic
  else if !cs.contains '\x27' && !lines then .literal
  else if !cs.contains '\\' && !hasThree '"' 0 cs then .basicLines
  else if !hasThree '\x27' 0 cs then .literalLines
  else if lines then .basicLines
  else .basic

def enclose (delimiter body : List Char) : List Char :=
  delimiter ++ (if delimiter.length = 3 ∧ body.contains '\n' then ['\n'] else []) ++ body ++
    delimiter

def quotedChars (cs : List Char) : List Char :=
  match formOf cs with
  | .basic => enclose ['"'] (cs.flatMap escape)
  | .literal => enclose ['\x27'] cs
  | .basicLines => enclose ['"', '"', '"'] (escapeLines 0 cs)
  | .literalLines => enclose ['\x27', '\x27', '\x27'] cs

def quoted (s : String) : String := String.ofList (quotedChars s.toList)

end DocSections.Toml
