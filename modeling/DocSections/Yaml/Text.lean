import DocSections.Text.Digits
import DocSections.Yaml.Source

/-! The texts of YAML scalars: plain ones, those in quotes, and blocks of lines. Where lines are
folded, a single line break becomes a blank, and of several the first is left out. -/

namespace DocSections.Yaml

/-- A scalar that is being read. Characters are in reverse order; `gap` holds the blanks after them,
and `broken` says whether a line ended there, after which `breaks` lines are empty. -/
structure Folding where
  cursor : Cursor
  chars : List Char
  gap : List Char
  broken : Bool
  breaks : Nat

namespace Folding

def start (c : Cursor) : Folding := ⟨c, [], [], false, 0⟩

def text (f : Folding) : String := String.ofList f.chars.reverse

def closeGap (f : Folding) : Folding :=
  let between :=
    if f.broken then if f.breaks = 0 then [' '] else List.replicate f.breaks '\n' else f.gap
  ⟨f.cursor, between ++ f.chars, [], false, 0⟩

def push (f : Folding) : Folding :=
  { f with cursor := f.cursor.skip 1, chars := f.cursor.char :: f.chars }

/-- Goes over a blank, which counts only before the end of a line. -/
def skipBlank (f : Folding) : Folding :=
  { f with
    cursor := f.cursor.skip 1
    gap := if f.broken then f.gap else f.cursor.char :: f.gap }

def skipBreak (f : Folding) : Folding :=
  { f with
    cursor := f.cursor.skipBreak
    gap := []
    broken := true
    breaks := if f.broken then f.breaks + 1 else f.breaks }

end Folding

/-! Plain scalars -/

def Cursor.continuesPlain (c : Cursor) (inFlow : Bool) : Bool :=
  let d := c.char
  let next := c.charAt 1
  if partsWords d then false
  else if d = ':' && (partsWords next || (inFlow && isFlowMark next)) then false
  else !(inFlow && isFlowMark d)

def plainGap (start : Cursor) (indent : Int) (f : Folding) : Except Fault (Option Folding) := do
  let d := f.cursor.char
  if isBreak d then .ok (some f.skipBreak)
  else if !isBlank d then .ok none
  else if f.broken && d == '\t' && (f.cursor.column : Int) < indent then
    let c ← f.cursor.skipToLineEnd
    if endsLine c.char then .ok (some { f with cursor := c })
    else start.fault "while scanning a plain scalar, found a tab"
  else .ok (some f.skipBlank)

/-- Reads a word of a plain scalar and the gap behind it, both of limited length; the flag says that
the scalar goes on. -/
def plainStep (start : Cursor) (indent : Int) (inFlow : Bool) (limit : Nat) :
    Folding × Bool → Except Fault (Option (Folding × Bool))
  | (_, false) => .ok none
  | (f, true) => do
    let d := f.cursor.char
    if f.cursor.atDocument || d == '#' then .ok none
    else if inFlow && d == '-' && isFlowMark (f.cursor.charAt 1) then
      f.cursor.fault "plain scalar cannot start with '-' followed by ,[]\x7b\x7d"
    else
      let word ←
        if f.cursor.continuesPlain inFlow then
          steps (fun (f : Folding) =>
            .ok (if f.cursor.continuesPlain inFlow then some f.push else none)) limit f.closeGap
        else .ok f
      if isBlank word.cursor.char || isBreak word.cursor.char then
        let f ← steps (plainGap start indent) limit word
        .ok (some (f, inFlow || indent ≤ f.cursor.column))
      else .ok (some (word, false))

/-- Reads a plain scalar that is indented to a column; the flag says whether a line ended after
it. -/
def Cursor.plain (c : Cursor) (indent : Int) (inFlow : Bool) :
    Except Fault (Cursor × String × Bool) := do
  let limit := c.rest.length + 1
  let (f, _) ← steps (plainStep c indent inFlow limit) limit (.start c, true)
  .ok (f.cursor, f.text, f.broken)

/-! Scalars in quotes -/

def unescape? (c : Char) : Option Char :=
  [('0', Char.ofNat 0), ('a', Char.ofNat 7), ('b', Char.ofNat 8), ('t', '\t'), ('\t', '\t'),
    ('n', '\n'), ('v', Char.ofNat 11), ('f', Char.ofNat 12), ('r', '\r'), ('e', Char.ofNat 27),
    (' ', ' '), ('"', '"'), ('/', '/'), ('\\', '\\'), ('N', Char.ofNat 0x85),
    ('_', Char.ofNat 0xA0), ('L', Char.ofNat 0x2028), ('P', Char.ofNat 0x2029)].lookup c

def escapeLength? (c : Char) : Option Nat := [('x', 2), ('u', 4), ('U', 8)].lookup c

def escape (start : Cursor) (f : Folding) : Except Fault Folding :=
  let letter := f.cursor.charAt 1
  match escapeLength? letter, unescape? letter with
  | some n, _ =>
    let digits := (f.cursor.rest.drop 2).take n
    let value := Text.numberOf 16 (digits.map Text.digitValue)
    if digits.length < n ∨ ¬ digits.all (Text.isDigitOf 16) then
      start.fault "while parsing a quoted scalar, did not find expected hexadecimal number"
    else if value.isValidChar then
      .ok { f with cursor := f.cursor.skip (n + 2), chars := Char.ofNat value :: f.chars }
    else
      start.fault "while parsing a quoted scalar, found invalid Unicode character escape code"
  | none, some d => .ok { f with cursor := f.cursor.skip 2, chars := d :: f.chars }
  | none, none =>
    start.fault "while parsing a quoted scalar, found unknown escape character"

/-- Reads characters up to a blank, the end of a line or the closing quote. The flag says that the
end of the line was escaped: nothing stands in its place then. -/
def quotedStep (start : Cursor) (quote : Char) :
    Folding × Bool → Except Fault (Option (Folding × Bool))
  | (_, true) => .ok none
  | (f, false) =>
    let d := f.cursor.char
    let next := f.cursor.charAt 1
    if partsWords d then .ok none
    else if d = quote then
      if quote = '\x27' ∧ next = quote then
        .ok (some ({ f with cursor := f.cursor.skip 2, chars := quote :: f.chars }, false))
      else .ok none
    else if d = '\\' ∧ quote = '"' then
      if isBreak next then .ok (some ({ f with cursor := (f.cursor.skip 1).skipBreak }, true))
      else (escape start f).map fun f => some (f, false)
    else .ok (some (f.push, false))

def quotedGap (indent : Int) (escaped : Bool) (f : Folding) : Except Fault (Option Folding) :=
  let d := f.cursor.char
  if isBreak d then .ok (some f.skipBreak)
  else if !isBlank d then .ok none
  else if (f.broken || escaped) && d == '\t' && (f.cursor.column : Int) < indent then
    f.cursor.fault "tab cannot be used as indentation"
  else .ok (some f.skipBlank)

/-- What stands in the place of a gap after an escaped end of a line: the empty lines. -/
def closeEscapedGap (f : Folding) : Folding :=
  let empty := if f.broken then f.breaks + 1 else 0
  ⟨f.cursor, List.replicate empty '\n' ++ f.chars, [], false, 0⟩

/-- Reads a part of a scalar in quotes up to the next word, of limited length; the flag says that
the scalar goes on. -/
def quotedPart (start : Cursor) (indent : Int) (quote : Char) (limit : Nat) :
    Folding × Bool → Except Fault (Option (Folding × Bool))
  | (_, false) => .ok none
  | (f, true) => do
    if f.cursor.atDocument then
      start.fault "while scanning a quoted scalar, found unexpected document indicator"
    else if isEnd f.cursor.char then
      start.fault "while scanning a quoted scalar, found unexpected end of stream"
    else if (f.cursor.column : Int) < indent then
      start.fault "invalid indentation in quoted scalar"
    else
      let (f, escaped) ← steps (quotedStep start quote) limit (f, false)
      if f.cursor.char = quote then .ok (some (f, false))
      else
        let f ← steps (quotedGap indent escaped) limit f
        .ok (some (if escaped then closeEscapedGap f else f.closeGap, true))

def Cursor.quoted (c : Cursor) (indent : Int) (inFlow : Bool) :
    Except Fault (Cursor × String) := do
  let quote := c.char
  let limit := c.rest.length + 1
  let (f, _) ← steps (quotedPart c indent quote limit) limit (.start (c.skip 1), true)
  let after ← (f.cursor.skip 1).skipToLineEnd
  let d := after.char
  if endsLine d || (inFlow && (d == ':' || ",\x7d]".toList.contains d)) ||
      (d == ':' && !inFlow && c.mark.line == after.mark.line) then
    .ok (after, f.text)
  else after.fault "invalid trailing content after double-quoted scalar"

/-! Blocks of lines -/

inductive Chomping where
  | strip
  | clip
  | keep
deriving DecidableEq, Repr

def chompingOf? (c : Char) : Option Chomping := [('+', Chomping.keep), ('-', .strip)].lookup c

def indentation? (start c : Cursor) : Except Fault (Option (Nat × Cursor)) :=
  if c.char = '0' then
    start.fault "while scanning a block scalar, found an indentation indicator equal to 0"
  else if c.char.isDigit then .ok (some (Text.digitValue c.char, c.skip 1))
  else .ok none

def blockHeader (start c : Cursor) : Except Fault (Chomping × Nat × Cursor) := do
  match chompingOf? c.char with
  | some chomping =>
    match ← indentation? start (c.skip 1) with
    | some (n, c) => .ok (chomping, n, c)
    | none => .ok (chomping, 0, c.skip 1)
  | none =>
    match ← indentation? start c with
    | some (n, c) =>
      match chompingOf? c.char with
      | some chomping => .ok (chomping, n, c.skip 1)
      | none => .ok (.clip, n, c)
    | none => .ok (.clip, 0, c)

def Cursor.skipIndent (c : Cursor) (column : Nat) : Cursor :=
  c.skip (min (c.rest.takeWhile (· == ' ')).length (column - c.column))

def skipEmptyLines (column : Nat) : Nat → Cursor × Nat → Cursor × Nat
  | 0, r => r
  | n + 1, (c, count) =>
    let c := c.skipIndent column
    if isBreak c.char then skipEmptyLines column n (c.skipBreak, count + 1) else (c, count)

def skipFirstLines : Nat → Cursor × Nat × Nat → Cursor × Nat × Nat
  | 0, r => r
  | n + 1, (c, count, greatest) =>
    let c := c.skip (c.rest.takeWhile (· == ' ')).length
    let greatest := max greatest c.column
    if isBreak c.char then skipFirstLines n (c.skipBreak, count + 1, greatest)
    else (c, count, greatest)

/-- A block of lines that is being read. `ended` says that the last line has ended, `empty` counts
the empty lines after it, and `blank` says that it began with a blank. -/
structure Block where
  cursor : Cursor
  chars : List Char
  ended : Bool
  empty : Nat
  blank : Bool

/-- Reads a line of a block. Lines are only folded between two that begin with no blank. -/
def blockLine (literal : Bool) (column : Nat) (b : Block) : Except Fault (Option Block) :=
  let c := b.cursor
  if c.column ≠ column || isEnd c.char || (column = 0 && c.atIndicator '.') then .ok none
  else
    let blank := isBlank c.char
    let breaks :=
      if !literal && b.ended && !b.blank && !blank then
        if b.empty = 0 then [' '] else List.replicate b.empty '\n'
      else List.replicate (b.empty + if b.ended then 1 else 0) '\n'
    let line := c.rest.takeWhile fun d => !endsLine d
    let chars := line.reverse ++ breaks ++ b.chars
    let c := c.skip line.length
    if isEnd c.char then .ok (some ⟨c, chars, false, 0, blank⟩)
    else
      let (c, empty) := skipEmptyLines column c.rest.length (c.skipBreak, 0)
      .ok (some ⟨c, chars, true, empty, blank⟩)

def emptyBlock (chomping : Chomping) (sameLine : Bool) (broken : Bool) (empty : Nat) : String :=
  let one := if broken then "\n" else ""
  match chomping with
  | .strip => ""
  | .clip => if sameLine then "" else one
  | .keep =>
    if sameLine then "" else if empty = 0 then one else String.ofList (List.replicate empty '\n')

def Cursor.block (c : Cursor) (indent : Int) : Except Fault (Cursor × String) := do
  let literal := c.char = '|'
  let (chomping, told, h) ← blockHeader c (c.skip 1)
  let h ← h.skipToLineEnd
  if !endsLine h.char then
    c.fault "while scanning a block scalar, did not find expected comment or line break"
  else
    let first := h.skipBreak
    if first.char = '\t' then c.fault "a block scalar content cannot start with a tab"
    else
      let limit := first.rest.length + 1
      let (d, empty, column) :=
        if told = 0 then
          let (d, empty, greatest) := skipFirstLines limit (first, 0, 0)
          let least := max greatest (indent + 1).toNat
          (d, empty, if 0 < indent then max least 1 else least)
        else
          let column := (max indent 0).toNat + told
          let (d, empty) := skipEmptyLines column limit (first, 0)
          (d, empty, column)
      if isEnd d.char then
        .ok (d, emptyBlock chomping (d.mark.line == c.mark.line) (isBreak h.char) empty)
      else if d.column < column && indent < d.column then
        d.fault "wrongly indented line in block scalar"
      else
        let b ← steps (blockLine literal column) limit ⟨d, [], false, empty, false⟩
        let last := if chomping = .strip then [] else
          (if b.ended then ['\n'] else []) ++
            (if isEnd b.cursor.char && max column 1 ≤ b.cursor.column then ['\n'] else [])
        let kept := if chomping = .keep then List.replicate b.empty '\n' else []
        .ok (b.cursor, String.ofList (b.chars.reverse ++ last ++ kept))

end DocSections.Yaml
