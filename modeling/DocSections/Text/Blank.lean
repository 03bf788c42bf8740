import DocSections.Text.Runs

/-! White space: the Unicode property White_Space, and the words and lines of a text. -/

namespace DocSections.Text

def blankRanges : List (Nat × Nat) :=
  [(0x09, 0x0D), (0x20, 0x20), (0x85, 0x85), (0xA0, 0xA0), (0x1680, 0x1680), (0x2000, 0x200A),
   (0x2028, 0x2029), (0x202F, 0x202F), (0x205F, 0x205F), (0x3000, 0x3000)]

def isBlank (c : Char) : Bool := inRanges c.toNat blankRanges

def words (cs : List Char) : List (List Char) := runs (fun c => !isBlank c) cs

def trimStart (cs : List Char) : List Char := cs.dropWhile isBlank

def trimEnd (cs : List Char) : List Char := (cs.reverse.dropWhile isBlank).reverse

def trim (cs : List Char) : List Char := trimEnd (trimStart cs)

/-- A line ends at a line feed, and a carriage return right before it belongs to the end. What
follows the last line feed is a line only if it is not empty. -/
def lines : List Char → List (List Char)
  | [] => []
  | c :: rest =>
    if c = '\n' then [] :: lines rest
    else if c = '\r' ∧ rest.head? = some '\n' then lines rest
    else consFirst c (lines rest)

def unlines (ls : List (List Char)) : List Char := ['\n'].intercalate ls

theorem words_append_blank {c : Char} (h : isBlank c = true) (a b : List Char) :
    words (a ++ c :: b) = words a ++ words b :=
  runs_append_of_not (by simp [h]) a b

end DocSections.Text
