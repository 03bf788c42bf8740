import DocSections.OrderedMap
import DocSections.Ron.Lexeme

/-! Reading RON texts. Names of records are not kept, and a name alone says nothing. Attributes
before the value turn on extensions. -/

namespace DocSections.Ron

/-- A value. A character counts as a text, but not where keys are put in order. -/
inductive Node where
  | scalar (value : Setting)
  | character (c : Char)
  | option (value : Node)
  | list (items : List Node)
  | map (entries : List (Node × Node))

namespace Node

def found : Node → String
  | scalar s => s.described
  | character c => "character " ++ Text.quotedAlone c
  | option _ => "Option value"
  | list _ => "sequence"
  | map _ => "map"

def key : Node → Except Fault String
  | scalar (.scalar (.text s) _) => .ok s
  | character c => .ok c.toString
  | node => .error ⟨.key node.found, none⟩

def rank : Node → Nat
  | scalar (.scalar (.bool _) _) => 0
  | character _ => 1
  | map _ => 2
  | scalar (.scalar (.int _) _) => 3
  | scalar (.scalar (.float _) _) => 3
  | option _ => 4
  | scalar (.scalar (.text _) _) => 5
  | list _ => 6
  | scalar _ => 7

mutual

def setting : Node → Except Fault Setting
  | scalar s => .ok s
  | character c => .ok (.text c.toString)
  | option value => value.setting
  | list items => do .ok (.list (← settings items))
  | map entries => do
    let entries := (← settingEntries entries).mergeSort fun a b => a.1 ≤ b.1
    .ok (.table (Assoc.ofPairs (entries.map Prod.snd)))

def settings : List Node → Except Fault (List Setting)
  | [] => .ok []
  | item :: rest => do .ok ((← item.setting) :: (← settings rest))

def settingEntries : List (Node × Node) → Except Fault (List (Nat × String × Setting))
  | [] => .ok []
  | (key, value) :: rest => do
    .ok ((key.rank, ← key.key, ← value.setting) :: (← settingEntries rest))

end

end Node

structure Extensions where
  /-- Whether a value may stand for an option that holds it. -/
  implicitSome : Bool
  /-- Whether the parentheses of an option are those of the tuple or record in it. -/
  unwrapsVariants : Bool

namespace Reader

/-! Attributes -/

def extensionNames : List String := ["unwrap_newtypes", "implicit_some", "unwrap_variant_newtypes"]

def extensions : Nat → Reader (List String)
  | 0 => return []
  | n + 1 => do
    let e ← name
    if !extensionNames.contains e then fail (.extension e)
    else
      let hasComma ← comma
      let more := (← rest).head?.any continuesName
      if !hasComma && more then fail .comma
      else if more then return e :: (← extensions n)
      else return [e]

def consumeAll : List String → Reader Bool
  | [] => return true
  | s :: texts => do
    let found ← consume s
    if found then blanks
    let others ← consumeAll texts
    return found && others

def attributes : Nat → Reader (List String)
  | 0 => return []
  | n + 1 => do
    if (← rest).head? ≠ some '#' then return []
    else if !(← consumeAll ["#", "!", "[", "enable", "("]) then fail .noAttribute
    else
      let names ← extensions ((← rest).length + 1)
      blanks
      if !(← consumeAll [")", "]"]) then fail .openAttribute
      else
        blanks
        return names ++ (← attributes n)

/-! Values -/

/-- Takes items up to a closing mark, between which there are commas; `separated` says that one may
come now. -/
def items {α : Type} (closes : Char) (item : Reader α) : Nat → Bool → Reader (List α)
  | 0, _ => fail .endOfText
  | n + 1, separated => do
    blanks
    if (← peek) = closes then return []
    else if !separated then fail .comma
    else
      let a ← item
      let hasComma ← comma
      return a :: (← items closes item n hasComma)

def closed {α : Type} (closes : Char) (item : Reader α) : Reader (List α) := do
  let found ← items closes item ((← rest).length + 1) true
  skip 1
  return found

def entry (key value : Reader Node) : Reader (Node × Node) := do
  let k ← key
  blanks
  if ← consume ":" then
    blanks
    return (k, ← value)
  else fail .colon

def atTuple : Reader Bool := ahead do
  match ← attempt name with
  | none => return true
  | some _ =>
    blanks
    return (← take) != ':'

/-- Takes a tuple or a record after its opening parenthesis; all that stands in it is deeper. -/
def tupleOrRecord (isTuple : Bool) (inner : Reader Node) (fieldName : Reader Node)
    (mark : Bool) : Reader Node := do
  let length := (← rest).length + 1
  let node ← if isTuple then Node.list <$> items ')' inner length true
    else Node.map <$> items ')' (entry fieldName inner) length true
  if mark then skip 1
  return node

/-- Takes what follows a name or begins with a parenthesis: a tuple, a record or nothing. -/
def afterName (inner fieldName : Reader Node) : Reader Node := do
  let isTuple ← ahead do
    if ← consume "(" then
      blanks
      return some (← atTuple)
    else return none
  match isTuple with
  | none => return .scalar .unset
  | some isTuple =>
    skip 1
    tupleOrRecord isTuple inner fieldName true

def option (e : Extensions) (inner unwrapped : Reader Node) : Reader Node := do
  skip "Some".length
  blanks
  if ← consume "(" then
    blanks
    let value ← if e.unwrapsVariants then unwrapped else inner
    discard comma
    if ← consume ")" then return .option value else fail .optionEnd
  else if e.implicitSome then return .option (← inner)
  else fail .option

def keywords : List (String × Setting) :=
  [("None", .unset), ("inf", .float (.infinite false)), ("NaN", .float .notANumber)]

def markedValue (inner fieldName : Reader Node) : Reader Node := do
  let c ← peek
  if c = '(' then afterName inner fieldName
  else if c = '[' then
    skip 1
    return .list (← closed ']' inner)
  else if c.toNat = 0x7B then
    skip 1
    return .map (← closed '\x7d' (entry inner inner))
  else if c.isDigit || isSign c then return .scalar (← number)
  else if c = '.' then return .scalar (.float (← float))
  else if c = '"' ∨ c = 'r' then return .scalar (.text (← text))
  else if c = '\x27' then return .character (← character)
  else fail (.unexpected (leadByte c))

/-- Takes a value; what stands in it is taken by `inner`, and a name of a field by `fieldName`. -/
def valueOf (e : Extensions) (inner unwrapped fieldName : Reader Node) : Reader Node := do
  match ← word? [("true", true), ("false", false)] with
  | some b => return .scalar (.bool b)
  | none =>
    if ← atName "Some" then option e inner unwrapped
    else
      match ← word? (keywords.take 1) with
      | some s => return .scalar s
      | none =>
        if ← consume "()" then return .scalar .unset
        else
          match ← word? (keywords.drop 1) with
          | some s => return .scalar s
          | none =>
            match ← attempt name with
            | some _ =>
              blanks
              afterName inner fieldName
            | none => markedValue inner fieldName

structure Deeper where
  value : Reader Node
  unwrapped : Reader Node
  fieldName : Reader Node

/-- What may stand at a depth, of which so many more are left. -/
def deeper (e : Extensions) : Nat → Deeper
  | 0 => ⟨fail .tooDeep, fail .tooDeep, fail .tooDeep⟩
  | n + 1 =>
    let d := deeper e n
    ⟨valueOf e d.value d.unwrapped d.fieldName,
      do tupleOrRecord (← atTuple) d.value d.fieldName false,
      do return .scalar (.text (← name))⟩

def depthLimit : Nat := 128

def document : Reader Node := do
  blanks
  let names ← attributes ((← rest).length + 1)
  let e : Extensions :=
    ⟨names.contains "implicit_some", names.contains "unwrap_variant_newtypes"⟩
  let node ← (deeper e (depthLimit + 1)).value
  blanks
  if (← rest) = [] then return node else fail .trailing

end Reader

def ofText (text : String) : Except Fault Setting := do
  (← Reader.document.run' ⟨text.toList, 1, 1⟩).setting

end DocSections.Ron
