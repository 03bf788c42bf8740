import DocSections.Catalog.Basic
import DocSections.Catalog.FileName
import DocSections.Json.Reader

/-! Loading catalogs: one JSON document for each family, in a directory of files that are named
after their families. -/

namespace DocSections

inductive FamilyFileFault where
  | naming
  | notAFamily (line : Nat)
  | numberMismatch (number id : UInt32)
  | unreachable (fault : PathFault)
deriving DecidableEq, Repr

inductive LoadFault where
  | invalidFile (path : String) (fault : FamilyFileFault)
  | unreadable (fault : PathFault)
  | unsound (fault : StructureFault)
deriving DecidableEq, Repr

/-- The line on which the first character stands that is no white space. -/
def firstLine (text : String) : Nat := (text.toList.takeWhile Text.isBlank).count '\n' + 1

def FamilyFileFault.reason (path : String) : FamilyFileFault → String
  | naming => "expected a name of the form \x7bfamilyNumber\x7d-\x7bfamily-slug\x7d.json"
  | notAFamily line => "no family document: the text that begins at line " ++ toString line
  | numberMismatch number id =>
    "file number " ++ toString number.toNat ++ " does not match family id " ++ toString id.toNat
  | unreachable fault => "IO error for operation on " ++ path ++ ": " ++ fault.message

namespace LoadFault

def message : LoadFault → String
  | invalidFile path fault => "Invalid catalog file " ++ path ++ ": " ++ fault.reason path
  | unreadable fault => "IO error: " ++ fault.message
  | unsound fault => fault.message

def fullMessage : LoadFault → String
  | unreadable fault => (unreadable fault).message ++ ": " ++ fault.message
  | fault => fault.message

end LoadFault

def Family.ofText? (text : String) : Option Family :=
  (Source.ofText? text).bind Family.ofSource?

/-- Reads a family document and checks it against the name of its file: first the name, then the
text, then whether the numbers agree. -/
def parseFamilyFile (path text : String) : Except LoadFault Family :=
  match (PathText.fileName? path).bind FamilyFileName.familyNumber? with
  | none => .error (.invalidFile path .naming)
  | some number =>
    match Family.ofText? text with
    | none => .error (.invalidFile path (.notAFamily (firstLine text)))
    | some family =>
      if family.id = number then .ok family
      else .error (.invalidFile path (.numberMismatch number family.id))

namespace Catalog

/-- Reads an entry of a catalog directory. Directories, and files with another extension than
`json`, are passed over. -/
def readEntry (directory name : String) (item : FileTree) : Except LoadFault (Option Family) :=
  match item with
  | .directory _ => .ok none
  | .file bytes =>
    if PathText.extension? name = some "json" then
      match Files.textOf bytes with
      | .error fault => .error (.unreadable fault)
      | .ok text => (parseFamilyFile (PathText.join directory name) text).map some
    else .ok none

def readEntries (directory : String) : List (String × FileTree) → Except LoadFault (List Family)
  | [] => .ok []
  | (name, item) :: rest => do
    let family ← readEntry directory name item
    let families ← readEntries directory rest
    .ok (family.toList ++ families)

/-- The catalog of a directory called `directory` with the given entries. All files are read before
any family is checked. -/
def ofEntries (directory : String) (entries : List (String × FileTree)) :
    Except LoadFault Catalog := do
  let families ← readEntries directory (Assoc.ofPairs entries)
  match ofFamilies families with
  | .ok c => .ok c
  | .error fault => .error (.unsound fault)

/-- The catalog of the directory at a path; a file at that path holds no entries. -/
def ofDirectory (files : Files) (path : String) : Except LoadFault Catalog :=
  match files.lookup path with
  | .error fault => .error (.invalidFile path (.unreachable fault))
  | .ok (.file _) => ofEntries path []
  | .ok (.directory entries) => ofEntries path entries

end Catalog

end DocSections
