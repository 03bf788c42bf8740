import DocSections.OrderedMap
import DocSections.Text.Runs

/-! Directories and files as values, and the paths that lead to them. -/

namespace DocSections

namespace PathText

/-- The names along a path. Empty names and `.` lead nowhere and are left out. -/
def names (path : String) : List String :=
  ((Text.split '/' path.toList).map String.ofList).filter fun n => n != "" && n != "."

/-- The steps that a path takes. A slash at the end stays in the directory before it. -/
def steps (path : String) : List String :=
  let pieces := (Text.split '/' path.toList).map String.ofList
  pieces.filter (· != "") ++ if pieces.getLast? = some "" then ["."] else []

/-- The names from the root to where one more step leads, the innermost first. -/
def stepTo (names : List String) (step : String) : List String :=
  if step = "." then names else if step = ".." then names.tail else step :: names

/-- The names from the root to where steps lead, the innermost first. -/
def place (steps : List String) : List String := steps.foldl stepTo []

def isAbsolute (path : String) : Bool := path.toList.head? == some '/'

def endsInSlash (path : String) : Bool := path.toList.getLast? == some '/'

/-- The last name, if the path ends in one and not in `..`. -/
def fileName? (path : String) : Option String :=
  (names path).getLast?.filter (· != "..")

/-- What follows the last point of a name; a point at the front is part of the name. -/
def extension? (name : String) : Option String :=
  match (Text.split '.' name.toList).reverse with
  | last :: before :: more =>
    if before = [] ∧ more = [] then none else some (String.ofList last)
  | _ => none

/-- The names that lead from one directory to a place, both given by their names from the root. -/
def between : List String → List String → List String
  | [], place => place
  | base, [] => base.map fun _ => ".."
  | b :: base, n :: place =>
    if b = n then between base place else (b :: base).map (fun _ => "..") ++ n :: place

def join (directory name : String) : String :=
  if directory = "" || endsInSlash directory then directory ++ name else directory ++ "/" ++ name

example : fileName? "a/7-x.json/." = some "7-x.json" := by decide +kernel
example : fileName? "7-x.json/.." = none := by decide +kernel
example : extension? ".json" = none := by decide +kernel
example : extension? "a.b.json" = some "json" := by decide +kernel

end PathText

inductive FileTree where
  | file (bytes : ByteArray)
  | directory (entries : List (String × FileTree))

inductive PathFault where
  | notFound
  | notADirectory
  | isADirectory
  | tooLong
  | zeroByte
  | notText
deriving DecidableEq, Repr

def PathFault.message : PathFault → String
  | notFound => "No such file or directory (os error 2)"
  | notADirectory => "Not a directory (os error 20)"
  | isADirectory => "Is a directory (os error 21)"
  | tooLong => "File name too long (os error 36)"
  | zeroByte => "file name contained an unexpected NUL byte"
  | notText => "stream did not contain valid UTF-8"

namespace FileTree

def emptyDirectory : FileTree := directory []

/-- Puts `item` at the place that `names` lead to, making the directories on the way. -/
def put (item : FileTree) : List String → FileTree → FileTree
  | [], _ => item
  | n :: rest, directory entries =>
    directory
      (Assoc.insert n (put item rest ((Assoc.find? n entries).getD emptyDirectory)) entries)
  | n :: rest, file _ => directory [(n, put item rest emptyDirectory)]

def nameLimit : Nat := 255

/-- One step from the innermost of the open directories; `..` goes back to the one around. -/
def enter (trail : List FileTree) (step : String) : Except PathFault (List FileTree) :=
  match trail with
  | [] => .error .notFound
  | file _ :: _ => .error .notADirectory
  | directory entries :: around =>
    if step = "." then .ok (directory entries :: around)
    else if step = ".." then .ok (if around = [] then [directory entries] else around)
    else if nameLimit < step.utf8ByteSize then .error .tooLong
    else
      match Assoc.find? step entries with
      | none => .error .notFound
      | some item => .ok (item :: directory entries :: around)

def walk (trail : List FileTree) (steps : List String) : Except PathFault (List FileTree) :=
  steps.foldlM enter trail

end FileTree

/-- All files, and the names that lead from the root to the working directory. -/
structure Files where
  root : FileTree
  workingDirectory : List String

namespace Files

def pathLimit : Nat := 4096

def base (files : Files) (path : String) : List String :=
  if PathText.isAbsolute path then [] else files.workingDirectory

def pathFault? (path : String) : Option PathFault :=
  if path.toList.contains (Char.ofNat 0) then some .zeroByte
  else if path = "" then some .notFound
  else if pathLimit ≤ path.utf8ByteSize then some .tooLong
  else none

def start (files : Files) (path : String) : Except PathFault (List FileTree) :=
  match pathFault? path with
  | some fault => .error fault
  | none => FileTree.walk [files.root] (files.base path)

def lookup (files : Files) (path : String) : Except PathFault FileTree := do
  match ← FileTree.walk (← files.start path) (PathText.steps path) with
  | item :: _ => .ok item
  | [] => .error .notFound

def read (files : Files) (path : String) : Except PathFault ByteArray := do
  match ← files.lookup path with
  | .file bytes => .ok bytes
  | .directory _ => .error .isADirectory

def textOf (bytes : ByteArray) : Except PathFault String :=
  match String.fromUTF8? bytes with
  | some text => .ok text
  | none => .error .notText

def readText (files : Files) (path : String) : Except PathFault String := do
  textOf (← files.read path)

def isFile (files : Files) (path : String) : Bool := (files.read path).isOk

def absolute (files : Files) (path : String) : String :=
  if PathText.isAbsolute path then path
  else PathText.join ("/" ++ "/".intercalate files.workingDirectory) path

def relative (files : Files) (path : String) : String :=
  let names := PathText.names path
  "/".intercalate
    (if PathText.isAbsolute path then PathText.between files.workingDirectory names else names)

def pathExists (files : Files) (path : String) : Bool := (files.lookup path).isOk

/-- The files after `bytes` were written to a path. The directory that the path leads to has to be
there. A file that is there loses what it held. -/
def write (files : Files) (path : String) (bytes : ByteArray) : Except PathFault Files := do
  let steps :=
    if PathText.endsInSlash path then (PathText.steps path).dropLast else PathText.steps path
  match ← FileTree.walk (← files.start path) steps.dropLast with
  | .directory entries :: _ =>
    let name := steps.getLast?.getD "."
    if PathText.endsInSlash path ∨ name = "." ∨ name = ".." then .error .isADirectory
    else if FileTree.nameLimit < name.utf8ByteSize then .error .tooLong
    else
      match Assoc.find? name entries with
      | some (.directory _) => .error .isADirectory
      | _ =>
        let place := PathText.place (files.base path ++ steps)
        .ok { files with root := FileTree.put (.file bytes) place.reverse files.root }
  | .file _ :: _ => .error .notADirectory
  | [] => .error .notFound

end Files

end DocSections
