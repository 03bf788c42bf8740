import DocSections.Command.Run

/-! The program: it takes the files that a run may look at from the machine, runs the command on
them and prints what is left. -/

namespace DocSections

def resolvedNames (path : String) : List String :=
  ((PathText.names path).foldl (fun ns n => if n = ".." then ns.tail else n :: ns) []).reverse

def withDirectory (names : List String) (root : FileTree) : FileTree :=
  match FileTree.walk [root] names with
  | .ok _ => root
  | .error _ => FileTree.put .emptyDirectory names root

/-- Adds the file at a path, or the directory at a path with the files right in it. -/
def addItem (files : Files) (path : String) : IO Files := do
  let place := (← IO.currentDir) / path
  let names := resolvedNames (files.absolute path)
  if ← place.isDir then
    let mut root := withDirectory names files.root
    for entry in ← place.readDir do
      let below := names ++ [entry.fileName]
      if ← entry.path.isDir then root := withDirectory below root
      else root := FileTree.put (.file (← IO.FS.readBinFile entry.path)) below root
    return { files with root }
  else if ← place.pathExists then
    return { files with root := FileTree.put (.file (← IO.FS.readBinFile place)) names files.root }
  else return files

def configPaths (e : Environment) (name : Option String) : List String :=
  (Config.localFiles ++ e.userFile?.toList ++ name.toList).flatMap fun n =>
    n :: (SettingSource.candidates n).map (·.1)

def contentPaths : Command → List String
  | .validate _ _ _ file => [file]
  | _ => []

/-- The files that an invocation needs: those of the configuration, the content, and the catalog
that the configuration or the invocation names. -/
def gatherFiles (i : Invocation) (e : Environment) : IO Files := do
  let here := resolvedNames (← IO.currentDir).toString
  let mut files : Files := ⟨withDirectory here .emptyDirectory, here⟩
  for path in configPaths e i.configFile ++ contentPaths i.command do
    files ← addItem files path
  let configured := (Config.load files e i.configFile).toOption.bind (·.catalogPath)
  for path in (i.catalogPath.or configured).toList do
    files ← addItem files path
  return files

/-- The variable that a setting of the environment spells. -/
def variableOf? (bytes : List UInt8) : Option (String × String) := do
  let cs := (← String.fromUTF8? bytes.toByteArray).toList
  match cs.dropWhile (· != '=') with
  | [] => none
  | _ :: value => some (String.ofList (cs.takeWhile (· != '=')), String.ofList value)

/-- The variables in a block in which each ends with a zero byte. -/
def environmentOf (block : ByteArray) : Environment :=
  (Text.split 0 block.toList).filterMap variableOf?

def readEnvironment : IO Environment := do
  try return environmentOf (← IO.FS.readBinFile "/proc/self/environ")
  catch _ => return []

def runMain (args : List String) : IO RunResult := do
  let e ← readEnvironment
  match Invocation.ofArguments args with
  | .ok i => return runProgram args (← gatherFiles i e) e
  | .error _ => return runProgram args ⟨.emptyDirectory, []⟩ e

end DocSections

def main (args : List String) : IO UInt32 := do
  let r ← DocSections.runMain args
  IO.print r.output
  IO.eprint r.errors
  return r.code
