import MailSnapshot.Command.Program
import MailSnapshot.Store.Document

/-! The program on real files. A snapshot file holds the snapshot's document. -/

namespace MailSnapshot.Main

/-- The paths that a command may look at or change. -/
def paths : Command → List String
  | .scrub snapshot _ | .scope snapshot _ => [snapshot]
  | .exporting request => [request.source, request.output]
  | .scan input _ => input.toList

def decodeContent (data : ByteArray) : Content :=
  let document := (Text.Utf8.decode data.toList).toOption.bind Json.parse
  match document.bind Snapshot.ofDocument? with
  | some s => .snapshot s
  | none => .bytes data.toList

def encodeContent : Content → ByteArray
  | .snapshot s => (s.document.prettyText ++ "\n").toUTF8
  | .bytes data => ⟨data.toArray⟩

/-- The path of a place in the tree. -/
def pathOf (p : Place) : String := FileTree.join true p

/-- What stands in a place. -/
def readNode (p : Place) : IO (Option Node) := do
  let path := (← IO.currentDir) / pathOf p
  if ← path.isDir then return some .directory
  else if ← path.pathExists then
    return some (.file (decodeContent (← IO.FS.readBinFile path)))
  else return none

/-- The nodes that an argument may lead to: it is a path, or the address of one. -/
def meanings (argument : String) : List String :=
  match Address.parse .create argument with
  | .ok a => argument :: a.path :: (a.option? "modeof").toList
  | .error _ => [argument]

/-- Reads the nodes on the way along a path into the tree, also beyond names that stand for
nothing. -/
def readAlong (t : FileTree) (here : Place) : List String → IO FileTree
  | [] => return t
  | part :: rest =>
    if part = "" ∨ part = "." then readAlong t here rest
    else if part = ".." then readAlong t here.dropLast rest
    else do
      let place := here ++ [part]
      match ← readNode place with
      | some n => readAlong (t.put place n) place rest
      | none => readAlong t place rest

def readTree (command : Command) : IO FileTree := do
  let working := FileTree.cleanParts (← IO.currentDir).toString
  let start ← readAlong ⟨working, []⟩ [] working
  ((paths command).flatMap meanings).foldlM (fun t path =>
    readAlong t (if path.startsWith "/" then [] else working) (FileTree.parts path)) start

/-- Makes the files what the tree says; `old` is what they are. -/
def writeTree (old new : FileTree) : IO Unit := do
  for (p, n) in old.nodes do
    if n ≠ .directory ∧ (new.node? p).isNone then IO.FS.removeFile (pathOf p)
  for (p, n) in new.nodes do
    if old.node? p ≠ some n then
      match n with
      | .directory => IO.FS.createDir (pathOf p)
      | .file c => IO.FS.writeBinFile (pathOf p) (encodeContent c)

partial def readAll (input : IO.FS.Stream) (done : ByteArray) : IO ByteArray := do
  let more ← input.read 65536
  if more.isEmpty then return done else readAll input (done ++ more)

def readInput : Command → IO (List UInt8)
  | .scan none _ => return (← readAll (← IO.getStdin) .empty).toList
  | _ => return []

def settingNames : List String :=
  [Settings.presetVariable, Settings.projectsVariable, Settings.logLevelVariable,
    Settings.scrubVariable]

def run (args : List String) : IO UInt32 := do
  let values ← settingNames.mapM fun name => return (name, ← IO.getEnv name)
  let lookup (name : String) : Option String := (values.find? (·.1 = name)).bind (·.2)
  let (stdin, tree) ←
    match Arguments.read args with
    | .ok command => pure (← readInput command, ← readTree command)
    | .error _ => pure ([], ⟨[], []⟩)
  let (outcome, after) := Environment.run ⟨args, lookup, stdin⟩ tree
  writeTree tree after
  (← IO.getStdout).putStr outcome.stdout
  (← IO.getStderr).putStr outcome.stderr
  return outcome.exitCode.toUInt32

end MailSnapshot.Main

def main (args : List String) : IO UInt32 := MailSnapshot.Main.run args
