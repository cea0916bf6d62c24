import MailSnapshot.Failure
import MailSnapshot.Store.Snapshot
import MailSnapshot.Text.Split

/-! A tree of files and directories, paths into it, and the operations on it. There are no links
and no permissions. -/

namespace MailSnapshot

/-- What a file holds: a snapshot, or any other bytes. -/
inductive Content where
  | snapshot (s : Snapshot)
  | bytes (data : List UInt8)
  deriving DecidableEq

inductive Node where
  | directory
  | file (c : Content)
  deriving DecidableEq

/-- The names from the top directory down. -/
abbrev Place := List String

/-- The nodes below the top directory, and the working directory. -/
structure FileTree where
  working : Place
  nodes : List (Place × Node)
  deriving DecidableEq

namespace FileTree

def node? (t : FileTree) (p : Place) : Option Node :=
  if p = [] then some .directory else (t.nodes.find? (·.1 = p)).map (·.2)

def erase (t : FileTree) (p : Place) : FileTree :=
  { t with nodes := t.nodes.filter (·.1 ≠ p) }

/-- Puts a node in a place, over whatever was there. -/
def put (t : FileTree) (p : Place) (n : Node) : FileTree :=
  { t with nodes := (t.erase p).nodes ++ [(p, n)] }

/-- The parts of a path between its slashes. -/
def parts (path : String) : List String := (Text.splitAt '/' path.toList).map String.ofList

/-- The greatest size of a name, in bytes. -/
def maxName : Nat := 255

/-- The size of a path, in bytes, from which on it is refused. -/
def pathLimit : Nat := 4096

/-- Where a path leads from a directory. The last part may name nothing yet; every part before it
must be a directory. -/
def walk (t : FileTree) (here : Place) : List String → Except FileFault (Place × Option Node)
  | [] => .ok (here, t.node? here)
  | part :: rest =>
    match t.node? here with
    | none => .error .notFound
    | some (.file _) => .error .notADirectory
    | some .directory =>
      if part = "" ∨ part = "." then t.walk here rest
      else if part = ".." then t.walk here.dropLast rest
      else if maxName < part.utf8ByteSize then .error .nameTooLong
      else if (t.node? (here ++ [part])).isSome then t.walk (here ++ [part]) rest
      else if rest.all (·.isEmpty) then .ok (here ++ [part], none)
      else .error .notFound

/-- Where a path leads. A path that starts with a slash starts at the top. -/
def locate (t : FileTree) (path : String) : Except FileFault (Place × Option Node) :=
  if path.toList.contains '\x00' then .error .nulInPath
  else if path.isEmpty then .error .notFound
  else if pathLimit ≤ path.utf8ByteSize then .error .nameTooLong
  else t.walk (if path.front = '/' then [] else t.working) (parts path)

/-- The place and the node of a path that leads to one. -/
def find? (t : FileTree) (path : String) : Option (Place × Node) :=
  match t.locate path with
  | .ok (p, some n) => some (p, n)
  | _ => none

def has (t : FileTree) (path : String) : Bool := (t.find? path).isSome

/-- Both paths lead to one node. -/
def sameFile (t : FileTree) (a b : String) : Bool :=
  match t.find? a, t.find? b with
  | some (p, _), some (q, _) => p = q
  | _, _ => false

def isDirectory (t : FileTree) (path : String) : Bool :=
  (t.find? path).any fun found => found.2 = .directory

/-- A path without blank parts and, but at its start, without dots. -/
def cleanParts (path : String) : List String :=
  let ps := parts path
  (if ps.head? = some "." then ["."] else []) ++ ps.filter fun p => p ≠ "" && p ≠ "."

/-- The path of these parts. -/
def join (absolute : Bool) (ps : List String) : String :=
  (if absolute then "/" else "") ++ String.intercalate "/" ps

end FileTree

/-- A computation on the file tree. A failing one keeps the changes made so far. -/
abbrev FileOp := EStateM Failure FileTree

namespace FileOp
variable {α : Type}

def look (f : FileTree → α) : FileOp α := fun t => .ok (f t) t

def ofExcept : Except Failure α → FileOp α
  | .ok a => return a
  | .error e => throw e

def put (p : Place) (n : Node) : FileOp Unit := modify (·.put p n)

/-- Removes a file; a directory stays. -/
def removeFile (path : String) : FileOp Unit := do
  match ← look (·.locate path) with
  | .error e => throw (.file e)
  | .ok (_, none) => throw (.file .notFound)
  | .ok (_, some .directory) => throw (.file .isADirectory)
  | .ok (p, some (.file _)) => modify (·.erase p)

/-- The bytes of a file as text. A snapshot is not text. -/
def readText (path : String) : FileOp String := do
  match ← look (·.locate path) with
  | .error e => throw (.file e)
  | .ok (_, none) => throw (.file .notFound)
  | .ok (_, some .directory) => throw (.file .isADirectory)
  | .ok (_, some (.file (.snapshot _))) => throw (.file .notText)
  | .ok (_, some (.file (.bytes data))) =>
    match Text.Utf8.decode data with
    | .ok s => return s
    | .error _ => throw (.file .notText)

/-- Makes one directory; what stands in the way is the answer when it cannot. -/
def makeDirectory (path : String) : FileOp (Option FileFault) := do
  match ← look (·.locate path) with
  | .error e => return some e
  | .ok (_, some _) => return some .alreadyThere
  | .ok (p, none) =>
    put p .directory
    return none

/-- Like `makeDirectory`, but content with a directory that is there already. -/
def ensureDirectory (path : String) : FileOp Unit := do
  match ← makeDirectory path with
  | none => return
  | some e => unless ← look (·.isDirectory path) do throw (.file e)

/-- Makes a directory and, when they are missing, the ones above it; the parts of the path come
last first. -/
def makeDirectories (absolute : Bool) : List String → FileOp Unit
  | [] => return
  | part :: above => do
    let path := FileTree.join absolute (part :: above).reverse
    match ← makeDirectory path with
    | none => return
    | some .notFound =>
      makeDirectories absolute above
      ensureDirectory path
    | some e => unless ← look (·.isDirectory path) do throw (.file e)

/-- Makes the directory that a path's last part lies in. -/
def makeParents (path : String) : FileOp Unit :=
  makeDirectories (path.startsWith "/") (FileTree.cleanParts path).reverse.tail

end FileOp
end MailSnapshot
