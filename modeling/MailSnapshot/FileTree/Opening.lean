import MailSnapshot.FileTree.Basic

/-! Opening snapshots by their addresses. An address says by its text alone where its file lies: a
name and the two dots after it cancel out, whatever the name stands for. -/

namespace MailSnapshot

namespace Content

/-- A file of one byte or none is a snapshot without tables. -/
def snapshot? : Content → Option Snapshot
  | .snapshot s => some s
  | .bytes [] | .bytes [_] => some .bare
  | .bytes (_ :: _ :: _) => none

end Content

namespace FileTree

/-- The greatest size of an opened file's path, in bytes. -/
def maxOpened : Nat := 504

/-- The greatest size of the path to any place on the way to an opened file, in bytes. -/
def maxPassed : Nat := 511

def pathSize (p : Place) : Nat := (join true p).utf8ByteSize

/-- A name in a place may stand for something, now or later. -/
def mayHold (t : FileTree) (p : Place) (name : String) : Bool :=
  match t.node? p with
  | some .directory => name.utf8ByteSize ≤ maxName
  | some (.file _) => false
  | none => true

/-- The place that the parts of a path spell from another place on. -/
def spell (t : FileTree) (here : Place) : List String → Option Place
  | [] => some here
  | part :: rest =>
    if part = "" ∨ part = "." then t.spell here rest
    else if part = ".." then t.spell here.dropLast rest
    else if t.mayHold here part && pathSize (here ++ [part]) ≤ maxPassed then
      t.spell (here ++ [part]) rest
    else none

/-- The place that a path spells. It is not the top directory. -/
def spelled? (t : FileTree) (path : String) : Option Place := do
  let p ← t.spell (if path.startsWith "/" then [] else t.working) (parts path)
  guard (!p.isEmpty && pathSize p ≤ maxOpened)
  return p

/-- What the name of the journal beside a file adds to the file's name. -/
def journalEnding : String := "-journal"

/-- A file in this place can have a journal beside it. -/
def takesJournal (p : Place) : Bool :=
  ((p.getLast?.getD "") ++ journalEnding).utf8ByteSize ≤ maxName

/-- An address lets a file be made in a place where there is none. -/
def mayMake (t : FileTree) (a : Address) (p : Place) : Bool :=
  a.mode = .create && t.node? p.dropLast = some .directory

/-- An address may name a file whose permissions a new file gets. It must exist. -/
def lacksModel (t : FileTree) (a : Address) : Bool := (a.option? "modeof").any (!t.has ·)

end FileTree

/-- An open snapshot: one in memory, or the content of a file. -/
structure Opened where
  file : Option (Place × Content)
  access : Access
  /-- How others are kept from the file. -/
  lock : Option String
  /-- Where the files of addresses that do not say so are kept from now on. -/
  fileSystem : String
  deriving DecidableEq

namespace Opened

/-- The snapshot in it, unless the file holds something else. One in memory is new. -/
def snapshot? (o : Opened) : Option Snapshot :=
  match o.file with
  | none => some .bare
  | some (_, c) => c.snapshot?

/-- Its first change cannot begin. A file that holds tables had a journal when it was made. -/
def cannotBegin (o : Opened) : Bool :=
  match o.file with
  | some (p, .bytes _) => o.access = .readWrite && !FileTree.takesJournal p
  | _ => false

/-- A place must not be written, with a lock of some kind or none, as long as this is open. -/
def bars (o : Opened) (p : Place) (lock : Option String) : Bool :=
  o.file.any (·.1 = p) && o.lock.isSome && o.lock = lock

end Opened

/-- Opens a snapshot to change it, or with the rights that its address asks for. A file that is
yet to be made is empty. -/
def FileTree.openSnapshot (t : FileTree) (path : String) : Except Fault Opened := do
  let a ← (Address.parse .readWrite path).mapError Fault.address
  let opened (file : Option (Place × Content)) : Opened :=
    ⟨file, a.access, a.lock? Address.disk, a.fileSystem?.getD Address.disk⟩
  if a.isInMemory Address.disk then return opened none
  match t.spelled? a.path with
  | none => throw (.unopenable path)
  | some p =>
    if t.lacksModel a then throw .unreadable
    match t.node? p with
    | some (.file c) => return opened (some (p, c))
    | some .directory =>
      if a.mode = .readOnly then throw .unreadable else throw (.unopenable path)
    | none =>
      if t.mayMake a p then return opened (some (p, .bytes [])) else throw (.unopenable path)

namespace FileOp

def openSnapshot (path : String) : FileOp (Except Fault Opened) := do
  let found ← look (·.openSnapshot path)
  if let .ok ⟨some (p, c), _, _, _⟩ := found then
    if (← look (·.node? p)).isNone then put p (.file c)
  return found

/-- Keeps what has become of an open snapshot. A file without tables stays as it is. -/
def save (o : Opened) (s : Snapshot) : FileOp Unit := do
  if let some (p, .snapshot _) := o.file then put p (.file (.snapshot s))

/-- Writes a snapshot into a place that holds none. A file that cannot be written may have been
made before that shows. -/
def writeNew (o : Opened) (s : Snapshot) (destination : Address) (p : Place) :
    FileOp (Option Fault) := do
  if (← look (·.node? p)).isNone then put p (.file (.bytes []))
  if destination.access = .readOnly then return some .notWritable
  if o.bars p (destination.lock? o.fileSystem) then return some .locked
  unless FileTree.takesJournal p do return some .noJournal
  put p (.file (.snapshot s))
  return none

/-- Writes a snapshot to an address; what stands in the way is the answer when it cannot. -/
def writeCopy (o : Opened) (s : Snapshot) (path : String) : FileOp (Option Fault) := do
  let path := String.ofList (path.toList.takeWhile (· ≠ '\x00'))
  match Address.parse .create path with
  | .error fault => return some (.address fault)
  | .ok a =>
    if a.isInMemory o.fileSystem then
      return if a.access = .readOnly then some .notWritable else none
    let t ← get
    match t.spelled? a.path with
    | none => return some (.unattachable path)
    | some p =>
      if t.lacksModel a then return some (.unattachable path)
      match t.node? p with
      | some .directory => return some (.unattachable path)
      | some (.file (.snapshot _)) => return some .outputThere
      | some (.file c) =>
        if c.snapshot?.isSome then writeNew o s a p else return some .notASnapshot
      | none =>
        if t.mayMake a p then writeNew o s a p else return some (.unattachable path)

end FileOp
end MailSnapshot
