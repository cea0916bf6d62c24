import MailSnapshot.Number.Numeral
import MailSnapshot.Text.Hex
import MailSnapshot.Text.Lowercase
import MailSnapshot.Text.Split
import MailSnapshot.Text.Utf8

/-! Addresses of snapshots. An address is a path, or it starts with `file:` and holds an authority,
a path with escaped bytes, and options. -/

namespace MailSnapshot

/-- What may be done with an open snapshot. -/
inductive Access where
  | readOnly
  | readWrite
  deriving DecidableEq

namespace Address

/-- What is opened: a snapshot in memory, or a file to read, to change, or to make where none is. -/
inductive Mode where
  | memory
  | readOnly
  | readWrite
  | create
  deriving DecidableEq

namespace Mode

def ofName? : String → Option Mode
  | "memory" => some memory
  | "ro" => some readOnly
  | "rw" => some readWrite
  | "rwc" => some create
  | _ => none

/-- The rights to a file that a mode needs. -/
def rights : Mode → Nat
  | memory => 0
  | readOnly => 1
  | readWrite => 2
  | create => 3

/-- The rights that a later mode may ask for. A snapshot in memory gives none up. -/
def granted : Mode → Nat
  | memory => 3
  | m => m.rights

end Mode

/-- Where files are kept if nobody says so. -/
def disk : String := "unix"

def inMemory : String := "memdb"

/-- Where files may be kept: on the disk, in different ways to lock them, or in memory. -/
def fileSystems : List String := [disk, "unix-none", "unix-dotfile", "unix-excl", inMemory]

inductive Fault where
  | authority (name : String)
  | unknownMode (name : String)
  | refusedMode (name : String)
  | unknownCache (name : String)
  | unknownFileSystem (name : String)
  deriving DecidableEq

namespace Fault

def message : Fault → String
  | authority name => "invalid uri authority: " ++ name
  | unknownMode name => "no such access mode: " ++ name
  | refusedMode name => "access mode not allowed: " ++ name
  | unknownCache name => "no such cache mode: " ++ name
  | unknownFileSystem name => "no such vfs: " ++ name

end Fault
end Address

/-- An address taken apart. -/
structure Address where
  path : String
  options : List (String × String)
  mode : Address.Mode
  deriving DecidableEq

namespace Address

/-- The bytes of a text in which `%` and two hexadecimal digits stand for a byte. -/
def unescape : List Char → List UInt8
  | '%' :: a :: b :: s =>
    match Text.Hex.decode? [a, b] with
    | some bytes => bytes ++ unescape s
    | none => 0x25 :: unescape (a :: b :: s)
  | c :: s => Text.Utf8.encode (String.singleton c) ++ unescape s
  | [] => []

/-- One part of an address. A zero byte ends it. -/
def partOf (s : List Char) : String := Text.Utf8.decodeLossy ((unescape s).takeWhile (· ≠ 0))

/-- The text before the first mark, and what follows the mark. -/
def cut (mark : Char) (s : List Char) : List Char × List Char :=
  let (before, rest) := s.span (· ≠ mark)
  (before, rest.drop 1)

/-- Name and value of an option; either may be empty. -/
def optionOf (s : List Char) : String × String :=
  let (name, value) := cut '=' s
  (partOf name, partOf value)

/-- Without its authority, which must be this machine. -/
def dropAuthority : List Char → Except Fault (List Char)
  | '/' :: '/' :: s =>
    let (authority, rest) := s.span (· ≠ '/')
    let name := String.ofList authority
    if name = "" ∨ name = "localhost" then .ok rest else .error (.authority name)
  | s => .ok s

/-- Path and options. Text after a `#` is passed over, and so are options without a name. -/
def split (s : List Char) : String × List (String × String) :=
  let (path, options) := cut '?' (cut '#' s).1
  (partOf path, ((Text.splitAt '&' options).map optionOf).filter (·.1 ≠ ""))

/-- The mode after one more option. -/
def applyOption (mode : Mode) : String × String → Except Fault Mode
  | ("mode", name) =>
    match Mode.ofName? name with
    | none => .error (.unknownMode name)
    | some m => if m.rights ≤ mode.granted then .ok m else .error (.refusedMode name)
  | ("cache", name) =>
    if name = "shared" ∨ name = "private" then .ok mode else .error (.unknownCache name)
  | _ => .ok mode

/-- The value of the first option with a name. -/
def option? (a : Address) (name : String) : Option String :=
  (a.options.find? (·.1 = name)).map (·.2)

/-- Where the last option says that the file is kept. -/
def fileSystem? (a : Address) : Option String :=
  (a.options.reverse.find? (·.1 = "vfs")).map (·.2)

def checkFileSystem (a : Address) : Except Fault Unit :=
  match a.fileSystem? with
  | none => .ok ()
  | some name => if fileSystems.contains name then .ok () else .error (.unknownFileSystem name)

/-- Takes an address apart that is to be opened in a mode, unless it asks for another one. -/
def parse (mode : Mode) (text : String) : Except Fault Address :=
  match text.toList with
  | 'f' :: 'i' :: 'l' :: 'e' :: ':' :: rest => do
    let (path, options) := split (← dropAuthority rest)
    let address : Address := ⟨path, options, ← options.foldlM applyOption mode⟩
    address.checkFileSystem
    return address
  | _ => .ok ⟨text, [], mode⟩

/-- A word or a number that says yes. -/
def isYes (s : String) : Bool :=
  let digits := s.toList.takeWhile Char.isDigit
  let n := Numeral.natOf digits
  if digits.isEmpty then ["on", "yes", "true"].contains (Text.lowercaseAscii s)
  else n < Nat.pow 2 31 && n % 256 ≠ 0

/-- The snapshot belongs to nobody else and goes when it is closed. -/
def isPrivate (a : Address) : Bool :=
  a.mode = .memory || a.path.isEmpty || a.path = ":memory:"

/-- The snapshot is in memory, given where the file is kept if no option says so. -/
def isInMemory (a : Address) (fileSystem : String) : Bool :=
  a.isPrivate || a.fileSystem?.getD fileSystem = inMemory

/-- The file is not to be changed by anybody. -/
def isImmutable (a : Address) : Bool := (a.option? "immutable").any isYes && !a.isPrivate

/-- How others are kept from the file: not at all, by a second file, or by the system's locks. Only
locks of one kind are seen. -/
def lock? (a : Address) (fileSystem : String) : Option String :=
  let kept := a.fileSystem?.getD fileSystem
  if a.isImmutable || (a.option? "nolock").any isYes || kept = "unix-none" then none
  else if kept = "unix-dotfile" then some kept
  else some disk

def access (a : Address) : Access :=
  if a.mode = .readOnly || a.isImmutable then .readOnly else .readWrite

end Address
end MailSnapshot
