import MailSnapshot.Store.Address
import MailSnapshot.Store.Parameter
import MailSnapshot.Store.Table

/-! Why an operation fails, and the wording of each failure. -/

namespace MailSnapshot

/-- What the store objects to. -/
inductive Fault where
  | noSuchTable (name : String)
  | parameterNumber (statement : String)
  | refused (message : String)
  | brokenReference
  | columnKind (kind : Cell.Kind) (index : Nat) (column : String)
  | columnText (index : Nat) (fault : Text.Utf8.Fault)
  | notASnapshot
  | unopenable (path : String)
  | unreadable
  | address (fault : Address.Fault)
  | notWritable
  | locked
  | unattachable (path : String)
  | outputThere
  | noJournal
  deriving DecidableEq

namespace Fault

def kindName : Cell.Kind → String
  | .null => "Null"
  | .integer => "Integer"
  | .real => "Real"
  | .text => "Text"
  | .blob => "Blob"

def message : Fault → String
  | noSuchTable name => "no such table: " ++ name
  | parameterNumber statement =>
    s!"variable number must be between ?1 and ?{Parameter.limit} in {statement}" ++
      s!" at offset {Parameter.refusedAt statement}"
  | refused text => text
  | brokenReference => "FOREIGN KEY constraint failed"
  | columnKind kind index column =>
    s!"Invalid column type {kindName kind} at index: {index}, name: {column}"
  | columnText index fault =>
    s!"Conversion error from type Text at index: {index}, {fault.message}"
  | notASnapshot => "file is not a database"
  | unopenable path => "unable to open database file: " ++ path
  | unreadable => "disk I/O error"
  | address fault => fault.message
  | notWritable => "attempt to write a readonly database"
  | locked => "database is locked"
  | unattachable path => "unable to open database: " ++ path
  | outputThere => "output file already exists"
  | noJournal => "unable to open database file"

end Fault

/-- What was being done to the store. -/
inductive Step where
  | openSnapshot (path : String)
  | openSource (path : String)
  | writeSnapshot (path : String)
  | beginPass
  | readProjects
  | readMessages
  | countRows (t : Table)
  | resetAcks
  | resetReads
  | emptyTable (t : Table)
  | deleteRows (t : Table)
  | editMessage
  deriving DecidableEq

namespace Step

def message : Step → String
  | openSnapshot path => "cannot open snapshot " ++ path
  | openSource path => "cannot open source DB " ++ path
  | writeSnapshot path => "cannot write snapshot " ++ path
  | beginPass => "BEGIN transaction failed"
  | readProjects => "SELECT projects failed"
  | readMessages => "SELECT messages failed"
  | countRows t => "COUNT(*) from " ++ t.name ++ " failed"
  | resetAcks => "UPDATE messages SET ack_required = 0"
  | resetReads => "UPDATE message_recipients SET read_ts = NULL, ack_ts = NULL"
  | emptyTable t => "DELETE FROM " ++ t.name
  | deleteRows t => "DELETE FROM " ++ t.name ++ " failed"
  | editMessage => "UPDATE messages failed"

end Step

/-- What the file system objects to. -/
inductive FileFault where
  | notFound
  | alreadyThere
  | notADirectory
  | isADirectory
  | nameTooLong
  | nulInPath
  | notText
  deriving DecidableEq

namespace FileFault

def message : FileFault → String
  | notFound => "No such file or directory (os error 2)"
  | alreadyThere => "File exists (os error 17)"
  | notADirectory => "Not a directory (os error 20)"
  | isADirectory => "Is a directory (os error 21)"
  | nameTooLong => "File name too long (os error 36)"
  | nulInPath => "file name contained an unexpected NUL byte"
  | notText => "stream did not contain valid UTF-8"

end FileFault

/-- What a command line asks for that cannot be done. -/
inductive BadArgument where
  | outputIsSource
  | outputExists (path : String)
  deriving DecidableEq

namespace BadArgument

def message : BadArgument → String
  | outputIsSource => "output must differ from the source snapshot"
  | outputExists path => "output " ++ path ++ " already exists (use --force to replace it)"

end BadArgument

inductive Failure where
  | invalidPreset (name : String)
  | snapshotNotFound (path : String)
  | destinationExists (path : String)
  | noProjects
  | identifierNotFound (identifier : String)
  | noMatchingProjects
  | store (step : Step) (fault : Fault)
  | file (fault : FileFault)
  | badArgument (reason : BadArgument)
  deriving DecidableEq

namespace Failure

def message : Failure → String
  | invalidPreset name => "invalid scrub preset: " ++ name
  | snapshotNotFound path => "snapshot not found: " ++ path
  | destinationExists path => "snapshot destination already exists: " ++ path
  | noProjects => "database has no projects"
  | identifierNotFound identifier => "project identifier not found: " ++ identifier
  | noMatchingProjects => "no project identifiers left after trimming blank entries"
  | store step fault => "sqlite error: " ++ step.message ++ ": " ++ fault.message
  | file fault => "io error: " ++ fault.message
  | badArgument reason => "invalid argument: " ++ reason.message

end Failure
end MailSnapshot
