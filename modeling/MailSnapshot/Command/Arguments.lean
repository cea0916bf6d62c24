import MailSnapshot.Command.Basic

/-! Reading a command line: options, positional arguments and the errors of their use. -/

namespace MailSnapshot

/-- How the use of the command line is answered when no command can be run. -/
inductive Usage where
  | missingRequiredArgument
  | missingSubcommand
  | invalidSubcommand
  | unknownArgument
  | invalidValue
  | argumentConflict
  | tooManyValues
  | help
  | helpOnMissing
  | version
  deriving DecidableEq

def Usage.exitCode : Usage → UInt8
  | help | version => 0
  | _ => 2

namespace Arguments

/-- What an argument gives a value for. -/
inductive Key where
  | logLevel
  | snapshot
  | preset
  | project
  | output
  | noScrub
  | force
  | input
  | json
  deriving DecidableEq

inductive Takes where
  | nothing
  | text
  /-- A path must not be empty. -/
  | path
  deriving DecidableEq

/-- An argument that a command knows. One without names is positional. -/
structure Argument where
  key : Key
  long : Option String
  short : Option Char
  takes : Takes
  repeatable : Bool
  required : Bool
  deriving DecidableEq

inductive Subcommand where
  | scrub
  | scope
  | exporting
  | scan
  deriving DecidableEq

namespace Subcommand

def all : List Subcommand := [scrub, scope, exporting, scan]

def name : Subcommand → String
  | scrub => "scrub"
  | scope => "scope"
  | exporting => "export"
  | scan => "scan"

def ofName? (s : String) : Option Subcommand := all.find? (·.name = s)

end Subcommand

def logLevel : Argument := ⟨.logLevel, some "log-level", none, .text, false, false⟩
def snapshot : Argument := ⟨.snapshot, none, none, .path, false, true⟩
def preset : Argument := ⟨.preset, some "preset", none, .text, false, false⟩
def project : Argument := ⟨.project, some "project", some 'p', .text, true, false⟩
def output : Argument := ⟨.output, some "output", some 'o', .path, false, true⟩
def noScrub : Argument := ⟨.noScrub, some "no-scrub", none, .nothing, false, false⟩
def force : Argument := ⟨.force, some "force", none, .nothing, false, false⟩
def input : Argument := ⟨.input, none, none, .path, false, false⟩
def json : Argument := ⟨.json, some "json", none, .nothing, false, false⟩

/-- The arguments of a subcommand, or of the program itself. -/
def known : Option Subcommand → List Argument
  | none => [logLevel]
  | some .scrub => [snapshot, preset, logLevel]
  | some .scope => [snapshot, project, logLevel]
  | some .exporting => [snapshot, output, project, preset, noScrub, force, logLevel]
  | some .scan => [input, json, logLevel]

def positionals (c : Option Subcommand) : List Argument :=
  (known c).filter fun a => a.long.isNone && a.short.isNone

/-- How far a command line has been read. An argument with its value is taken in only when the next
one comes; an option may still wait for its value. -/
structure Reading where
  found : List (Key × String)
  pending : Option (Argument × Option String)
  positionals : List Argument
  onlyPositionals : Bool
  deriving DecidableEq

namespace Reading

def start (c : Option Subcommand) : Reading := ⟨[], none, Arguments.positionals c, false⟩

/-- An option waits for its value. -/
def waiting (r : Reading) : Option Argument :=
  match r.pending with
  | some (a, none) => some a
  | _ => none

/-- Takes a value in, unless the argument has one already or the value cannot be one. -/
def accept (r : Reading) (a : Argument) (value : String) : Except Usage Reading :=
  if !a.repeatable && r.found.any (·.1 = a.key) then .error .argumentConflict
  else if a.takes = .path && value.isEmpty then .error .invalidValue
  else .ok { r with found := r.found ++ [(a.key, value)] }

/-- Takes the pending argument in. -/
def settle (r : Reading) : Except Usage Reading :=
  match r.pending with
  | none => .ok r
  | some (_, none) => .error .invalidValue
  | some (a, some value) => { r with pending := none }.accept a value

def wait (r : Reading) (a : Argument) (value : Option String) : Except Usage Reading := do
  return { ← r.settle with pending := some (a, value) }

/-- Takes an option in, with the value that is attached to it if there is one. -/
def option (r : Reading) (a : Argument) (attached : Option String) : Except Usage Reading :=
  match a.takes, attached with
  | .nothing, some _ => .error .tooManyValues
  | .nothing, none => do (← r.settle).accept a ""
  | _, some value => do (← r.settle).accept a value
  | _, none => r.wait a none

/-- Help and version answer only after the pending argument has been taken in. -/
def answer (r : Reading) (u : Usage) : Except Usage Reading := do
  let _ ← r.settle
  throw u

/-- An option by its long name. -/
def long (c : Option Subcommand) (r : Reading) (name : String) (attached : Option String) :
    Except Usage Reading :=
  match (known c).find? (·.long = some name) with
  | some a => r.option a attached
  | none =>
    if name = "help" || name = "version" && c.isNone then
      if attached.isSome then throw .tooManyValues
      else r.answer (if name = "help" then .help else .version)
    else throw .unknownArgument

/-- An option by its short name; its value may follow at once or after an equals sign. -/
def short (c : Option Subcommand) (r : Reading) (name : Char) (rest : List Char) :
    Except Usage Reading :=
  match (known c).find? (·.short = some name) with
  | some a =>
    match rest with
    | [] => r.option a none
    | '=' :: value => r.option a (some (String.ofList value))
    | value => r.option a (some (String.ofList value))
  | none =>
    if name = 'h' then r.answer .help
    else if name = 'V' && c.isNone then r.answer .version
    else throw .unknownArgument

/-- A plain word: the value that an option waits for, or the next positional argument. -/
def word (c : Option Subcommand) (r : Reading) (s : String) : Except Usage Reading :=
  match r.onlyPositionals, r.waiting with
  | false, some a => .ok { r with pending := some (a, some s) }
  | _, _ =>
    match r.positionals with
    | a :: others => do return { ← r.wait a (some s) with positionals := others }
    | [] =>
      if c.isNone && !(r.onlyPositionals && (s = "help" || (Subcommand.ofName? s).isSome)) then
        throw .invalidSubcommand
      else throw .unknownArgument

/-- Takes in one argument of the line. -/
def take (c : Option Subcommand) (r : Reading) (s : String) : Except Usage Reading :=
  if r.onlyPositionals then r.word c s
  else
    match s.toList with
    | ['-', '-'] => .ok { r with onlyPositionals := true }
    | '-' :: '-' :: cs =>
      let name := cs.takeWhile (· ≠ '=')
      let attached :=
        match cs.dropWhile (· ≠ '=') with
        | _ :: value => some (String.ofList value)
        | [] => none
      r.long c (String.ofList name) attached
    | '-' :: name :: rest => r.short c name rest
    | _ => r.word c s

end Reading

/-- What the arguments after a subcommand give values for. -/
def readSubcommand (c : Subcommand) (args : List String) : Except Usage (List (Key × String)) := do
  let r ← (← args.foldlM (Reading.take (some c)) (.start (some c))).settle
  let missing := (known (some c)).any fun a => a.required && !r.found.any (·.1 = a.key)
  if missing then throw .missingRequiredArgument
  return r.found

/-- The answer to a request for help on a subcommand. -/
def helpOn : List String → Usage
  | [] => .help
  | [s] => if s = "help" || (Subcommand.ofName? s).isSome then .help else .invalidSubcommand
  | _ => .invalidSubcommand

/-- The subcommand of a line and what is given with it. -/
def readLine (r : Reading) : List String → Except Usage (Subcommand × List (Key × String))
  | [] => do
    let r ← r.settle
    throw (if r.found.isEmpty then .helpOnMissing else .missingSubcommand)
  | s :: rest =>
    let free := !r.onlyPositionals && r.waiting.isNone
    match free, Subcommand.ofName? s with
    | true, some c => do
      let found ← readSubcommand c rest
      let _ ← r.settle
      return (c, found)
    | _, _ =>
      if free && s = "help" then throw (helpOn rest)
      else do readLine (← r.take none s) rest

def value? (found : List (Key × String)) (k : Key) : Option String :=
  (found.find? (·.1 = k)).map (·.2)

def values (found : List (Key × String)) (k : Key) : List String :=
  found.filterMap fun e => if e.1 = k then some e.2 else none

def given (found : List (Key × String)) (k : Key) : Bool := found.any (·.1 = k)

/-- The command that the values make up. -/
def command (c : Subcommand) (found : List (Key × String)) : Command :=
  let path := (value? found .snapshot).getD ""
  match c with
  | .scrub => .scrub path (value? found .preset)
  | .scope => .scope path (values found .project)
  | .exporting =>
    .exporting {
      source := path
      output := (value? found .output).getD ""
      projects := values found .project
      preset := value? found .preset
      noScrub := given found .noScrub
      force := given found .force }
  | .scan => .scan (value? found .input) (given found .json)

def read (args : List String) : Except Usage Command := do
  let (c, found) ← readLine (.start none) args
  return command c found

end Arguments
end MailSnapshot
