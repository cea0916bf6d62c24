import MailSnapshot.Export
import MailSnapshot.Json.Text

/-! The commands, and what running one prints. -/

namespace MailSnapshot

inductive Command where
  | scrub (snapshot : String) (preset : Option String)
  | scope (snapshot : String) (projects : List String)
  | exporting (request : ExportRequest)
  | scan (input : Option String) (json : Bool)
  deriving DecidableEq

namespace Command

/-- A report as it is printed, one line for each entry. -/
def printed (report : Json) : String := report.prettyText ++ "\n"

/-- The text of a file, or of the standard input when no file is named. -/
def inputText (stdin : List UInt8) : Option String → FileOp String
  | some path => FileOp.readText path
  | none =>
    match Text.Utf8.decode stdin with
    | .ok s => return s
    | .error _ => throw (.file .notText)

/-- Runs a command; the answer is what it prints. -/
def run (settings : Settings) (stdin : List UInt8) : Command → FileOp String
  | scrub snapshot preset => do
    let preset ← FileOp.ofExcept (settings.choosePreset preset)
    return printed (← FileOp.scrub snapshot preset).report
  | scope snapshot projects => do
    return printed (← FileOp.scope snapshot (settings.chooseProjects projects)).report
  | exporting request => do
    return printed (← Export.run settings request).report
  | scan input json => do
    let found := Secret.scanString (← inputText stdin input)
    return if json then printed found.report else found.string

end Command

/-- The exit code for a failure: a request that cannot be meant has a code of its own. -/
def Failure.exitCode : Failure → UInt8
  | invalidPreset _ | badArgument _ => 2
  | _ => 1

end MailSnapshot
