import MailSnapshot.Command.Arguments

/-! The text that answers a command line when no command is run. -/

namespace MailSnapshot
namespace Arguments

/-- An argument as a usage line shows it: in brackets when it may be missing. -/
def Argument.shown (a : Argument) : String :=
  let value :=
    match a.takes with
    | .nothing => ""
    | .text => " <TEXT>"
    | .path => " <PATH>"
  let form :=
    match a.long with
    | some name => "--" ++ name ++ value
    | none => "<PATH>"
  let form := if a.required then form else "[" ++ form ++ "]"
  if a.repeatable then form ++ "..." else form

def Subcommand.summary : Subcommand → String
  | scrub => "Apply a scrub preset to a snapshot in place."
  | scope => "Keep only the named projects in a snapshot."
  | exporting => "Copy a snapshot, then scope and scrub the copy."
  | scan => "Redact secret-shaped text read from a file or stdin."

def Subcommand.usageLine (c : Subcommand) : String :=
  " ".intercalate ("mailroom" :: c.name :: (known (some c)).map Argument.shown)

end Arguments

namespace Usage

/-- One paragraph for each command: its usage line and what it does. -/
def helpText : String :=
  "Scope and scrub Mailroom snapshot databases\n" ++
    String.join (Arguments.Subcommand.all.map fun c =>
      "\n" ++ c.usageLine ++ "\n    " ++ c.summary ++ "\n")

def versionText : String := "mailroom 0.1.0\n"

/-- What is wrong with a command line, if something is. -/
def fault? : Usage → Option String
  | missingRequiredArgument => some "a required argument is missing"
  | missingSubcommand => some "a command is missing"
  | invalidSubcommand => some "there is no such command"
  | unknownArgument => some "an argument is not expected"
  | invalidValue => some "an option has no value"
  | argumentConflict => some "an option is given twice"
  | tooManyValues => some "an option takes no value"
  | help | helpOnMissing | version => none

def text (u : Usage) : String :=
  match u.fault? with
  | some fault => "error: " ++ fault ++ "\n\nFor more information, try --help.\n"
  | none => if u = version then versionText else helpText

end Usage
end MailSnapshot
