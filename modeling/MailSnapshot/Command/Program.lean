import MailSnapshot.Command.Help

/-! The whole program on a file tree: from a command line to what it prints. -/

namespace MailSnapshot

/-- What a run of the program shows. -/
inductive Outcome where
  | usage (u : Usage)
  | printed (text : String)
  | failed (e : Failure)
  deriving DecidableEq

namespace Outcome

def exitCode : Outcome → UInt8
  | usage u => u.exitCode
  | printed _ => 0
  | failed e => e.exitCode

/-- Help and version that were asked for are printed as results are. -/
def stdout : Outcome → String
  | usage u => if u.exitCode = 0 then u.text else ""
  | printed text => text
  | failed _ => ""

def stderr : Outcome → String
  | usage u => if u.exitCode = 0 then "" else u.text
  | printed _ => ""
  | failed e => "error: " ++ e.message ++ "\n"

end Outcome

/-- The world a program runs in. -/
structure Environment where
  arguments : List String
  lookup : String → Option String
  stdin : List UInt8

/-- Reads the command line, then the settings, then runs the command. -/
def Environment.run (e : Environment) (t : FileTree) : Outcome × FileTree :=
  match Arguments.read e.arguments with
  | .error u => (.usage u, t)
  | .ok command =>
    match Settings.load e.lookup with
    | .error failure => (.failed failure, t)
    | .ok settings =>
      match command.run settings e.stdin t with
      | .ok text t => (.printed text, t)
      | .error failure t => (.failed failure, t)

end MailSnapshot
