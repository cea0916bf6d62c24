import MailSnapshot.Preset
import MailSnapshot.Text.Split

/-! Settings taken from environment variables; they hold where the command line says nothing. -/

namespace MailSnapshot

structure Settings where
  preset : Preset
  /-- The identifiers of the projects to keep; none keep every project. -/
  projects : List String
  logLevel : String
  /-- Exporting includes a scrub pass. -/
  scrub : Bool
  deriving DecidableEq

namespace Settings

def presetVariable : String := "MAILROOM_SCRUB_PRESET"
def projectsVariable : String := "MAILROOM_PROJECTS"
def logLevelVariable : String := "MAILROOM_LOG_LEVEL"
def scrubVariable : String := "MAILROOM_SCRUB"

def default : Settings := ⟨.standard, [], "info", true⟩

/-- The entries between commas that are not blank, trimmed. -/
def readList (s : String) : List String :=
  ((Text.splitAt ',' s.toList).map fun p => String.ofList (Text.trimChars p)).filter (!·.isEmpty)

/-- A yes or a no; any other text leaves the given answer. -/
def readBool (s : String) (answer : Bool) : Bool :=
  let word := Text.lowercase (Text.trim s)
  if ["1", "true", "t", "yes", "y"].contains word then true
  else if ["0", "false", "f", "no", "n"].contains word then false
  else answer

/-- A blank text leaves the given level. -/
def readLevel (s : String) (level : String) : String :=
  let s := Text.trim s
  if s.isEmpty then level else s

/-- The settings in an environment. Only an unknown preset is an error. -/
def load (lookup : String → Option String) : Except Failure Settings := do
  let preset ←
    match lookup presetVariable with
    | some s => Preset.parse s
    | none => .ok default.preset
  return {
    preset
    projects := ((lookup projectsVariable).map readList).getD default.projects
    logLevel := ((lookup logLevelVariable).map (readLevel · default.logLevel)).getD
      default.logLevel
    scrub := ((lookup scrubVariable).map (readBool · default.scrub)).getD default.scrub }

end Settings
end MailSnapshot
