import MailSnapshot.Store.Read
import MailSnapshot.Text.Blank
import MailSnapshot.Text.Lowercase

/-! Which projects a list of identifiers names. -/

namespace MailSnapshot.Scope

/-- Identifiers compare without the blanks around them and without case. -/
def lookupKey (s : String) : String := Text.lowercase (Text.trim s)

/-- The project that a key names: by its slug, or else by its human key, the earliest one each
time. -/
def pick? (projects : List ProjectRecord) (key : String) : Option ProjectRecord :=
  (projects.find? fun p => lookupKey p.slug = key) <|>
    projects.find? fun p => lookupKey p.humanKey = key

/-- Adds a project unless it is there already. -/
def addOnce (found : List ProjectRecord) (p : ProjectRecord) : List ProjectRecord :=
  if found.any (·.id = p.id) then found else found ++ [p]

/-- The projects named by the identifiers after those already found. A blank identifier names
nothing. -/
def resolveFrom (projects found : List ProjectRecord) :
    List String → Except Failure (List ProjectRecord)
  | [] => .ok found
  | identifier :: others =>
    let key := lookupKey identifier
    if key.isEmpty then resolveFrom projects found others
    else
      match pick? projects key with
      | some p => resolveFrom projects (addOnce found p) others
      | none => .error (.identifierNotFound identifier)

/-- The named projects, each once, in the order in which they are first named. -/
def resolve (projects : List ProjectRecord) (identifiers : List String) :
    Except Failure (List ProjectRecord) := do
  let found ← resolveFrom projects [] identifiers
  if found.isEmpty then throw .noMatchingProjects
  return found

end MailSnapshot.Scope
