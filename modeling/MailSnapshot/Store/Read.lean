import MailSnapshot.Store.Order
import MailSnapshot.Store.Pass

/-! Reading rows in the order of their ids, and cells as values of one kind. -/

namespace MailSnapshot

namespace Cell

def readInteger (index : Nat) (column : String) : Cell → Except Fault Int
  | integer n => .ok n
  | c => .error (.columnKind c.kind index column)

/-- A text; a null reads as the empty one. -/
def readText (index : Nat) (column : String) : Cell → Except Fault String
  | text s => .ok s
  | null => .ok ""
  | rawText bytes =>
    match Text.Utf8.decode bytes with
    | .ok s => .ok s
    | .error fault => .error (.columnText index fault)
  | c => .error (.columnKind c.kind index column)

end Cell

/-- A project as the scope of a snapshot names it. -/
structure ProjectRecord where
  id : Int
  slug : String
  humanKey : String
  deriving DecidableEq

def Project.record (p : Project) : Except Fault ProjectRecord := do
  let id ← p.id.readInteger 0 "id"
  let slug ← p.slug.readText 1 "slug"
  let humanKey ← p.humanKey.readText 2 "human_key"
  return ⟨id, slug, humanKey⟩

namespace Snapshot

def readProjects (s : Snapshot) : Except Fault (List ProjectRecord) := do
  (orderById Project.id (← s.need .projects)).mapM Project.record

/-- The messages with their ids, which must be integers. -/
def readMessages (s : Snapshot) : Except Fault (List (Int × Message)) := do
  (orderById Message.id (← s.need .messages)).mapM fun m => do
    return (← m.id.readInteger 0 "id", m)

end Snapshot

/-- The number of rows of each table. -/
structure RowCounts where
  projects : Nat
  agents : Nat
  messages : Nat
  recipients : Nat
  reservations : Nat
  links : Nat
  suggestions : Nat
  deriving DecidableEq

namespace Pass

def count (t : Table) : Pass Nat := query (.countRows t) (·.count t)

/-- A table that may be missing counts as empty then. -/
def countIfPresent (t : Table) : Pass Nat := do
  if ← look (·.has t) then count t else return 0

def rowCounts : Pass RowCounts := do
  let projects ← count .projects
  let agents ← count .agents
  let messages ← count .messages
  let recipients ← count .recipients
  let reservations ← count .reservations
  let links ← countIfPresent .links
  let suggestions ← countIfPresent .suggestions
  return ⟨projects, agents, messages, recipients, reservations, links, suggestions⟩

end Pass
end MailSnapshot
