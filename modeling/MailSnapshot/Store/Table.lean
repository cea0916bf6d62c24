import MailSnapshot.Store.Cell
import MailSnapshot.Text.Lowercase

/-! The tables of a snapshot, their rows, and what a row refers to. -/

namespace MailSnapshot

structure Project where
  id : Cell
  slug : Cell
  humanKey : Cell
  deriving DecidableEq

structure Agent where
  id : Cell
  project : Cell
  name : Cell
  deriving DecidableEq

structure Message where
  id : Cell
  project : Cell
  sender : Cell
  subject : Cell
  body : Cell
  attachments : Cell
  ackRequired : Cell
  deriving DecidableEq

structure Recipient where
  message : Cell
  agent : Cell
  readAt : Cell
  ackAt : Cell
  deriving DecidableEq

structure Reservation where
  id : Cell
  project : Cell
  agent : Cell
  pathPattern : Cell
  deriving DecidableEq

/-- A link between two agents, usually of different projects. -/
structure AgentLink where
  id : Cell
  projectA : Cell
  agentA : Cell
  projectB : Cell
  agentB : Cell
  deriving DecidableEq

/-- Two projects that may belong together. -/
structure SiblingSuggestion where
  id : Cell
  projectA : Cell
  projectB : Cell
  deriving DecidableEq

inductive Table where
  | projects
  | agents
  | messages
  | recipients
  | reservations
  | links
  | suggestions
  deriving DecidableEq

namespace Table

def all : List Table :=
  [projects, agents, messages, recipients, reservations, links, suggestions]

def name : Table → String
  | projects => "projects"
  | agents => "agents"
  | messages => "messages"
  | recipients => "message_recipients"
  | reservations => "file_reservations"
  | links => "agent_links"
  | suggestions => "project_sibling_suggestions"

def ofName? (s : String) : Option Table := all.find? fun t => t.name = s

/-- Statements name tables without regard to ASCII case. -/
def ofAnyCase? (s : String) : Option Table := ofName? (Text.lowercaseAscii s)

@[reducible] def Row : Table → Type
  | projects => Project
  | agents => Agent
  | messages => Message
  | recipients => Recipient
  | reservations => Reservation
  | links => AgentLink
  | suggestions => SiblingSuggestion

instance (t : Table) : DecidableEq t.Row := by
  cases t <;> exact inferInstance

/-- The id of a row. Recipients have none. -/
def id? : (t : Table) → t.Row → Option Cell
  | projects, r => some r.id
  | agents, r => some r.id
  | messages, r => some r.id
  | recipients, _ => none
  | reservations, r => some r.id
  | links, r => some r.id
  | suggestions, r => some r.id

/-- The cells of a row that name a row of another table, with that table, in the order in which
the columns are declared. -/
def references : (t : Table) → t.Row → List (Table × Cell)
  | projects, _ => []
  | agents, r => [(projects, r.project)]
  | messages, r => [(projects, r.project), (agents, r.sender)]
  | recipients, r => [(messages, r.message), (agents, r.agent)]
  | reservations, r => [(projects, r.project), (agents, r.agent)]
  | links, r =>
    [(projects, r.projectA), (agents, r.agentA), (projects, r.projectB), (agents, r.agentB)]
  | suggestions, r => [(projects, r.projectA), (projects, r.projectB)]

/-- The tables that the rows of a table refer to, one for each such column. -/
def parents : Table → List Table
  | projects => []
  | agents => [projects]
  | messages => [projects, agents]
  | recipients => [messages, agents]
  | reservations => [projects, agents]
  | links => [projects, agents, projects, agents]
  | suggestions => [projects, projects]

theorem map_fst_references (t : Table) (r : t.Row) :
    (t.references r).map Prod.fst = t.parents := by
  cases t <;> rfl

end Table
end MailSnapshot
