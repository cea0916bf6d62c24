import MailSnapshot.Store.Pass

/-! The deletions that confine a snapshot to some of its projects. Rows of the kept projects that
name an agent of another project go first, then all that belongs to the other projects; a table
comes before the tables that its rows refer to. -/

namespace MailSnapshot.Scope

/-- What the conditions of the deletions look up before they look at the rows of a table. -/
structure Lookup where
  /-- The ids of the kept projects. -/
  keep : List Cell
  /-- The ids of the agents that live in kept projects. -/
  agents : List Cell
  /-- The ids of the messages in kept projects. -/
  inner : List Cell
  /-- The ids of the messages in other projects. -/
  outer : List Cell
  /-- The ids of the messages from agents that do not live in kept projects. -/
  stray : List Cell
  deriving DecidableEq

namespace Lookup

/-- The ids of the agents for which a condition is true. -/
def agentsWhere (s : Snapshot) (condition : Agent → Truth) : List Cell :=
  ((s.rows .agents).filter fun a => condition a = .yes).map Agent.id

/-- The ids of the messages for which a condition is true. -/
def messagesWhere (s : Snapshot) (condition : Message → Truth) : List Cell :=
  ((s.rows .messages).filter fun m => condition m = .yes).map Message.id

def of (keep : List Cell) (s : Snapshot) : Lookup :=
  let agents := agentsWhere s (·.project.isIn keep)
  { keep, agents
    inner := messagesWhere s (·.project.isIn keep)
    outer := messagesWhere s (·.project.notIn keep)
    stray := messagesWhere s (·.sender.notIn agents) }

end Lookup

/-- One deletion: the rows of a table for which a condition is true. -/
structure Deletion where
  table : Table
  /-- The table may be missing. -/
  optional : Bool
  /-- The rows lie in kept projects. -/
  orphan : Bool
  /-- The tables that the condition looks into. -/
  names : List Table
  /-- The condition as a statement words it, given the ids of the kept projects and of their
  agents. -/
  wording : String → String → String
  doomed : Lookup → table.Row → Truth

def orphanLinks : Deletion where
  table := .links
  optional := true
  orphan := true
  names := [.agents]
  wording keep agents :=
    s!"a_project_id IN ({keep}) AND b_project_id IN ({keep}) AND " ++
      s!"(a_agent_id NOT IN ({agents}) OR b_agent_id NOT IN ({agents}))"
  doomed k l :=
    ((l.projectA.isIn k.keep).and (l.projectB.isIn k.keep)).and
      ((l.agentA.notIn k.agents).or (l.agentB.notIn k.agents))

def orphanRecipients : Deletion where
  table := .recipients
  optional := false
  orphan := true
  names := [.messages, .agents]
  wording keep agents :=
    s!"message_id IN (SELECT id FROM messages WHERE project_id IN ({keep})) AND " ++
      s!"(agent_id NOT IN ({agents}) OR " ++
      s!"message_id IN (SELECT id FROM messages WHERE sender_id NOT IN ({agents})))"
  doomed k r :=
    (r.message.isIn k.inner).and ((r.agent.notIn k.agents).or (r.message.isIn k.stray))

def orphanMessages : Deletion where
  table := .messages
  optional := false
  orphan := true
  names := [.agents]
  wording keep agents := s!"project_id IN ({keep}) AND sender_id NOT IN ({agents})"
  doomed k m := (m.project.isIn k.keep).and (m.sender.notIn k.agents)

def orphanReservations : Deletion where
  table := .reservations
  optional := false
  orphan := true
  names := [.agents]
  wording keep agents := s!"project_id IN ({keep}) AND agent_id NOT IN ({agents})"
  doomed k r := (r.project.isIn k.keep).and (r.agent.notIn k.agents)

def outerLinks : Deletion where
  table := .links
  optional := true
  orphan := false
  names := []
  wording keep _ := s!"a_project_id NOT IN ({keep}) OR b_project_id NOT IN ({keep})"
  doomed k l := (l.projectA.notIn k.keep).or (l.projectB.notIn k.keep)

def outerSuggestions : Deletion where
  table := .suggestions
  optional := true
  orphan := false
  names := []
  wording keep _ := s!"project_a_id NOT IN ({keep}) OR project_b_id NOT IN ({keep})"
  doomed k g := (g.projectA.notIn k.keep).or (g.projectB.notIn k.keep)

def outerRecipients : Deletion where
  table := .recipients
  optional := false
  orphan := false
  names := [.messages]
  wording keep _ :=
    s!"message_id IN (SELECT id FROM messages WHERE project_id NOT IN ({keep}))"
  doomed k r := r.message.isIn k.outer

def outerMessages : Deletion where
  table := .messages
  optional := false
  orphan := false
  names := []
  wording keep _ := s!"project_id NOT IN ({keep})"
  doomed k m := m.project.notIn k.keep

def outerReservations : Deletion where
  table := .reservations
  optional := false
  orphan := false
  names := []
  wording keep _ := s!"project_id NOT IN ({keep})"
  doomed k r := r.project.notIn k.keep

def outerAgents : Deletion where
  table := .agents
  optional := false
  orphan := false
  names := []
  wording keep _ := s!"project_id NOT IN ({keep})"
  doomed k a := a.project.notIn k.keep

def outerProjects : Deletion where
  table := .projects
  optional := false
  orphan := false
  names := []
  wording keep _ := s!"id NOT IN ({keep})"
  doomed k p := p.id.notIn k.keep

def plan : List Deletion :=
  [orphanLinks, orphanRecipients, orphanMessages, orphanReservations, outerLinks,
   outerSuggestions, outerRecipients, outerMessages, outerReservations, outerAgents,
   outerProjects]

/-- How many projects, and how many rows of kept projects, were deleted. -/
structure Totals where
  projects : Nat
  orphans : Nat
  deriving DecidableEq

namespace Totals

def add (t : Totals) (d : Deletion) (deleted : Nat) : Totals :=
  if d.orphan then { t with orphans := t.orphans + deleted }
  else if d.table = .projects then { t with projects := deleted }
  else t

end Totals

namespace Deletion

/-- The text of the deletion, with one parameter for each of the kept projects. -/
def statement (d : Deletion) (kept : Nat) : String :=
  let keep := Parameter.listing kept
  let agents := s!"SELECT id FROM agents WHERE project_id IN ({keep})"
  s!"DELETE FROM {d.table.name} WHERE {d.wording keep agents}"

def execute (d : Deletion) (keep : List Cell) (access : Access) (s : Snapshot) :
    Except Fault (Nat × Snapshot) := do
  Snapshot.checkParameters (d.statement keep.length) keep.length
  s.delete access d.table d.names (d.doomed (.of keep s))

/-- Runs one deletion; an optional table that is missing is passed over. -/
def run (d : Deletion) (keep : List Cell) (totals : Totals) : Pass Totals := do
  if d.optional && !(← Pass.look (·.has d.table)) then return totals
  let deleted ← Pass.change (.deleteRows d.table) (d.execute keep)
  return totals.add d deleted

end Deletion

/-- Deletes what does not belong to the projects with the kept ids. -/
def deleteUnselected (keep : List Cell) : Pass Totals :=
  plan.foldlM (fun totals d => d.run keep totals) ⟨0, 0⟩

end MailSnapshot.Scope
