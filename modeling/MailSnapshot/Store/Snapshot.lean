import MailSnapshot.Store.Order
import MailSnapshot.Store.Table

/-! Snapshots of a mail store: the tables with their rows, and the rules the store keeps. -/

namespace MailSnapshot

/-- A strict store checks references; a loose one has no keys and no types. -/
inductive Schema where
  | strict
  | loose
  deriving DecidableEq

inductive Trigger.Event where
  | update
  | delete
  deriving DecidableEq

/-- Refuses a statement that updates or deletes rows of a table. With a column it refuses only the
updates that set this column. -/
structure Trigger where
  event : Trigger.Event
  table : Table
  column : Option String
  message : String
  deriving DecidableEq

/-- A table that is missing has no list of rows. -/
structure Snapshot where
  schema : Schema
  triggers : List Trigger
  projects : Option (List Project)
  agents : Option (List Agent)
  messages : Option (List Message)
  recipients : Option (List Recipient)
  reservations : Option (List Reservation)
  links : Option (List AgentLink)
  suggestions : Option (List SiblingSuggestion)
  deriving DecidableEq

namespace Snapshot
variable {s : Snapshot} {t u : Table}

/-- A snapshot with every table and no rows. -/
def empty (schema : Schema) : Snapshot :=
  ⟨schema, [], some [], some [], some [], some [], some [], some [], some []⟩

/-- A snapshot without tables. -/
def bare : Snapshot := ⟨.loose, [], none, none, none, none, none, none, none⟩

def table? (s : Snapshot) : (t : Table) → Option (List t.Row)
  | .projects => s.projects
  | .agents => s.agents
  | .messages => s.messages
  | .recipients => s.recipients
  | .reservations => s.reservations
  | .links => s.links
  | .suggestions => s.suggestions

def setTable (s : Snapshot) : (t : Table) → Option (List t.Row) → Snapshot
  | .projects, rs => { s with projects := rs }
  | .agents, rs => { s with agents := rs }
  | .messages, rs => { s with messages := rs }
  | .recipients, rs => { s with recipients := rs }
  | .reservations, rs => { s with reservations := rs }
  | .links, rs => { s with links := rs }
  | .suggestions, rs => { s with suggestions := rs }

def has (s : Snapshot) (t : Table) : Bool := (s.table? t).isSome

/-- The table in which a strict store remembers the ids it gave out. -/
def sequenceTable : String := "sqlite_sequence"

/-- There is a table with exactly this name. -/
def hasName (s : Snapshot) (name : String) : Bool :=
  (Table.ofName? name).any s.has || (s.schema = .strict && name = sequenceTable)

/-- The rows of a table; a missing table has none. -/
def rows (s : Snapshot) (t : Table) : List t.Row := (s.table? t).getD []

/-- Puts other rows into a table. -/
def put (s : Snapshot) (t : Table) (rs : List t.Row) : Snapshot := s.setTable t (some rs)

def drop (s : Snapshot) (t : Table) : Snapshot := s.setTable t none

@[simp] theorem table?_setTable_self (rs : Option (List t.Row)) :
    (s.setTable t rs).table? t = rs := by
  cases t <;> rfl

@[simp] theorem table?_setTable_of_ne (rs : Option (List t.Row)) (h : u ≠ t) :
    (s.setTable t rs).table? u = s.table? u := by
  cases t <;> cases u <;> first | rfl | exact absurd rfl h

theorem rows_put_self (rs : List t.Row) : (s.put t rs).rows t = rs := by
  simp [rows, put]

theorem rows_put_of_ne (rs : List t.Row) (h : u ≠ t) : (s.put t rs).rows u = s.rows u := by
  simp [rows, put, h]

@[simp] theorem schema_setTable (rs : Option (List t.Row)) :
    (s.setTable t rs).schema = s.schema := by
  cases t <;> rfl

@[simp] theorem triggers_setTable (rs : Option (List t.Row)) :
    (s.setTable t rs).triggers = s.triggers := by
  cases t <;> rfl

/-- Two snapshots with the same rules and the same tables are the same. -/
theorem ext_table? {s' : Snapshot} (hs : s.schema = s'.schema) (ht : s.triggers = s'.triggers)
    (h : ∀ t, s.table? t = s'.table? t) : s = s' := by
  cases s
  cases s'
  simp only at hs ht
  subst hs ht
  have hp := h .projects
  have ha := h .agents
  have hm := h .messages
  have hr := h .recipients
  have hv := h .reservations
  have hl := h .links
  have hg := h .suggestions
  simp only [table?] at hp ha hm hr hv hl hg
  subst hp ha hm hr hv hl hg
  rfl

/-- The rows as a store keeps them: a strict one in the order of their ids. -/
def arrange (schema : Schema) (t : Table) (rows : List t.Row) : List t.Row :=
  match schema with
  | .strict => orderById (fun r => (t.id? r).getD .null) rows
  | .loose => rows

def insertAll (s : Snapshot) (t : Table) (rows : List t.Row) : Snapshot :=
  s.setTable t ((s.table? t).map fun old => arrange s.schema t (old ++ rows))

def insert (s : Snapshot) (t : Table) (row : t.Row) : Snapshot := s.insertAll t [row]

end Snapshot
end MailSnapshot
