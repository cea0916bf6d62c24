import MailSnapshot.Failure
import MailSnapshot.Store.Snapshot

/-! Statements that change the rows of a table. A statement is refused as a whole or done as a
whole. What it names is looked up before the right to change anything. -/

namespace MailSnapshot.Snapshot
variable {s : Snapshot} {t : Table}

/-- A statement with numbered parameters is refused as it is read, whatever else it names. -/
def checkParameters (statement : String) (count : Nat) : Except Fault Unit :=
  if count ≤ Parameter.limit then .ok () else .error (.parameterNumber statement)

/-- The rows of a table that must be there. -/
def need (s : Snapshot) (t : Table) : Except Fault (List t.Row) :=
  match s.table? t with
  | some rows => .ok rows
  | none => .error (.noSuchTable t.name)

/-- Every table that a statement names must be there. -/
def needAll (s : Snapshot) (ts : List Table) : Except Fault Unit :=
  match ts.find? (!s.has ·) with
  | some t => .error (.noSuchTable t.name)
  | none => .ok ()

/-- The tables that a strict store looks into when rows of a table go. -/
def needParents (s : Snapshot) (t : Table) : Except Fault Unit :=
  match s.schema, t.parents.reverse.find? (!s.has ·) with
  | .strict, some p => .error (.noSuchTable ("main." ++ p.name))
  | _, _ => .ok ()

def checkAccess : Access → Except Fault Unit
  | .readWrite => .ok ()
  | .readOnly => .error .notWritable

/-- What refuses a delete, or an update that sets the given columns; the newest trigger speaks
first. A trigger names its column without regard to ASCII case. -/
def refusal? (s : Snapshot) (event : Trigger.Event) (t : Table) (columns : List String) :
    Option String :=
  let watches (g : Trigger) : Bool :=
    g.event = event && g.table = t &&
      match g.event, g.column with
      | .update, some c => columns.contains (Text.lowercaseAscii c)
      | _, _ => true
  (s.triggers.reverse.find? watches).map (·.message)

def checkTriggers (s : Snapshot) (event : Trigger.Event) (t : Table) (columns : List String) :
    Except Fault Unit :=
  match s.refusal? event t columns with
  | some text => .error (.refused text)
  | none => .ok ()

/-- A cell of a row names no row of the table that it refers to. -/
def dangles (s : Snapshot) (ref : Table × Cell) : Bool :=
  !(s.rows ref.1).any fun r => (ref.1.id? r).any ref.2.same

/-- How many of a row's references name nothing. -/
def danglingIn (s : Snapshot) (t : Table) (row : t.Row) : Nat :=
  (t.references row).countP (s.dangles ·)

/-- The cells of the store that name rows of a table. -/
def namings (s : Snapshot) (t : Table) : List Cell :=
  Table.all.flatMap fun u => (s.rows u).flatMap fun r =>
    (u.references r).filterMap fun ref => if ref.1 = t then some ref.2 else none

/-- The tally of broken references after one more row has gone. References of the row itself that
named nothing are settled with it, and each of the cells that names the row is a new one. -/
def tallyAfter (s : Snapshot) (t : Table) (cells : List Cell) (tally : Nat) (row : t.Row) : Nat :=
  tally - s.danglingIn t row + ((t.id? row).map fun id => cells.countP id.same).getD 0

def tally (s : Snapshot) (t : Table) (gone : List t.Row) : Nat :=
  let cells := s.namings t
  gone.foldl (s.tallyAfter t cells) 0

def checkReferences (s : Snapshot) (t : Table) (gone : List t.Row) : Except Fault Unit :=
  match s.schema with
  | .loose => .ok ()
  | .strict => if s.tally t gone = 0 then .ok () else .error .brokenReference

/-- Deletes the rows for which a condition is true; also how many there were. The condition looks
into the tables that it names. -/
def delete (s : Snapshot) (access : Access) (t : Table) (names : List Table)
    (doomed : t.Row → Truth) : Except Fault (Nat × Snapshot) := do
  let rows ← s.need t
  s.needAll names
  s.needParents t
  checkAccess access
  let gone := rows.filter fun r => doomed r = .yes
  unless gone.isEmpty do s.checkTriggers .delete t []
  s.checkReferences t gone
  return (gone.length, s.put t (rows.filter fun r => doomed r ≠ .yes))

/-- Changes the rows that a condition selects, in the given columns; also how many there were. -/
def update (s : Snapshot) (access : Access) (t : Table) (columns : List String)
    (selected : t.Row → Bool) (change : t.Row → t.Row) : Except Fault (Nat × Snapshot) := do
  let rows ← s.need t
  checkAccess access
  let touched := rows.countP selected
  unless touched = 0 do s.checkTriggers .update t columns
  return (touched, s.put t (rows.map fun r => if selected r then change r else r))

/-- The number of rows of a table. -/
def count (s : Snapshot) (t : Table) : Except Fault Nat :=
  (s.need t).map List.length

end MailSnapshot.Snapshot
