import MailSnapshot.Store.Draft

/-! Building sample snapshots row by row. -/

namespace MailSnapshot

namespace Draft

/-- Adds a row under the next id of a table. Ids are not used again. -/
def add (d : Draft) (t : Table) (row : Cell → t.Row) : Int × Draft :=
  let id := d.largest t + 1
  (id, ⟨d.snapshot.insert t (row (.integer id)), fun u => if u = t then id else d.largest u⟩)

def addProject (d : Draft) (slug humanKey : String) : Int × Draft :=
  d.add .projects fun id => ⟨id, .text slug, .text humanKey⟩

def addAgent (d : Draft) (project : Int) (name : String) : Int × Draft :=
  d.add .agents fun id => ⟨id, .integer project, .text name⟩

def addMessage (d : Draft) (project sender : Int) (subject body : String) : Int × Draft :=
  d.add .messages fun id =>
    ⟨id, .integer project, .integer sender, .text subject, .text body, .text "[]", .integer 0⟩

def addReservation (d : Draft) (project agent : Int) (pathPattern : String) : Int × Draft :=
  d.add .reservations fun id => ⟨id, .integer project, .integer agent, .text pathPattern⟩

def addLink (d : Draft) (projectA agentA projectB agentB : Int) : Int × Draft :=
  d.add .links fun id =>
    ⟨id, .integer projectA, .integer agentA, .integer projectB, .integer agentB⟩

def addSuggestion (d : Draft) (projectA projectB : Int) : Int × Draft :=
  d.add .suggestions fun id => ⟨id, .integer projectA, .integer projectB⟩

/-- A time that may be missing. -/
def time (t : Option String) : Cell := (t.map Cell.text).getD .null

def addRecipient (d : Draft) (message agent : Int) (readAt ackAt : Option String) : Draft :=
  { d with
    snapshot := d.snapshot.insert .recipients
      ⟨.integer message, .integer agent, time readAt, time ackAt⟩ }

/-- Changes the messages with an id. -/
def editMessage (d : Draft) (id : Int) (change : Message → Message) : Draft :=
  let rows := (d.snapshot.rows .messages).map fun m =>
    if m.id.same (.integer id) then change m else m
  { d with snapshot := d.snapshot.put .messages rows }

def setAttachments (d : Draft) (id : Int) (attachments : String) : Draft :=
  d.editMessage id fun m => { m with attachments := .text attachments }

def setAckRequired (d : Draft) (id : Int) (required : Bool) : Draft :=
  d.editMessage id fun m => { m with ackRequired := .integer required.toNat }

def message? (d : Draft) (id : Int) : Option Message :=
  (d.snapshot.rows .messages).find? (·.id.same (.integer id))

/-- The tables that the catalog is read from. -/
def catalogTables : List String := ["sqlite_master", "sqlite_schema"]

/-- The number of rows of a table, which may be written in any case. The table of ids has one for
each table that gave any out. The catalog has one for each table, that of ids included, and for
each of the three tables that must not hold two equal rows. -/
def count? (d : Draft) (name : String) : Option Nat :=
  let name := Text.lowercaseAscii name
  match Table.ofName? name with
  | some t => some (d.snapshot.rows t).length
  | none =>
    if name = Snapshot.sequenceTable then some (Table.all.countP fun t => 0 < d.largest t)
    else if catalogTables.contains name then some (Table.all.length + 4)
    else none

/-- Adds two projects with an agent each, and rows that connect them. -/
def seedTwo (d : Draft) : Draft :=
  let (alpha, d) := d.addProject "proj-alpha" "/data/projects/alpha"
  let (beta, d) := d.addProject "proj-beta" "/data/projects/beta"
  let (green, d) := d.addAgent alpha "GreenCastle"
  let (purple, d) := d.addAgent beta "PurpleBear"
  let (first, d) := d.addMessage alpha green "Msg A" "alpha body one"
  let (second, d) := d.addMessage alpha green "Msg B" "alpha body two"
  let (third, d) := d.addMessage beta purple "Msg C" "beta body"
  let d := d.addRecipient first green (some "2026-01-02T01:00:00Z") none
  let d := d.addRecipient second green none (some "2026-01-02T02:00:00Z")
  let d := d.addRecipient third purple (some "2026-01-02T03:00:00Z") (some "2026-01-02T04:00:00Z")
  let (_, d) := d.addReservation alpha green "src/*.rs"
  let (_, d) := d.addReservation beta purple "docs/**"
  let (_, d) := d.addLink alpha green beta purple
  (d.addSuggestion alpha beta).2

/-- Adds a project with one agent, message, recipient and reservation. -/
def seedProject (d : Draft) (slug humanKey agent : String) : (Int × Int) × Draft :=
  let (project, d) := d.addProject slug humanKey
  let (agent, d) := d.addAgent project agent
  let (message, d) := d.addMessage project agent (slug ++ " status") "all good"
  let d := d.addRecipient message agent none none
  let (_, d) := d.addReservation project agent "Cargo.toml"
  ((project, agent), d)

end Draft

/-! The samples. -/

namespace Sample

def empty : Draft := .empty .strict

def twoProjects : Draft := empty.seedTwo

/-- Three projects in a chain of links. -/
def threeProjects : Draft :=
  let ((alpha, blue), d) := empty.seedProject "alpha" "/work/Alpha-Repo" "BlueLake"
  let ((beta, red), d) := d.seedProject "beta" "/work/Beta-Repo" "RedStone"
  let ((gamma, gold), d) := d.seedProject "gamma" "/work/Gamma-Repo" "GoldHill"
  let (_, d) := d.addLink alpha blue beta red
  let (_, d) := d.addLink beta red gamma gold
  (d.addSuggestion alpha gamma).2

end Sample
end MailSnapshot
