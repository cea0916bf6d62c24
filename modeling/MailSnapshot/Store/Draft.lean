import MailSnapshot.Store.Snapshot
import MailSnapshot.Store.Typing

/-! Snapshots that are being filled: rows are given as cells, and a strict store fits them to its
columns and gives out ids. Ids are not used again. -/

namespace MailSnapshot

namespace Table

def hasId : Table → Bool
  | recipients => false
  | _ => true

/-- The row with these cells, in the order of its columns. -/
def rowOfCells? : (t : Table) → List Cell → Option t.Row
  | projects, [id, slug, humanKey] => some ⟨id, slug, humanKey⟩
  | agents, [id, project, name] => some ⟨id, project, name⟩
  | messages, [id, project, sender, subject, body, attachments, ackRequired] =>
    some ⟨id, project, sender, subject, body, attachments, ackRequired⟩
  | recipients, [message, agent, readAt, ackAt] => some ⟨message, agent, readAt, ackAt⟩
  | reservations, [id, project, agent, pathPattern] => some ⟨id, project, agent, pathPattern⟩
  | links, [id, projectA, agentA, projectB, agentB] =>
    some ⟨id, projectA, agentA, projectB, agentB⟩
  | suggestions, [id, projectA, projectB] => some ⟨id, projectA, projectB⟩
  | _, _ => none

def cells : (t : Table) → t.Row → List Cell
  | projects, r => [r.id, r.slug, r.humanKey]
  | agents, r => [r.id, r.project, r.name]
  | messages, r => [r.id, r.project, r.sender, r.subject, r.body, r.attachments, r.ackRequired]
  | recipients, r => [r.message, r.agent, r.readAt, r.ackAt]
  | reservations, r => [r.id, r.project, r.agent, r.pathPattern]
  | links, r => [r.id, r.projectA, r.agentA, r.projectB, r.agentB]
  | suggestions, r => [r.id, r.projectA, r.projectB]

theorem rowOfCells?_cells (t : Table) (r : t.Row) : t.rowOfCells? (t.cells r) = some r := by
  cases t <;> rfl

end Table

/-- A snapshot that is being filled, and the largest id that each table has ever held. -/
structure Draft where
  snapshot : Snapshot
  largest : Table → Int

namespace Draft

def empty (schema : Schema) : Draft := ⟨.empty schema, fun _ => 0⟩

/-- Gives an id to each row that has none; also the largest id after that. -/
def number (largest : Int) : List (List Cell) → Int × List (List Cell)
  | [] => (largest, [])
  | (.null :: cells) :: rows =>
    let (n, rows) := number (largest + 1) rows
    (n, (.integer (largest + 1) :: cells) :: rows)
  | (.integer id :: cells) :: rows =>
    let (n, rows) := number (max largest id) rows
    (n, (.integer id :: cells) :: rows)
  | cells :: rows =>
    let (n, rows) := number largest rows
    (n, cells :: rows)

/-- Adds rows as they are given, or, to a strict store, as its columns hold them. -/
def add? (d : Draft) (t : Table) (rows : List (List Cell)) : Option Draft :=
  let add (rows : List (List Cell)) : Option Snapshot :=
    (rows.mapM t.rowOfCells?).map (d.snapshot.insertAll t)
  match d.snapshot.schema with
  | .loose => (add rows).map fun snapshot => { d with snapshot }
  | .strict =>
    let fitted := rows.map fun cells => t.columnTypes.zipWith Cell.fit cells
    let (largest, numbered) :=
      if t.hasId then number (d.largest t) fitted else (d.largest t, fitted)
    (add numbered).map fun snapshot =>
      ⟨snapshot, fun u => if u = t then largest else d.largest u⟩

end Draft
end MailSnapshot
