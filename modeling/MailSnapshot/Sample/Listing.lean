import MailSnapshot.Sample.Builder
import MailSnapshot.Text.Quoted

/-! The rows of a sample with all the columns of its tables, one line for each row. -/

namespace MailSnapshot

namespace Cell

def listing : Cell → String
  | null => "Null"
  | integer n => "Integer(" ++ toString n ++ ")"
  | real x => "Real(" ++ realText x ++ ")"
  | text s => "Text(" ++ Text.quoted s ++ ")"
  | rawText bytes | blob bytes => "Blob(" ++ toString (bytes.map UInt8.toNat) ++ ")"

end Cell

namespace Table

/-- The tables in the order of their names. -/
def byName : List Table :=
  [links, agents, reservations, recipients, messages, suggestions, projects]

/-- The cells of all columns. Those that a snapshot does not keep hold what they held when the row
was added. -/
def allCells : (t : Table) → t.Row → List Cell
  | projects, r => [r.id, r.slug, r.humanKey, .text "2026-01-01T00:00:00Z"]
  | agents, r =>
    [r.id, r.project, r.name, .text "codex", .text "gpt", .text "", .text "", .text "",
      .text "auto", .text "auto"]
  | messages, r =>
    [r.id, r.project, r.sender, .null, r.subject, r.body, .text "normal", r.ackRequired,
      .text "2026-01-02T00:00:00Z", r.attachments]
  | recipients, r => [r.message, r.agent, .text "to", r.readAt, r.ackAt]
  | reservations, r =>
    [r.id, r.project, r.agent, r.pathPattern, .integer 1, .text "", .text "",
      .text "2026-01-03T00:00:00Z", .null]
  | links, r =>
    [r.id, r.projectA, r.agentA, r.projectB, r.agentB, .text "pending", .text "", .text "",
      .text "", .null]
  | suggestions, r =>
    [r.id, r.projectA, r.projectB, .real ⟨false, 3 * Nat.pow 2 51, -53⟩, .text "suggested",
      .text "", .text "", .text "", .null, .null]

end Table

namespace Snapshot

def listing (s : Snapshot) : List String :=
  Table.byName.flatMap fun t =>
    (s.rows t).map fun r =>
      t.name ++ ":" ++ String.intercalate "|" ((t.allCells r).map Cell.listing)

end Snapshot

/-- A column of a message that holds text, in any case. The name of no column is a text itself. -/
def Message.textOf (m : Message) (column : String) : Cell :=
  match Text.lowercaseAscii column with
  | "subject" => m.subject
  | "body_md" => m.body
  | "attachments" => m.attachments
  | "importance" => .text "normal"
  | "created_ts" => .text "2026-01-02T00:00:00Z"
  | _ => .text column

end MailSnapshot
