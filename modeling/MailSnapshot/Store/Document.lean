import MailSnapshot.Json.Reader
import MailSnapshot.Store.Draft
import MailSnapshot.Text.Hex
import MailSnapshot.Text.Lowercase

/-! Snapshots as JSON documents: each table is a list of rows, each row a list of cells. -/

namespace MailSnapshot

namespace Json

/-- The value of a key of an object. -/
def get? (v : Json) (key : String) : Option Json :=
  match v with
  | .obj entries => (entries.find? (·.1 = key)).map (·.2)
  | _ => none

def asString? : Json → Option String
  | .str s => some s
  | _ => none

def asItems? : Json → Option (List Json)
  | .arr items => some items
  | _ => none

end Json

namespace Cell

/-- The real number that a text names. What is no number is stored as a null. -/
def ofRealText? (s : String) : Option Cell :=
  let (negative, name) := Numeral.readSign s.toList
  match Text.lowercaseAscii (String.ofList name) with
  | "inf" | "infinity" => some (.real (.infinity negative))
  | "nan" => some .null
  | _ => (Numeral.read? s.toList).map fun d => .real (d.toBinary64.getD (.infinity d.negative))

def ofDocument? (v : Json) : Option Cell :=
  match v with
  | .null => some .null
  | .int n => some (.integer n)
  | .str s => some (.text s)
  | .obj [("blob", .str hex)] => (Text.Hex.decode? hex.toList).map .blob
  | .obj [("text_hex", .str hex)] => (Text.Hex.decode? hex.toList).map .ofText
  | .obj [("real", .str s)] => ofRealText? s
  | _ => none

def document : Cell → Json
  | .null => .null
  | .integer n => .int n
  | .real x => .obj [("real", .str (realText x))]
  | .text s => .str s
  | .rawText bytes => .obj [("text_hex", .str (String.ofList (Text.Hex.encode bytes)))]
  | .blob bytes => .obj [("blob", .str (String.ofList (Text.Hex.encode bytes)))]

end Cell

namespace Trigger

def ofDocument? (v : Json) : Option Trigger := do
  let event ←
    match ← (← v.get? "on").asString? with
    | "update" => some Event.update
    | "delete" => some Event.delete
    | _ => none
  let table ← Table.ofAnyCase? (← (← v.get? "table").asString?)
  let message ← (← v.get? "message").asString?
  return ⟨event, table, (v.get? "column").bind Json.asString?, message⟩

def document (t : Trigger) : Json :=
  .obj <|
    [("on", .str (match t.event with | .update => "update" | .delete => "delete")),
      ("table", .str t.table.name)] ++
    (t.column.map fun c => ("column", Json.str c)).toList ++ [("message", .str t.message)]

end Trigger

namespace Draft

def addDocuments? (d : Draft) (t : Table) (rows : List Json) : Option Draft := do
  d.add? t (← rows.mapM fun row => do (← row.asItems?).mapM Cell.ofDocument?)

/-- A document may leave out tables without rows, and names the tables that are missing. -/
def ofDocument? (v : Json) : Option Draft := do
  let schema ←
    match v.get? "schema" with
    | none | some (.str "strict") => some Schema.strict
    | some (.str "loose") => some .loose
    | _ => none
  let tables ← v.get? "tables"
  let fill (d : Draft) (t : Table) : Option Draft :=
    match tables.get? t.name with
    | some (.arr rows) => d.addDocuments? t rows
    | some _ => none
    | none => some d
  let filled ← Table.all.foldlM fill (empty schema)
  let dropped := (((v.get? "drop").bind Json.asItems?).getD []).filterMap fun t =>
    t.asString?.bind Table.ofAnyCase?
  let triggers ← (((v.get? "triggers").bind Json.asItems?).getD []).mapM Trigger.ofDocument?
  return { filled with snapshot := { dropped.foldl Snapshot.drop filled.snapshot with triggers } }

end Draft

namespace Snapshot

def ofDocument? (v : Json) : Option Snapshot := (Draft.ofDocument? v).map (·.snapshot)

/-- The rows of every table that is there. -/
def tablesDocument (s : Snapshot) : Json :=
  .obj <| Table.all.filterMap fun t =>
    (s.table? t).map fun rows =>
      (t.name, .arr (rows.map fun r => .arr ((t.cells r).map Cell.document)))

def document (s : Snapshot) : Json :=
  .obj [
    ("schema", .str (match s.schema with | .strict => "strict" | .loose => "loose")),
    ("tables", s.tablesDocument),
    ("drop", .arr ((Table.all.filter (!s.has ·)).map fun t => .str t.name)),
    ("triggers", .arr (s.triggers.map Trigger.document))]

end Snapshot
end MailSnapshot
