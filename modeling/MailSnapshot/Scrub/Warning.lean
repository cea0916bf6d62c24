import MailSnapshot.Scrub.Basic

/-! What a scrub pass warns about: message columns that hold no usable content. -/

namespace MailSnapshot

/-- Why the attachments of a message are reset. -/
inductive ResetReason where
  | notAList (kind : String)
  | malformed
  | missing
  | notText (kind : String)
  deriving DecidableEq

inductive Warning where
  | columnNotText (message : Int) (column : String) (kind : String)
  | attachmentsReset (message : Int) (reason : ResetReason)
  deriving DecidableEq

namespace Warning

def messageId : Warning → Int
  | columnNotText id _ _ | attachmentsReset id _ => id

def text : Warning → String
  | columnNotText .. => "column is not text; left as stored"
  | attachmentsReset _ (.notAList _) => "attachments are not a JSON array; resetting to []"
  | attachmentsReset _ .malformed => "malformed attachments JSON; resetting to []"
  | attachmentsReset _ .missing => "attachments are NULL; resetting to []"
  | attachmentsReset _ (.notText _) => "attachments are not text; resetting to []"

def column? : Warning → Option String
  | columnNotText _ column _ => some column
  | attachmentsReset .. => none

def kind? : Warning → Option String
  | columnNotText _ _ kind | attachmentsReset _ (.notAList kind)
  | attachmentsReset _ (.notText kind) => some kind
  | _ => none

end Warning

/-- What a cell without readable text holds; nothing is said of a null. -/
def Cell.unreadable? : Cell → Option String
  | .null | .text _ => none
  | .rawText _ => some "invalid UTF-8 text"
  | .blob _ => some "blob"
  | .integer _ => some "integer"
  | .real _ => some "real"

def Json.kindName : Json → String
  | .null => "null"
  | .bool _ => "bool"
  | .int _ | .double _ => "number"
  | .str _ => "string"
  | .arr _ => "array"
  | .obj _ => "object"

namespace Scrub

def columnWarnings (id : Int) (column : String) (c : Cell) : List Warning :=
  (c.unreadable?.map (Warning.columnNotText id column)).toList

/-- Why a cell is not a list of attachments, if it is none. -/
def resetReason? (c : Cell) : Option ResetReason :=
  match c.text? with
  | none => some ((c.unreadable?.map .notText).getD .missing)
  | some s =>
    match Json.parse s with
    | none => some .malformed
    | some (.arr _) => none
    | some v => some (.notAList v.kindName)

def messageWarnings (o : ScrubOptions) (read : Int × Message) : List Warning :=
  let (id, m) := read
  let columns :=
    if o.scrubSecrets then
      columnWarnings id "subject" m.subject ++ columnWarnings id "body_md" m.body
    else []
  let attachments :=
    if o.touchesAttachments then
      ((resetReason? m.attachments).map (Warning.attachmentsReset id)).toList
    else []
  columns ++ attachments

/-- The messages that the pass gets to see: all, unless the store refuses a change. -/
def visited (o : ScrubOptions) (access : Access) (s : Snapshot) :
    List (Int × Message) → List (Int × Message)
  | [] => []
  | m :: ms =>
    match writeMessage m.1 (m.2.edit o) access s with
    | .ok _ s => m :: visited o access s ms
    | .error .. => [m]

/-- The warnings of a scrub pass, message by message. -/
def warnings (preset : Preset) (access : Access) (s : Snapshot) : List Warning :=
  let o := preset.options
  match reset preset access s with
  | .error .. => []
  | .ok _ s =>
    if o.readsMessages then
      match s.readMessages with
      | .error _ => []
      | .ok messages => (visited o access s messages).flatMap (messageWarnings o)
    else []

end Scrub
end MailSnapshot
