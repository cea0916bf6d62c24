import MailSnapshot.Attachment.Scrub
import MailSnapshot.Json.Canonical
import MailSnapshot.Json.Reader
import MailSnapshot.Preset
import MailSnapshot.Store.Table

/-! What a scrub pass makes of one message. -/

namespace MailSnapshot

namespace Cell

/-- The items of a stored list of attachments. -/
def items? (c : Cell) : Option (List Json) :=
  match c.text?.bind Json.parse with
  | some (.arr items) => some items
  | _ => none

end Cell

/-- New contents for some columns of a message, and what was done to get there. -/
structure Edit where
  subject : Option String
  body : Option String
  attachments : Option String
  secrets : Nat
  sanitized : Bool
  redacted : Bool
  cleared : Bool
  deriving DecidableEq

namespace Edit

def isEmpty (r : Edit) : Bool :=
  r.subject.isNone && r.body.isNone && r.attachments.isNone

/-- Fills the new contents into a message. A column without new content stays. -/
def fill (r : Edit) (m : Message) : Message :=
  { m with
    subject := (r.subject.map Cell.text).getD m.subject
    body := (r.body.map Cell.text).getD m.body
    attachments := (r.attachments.map Cell.text).getD m.attachments }

end Edit

namespace Scrub

/-- The secrets in a column, and its new text if there are any. Only text is scanned. -/
def scanCell (o : ScrubOptions) (c : Cell) : Option String × Nat :=
  match o.scrubSecrets, c.text? with
  | true, some s =>
    let scan := Secret.scanString s
    (if scan.changed then some scan.string else none, scan.replacements)
  | _, _ => (none, 0)

/-- A body that already is the placeholder does not count as redacted. -/
def redactBody (o : ScrubOptions) (c : Cell) (scanned : Option String) : Option String × Bool :=
  if o.redactBody then
    if c.text? = some o.placeholder then (none, false) else (some o.placeholder, true)
  else (scanned, false)

/-- New attachments, the secrets in the old ones, and whether they were sanitized or cleared. -/
structure AttachmentEdit where
  text : Option String
  secrets : Nat
  sanitized : Bool
  cleared : Bool
  deriving DecidableEq

/-- Anything but a stored list counts as an empty list that must be written anew. -/
def editAttachments (o : ScrubOptions) (c : Cell) : AttachmentEdit :=
  if o.touchesAttachments then
    let stored := c.items?
    let items := stored.getD []
    let cleared := o.dropAttachments && !items.isEmpty
    let kept := Json.arr (if cleared then [] else items)
    let done := if o.scrubSecrets then Attachment.scrub kept else .unchanged kept
    let updated := stored.isNone || cleared || done.value ≠ kept
    { text := if updated then some done.value.canonical else none
      secrets := done.replacements
      sanitized := updated || 0 < done.replacements + done.keysRemoved
      cleared }
  else ⟨none, 0, false, false⟩

end Scrub

/-- What the options make of a message. It depends on the message alone. -/
def Message.edit (o : ScrubOptions) (m : Message) : Edit :=
  let (subject, subjectSecrets) := Scrub.scanCell o m.subject
  let (scanned, bodySecrets) := Scrub.scanCell o m.body
  let (body, redacted) := Scrub.redactBody o m.body scanned
  let attachments := Scrub.editAttachments o m.attachments
  { subject, body, redacted
    attachments := attachments.text
    secrets := subjectSecrets + bodySecrets + attachments.secrets
    sanitized := attachments.sanitized
    cleared := attachments.cleared }

end MailSnapshot
