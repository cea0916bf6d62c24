import MailSnapshot.Failure
import MailSnapshot.Text.Blank
import MailSnapshot.Text.Lowercase

/-! Scrub presets: named sets of switches for a scrub pass. -/

namespace MailSnapshot

/-- What a scrub pass does. -/
structure ScrubOptions where
  redactBody : Bool
  bodyPlaceholder : Option String
  dropAttachments : Bool
  scrubSecrets : Bool
  clearAckState : Bool
  clearRecipients : Bool
  clearFileReservations : Bool
  clearAgentLinks : Bool
  deriving DecidableEq

namespace ScrubOptions

/-- The text of a redacted body. -/
def redactedBody : String := "[Message body redacted]"

def touchesAttachments (o : ScrubOptions) : Bool := o.dropAttachments || o.scrubSecrets

def placeholder (o : ScrubOptions) : String := o.bodyPlaceholder.getD redactedBody

/-- Some part of a message may change. -/
def readsMessages (o : ScrubOptions) : Bool :=
  o.scrubSecrets || o.redactBody || o.touchesAttachments

end ScrubOptions

inductive Preset where
  | standard
  | strict
  | archive
  deriving DecidableEq

namespace Preset

def name : Preset → String
  | standard => "standard"
  | strict => "strict"
  | archive => "archive"

def all : List Preset := [standard, strict, archive]

/-- The archive preset keeps everything; the strict one adds the redaction of bodies and the removal
of attachments to the standard one. -/
def options : Preset → ScrubOptions
  | standard => ⟨false, none, false, true, true, true, true, true⟩
  | strict => ⟨true, some ScrubOptions.redactedBody, true, true, true, true, true, true⟩
  | archive => ⟨false, none, false, false, false, false, false, false⟩

/-- A name without the blanks around it, its ASCII letters small. -/
def normalize (s : String) : String := Text.lowercaseAscii (Text.trim s)

def ofName? (s : String) : Option Preset :=
  all.find? fun p => p.name = normalize s

/-- The preset with this name. A name that is none never stands for another preset. -/
def parse (s : String) : Except Failure Preset :=
  match ofName? s with
  | some p => .ok p
  | none => .error (.invalidPreset (normalize s))

end Preset
end MailSnapshot
