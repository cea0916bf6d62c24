import MailSnapshot.Scrub.Message
import MailSnapshot.Store.Read

/-! Scrubbing a snapshot: resetting what is short-lived and cleaning the messages. -/

namespace MailSnapshot

/-- What a scrub pass did. -/
structure ScrubSummary where
  preset : Preset
  agentsTotal : Nat
  ackFlagsCleared : Nat
  recipientsCleared : Nat
  reservationsRemoved : Nat
  linksRemoved : Nat
  secretsReplaced : Nat
  attachmentsSanitized : Nat
  bodiesRedacted : Nat
  attachmentsCleared : Nat
  deriving DecidableEq

namespace ScrubSummary

/-- Agents keep their names. -/
def agentsPseudonymized (_ : ScrubSummary) : Nat := 0

/-- The replacements and removals. The resets are left out: they count every row they visit. -/
def contentChanges (s : ScrubSummary) : Nat :=
  s.reservationsRemoved + s.linksRemoved + s.secretsReplaced + s.attachmentsSanitized +
    s.bodiesRedacted + s.attachmentsCleared

/-- Adds what was done to one message. -/
def addEdit (s : ScrubSummary) (r : Edit) : ScrubSummary :=
  { s with
    secretsReplaced := s.secretsReplaced + r.secrets
    attachmentsSanitized := s.attachmentsSanitized + r.sanitized.toNat
    bodiesRedacted := s.bodiesRedacted + r.redacted.toNat
    attachmentsCleared := s.attachmentsCleared + r.cleared.toNat }

end ScrubSummary

namespace Scrub

/-- The columns that a change of a message sets. -/
def editedColumns : List String := ["subject", "body_md", "attachments"]

def resetAcks : Pass Nat :=
  Pass.change .resetAcks fun access s =>
    s.update access .messages ["ack_required"] (fun _ => true) fun m =>
      { m with ackRequired := .integer 0 }

def resetReads : Pass Nat :=
  Pass.change .resetReads fun access s =>
    s.update access .recipients ["read_ts", "ack_ts"] (fun _ => true) fun r =>
      { r with readAt := .null, ackAt := .null }

/-- Deletes all rows of a table, which may be missing. -/
def emptyTable (t : Table) : Pass Nat := do
  if ← Pass.look (·.has t) then
    Pass.change (.emptyTable t) fun access s => s.delete access t [] fun _ => .yes
  else return 0

def when (switch : Bool) (p : Pass Nat) : Pass Nat := if switch then p else return 0

/-- Everything but the messages' contents. -/
def reset (preset : Preset) : Pass ScrubSummary := do
  let o := preset.options
  let agents ← Pass.count .agents
  let acks ← when o.clearAckState resetAcks
  let reads ← when o.clearRecipients resetReads
  let reservations ← when o.clearFileReservations (emptyTable .reservations)
  let links ← when o.clearAgentLinks (emptyTable .links)
  return ⟨preset, agents, acks, reads, reservations, links, 0, 0, 0, 0⟩

/-- Writes the new contents into every message with the id. -/
def writeMessage (id : Int) (r : Edit) : Pass Unit := do
  unless r.isEmpty do
    discard <| Pass.change .editMessage fun access s =>
      s.update access .messages editedColumns (fun m => m.id.same (.integer id)) r.fill

/-- Cleans one message as it was read. -/
def scrubMessage (o : ScrubOptions) (summary : ScrubSummary) (read : Int × Message) :
    Pass ScrubSummary := do
  let r := read.2.edit o
  writeMessage read.1 r
  return summary.addEdit r

/-- The messages are all read before the first one is changed. -/
def scrubMessages (o : ScrubOptions) (summary : ScrubSummary) : Pass ScrubSummary := do
  if o.readsMessages then
    let messages ← Pass.query .readMessages Snapshot.readMessages
    messages.foldlM (scrubMessage o) summary
  else return summary

/-- One scrub pass. All its changes are made together or not at all. -/
def apply (preset : Preset) : Pass ScrubSummary :=
  Pass.atomic do scrubMessages preset.options (← reset preset)

end Scrub
end MailSnapshot
