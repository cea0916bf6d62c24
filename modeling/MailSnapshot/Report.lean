import MailSnapshot.Json.Basic
import MailSnapshot.Scope.Basic
import MailSnapshot.Scrub.Basic

/-! Reports of the passes as JSON values, and as the text that a command prints. -/

namespace MailSnapshot

namespace Json

def nat (n : Nat) : Json := .int n

def strings (ss : List String) : Json := .arr (ss.map .str)

end Json

def RowCounts.report (c : RowCounts) : Json :=
  .obj [
    ("projects", .nat c.projects),
    ("agents", .nat c.agents),
    ("messages", .nat c.messages),
    ("recipients", .nat c.recipients),
    ("file_reservations", .nat c.reservations),
    ("agent_links", .nat c.links),
    ("project_sibling_suggestions", .nat c.suggestions)]

def ProjectRecord.report (p : ProjectRecord) : Json :=
  .obj [("id", .int p.id), ("slug", .str p.slug), ("human_key", .str p.humanKey)]

def ScopeResult.report (r : ScopeResult) : Json :=
  .obj [
    ("identifiers", .strings r.identifiers),
    ("projects", .arr (r.projects.map ProjectRecord.report)),
    ("removed_count", .nat r.removedCount),
    ("orphans_removed", .nat r.orphansRemoved),
    ("remaining", r.remaining.report)]

/-- The salt is kept for a pseudonymization that does not happen; it is the preset's name. -/
def ScrubSummary.entries (s : ScrubSummary) : List (String × Json) :=
  [ ("preset", .str s.preset.name),
    ("pseudonym_salt", .str s.preset.name),
    ("agents_total", .nat s.agentsTotal),
    ("agents_pseudonymized", .nat s.agentsPseudonymized),
    ("ack_flags_cleared", .nat s.ackFlagsCleared),
    ("recipients_cleared", .nat s.recipientsCleared),
    ("file_reservations_removed", .nat s.reservationsRemoved),
    ("agent_links_removed", .nat s.linksRemoved),
    ("secrets_replaced", .nat s.secretsReplaced),
    ("attachments_sanitized", .nat s.attachmentsSanitized),
    ("bodies_redacted", .nat s.bodiesRedacted),
    ("attachments_cleared", .nat s.attachmentsCleared)]

def ScrubSummary.report (s : ScrubSummary) : Json := .obj s.entries

/-- What an export made: the path of the output and the results of its passes. -/
structure ExportReport where
  output : String
  scope : ScopeResult
  scrub : Option ScrubSummary
  deriving DecidableEq

def ExportReport.report (r : ExportReport) : Json :=
  .obj [
    ("output", .str r.output),
    ("scope", r.scope.report),
    ("scrub", (r.scrub.map ScrubSummary.report).getD .null)]

def Secret.Scan.report (s : Secret.Scan) : Json :=
  .obj [("replacements", .nat s.replacements), ("text", .str s.string)]

end MailSnapshot
