import MailSnapshot.Command.Program
import MailSnapshot.Json.Canonical
import MailSnapshot.Json.Reader
import MailSnapshot.Main
import MailSnapshot.Proofs.Attachment.Counters
import MailSnapshot.Proofs.Export.Outcome
import MailSnapshot.Proofs.Json.CanonicalForm
import MailSnapshot.Proofs.Json.Equivalent
import MailSnapshot.Proofs.Scope.Confinement
import MailSnapshot.Proofs.Scope.Everything
import MailSnapshot.Proofs.Scope.Stages
import MailSnapshot.Proofs.Scrub.Redaction
import MailSnapshot.Proofs.Scrub.Tolerance
import MailSnapshot.Proofs.Scrub.Writing
import MailSnapshot.Proofs.Secret.Coverage
import MailSnapshot.Proofs.Secret.Rescan
import MailSnapshot.Proofs.Secret.Separation
import MailSnapshot.Proofs.Session.Commute
import MailSnapshot.Proofs.Session.Failure
import MailSnapshot.Proofs.Session.Invariant
import MailSnapshot.Report
import MailSnapshot.Sample.Listing
import MailSnapshot.Scrub.Warning
import MailSnapshot.Settings
import MailSnapshot.Store.Document
import MailSnapshot.Proofs.Scope.Accounting
import MailSnapshot.Proofs.Scope.Naming
import MailSnapshot.Proofs.Secret.Spans
