import MailSnapshot.FileTree.Snapshot
import MailSnapshot.Report
import MailSnapshot.Settings

/-! Exporting: a copy of a snapshot is scoped and scrubbed, and is kept only if both succeed. -/

namespace MailSnapshot

/-- What to export and where to. -/
structure ExportRequest where
  source : String
  output : String
  projects : List String
  preset : Option String
  noScrub : Bool
  force : Bool
  deriving DecidableEq

namespace Settings

/-- The preset that a command line names, or else the one set. -/
def choosePreset (s : Settings) : Option String → Except Failure Preset
  | some name => Preset.parse name
  | none => .ok s.preset

/-- The projects that a command line names, or else those set. -/
def chooseProjects (s : Settings) (named : List String) : List String :=
  if named.isEmpty then s.projects else named

end Settings

namespace Export

/-- What must hold before anything is changed. -/
def check (r : ExportRequest) : FileOp Unit := do
  unless ← FileOp.look (·.has r.source) do throw (.snapshotNotFound r.source)
  if ← FileOp.look (·.sameFile r.source r.output) then throw (.badArgument .outputIsSource)
  if ← FileOp.look (·.has r.output) then
    unless r.force do throw (.badArgument (.outputExists r.output))

/-- Both passes on the copy. -/
def passes (r : ExportRequest) (projects : List String) (preset : Option Preset) :
    FileOp (ScopeResult × Option ScrubSummary) := do
  let scope ← FileOp.scope r.output projects
  match preset with
  | some p => return (scope, some (← FileOp.scrub r.output p))
  | none => return (scope, none)

/-- Does something and, when it fails, removes a file. -/
def orRemove {α : Type} (path : String) (op : FileOp α) : FileOp α := fun t =>
  match op t with
  | .ok a t => .ok a t
  | .error e t =>
    match FileOp.removeFile path t with
    | .ok _ t | .error _ t => .error e t

def run (settings : Settings) (r : ExportRequest) : FileOp ExportReport := do
  let preset ← FileOp.ofExcept (settings.choosePreset r.preset)
  check r
  if ← FileOp.look (·.has r.output) then FileOp.removeFile r.output
  FileOp.copySnapshot r.source r.output
  let (scope, scrub) ← orRemove r.output <|
    passes r (settings.chooseProjects r.projects)
      (if settings.scrub && !r.noScrub then some preset else none)
  return ⟨r.output, scope, scrub⟩

end Export
end MailSnapshot
