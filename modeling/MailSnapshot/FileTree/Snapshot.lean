import MailSnapshot.FileTree.Opening
import MailSnapshot.Scope.Basic
import MailSnapshot.Scrub.Basic

/-! Snapshot files: running passes on them and copying them. -/

namespace MailSnapshot.FileOp
variable {α : Type}

/-- Runs a pass on a file. A file that is no snapshot shows at the pass's first step. -/
def onSnapshot (path : String) (first : Step) (p : Pass α) : FileOp α := do
  unless ← look (·.has path) do throw (.snapshotNotFound path)
  match ← openSnapshot path with
  | .error fault => throw (.store (.openSnapshot path) fault)
  | .ok o =>
    match o.snapshot? with
    | none => throw (.store first .notASnapshot)
    | some s =>
      if first = .beginPass ∧ o.cannotBegin then throw (.store first .noJournal)
      match p o.access s with
      | .ok a s => save o s; return a
      | .error e s => save o s; throw e

def scrub (path : String) (preset : Preset) : FileOp ScrubSummary :=
  onSnapshot path .beginPass (Scrub.apply preset)

def scope (path : String) (identifiers : List String) : FileOp ScopeResult :=
  onSnapshot path .readProjects (Scope.apply identifiers)

def rowCounts (path : String) : FileOp RowCounts :=
  onSnapshot path (.countRows .projects) Pass.rowCounts

/-- Copies a snapshot into a new file, making the directories above it. -/
def copySnapshot (source destination : String) : FileOp Unit := do
  unless ← look (·.has source) do throw (.snapshotNotFound source)
  if ← look (·.has destination) then throw (.destinationExists destination)
  makeParents destination
  match ← openSnapshot source with
  | .error fault => throw (.store (.openSource source) fault)
  | .ok o =>
    match o.snapshot? with
    | none => throw (.store (.writeSnapshot destination) .notASnapshot)
    | some s =>
      if let some fault ← writeCopy o s destination then
        throw (.store (.writeSnapshot destination) fault)

end MailSnapshot.FileOp
