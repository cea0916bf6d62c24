import MailSnapshot.Scope.Identifier
import MailSnapshot.Scope.Plan

/-! Confining a snapshot to the projects that somebody names. -/

namespace MailSnapshot

/-- What scoping kept and removed. -/
structure ScopeResult where
  identifiers : List String
  projects : List ProjectRecord
  removedCount : Nat
  orphansRemoved : Nat
  remaining : RowCounts
  deriving DecidableEq

namespace Scope

/-- No identifiers keep every project. When every project is kept nothing is deleted. -/
def apply (identifiers : List String) : Pass ScopeResult := do
  let projects ← Pass.query .readProjects Snapshot.readProjects
  if projects.isEmpty then throw .noProjects
  if identifiers.isEmpty then
    return ⟨[], projects, 0, 0, ← Pass.rowCounts⟩
  let kept ← liftExcept (resolve projects identifiers)
  if kept.length = projects.length then
    return ⟨identifiers, kept, 0, 0, ← Pass.rowCounts⟩
  Pass.atomic do
    let totals ← deleteUnselected (kept.map fun p => .integer p.id)
    return ⟨identifiers, kept, totals.projects, totals.orphans, ← Pass.rowCounts⟩
where
  liftExcept {α : Type} : Except Failure α → Pass α
    | .ok a => return a
    | .error e => throw e

end Scope
end MailSnapshot
