import MailSnapshot.Store.Statement

/-! Passes over a snapshot. A failing pass stops where it fails, with the changes made so far; an
atomic one takes them back. -/

namespace MailSnapshot

/-- A computation on an open snapshot. -/
abbrev Pass := ReaderT Access (EStateM Failure Snapshot)

namespace Pass
variable {α : Type}

/-- A statement that may change rows. -/
def change (step : Step) (run : Access → Snapshot → Except Fault (α × Snapshot)) : Pass α :=
  fun access s =>
    match run access s with
    | .ok (a, t) => .ok a t
    | .error fault => .error (.store step fault) s

def query (step : Step) (run : Snapshot → Except Fault α) : Pass α := fun _ s =>
  match run s with
  | .ok a => .ok a s
  | .error fault => .error (.store step fault) s

/-- Reads the open snapshot as it is. -/
def look (f : Snapshot → α) : Pass α := fun _ s => .ok (f s) s

/-- A pass that changes everything or nothing. -/
def atomic (p : Pass α) : Pass α := fun access s =>
  match p access s with
  | .ok a t => .ok a t
  | .error e _ => .error e s

end Pass
end MailSnapshot
