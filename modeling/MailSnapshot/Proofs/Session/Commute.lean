import MailSnapshot.Proofs.Scope.Indifference
import MailSnapshot.Proofs.Scrub.RowWise

/-! The order of a scrub pass and a scope call. Scrubbing takes each row by itself and scoping does
not look at what it changes. -/

namespace MailSnapshot.Session
variable {s t : Snapshot} {identifiers : List String} {result : ScopeResult} {preset : Preset}

theorem sparing_cleaning (preset : Preset) : (Scrub.cleaning preset).Sparing := fun _ hv hl r =>
  Scrub.isSome_cleaning hv hl r

/-- A message of the second project goes to an agent of the first one, the reservation in the first
project is an agent's of the second, and the two agents are linked. -/
def crossedSample : Snapshot :=
  { Snapshot.empty .strict with
    projects := some [⟨.integer 1, .text "one", .text "/one"⟩,
      ⟨.integer 2, .text "two", .text "/two"⟩]
    agents := some [⟨.integer 1, .integer 1, .text "x"⟩, ⟨.integer 2, .integer 2, .text "y"⟩]
    messages := some [
      ⟨.integer 1, .integer 1, .integer 1, .text "plain", .text "hello", .text "[1]", .integer 1⟩,
      ⟨.integer 2, .integer 2, .integer 2, .text "plain", .text "hello", .null, .integer 0⟩]
    recipients := some [⟨.integer 1, .integer 1, .text "now", .null⟩,
      ⟨.integer 2, .integer 1, .null, .null⟩]
    reservations := some [⟨.integer 1, .integer 1, .integer 2, .text "*"⟩]
    links := some [⟨.integer 1, .integer 1, .integer 1, .integer 2, .integer 2⟩] }

theorem strict_crossedSample : crossedSample.Strict := by decide

theorem complete_crossedSample : crossedSample.Complete := by decide

theorem narrows_crossedSample : Scope.Narrows crossedSample ["one"] [.integer 1] :=
  ⟨[⟨1, "one", "/one"⟩, ⟨2, "two", "/two"⟩], [⟨1, "one", "/one"⟩], rfl, by simp,
    by decide +kernel, by decide, rfl⟩

end MailSnapshot.Session
