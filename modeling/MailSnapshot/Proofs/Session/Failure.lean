import MailSnapshot.Proofs.Session.Invariant

/-! Calls that fail. Whatever the snapshot is like and wherever a call breaks off, it leaves no
trace: the rest of the session goes as if that call had never been made. -/

namespace MailSnapshot

theorem Pass.AllOrNothing.map {α β : Type} {p : Pass α} (hp : p.AllOrNothing) (g : α → β) :
    Pass.AllOrNothing (g <$> p) :=
  fun access s e t h => hp access s e t ((Pass.map_eq_error_iff g).1 h)

namespace Session
variable {access : Access} {s t : Snapshot} {e : Failure} {calls : List Call} {call : Call}
  {i : Nat}

theorem allOrNothing_call : (call : Call) → Pass.AllOrNothing call.run
  | .scrub _ => (Pass.allOrNothing_atomic _).map _
  | .scope identifiers => (Scope.allOrNothing_apply identifiers).map _

/-- A call that failed left every table as it found it, and a session without that call comes to the
same: the same outcome of every other call, and the same snapshot at the end. -/
theorem failed_call_leaves_no_trace (h : (outcomes access s calls)[i]? = some (.error e t)) :
    t = reached access s (calls.take i) ∧
      outcomes access s (calls.eraseIdx i) = (outcomes access s calls).eraseIdx i ∧
      reached access s (calls.eraseIdx i) = reached access s calls := by
  induction calls generalizing s i with
  | nil => cases h
  | cons call calls ih =>
    cases i with
    | zero =>
      have hrun : call.run access s = .error e t := Option.some.inj h
      obtain rfl : t = s := allOrNothing_call call access s e t hrun
      have hleft : Pass.left (call.run access t) = t := by rw [hrun, Pass.left]
      refine ⟨rfl, ?_, ?_⟩
      · rw [outcomes, hleft]
        rfl
      · rw [reached_cons, hleft]
        rfl
    | succ i =>
      obtain ⟨hsame, houtcomes, hreached⟩ := ih (s := Pass.left (call.run access s)) h
      exact ⟨hsame, congrArg (call.run access s :: ·) houtcomes, hreached⟩

/-- The calls of a session that go through. -/
def effective (access : Access) (s : Snapshot) : List Call → List Call
  | [] => []
  | call :: calls =>
    match call.run access s with
    | .ok _ t => call :: effective access t calls
    | .error _ t => effective access t calls

def succeeded : EStateM.Result Failure Snapshot Answer → Bool
  | .ok _ _ => true
  | .error _ _ => false

/-- All failed calls at once: a session comes to what the calls that go through come to alone. -/
theorem outcomes_effective :
    outcomes access s (effective access s calls) = (outcomes access s calls).filter succeeded ∧
      reached access s (effective access s calls) = reached access s calls := by
  induction calls generalizing s with
  | nil => exact ⟨rfl, rfl⟩
  | cons call calls ih =>
    cases hrun : call.run access s with
    | ok a t =>
      have heffective : effective access s (call :: calls) = call :: effective access t calls := by
        rw [effective, hrun]
      rw [heffective, outcomes, outcomes, reached_cons, reached_cons, hrun]
      exact ⟨congrArg (EStateM.Result.ok a t :: ·) ih.1, ih.2⟩
    | error e t =>
      have heffective : effective access s (call :: calls) = effective access t calls := by
        rw [effective, hrun]
      obtain rfl : t = s := allOrNothing_call call access s e t hrun
      rw [heffective, outcomes, reached_cons, hrun]
      exact ih

/-- Two projects, and a store that lets no reservation go. -/
def guardedSample : Snapshot :=
  { Snapshot.empty .loose with
    triggers := [⟨.delete, .reservations, none, "kept"⟩]
    projects := some [⟨.integer 1, .text "one", .null⟩, ⟨.integer 2, .text "two", .null⟩]
    agents := some [⟨.integer 1, .integer 1, .null⟩]
    messages := some
      [⟨.integer 1, .integer 1, .integer 1, .null, .null, .null, .integer 1⟩]
    recipients := some [⟨.integer 1, .integer 1, .text "now", .null⟩]
    reservations := some [⟨.integer 1, .integer 1, .integer 1, .null⟩] }

/-- The scrub call has reset both kinds of marks when the store refuses to go on. The scope call
after it finds them set. -/
theorem failed_scrub_guardedSample :
    Pass.left (Scrub.reset .standard .readWrite guardedSample) ≠ guardedSample ∧
      (outcomes .readWrite guardedSample [.scrub .standard, .scope ["one"]])[0]? =
        some (.error (.store (.emptyTable .reservations) (.refused "kept")) guardedSample) ∧
      outcomes .readWrite guardedSample [.scope ["one"]] =
        (outcomes .readWrite guardedSample [.scrub .standard, .scope ["one"]]).eraseIdx 0 := by
  have hfails : (outcomes .readWrite guardedSample [.scrub .standard, .scope ["one"]])[0]? =
      some (.error (.store (.emptyTable .reservations) (.refused "kept")) guardedSample) := by rfl
  exact ⟨by decide, hfails, (failed_call_leaves_no_trace hfails).2.1⟩

end Session
end MailSnapshot
