import MailSnapshot.Proofs.Store.Run

/-! Passes that only read, and passes that take back what they did when they fail. -/

namespace MailSnapshot.Pass
variable {α β : Type} {access : Access} {s : Snapshot} {p : Pass α} {f : α → Pass β}

/-- The snapshot that a run leaves, whether it goes through or fails. -/
def left : EStateM.Result Failure Snapshot α → Snapshot
  | .ok _ t | .error _ t => t

theorem left_map (g : α → β) : left ((g <$> p) access s) = left (p access s) := by
  rw [map_run]
  cases p access s <;> rfl

/-- A pass that leaves every snapshot as it is. -/
def ReadOnly (p : Pass α) : Prop := ∀ access s, left (p access s) = s

/-- A pass that changes nothing when it fails. -/
def AllOrNothing (p : Pass α) : Prop := ∀ access s e t, p access s = .error e t → t = s

theorem readOnly_pure (a : α) : ReadOnly (pure a : Pass α) := fun _ _ => rfl

theorem readOnly_look (g : Snapshot → α) : ReadOnly (look g) := fun _ _ => rfl

theorem readOnly_query (step : Step) (run : Snapshot → Except Fault α) :
    ReadOnly (query step run) := by
  intro access s
  unfold query
  split <;> rfl

theorem ReadOnly.bind (hp : ReadOnly p) (hf : ∀ a, ReadOnly (f a)) : ReadOnly (p >>= f) := by
  intro access s
  have hs := hp access s
  rw [bind_run]
  cases hrun : p access s with
  | ok a t =>
    rw [hrun] at hs
    change left (f a access t) = s
    rw [hf a access t]
    exact hs
  | error e t =>
    rw [hrun] at hs
    exact hs

theorem ReadOnly.allOrNothing (hp : ReadOnly p) : AllOrNothing p := by
  intro access s e t h
  have hs := hp access s
  rw [h] at hs
  exact hs

theorem allOrNothing_atomic (p : Pass α) : AllOrNothing p.atomic := by
  intro access s e t h
  unfold atomic at h
  split at h
  · cases h
  · cases h
    rfl

theorem readOnly_count (u : Table) : ReadOnly (count u) := readOnly_query _ _

theorem readOnly_countIfPresent (u : Table) : ReadOnly (countIfPresent u) := by
  refine (readOnly_look _).bind fun present => ?_
  split
  · exact readOnly_count u
  · exact readOnly_pure 0

theorem readOnly_rowCounts : ReadOnly rowCounts :=
  (readOnly_count _).bind fun _ => (readOnly_count _).bind fun _ => (readOnly_count _).bind fun _ =>
    (readOnly_count _).bind fun _ => (readOnly_count _).bind fun _ =>
      (readOnly_countIfPresent _).bind fun _ => (readOnly_countIfPresent _).bind fun _ =>
        readOnly_pure _

end MailSnapshot.Pass
