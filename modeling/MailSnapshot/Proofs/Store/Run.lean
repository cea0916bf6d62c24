import MailSnapshot.Store.Read
import Mathlib.Data.List.Forall2

/-! Runs: one computation after another, and one for each item of a list. -/

namespace MailSnapshot

theorem bind_ok_iff {α β ε : Type} {x : Except ε α} {f : α → Except ε β} {b : β} :
    (x >>= f) = .ok b ↔ ∃ a, x = .ok a ∧ f a = .ok b := by
  cases x with
  | ok a => simp [bind, Except.bind]
  | error e => simp [bind, Except.bind]

theorem bind_error_iff {α β ε : Type} {x : Except ε α} {f : α → Except ε β} {e : ε} :
    (x >>= f) = .error e ↔ x = .error e ∨ ∃ a, x = .ok a ∧ f a = .error e := by
  cases x with
  | ok a => simp [bind, Except.bind]
  | error e => simp [bind, Except.bind]

/-- A computation that is skipped under a condition. -/
theorem skip_ok_iff {α ε : Type} {c : Prop} [Decidable c] {x : Except ε Unit} {y : Except ε α}
    {a : α} : (if c then y else x >>= fun _ => y) = .ok a ↔ (c ∨ x = .ok ()) ∧ y = .ok a := by
  split
  · rename_i hc
    simp [hc]
  · rename_i hc
    rw [bind_ok_iff]
    constructor
    · rintro ⟨_, hx, hy⟩
      exact ⟨.inr hx, hy⟩
    · rintro ⟨hx, hy⟩
      exact ⟨(), hx.resolve_left hc, hy⟩

section MapM
variable {α β ε : Type} {f : α → Except ε β} {xs : List α} {ys : List β}

/-- A run for each item of a list goes through exactly when each of them does. -/
theorem mapM_eq_ok_iff : xs.mapM f = .ok ys ↔ List.Forall₂ (fun x y => f x = .ok y) xs ys := by
  induction xs generalizing ys with
  | nil =>
    rw [List.mapM_nil, List.forall₂_nil_left_iff]
    constructor
    · rintro ⟨⟩
      rfl
    · rintro rfl
      rfl
  | cons x xs ih =>
    simp only [List.mapM_cons, bind_ok_iff, List.forall₂_cons_left_iff, ih]
    constructor
    · rintro ⟨y, hy, ys', hys, h⟩
      cases h
      exact ⟨y, ys', hy, hys, rfl⟩
    · rintro ⟨y, ys', hy, hys, rfl⟩
      exact ⟨y, hy, ys', hys, rfl⟩

theorem exists_mem_of_mapM (h : xs.mapM f = .ok ys) {y : β} (hy : y ∈ ys) :
    ∃ x ∈ xs, f x = .ok y := by
  have hall := mapM_eq_ok_iff.1 h
  clear h
  induction hall with
  | nil => cases hy
  | cons hxy _ ih =>
    rcases List.mem_cons.1 hy with rfl | hy
    · exact ⟨_, by simp, hxy⟩
    · obtain ⟨x, hx, hf⟩ := ih hy
      exact ⟨x, by simp [hx], hf⟩

theorem exists_of_mem_of_mapM (h : xs.mapM f = .ok ys) {x : α} (hx : x ∈ xs) :
    ∃ y ∈ ys, f x = .ok y := by
  have hall := mapM_eq_ok_iff.1 h
  clear h
  induction hall with
  | nil => cases hx
  | cons hxy _ ih =>
    rcases List.mem_cons.1 hx with rfl | hx
    · exact ⟨_, by simp, hxy⟩
    · obtain ⟨y, hy, hf⟩ := ih hx
      exact ⟨y, by simp [hy], hf⟩

/-- A run for each item of a list fails with the first item that does. -/
theorem mapM_eq_error_iff {e : ε} : xs.mapM f = .error e ↔
    ∃ before x after, xs = before ++ x :: after ∧ (∀ y ∈ before, ∃ z, f y = .ok z) ∧
      f x = .error e := by
  induction xs with
  | nil =>
    constructor
    · intro h
      cases h
    · rintro ⟨before, x, after, h, -⟩
      simp at h
  | cons x xs ih =>
    rw [List.mapM_cons]
    constructor
    · intro h
      cases hx : f x with
      | error e' =>
        rw [hx] at h
        cases h
        exact ⟨[], x, xs, rfl, by simp, hx⟩
      | ok z =>
        cases hrest : xs.mapM f with
        | ok zs =>
          rw [hx, hrest] at h
          cases h
        | error e' =>
          rw [hx, hrest] at h
          cases h
          obtain ⟨before, y, after, rfl, hbefore, hy⟩ := ih.1 hrest
          exact ⟨x :: before, y, after, rfl, List.forall_mem_cons.2 ⟨⟨z, hx⟩, hbefore⟩, hy⟩
    · rintro ⟨before, y, after, h, hbefore, hy⟩
      cases before with
      | nil =>
        cases h
        rw [hy]
        rfl
      | cons w before =>
        cases h
        obtain ⟨⟨z, hz⟩, hbefore⟩ := List.forall_mem_cons.1 hbefore
        rw [hz, ih.2 ⟨before, y, after, rfl, hbefore, hy⟩]
        rfl

theorem exists_mapM (h : ∀ x ∈ xs, ∃ y, f x = .ok y) : ∃ ys, xs.mapM f = .ok ys := by
  induction xs with
  | nil => exact ⟨[], rfl⟩
  | cons x xs ih =>
    obtain ⟨y, hy⟩ := h x (by simp)
    obtain ⟨ys, hys⟩ := ih fun z hz => h z (by simp [hz])
    exact ⟨y :: ys, mapM_eq_ok_iff.2 (.cons hy (mapM_eq_ok_iff.1 hys))⟩

end MapM

theorem Cell.readInteger_eq_ok_iff {c : Cell} {index : Nat} {column : String} {n : Int} :
    c.readInteger index column = .ok n ↔ c = .integer n := by
  cases c <;> simp [readInteger]

theorem Cell.readInteger_eq_error_iff {c : Cell} {index : Nat} {column : String} {fault : Fault} :
    c.readInteger index column = .error fault ↔
      c.kind ≠ .integer ∧ fault = .columnKind c.kind index column := by
  cases c <;> simp [readInteger, kind, eq_comm]

namespace Pass
variable {α β : Type} {access : Access} {s t u : Snapshot} {p : Pass α} {f : α → Pass β} {a : α}
  {b : β} {e : Failure}

@[simp] theorem pure_run (a : α) : (pure a : Pass α) access s = .ok a s := rfl

@[simp] theorem look_run (g : Snapshot → α) : look g access s = .ok (g s) s := rfl

theorem bind_run : (p >>= f) access s =
    match p access s with
    | .ok a t => f a access t
    | .error e t => .error e t := by
  change EStateM.bind (p access) (fun a => f a access) s = _
  unfold EStateM.bind
  cases p access s <;> rfl

theorem map_run (g : α → β) : (g <$> p) access s =
    match p access s with
    | .ok a t => .ok (g a) t
    | .error e t => .error e t := by
  change EStateM.map g (p access) s = _
  unfold EStateM.map
  cases p access s <;> rfl

theorem map_eq_error_iff (g : α → β) :
    (g <$> p) access s = .error e t ↔ p access s = .error e t := by
  rw [map_run]
  cases p access s <;> simp

theorem bind_run_of_ok (h : p access s = .ok a t) : (p >>= f) access s = f a access t := by
  rw [bind_run, h]

theorem bind_run_of_error (h : p access s = .error e t) : (p >>= f) access s = .error e t := by
  rw [bind_run, h]

theorem bind_eq_ok_iff :
    (p >>= f) access s = .ok b u ↔ ∃ a t, p access s = .ok a t ∧ f a access t = .ok b u := by
  rw [bind_run]
  cases p access s with
  | ok a t =>
    constructor
    · intro h
      exact ⟨a, t, rfl, h⟩
    · rintro ⟨_, _, ⟨⟩, h⟩
      exact h
  | error e t =>
    constructor
    · intro h
      cases h
    · rintro ⟨_, _, ⟨⟩, _⟩

theorem discard_eq_ok_iff {done : Unit} :
    (discard p : Pass Unit) access s = .ok done t ↔ ∃ a, p access s = .ok a t := by
  change ((fun _ => ()) <$> p : Pass Unit) access s = .ok done t ↔ _
  rw [map_run]
  cases p access s with
  | ok a u => simp
  | error e u => simp

theorem query_eq_ok_iff {step : Step} {run : Snapshot → Except Fault α} :
    query step run access s = .ok a t ↔ run s = .ok a ∧ t = s := by
  unfold query
  cases run s with
  | ok b => simp [eq_comm]
  | error fault => simp

theorem query_run_of_ok {step : Step} {run : Snapshot → Except Fault α} (h : run s = .ok a) :
    query step run access s = .ok a s := by
  rw [query, h]

theorem query_run_of_error {step : Step} {run : Snapshot → Except Fault α} {fault : Fault}
    (h : run s = .error fault) : query step run access s = .error (.store step fault) s := by
  rw [query, h]

theorem change_eq_ok_iff {step : Step} {run : Access → Snapshot → Except Fault (α × Snapshot)} :
    change step run access s = .ok a t ↔ run access s = .ok (a, t) := by
  unfold change
  cases run access s with
  | ok b => simp [Prod.ext_iff]
  | error fault => simp

theorem change_run_of_error {step : Step} {run : Access → Snapshot → Except Fault (α × Snapshot)}
    {fault : Fault} (h : run access s = .error fault) :
    change step run access s = .error (.store step fault) s := by
  rw [change, h]

theorem atomic_eq_ok_iff : p.atomic access s = .ok a t ↔ p access s = .ok a t := by
  unfold atomic
  cases p access s <;> simp

theorem atomic_run_of_error (h : p access s = .error e t) :
    p.atomic access s = .error e s := by
  rw [atomic, h]

end Pass
end MailSnapshot
