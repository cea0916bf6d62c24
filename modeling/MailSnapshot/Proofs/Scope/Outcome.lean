import MailSnapshot.Proofs.Scope.OneShot
import MailSnapshot.Proofs.Scope.Selection
import MailSnapshot.Proofs.Store.Strict
import MailSnapshot.Proofs.Store.Undo

/-! What a scope call does, on each of its paths: it fails with the snapshot as it was, it keeps
everything, or it runs the plan. -/

namespace MailSnapshot.Scope
variable {projects kept : List ProjectRecord} {identifiers : List String} {keep : List Cell}
  {s t : Snapshot} {access : Access} {totals totals' : Totals} {result : ScopeResult} {e : Failure}
  {d : Deletion}

/-- The projects that a scope call keeps: all of them where nobody names any. -/
def select (projects : List ProjectRecord) (identifiers : List String) :
    Except Failure (List ProjectRecord) :=
  if projects = [] then .error .noProjects
  else if identifiers = [] then .ok projects
  else resolve projects identifiers

/-- A scope call that keeps every project. -/
def untouched (identifiers : List String) (kept : List ProjectRecord) : Pass ScopeResult := do
  return ⟨identifiers, kept, 0, 0, ← Pass.rowCounts⟩

/-- The ids of the kept projects as cells. -/
def keptIds (kept : List ProjectRecord) : List Cell := kept.map fun p => .integer p.id

theorem length_keptIds (kept : List ProjectRecord) : (keptIds kept).length = kept.length :=
  List.length_map _

theorem apply_run (hread : s.readProjects = .ok projects) (identifiers : List String)
    (access : Access) : apply identifiers access s =
      match select projects identifiers with
      | .error e => .error e s
      | .ok kept =>
        if kept.length = projects.length then untouched identifiers kept access s
        else planned identifiers kept (keptIds kept) access s := by
  unfold apply select
  rw [Pass.bind_run_of_ok (Pass.query_run_of_ok hread)]
  by_cases hp : projects = []
  · simp only [hp, List.isEmpty_nil, if_true]
    rfl
  · by_cases hi : identifiers = []
    · simp only [hi, hp, List.isEmpty_iff, if_true, if_false]
      rfl
    · cases hresolve : resolve projects identifiers with
      | error e =>
        simp only [hi, hp, List.isEmpty_iff, if_false]
        rfl
      | ok kept =>
        simp only [hi, hp, List.isEmpty_iff, if_false, apply.liftExcept, pure_bind]
        split <;> rfl

theorem apply_run_of_unreadable {fault : Fault} (hread : s.readProjects = .error fault)
    (identifiers : List String) (access : Access) :
    apply identifiers access s = .error (.store .readProjects fault) s := by
  have hfail : Pass.query .readProjects Snapshot.readProjects access s =
      .error (.store .readProjects fault) s := by rw [Pass.query, hread]
  unfold apply
  exact Pass.bind_run_of_error hfail

theorem readOnly_untouched : Pass.ReadOnly (untouched identifiers kept) :=
  Pass.readOnly_rowCounts.bind fun _ => Pass.readOnly_pure _

/-- A scope call reads until it deletes, and what it deletes it deletes together. -/
theorem allOrNothing_apply (identifiers : List String) :
    Pass.AllOrNothing (apply identifiers) := by
  intro access s e t h
  cases hread : s.readProjects with
  | error fault =>
    rw [apply_run_of_unreadable hread] at h
    cases h
    rfl
  | ok projects =>
    rw [apply_run hread] at h
    split at h
    · cases h
      rfl
    · split at h
      · exact readOnly_untouched.allOrNothing _ _ _ _ h
      · exact Pass.allOrNothing_atomic _ _ _ _ _ h

/-- No selection fails because of the store. -/
theorem select_ne_store {step : Step} {fault : Fault} :
    select projects identifiers ≠ .error (.store step fault) := by
  have hfrom : ∀ found, resolveFrom projects found identifiers ≠ .error (.store step fault) := by
    induction identifiers with
    | nil => simp [resolveFrom]
    | cons identifier others ih =>
      intro found
      rw [resolveFrom]
      split
      · exact ih found
      · split
        · exact ih _
        · simp
  unfold select
  split
  · simp
  · split
    · simp
    · unfold resolve
      cases hfound : resolveFrom projects [] identifiers with
      | error e =>
        intro h
        cases h
        exact hfrom [] hfound
      | ok found =>
        intro h
        change (if found.isEmpty then _ else _) = _ at h
        split at h <;> cases h

theorem narrows_of_select (hread : s.readProjects = .ok projects)
    (hselect : select projects identifiers = .ok kept) (hlength : kept.length ≠ projects.length) :
    Narrows s identifiers (keptIds kept) := by
  unfold select at hselect
  split at hselect
  · cases hselect
  · split at hselect
    · cases hselect
      exact absurd rfl hlength
    · exact ⟨projects, kept, hread, ‹_›, hselect, hlength, rfl⟩

theorem Deletion.run_eq_ok_of_required (hd : d.optional = false)
    (h : d.run keep totals access s = .ok totals' t) :
    totals' = totals.add d (d.doomedCount (.of keep s) s) := by
  rw [Deletion.run_of_required (.inl hd)] at h
  obtain ⟨n, s₁, hc, h⟩ := Pass.bind_eq_ok_iff.1 h
  obtain ⟨-, hdelete⟩ := Deletion.execute_eq_ok_iff.1 (Pass.change_eq_ok_iff.1 hc)
  obtain ⟨-, -, -, -, -, -, rfl, -⟩ := Snapshot.delete_eq_ok_iff.1 hdelete
  cases h
  rfl

/-- The plan counts the projects that it deletes. They are all still there when their turn comes. -/
theorem projects_of_deleteUnselected (h : deleteUnselected keep access s = .ok totals t) :
    totals.projects = outerProjects.doomedCount (.of keep s) s := by
  have hplan : plan = plan.dropLast ++ [outerProjects] := rfl
  have hall : EachAfter (Steady keep s) [] (plan.dropLast ++ [outerProjects]) :=
    hplan ▸ steady_plan
  obtain ⟨hsteady, -⟩ := eachAfter_append.1 hall
  rw [deleteUnselected, hplan, List.foldlM_append, Pass.bind_eq_ok_iff] at h
  obtain ⟨before, u, hbefore, hlast⟩ := h
  rw [← show remains keep s [] = s from remains_nil] at hbefore
  obtain ⟨rfl, -⟩ := foldlM_run_eq_ok hsteady hbefore
  have hrows : (remains keep s ([] ++ plan.dropLast)).rows .projects = s.rows .projects :=
    rows_remains_of_forall_ne (by decide)
  obtain ⟨after, v, hrun, hnone⟩ := Pass.bind_eq_ok_iff.1 hlast
  cases hnone
  rw [Deletion.run_eq_ok_of_required rfl hrun]
  change (Snapshot.gone _ .projects fun p => p.id.notIn keep).length =
    (Snapshot.gone _ .projects fun p => p.id.notIn keep).length
  rw [Snapshot.gone, hrows, Snapshot.gone]

theorem untouched_eq_ok_iff : untouched identifiers kept access s = .ok result t ↔
    s.Complete ∧ t = s ∧ result = ⟨identifiers, kept, 0, 0, s.counts⟩ := by
  unfold untouched
  simp only [Pass.bind_eq_ok_iff, Pass.rowCounts_eq_ok_iff]
  constructor
  · rintro ⟨_, _, ⟨hc, rfl, rfl⟩, h⟩
    cases h
    exact ⟨hc, rfl, rfl⟩
  · rintro ⟨hc, rfl, rfl⟩
    exact ⟨_, _, ⟨hc, rfl, rfl⟩, rfl⟩

theorem planned_eq_ok_iff : planned identifiers kept keep access s = .ok result t ↔
    ∃ totals, deleteUnselected keep access s = .ok totals t ∧ t.Complete ∧
      result = ⟨identifiers, kept, totals.projects, totals.orphans, t.counts⟩ := by
  rw [planned, Pass.atomic_eq_ok_iff]
  simp only [Pass.bind_eq_ok_iff, Pass.rowCounts_eq_ok_iff]
  constructor
  · rintro ⟨totals, u, hrun, _, _, ⟨hc, rfl, rfl⟩, h⟩
    cases h
    exact ⟨totals, hrun, hc, rfl⟩
  · rintro ⟨totals, hrun, hc, rfl⟩
    exact ⟨totals, t, hrun, _, _, ⟨hc, rfl, rfl⟩, rfl⟩

/-- A scope call that narrows the selection leaves what the plan leaves, in any store. -/
theorem eq_remains_of_apply (hn : Narrows s identifiers keep)
    (h : apply identifiers access s = .ok result t) : t = remains keep s plan := by
  obtain ⟨kept, heq⟩ := apply_of_narrows hn access
  rw [heq] at h
  obtain ⟨totals, hrun, -⟩ := planned_eq_ok_iff.1 h
  exact (eq_remains_of_deleteUnselected hrun).1

/-- Where the first deletion fails the call fails with it. -/
theorem apply_of_fault {fault : Fault} (hn : Narrows s identifiers keep)
    (h : (firstDeletion s).execute keep access s = .error fault) :
    apply identifiers access s =
      .error (.store (.deleteRows (firstDeletion s).table) fault) s := by
  obtain ⟨kept, heq⟩ := apply_of_narrows hn access
  rw [heq, planned]
  exact Pass.atomic_run_of_error (Pass.bind_run_of_error (deleteUnselected_of_fault h))

theorem apply_of_excess (hn : Narrows s identifiers keep)
    (hexcess : Parameter.limit < keep.length) :
    apply identifiers access s = .error (excess s keep.length) s :=
  apply_of_fault hn (Deletion.execute_of_excess hexcess)

theorem fit_of_apply (hn : Narrows s identifiers keep)
    (h : apply identifiers access s = .ok result t) : keep.length ≤ Parameter.limit := by
  by_contra hexcess
  rw [apply_of_excess hn (by omega)] at h
  cases h

/-- A scope call that goes through keeps everything or answers with the totals of the plan. -/
theorem apply_outcome (h : apply identifiers access s = .ok result t) :
    ∃ projects kept, s.readProjects = .ok projects ∧ select projects identifiers = .ok kept ∧
      t.Complete ∧
        (kept.length = projects.length ∧ t = s ∧ result = ⟨identifiers, kept, 0, 0, s.counts⟩ ∨
          kept.length ≠ projects.length ∧
            ∃ totals, deleteUnselected (keptIds kept) access s = .ok totals t ∧
              result = ⟨identifiers, kept, totals.projects, totals.orphans, t.counts⟩) := by
  cases hread : s.readProjects with
  | error fault =>
    rw [apply_run_of_unreadable hread] at h
    cases h
  | ok projects =>
    rw [apply_run hread] at h
    cases hselect : select projects identifiers with
    | error e =>
      rw [hselect] at h
      cases h
    | ok kept =>
      rw [hselect] at h
      simp only at h
      by_cases hlength : kept.length = projects.length
      · rw [if_pos hlength] at h
        obtain ⟨hc, rfl, rfl⟩ := untouched_eq_ok_iff.1 h
        exact ⟨projects, kept, rfl, hselect, hc, .inl ⟨hlength, rfl, rfl⟩⟩
      · rw [if_neg hlength] at h
        obtain ⟨totals, hrun, hc, rfl⟩ := planned_eq_ok_iff.1 h
        exact ⟨projects, kept, rfl, hselect, hc, .inr ⟨hlength, totals, hrun, rfl⟩⟩

/-- What a scope call leaves, and how many projects it removes. -/
theorem apply_cases (h : apply identifiers access s = .ok result t) :
    ∃ projects kept, s.readProjects = .ok projects ∧ select projects identifiers = .ok kept ∧
      result.projects = kept ∧ t.Complete ∧
        (kept.length = projects.length ∧ t = s ∧ result.removedCount = 0 ∨
          kept.length ≠ projects.length ∧ t = remains (keptIds kept) s plan ∧
            result.removedCount =
              outerProjects.doomedCount (.of (keptIds kept) s) s) := by
  obtain ⟨projects, kept, hread, hselect, hc, ⟨hlength, rfl, rfl⟩ | ⟨hlength, totals, hrun, rfl⟩⟩ :=
    apply_outcome h
  · exact ⟨projects, kept, hread, hselect, rfl, hc, .inl ⟨hlength, rfl, rfl⟩⟩
  · exact ⟨projects, kept, hread, hselect, rfl, hc, .inr ⟨hlength,
      (eq_remains_of_deleteUnselected hrun).1, projects_of_deleteUnselected hrun⟩⟩

theorem projects_of_apply (hread : s.readProjects = .ok projects)
    (hselect : select projects identifiers = .ok kept)
    (h : apply identifiers access s = .ok result t) : result.projects = kept := by
  obtain ⟨_, _, hread', hselect', hkept, -⟩ := apply_cases h
  cases hread.symm.trans hread'
  cases hselect.symm.trans hselect'
  exact hkept

end MailSnapshot.Scope
