import MailSnapshot.Proofs.Store.Restriction
import MailSnapshot.Scope.Basic

/-! Which projects a scope call selects, and when it comes down to the plan of deletions. -/

namespace MailSnapshot

theorem Project.id_of_record {p : Project} {record : ProjectRecord} (h : p.record = .ok record) :
    p.id = .integer record.id := by
  obtain ⟨id, hid, h⟩ := bind_ok_iff.1 h
  obtain ⟨slug, _, h⟩ := bind_ok_iff.1 h
  obtain ⟨humanKey, _, h⟩ := bind_ok_iff.1 h
  cases h
  exact Cell.readInteger_eq_ok_iff.1 hid

/-- Every project that was read stands in the table. -/
theorem Snapshot.exists_project_of_readProjects {s : Snapshot} {projects : List ProjectRecord}
    (h : s.readProjects = .ok projects) {record : ProjectRecord} (hr : record ∈ projects) :
    ∃ p ∈ s.rows .projects, p.id = .integer record.id := by
  obtain ⟨_, hneed, h⟩ := bind_ok_iff.1 h
  obtain ⟨_, rfl⟩ := need_eq_ok_iff.1 hneed
  obtain ⟨p, hp, hrecord⟩ := exists_mem_of_mapM h hr
  exact ⟨p, (orderById_perm _).mem_iff.1 hp, Project.id_of_record hrecord⟩

/-- Where the projects can be read, each row is one of those that were read. -/
theorem Snapshot.exists_record_of_readProjects {s : Snapshot} {projects : List ProjectRecord}
    (h : s.readProjects = .ok projects) {p : Project} (hp : p ∈ s.rows .projects) :
    ∃ record ∈ projects, p.id = .integer record.id := by
  obtain ⟨_, hneed, h⟩ := bind_ok_iff.1 h
  obtain ⟨_, rfl⟩ := need_eq_ok_iff.1 hneed
  obtain ⟨record, hmem, hrecord⟩ := exists_of_mem_of_mapM h ((orderById_perm _).mem_iff.2 hp)
  exact ⟨record, hmem, Project.id_of_record hrecord⟩

/-- Where the projects can be read, their ids are integers. -/
theorem Snapshot.id_of_readProjects {s : Snapshot} {projects : List ProjectRecord}
    (h : s.readProjects = .ok projects) {p : Project} (hp : p ∈ s.rows .projects) :
    ∃ n, p.id = .integer n := by
  obtain ⟨record, -, hid⟩ := exists_record_of_readProjects h hp
  exact ⟨record.id, hid⟩

namespace Scope
variable {projects found kept : List ProjectRecord} {identifiers : List String} {keep : List Cell}
  {s : Snapshot}

theorem mem_of_pick? {key : String} {p : ProjectRecord} (h : pick? projects key = some p) :
    p ∈ projects := by
  rw [pick?, Option.orElse_eq_orElse, Option.orElse_eq_or, Option.or_eq_some_iff] at h
  rcases h with h | ⟨_, h⟩
  · exact List.mem_of_find?_eq_some h
  · exact List.mem_of_find?_eq_some h

theorem mem_of_addOnce {p q : ProjectRecord} (h : q ∈ addOnce found p) : q ∈ found ∨ q = p := by
  unfold addOnce at h
  split at h
  · exact .inl h
  · simpa using h

theorem subset_of_resolveFrom (hf : found ⊆ projects)
    (h : resolveFrom projects found identifiers = .ok kept) : kept ⊆ projects := by
  induction identifiers generalizing found with
  | nil =>
    cases h
    exact hf
  | cons identifier others ih =>
    simp only [resolveFrom] at h
    split at h
    · exact ih hf h
    · split at h
      · rename_i p hp
        apply ih _ h
        intro q hq
        rcases mem_of_addOnce hq with hq | rfl
        · exact hf hq
        · exact mem_of_pick? hp
      · cases h

/-- Only projects that are there are ever selected. -/
theorem subset_of_resolve (h : resolve projects identifiers = .ok kept) : kept ⊆ projects := by
  obtain ⟨found, hfound, h⟩ := bind_ok_iff.1 h
  split at h
  · cases h
  · cases h
    exact subset_of_resolveFrom (List.nil_subset _) hfound

/-- Scoping by these identifiers selects some of the projects but not all, and so comes down to
the plan that keeps the projects with these ids. -/
def Narrows (s : Snapshot) (identifiers : List String) (keep : List Cell) : Prop :=
  ∃ projects kept, s.readProjects = .ok projects ∧ identifiers ≠ [] ∧
    resolve projects identifiers = .ok kept ∧ kept.length ≠ projects.length ∧
    keep = kept.map fun p => .integer p.id

theorem Narrows.exists_project (h : Narrows s identifiers keep) {c : Cell} (hc : c ∈ keep) :
    ∃ p ∈ s.rows .projects, p.id = c := by
  obtain ⟨projects, kept, hread, _, hresolve, _, rfl⟩ := h
  obtain ⟨record, hrecord, rfl⟩ := List.mem_map.1 hc
  exact Snapshot.exists_project_of_readProjects hread (subset_of_resolve hresolve hrecord)

theorem Narrows.integer_of_mem (h : Narrows s identifiers keep) (c : Cell) (hc : c ∈ keep) :
    ∃ n, c = .integer n := by
  obtain ⟨_, _, _, _, _, _, rfl⟩ := h
  obtain ⟨record, _, rfl⟩ := List.mem_map.1 hc
  exact ⟨record.id, rfl⟩

theorem Narrows.ne_null_of_mem (h : Narrows s identifiers keep) (c : Cell) (hc : c ∈ keep) :
    c ≠ .null := by
  obtain ⟨_, rfl⟩ := h.integer_of_mem c hc
  simp

/-- The plan as a scope call runs it. -/
def planned (identifiers : List String) (kept : List ProjectRecord) (keep : List Cell) :
    Pass ScopeResult :=
  Pass.atomic do
    let totals ← deleteUnselected keep
    return ⟨identifiers, kept, totals.projects, totals.orphans, ← Pass.rowCounts⟩

theorem apply_of_narrows (h : Narrows s identifiers keep) (access : Access) :
    ∃ kept, apply identifiers access s = planned identifiers kept keep access s := by
  obtain ⟨projects, kept, hread, hne, hresolve, hlength, rfl⟩ := h
  refine ⟨kept, ?_⟩
  have hprojects : projects.isEmpty = false := by
    cases projects with
    | nil =>
      have hk := subset_of_resolve hresolve
      rw [List.subset_nil.1 hk] at hlength
      exact (hlength rfl).elim
    | cons => rfl
  unfold apply
  rw [Pass.bind_run_of_ok (Pass.query_run_of_ok hread)]
  simp only [hprojects, Bool.false_eq_true, if_false, List.isEmpty_iff, hne, hresolve,
    apply.liftExcept, pure_bind, hlength]
  rfl

end Scope
end MailSnapshot
