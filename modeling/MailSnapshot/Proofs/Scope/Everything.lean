import MailSnapshot.Proofs.Scope.Crowd

/-! Scoping to every project. Where every reference names something, the plan finds nothing to
delete, so that a scope call may leave it out. -/

namespace MailSnapshot.Scope
variable {keep : List Cell} {s : Snapshot} {u : Table} {c : Cell} {d : Deletion}
  {ds : List Deletion}

/-- A deletion finds no row to delete. -/
def Idle (keep : List Cell) (s : Snapshot) (d : Deletion) : Prop :=
  s.gone d.table (d.doomed (.of keep s)) = []

section Run

theorem restrict_spares_of_idle (h : Idle keep s d) : s.restrict (d.spares (.of keep s)) = s := by
  apply Snapshot.restrict_of_all
  intro u r hr
  by_cases hu : u = d.table
  · subst hu
    refine Deletion.spares_iff.2 fun hdoomed => ?_
    exact List.filter_eq_nil_iff.1 h r hr (decide_eq_true hdoomed)
  · exact Table.only_of_ne hu r

/-- The projects are counted when their turn comes, so nothing may have been counted before. -/
theorem Totals.add_none (n : Nat) : Totals.add ⟨0, n⟩ d 0 = ⟨0, n⟩ := by
  unfold Totals.add
  split
  · rfl
  · split <;> rfl

/-- A deletion that finds nothing looks up what it names and changes nothing. No trigger wakes. -/
theorem run_of_idle (hfit : keep.length ≤ Parameter.limit) (hc : s.Complete) (hd : d ∈ plan)
    (h : Idle keep s d) (n : Nat) : d.run keep ⟨0, n⟩ .readWrite s = .ok ⟨0, n⟩ s := by
  by_cases hhas : s.has d.table = true
  · have hnone : s.gone d.table (d.doomed (.of keep s)) = [] := h
    have hdelete : s.delete .readWrite d.table d.names (d.doomed (.of keep s)) = .ok (0, s) := by
      rw [Snapshot.delete_eq_ok_iff, hnone]
      exact ⟨hhas, Snapshot.needAll_of_has (has_names hc hd),
        Snapshot.needParents_of_has fun _ hv => hc.has_parent hv, rfl, .inl rfl,
        Snapshot.checkReferences_nil, rfl, (restrict_spares_of_idle h).symm⟩
    have hexecute := Deletion.execute_eq_ok_iff.2 ⟨hfit, hdelete⟩
    rw [Deletion.run_of_required (.inr hhas),
      Pass.bind_run_of_ok (Pass.change_eq_ok_iff.2 hexecute), Totals.add_none]
    rfl
  · exact Deletion.run_of_missing ((optional_or_has hc hd).resolve_right hhas) (by simpa using hhas)

theorem foldlM_run_of_idle (hfit : keep.length ≤ Parameter.limit) (hc : s.Complete)
    (hd : ds ⊆ plan) (h : ∀ d ∈ ds, Idle keep s d) (n : Nat) :
    ds.foldlM (fun totals d => d.run keep totals) ⟨0, n⟩ .readWrite s = .ok ⟨0, n⟩ s := by
  induction ds with
  | nil => rfl
  | cons d ds ih =>
    obtain ⟨hfirst, hothers⟩ := List.forall_mem_cons.1 h
    rw [List.foldlM_cons, Pass.bind_run_of_ok (run_of_idle hfit hc (hd (by simp)) hfirst n)]
    exact ih (List.subset_of_cons_subset hd) hothers

end Run

section Intact
variable (hs : s.Strict) (hi : s.Intact) (hall : ∀ p ∈ s.rows .projects, p.id ∈ keep)
include hs hi hall

theorem isIn_keep_of_intact {r : u.Row} (hr : r ∈ s.rows u)
    (href : (.projects, c) ∈ u.references r) : c.isIn keep = .yes := by
  obtain ⟨p, hp, _, ⟨⟩, hsame⟩ := Snapshot.dangles_eq_false_iff.1 (hi u r hr _ href)
  exact Cell.isIn_of_same hsame (hall p hp) (hs.reference_ne_null u r hr _ href)
    (hs.id_ne_null (t := .projects) hp rfl)

/-- That an agent is there is enough: it lives in a project, and every project is kept. -/
theorem isIn_agents_of_intact {r : u.Row} (hr : r ∈ s.rows u)
    (href : (.agents, c) ∈ u.references r) : c.isIn (Lookup.of keep s).agents = .yes := by
  obtain ⟨a, ha, _, ⟨⟩, hsame⟩ := Snapshot.dangles_eq_false_iff.1 (hi u r hr _ href)
  have hlives : a.project.isIn keep = .yes :=
    isIn_keep_of_intact hs hi hall (u := .agents) ha (by simp [Table.references])
  exact Cell.isIn_of_same hsame (mem_agents_iff.2 ⟨a, ha, hlives, rfl⟩)
    (hs.reference_ne_null u r hr _ href) (hs.id_ne_null (t := .agents) ha rfl)

/-- Every row meets what the plan asks of it. -/
theorem stays_of_intact {r : u.Row} (hr : r ∈ s.rows u) : Stays keep s u r := by
  have inKeep {v : Table} {x : v.Row} {c : Cell} (hx : x ∈ s.rows v)
      (href : (.projects, c) ∈ v.references x) : c.isIn keep = .yes :=
    isIn_keep_of_intact hs hi hall hx href
  have inAgents {v : Table} {x : v.Row} {c : Cell} (hx : x ∈ s.rows v)
      (href : (.agents, c) ∈ v.references x) : c.isIn (Lookup.of keep s).agents = .yes :=
    isIn_agents_of_intact hs hi hall hx href
  cases u with
  | projects => exact Cell.isIn_of_mem (hall r hr) (hs.id_ne_null (t := .projects) hr rfl)
  | agents => exact inKeep hr (by simp [Table.references])
  | messages | reservations =>
    exact ⟨inKeep hr (by simp [Table.references]), inAgents hr (by simp [Table.references])⟩
  | recipients =>
    intro m hm _
    exact ⟨⟨inKeep (v := .messages) hm (by simp [Table.references]),
      inAgents (v := .messages) hm (by simp [Table.references])⟩,
      inAgents hr (by simp [Table.references])⟩
  | links =>
    exact ⟨⟨inKeep hr (by simp [Table.references]), inKeep hr (by simp [Table.references])⟩,
      inAgents hr (by simp [Table.references]), inAgents hr (by simp [Table.references])⟩
  | suggestions =>
    exact ⟨inKeep hr (by simp [Table.references]), inKeep hr (by simp [Table.references])⟩

theorem idle_of_intact (hd : d ∈ plan) : Idle keep s d := by
  refine List.filter_eq_nil_iff.2 fun r hr hdoomed => ?_
  have hspared := spared_of_stays (stays_of_intact hs hi hall hr)
  have hspares := List.all_eq_true.1 hspared d hd
  exact Deletion.spares_iff.1 hspares (of_decide_eq_true hdoomed)

theorem deleteUnselected_of_all (hc : s.Complete) (hfit : keep.length ≤ Parameter.limit) :
    deleteUnselected keep .readWrite s = .ok ⟨0, 0⟩ s :=
  foldlM_run_of_idle hfit hc (List.Subset.refl _) (fun _ hd => idle_of_intact hs hi hall hd) 0

end Intact

theorem apply_of_no_projects (hc : s.Complete) (hnone : s.rows .projects = [])
    (identifiers : List String) (access : Access) :
    apply identifiers access s = .error .noProjects s := by
  have hread : s.readProjects = .ok [] := by
    rw [Snapshot.readProjects, Snapshot.need_of_has (hc .projects (by decide) (by decide)), hnone]
    rfl
  rw [apply_run hread, select]
  rfl

/-- Where every reference names something, the plan for all projects deletes nothing and counts
nothing, unless there are more of them than a statement has parameters; then it fails. A scope call
that selects all projects, by naming none or by naming each, answers for any number of them what
the plan answers for as many as it takes. Where there are no projects every scope call fails. -/
theorem early_return_agrees (hs : s.Strict) (hc : s.Complete) (hi : s.Intact) :
    (∀ keep, (∀ p ∈ s.rows .projects, p.id ∈ keep) → deleteUnselected keep .readWrite s =
      if keep.length ≤ Parameter.limit then .ok ⟨0, 0⟩ s else .error (excess s keep.length) s) ∧
    (∀ identifiers projects kept, s.readProjects = .ok projects →
      select projects identifiers = .ok kept → projects ⊆ kept →
        apply identifiers .readWrite s = .ok ⟨identifiers, kept, 0, 0, s.counts⟩ s ∧
        (kept.length ≤ Parameter.limit → planned identifiers kept (keptIds kept) .readWrite s =
          apply identifiers .readWrite s)) ∧
    (s.rows .projects = [] →
      ∀ identifiers, apply identifiers .readWrite s = .error .noProjects s) := by
  refine ⟨?_, ?_, ?_⟩
  · intro keep hall
    split
    · rename_i hfit
      exact deleteUnselected_of_all hs hi hall hc hfit
    · exact deleteUnselected_of_excess (by omega)
  · intro identifiers projects kept hread hselect hall
    have hlength := length_eq_of_all_selected (hs.nodup_projects hread) hselect hall
    have happly : apply identifiers .readWrite s = .ok ⟨identifiers, kept, 0, 0, s.counts⟩ s :=
      apply_of_length_eq hread hselect hlength hc
    refine ⟨happly, fun hfit => happly ▸ planned_eq_ok_iff.2 ⟨⟨0, 0⟩, ?_, hc, rfl⟩⟩
    exact deleteUnselected_of_all hs hi (fun p hp => mem_keptIds_of_all hread hall hp) hc
      (by rwa [length_keptIds])
  · intro hnone identifiers
    exact apply_of_no_projects hc hnone identifiers .readWrite

/-- Rows of each project that name an agent of the other one, no table of suggestions, and a trigger
that would refuse the deletion of a message. -/
def wholeSample : Snapshot :=
  { Snapshot.empty .strict with
    triggers := [⟨.delete, .messages, none, "kept"⟩]
    projects := some [⟨.integer 1, .text "one", .text "/one"⟩,
      ⟨.integer 2, .text "two", .text "/two"⟩]
    agents := some [⟨.integer 1, .integer 1, .text "x"⟩, ⟨.integer 2, .integer 2, .text "y"⟩]
    messages := some
      [⟨.integer 1, .integer 1, .integer 2, .text "plain", .text "hello", .null, .integer 0⟩]
    recipients := some [⟨.integer 1, .integer 1, .null, .null⟩]
    reservations := some [⟨.integer 1, .integer 2, .integer 1, .text "src"⟩]
    links := some [⟨.integer 1, .integer 1, .integer 1, .integer 2, .integer 2⟩]
    suggestions := none }

theorem early_return_wholeSample :
    wholeSample.Strict ∧ wholeSample.Complete ∧ wholeSample.Intact ∧
      deleteUnselected [.integer 2, .integer 1] .readWrite wholeSample = .ok ⟨0, 0⟩ wholeSample ∧
      planned ["two", "/one"] [⟨2, "two", "/two"⟩, ⟨1, "one", "/one"⟩] [.integer 2, .integer 1]
          .readWrite wholeSample =
        apply ["two", "/one"] .readWrite wholeSample := by
  have hs : wholeSample.Strict := by decide
  have hc : wholeSample.Complete := by decide
  have hi : wholeSample.Intact := by decide
  have hagree := early_return_agrees hs hc hi
  exact ⟨hs, hc, hi, hagree.1 _ (by decide),
    (hagree.2.1 ["two", "/one"] [⟨1, "one", "/one"⟩, ⟨2, "two", "/two"⟩] _ rfl
      (by decide +kernel) (by decide)).2 (by decide)⟩

/-- The plan and the scope call may differ where every reference names something. For one project
more than a statement has parameters the plan fails and the call goes through, and where there are
no projects it is the other way round. -/
theorem early_return_may_differ :
    (let s := crowd (Parameter.limit + 1)
      let all := crowdRecords (Parameter.limit + 1)
      s.Strict ∧ s.Complete ∧ s.Intact ∧ s.readProjects = .ok all ∧
        deleteUnselected (keptIds all) .readWrite s =
          .error (excess s (Parameter.limit + 1)) s ∧
        apply [] .readWrite s = .ok ⟨[], all, 0, 0, s.counts⟩ s) ∧
    let s := crowd 0
    s.Strict ∧ s.Complete ∧ s.Intact ∧ s.readProjects = .ok [] ∧
      deleteUnselected [] .readWrite s = .ok ⟨0, 0⟩ s ∧
      apply [] .readWrite s = .error .noProjects s := by
  refine ⟨⟨strict_crowd, complete_crowd, intact_crowd, readProjects_crowd, ?_, ?_⟩,
    strict_crowd, complete_crowd, intact_crowd, readProjects_crowd, ?_, ?_⟩
  · have hlength : (keptIds (crowdRecords (Parameter.limit + 1))).length = Parameter.limit + 1 := by
      rw [length_keptIds, length_crowdRecords]
    rw [deleteUnselected_of_excess (by omega), hlength]
  · have hselect : select (crowdRecords (Parameter.limit + 1)) [] =
        .ok (crowdRecords (Parameter.limit + 1)) := by
      rw [select, if_neg (ne_nil_crowdRecords (Nat.succ_pos _)), if_pos rfl]
    exact apply_of_length_eq readProjects_crowd hselect rfl complete_crowd
  · have hnone : (crowd 0).rows .projects = [] := rfl
    refine deleteUnselected_of_all strict_crowd intact_crowd ?_ complete_crowd (Nat.zero_le _)
    intro p hp
    rw [hnone] at hp
    exact absurd hp List.not_mem_nil
  · exact apply_of_no_projects complete_crowd rfl [] .readWrite

/-- An agent without a project goes even where every project is kept. -/
example : deleteUnselected [.integer 1, .integer 2] .readWrite settlingSample =
    .ok ⟨0, 0⟩ { settlingSample with
      agents := some [⟨.integer 1, .integer 2, .text "x"⟩] } := by
  cbv

end MailSnapshot.Scope
