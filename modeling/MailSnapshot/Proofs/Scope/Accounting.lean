import MailSnapshot.Proofs.Scope.Stages

/-! The numbers that a scope call reports. Rows go for two reasons, and only those count as orphans
that go although they lie in a kept project. -/

namespace MailSnapshot

/-- The rows that are no longer there. -/
def Snapshot.removed (s t : Snapshot) (u : Table) : List u.Row :=
  (s.rows u).filter (· ∉ t.rows u)

namespace Snapshot
variable {s : Snapshot} {stays : (t : Table) → t.Row → Bool} {u : Table}

theorem removed_restrict :
    s.removed (s.restrict stays) u = (s.rows u).filter fun r => !stays u r := by
  apply List.filter_congr
  intro r hr
  rw [Bool.eq_iff_iff, decide_eq_true_iff, mem_rows_restrict]
  simp [hr]

/-- Each row either has gone or is left. -/
theorem removed_append_perm :
    (s.removed (s.restrict stays) u ++ (s.restrict stays).rows u).Perm (s.rows u) := by
  rw [removed_restrict, rows_restrict]
  exact List.perm_append_comm.trans (List.filter_append_perm _ _)

theorem removed_self : s.removed s u = [] := by
  refine List.filter_eq_nil_iff.2 fun r hr => ?_
  simp [hr]

end Snapshot

namespace Scope
variable {keep : List Cell} {s t : Snapshot} {u : Table} {c : Cell} {d : Deletion}
  {identifiers : List String} {projects kept : List ProjectRecord} {access : Access}
  {result : ScopeResult} {totals : Totals}

/-- A row lies in the kept projects. A recipient lies where its message does. -/
def Inside (keep : List Cell) (s : Snapshot) : (u : Table) → u.Row → Prop
  | .projects, p => p.id.isIn keep = .yes
  | .agents, a => a.project.isIn keep = .yes
  | .messages, m => m.project.isIn keep = .yes
  | .recipients, r =>
    ∃ m ∈ s.rows .messages, r.message.eq m.id = .yes ∧ m.project.isIn keep = .yes
  | .reservations, r => r.project.isIn keep = .yes
  | .links, l => l.projectA.isIn keep = .yes ∧ l.projectB.isIn keep = .yes
  | .suggestions, g => g.projectA.isIn keep = .yes ∧ g.projectB.isIn keep = .yes

/-- A cell names no agent that lives in a kept project. -/
def Stranger (keep : List Cell) (s : Snapshot) (c : Cell) : Prop :=
  ∀ a ∈ s.rows .agents, a.project.isIn keep = .yes → c.eq a.id ≠ .yes

/-- A row names an agent that does not live in a kept project, a recipient also through the sender
of its message. -/
def NamesStranger (keep : List Cell) (s : Snapshot) : (u : Table) → u.Row → Prop
  | .messages, m => Stranger keep s m.sender
  | .recipients, r => Stranger keep s r.agent ∨
    ∃ m ∈ s.rows .messages, r.message.eq m.id = .yes ∧ Stranger keep s m.sender
  | .reservations, r => Stranger keep s r.agent
  | .links, l => Stranger keep s l.agentA ∨ Stranger keep s l.agentB
  | .projects, _ | .agents, _ | .suggestions, _ => False

instance : (u : Table) → (r : u.Row) → Decidable (Inside keep s u r)
  | .projects, _ | .agents, _ | .messages, _ | .reservations, _ =>
    inferInstanceAs (Decidable (_ = _))
  | .recipients, _ => inferInstanceAs (Decidable (∃ m ∈ s.rows .messages, _ ∧ _))
  | .links, _ | .suggestions, _ => inferInstanceAs (Decidable (_ ∧ _))

instance : Decidable (Stranger keep s c) :=
  inferInstanceAs (Decidable (∀ a ∈ s.rows .agents, _ → _))

instance : (u : Table) → (r : u.Row) → Decidable (NamesStranger keep s u r)
  | .messages, m => inferInstanceAs (Decidable (Stranger keep s m.sender))
  | .recipients, _ => inferInstanceAs (Decidable (_ ∨ ∃ m ∈ s.rows .messages, _ ∧ _))
  | .reservations, r => inferInstanceAs (Decidable (Stranger keep s r.agent))
  | .links, _ => inferInstanceAs (Decidable (_ ∨ _))
  | .projects, _ | .agents, _ | .suggestions, _ => inferInstanceAs (Decidable False)

/-- How many rows of a table lie in the kept projects and name a stranger. -/
def orphansIn (keep : List Cell) (s : Snapshot) (u : Table) : Nat :=
  (s.rows u).countP fun r => Inside keep s u r ∧ NamesStranger keep s u r

/-- How many rows of a table have gone although they lay in the kept projects. -/
def removedInside (keep : List Cell) (s t : Snapshot) (u : Table) : Nat :=
  (s.removed t u).countP (Inside keep s u ·)

theorem stranger_iff : Stranger keep s c ↔ c.isIn (Lookup.of keep s).agents ≠ .yes := by
  rw [Ne, isIn_agents_iff]
  simp [Stranger]

theorem orphanCount_filter {k : Lookup} (ds : List Deletion) :
    orphanCount k s ds = orphanCount k s (ds.filter Deletion.orphan) := by
  induction ds with
  | nil => rfl
  | cons d ds ih =>
    rw [orphanCount, ih, List.filter_cons]
    split
    · rename_i ho
      rw [orphanCount, if_pos ho]
    · rw [Nat.zero_add]

theorem orphanCount_cons {k : Lookup} {ds : List Deletion} (ho : d.orphan = true) :
    orphanCount k s (d :: ds) = d.doomedCount k s + orphanCount k s ds := by
  rw [orphanCount, if_pos ho]

section Strict
variable (hs : s.Strict)
include hs

theorem notIn_agents_iff {r : u.Row} (hr : r ∈ s.rows u)
    (href : (.agents, c) ∈ u.references r) :
    c.notIn (Lookup.of keep s).agents = .yes ↔ Stranger keep s c := by
  rw [stranger_iff]
  exact Cell.notIn_eq_yes_iff (hs.reference_ne_null u r hr _ href) fun _ => agents_ne_null hs

/-- An orphan deletion dooms the rows of its table that lie in kept projects and name a stranger. -/
theorem orphan_doomed_iff (hd : d ∈ plan) (ho : d.orphan = true) {r : d.table.Row}
    (hr : r ∈ s.rows d.table) :
    d.doomed (.of keep s) r = .yes ↔ Inside keep s d.table r ∧ NamesStranger keep s d.table r := by
  have stranger {u : Table} {x : u.Row} {c : Cell} (hx : x ∈ s.rows u)
      (href : (.agents, c) ∈ u.references x) :
      c.notIn (Lookup.of keep s).agents = .yes ↔ Stranger keep s c := notIn_agents_iff hs hx href
  induction d, hd using plan_cases with
  | orphanLinks =>
    have ha := stranger (u := .links) hr (c := AgentLink.agentA r) (by simp [Table.references])
    have hb := stranger (u := .links) hr (c := AgentLink.agentB r) (by simp [Table.references])
    refine Truth.and_eq_yes.trans (and_congr Truth.and_eq_yes ?_)
    exact Truth.or_eq_yes.trans (or_congr ha hb)
  | orphanRecipients =>
    have ha := stranger (u := .recipients) hr (c := Recipient.agent r) (by simp [Table.references])
    refine Truth.and_eq_yes.trans (and_congr isIn_messagesWhere_iff ?_)
    refine Truth.or_eq_yes.trans (or_congr ha (isIn_messagesWhere_iff.trans ?_))
    refine exists_congr fun m => and_congr_right fun hm => and_congr_right fun _ => ?_
    exact stranger (u := .messages) hm (by simp [Table.references])
  | orphanMessages =>
    exact Truth.and_eq_yes.trans (and_congr Iff.rfl
      (stranger (u := .messages) hr (by simp [Table.references])))
  | orphanReservations =>
    exact Truth.and_eq_yes.trans (and_congr Iff.rfl
      (stranger (u := .reservations) hr (by simp [Table.references])))
  | _ => cases ho

/-- Of the rows that lie in kept projects exactly those go that name a stranger. The deletions of
the other projects take none of them: two messages with one id would make a difference here. -/
theorem inside_mem_remains_iff (hk : ∀ c ∈ keep, c ≠ .null) {r : u.Row} (hr : r ∈ s.rows u)
    (hin : Inside keep s u r) :
    r ∈ (remains keep s plan).rows u ↔ ¬ NamesStranger keep s u r := by
  have known {c : Cell} : c.isIn (Lookup.of keep s).agents = .yes ↔ ¬ Stranger keep s c := by
    rw [stranger_iff, not_not]
  rw [mem_remains_iff hs hk, and_iff_right hr]
  cases u with
  | projects | agents | suggestions => exact iff_of_true hin not_false
  | messages | reservations => exact (and_iff_right hin).trans known
  | links =>
    refine (and_iff_right hin).trans ?_
    rw [NamesStranger, not_or, ← known, ← known]
  | recipients =>
    obtain ⟨m, hm, heq, hproject⟩ := hin
    have hsame := (Cell.eq_eq_yes_iff.1 heq).2.2
    rw [NamesStranger, not_or]
    constructor
    · intro h
      refine ⟨known.1 (h m hm hsame).2, ?_⟩
      rintro ⟨n, hn, heq', hstranger⟩
      exact known.1 (h n hn (Cell.eq_eq_yes_iff.1 heq').2.2).1.2 hstranger
    · rintro ⟨hagent, hsender⟩ n hn hsame'
      obtain rfl : n = m := hs.eq_of_same (t := .messages) hn hm rfl rfl
        (Cell.same_trans (Cell.same_symm hsame') hsame)
      exact ⟨⟨hproject, known.2 fun hstranger => hsender ⟨n, hm, heq, hstranger⟩⟩, known.2 hagent⟩

theorem removedInside_remains (hk : ∀ c ∈ keep, c ≠ .null) :
    removedInside keep s (remains keep s plan) u = orphansIn keep s u := by
  rw [removedInside, Snapshot.removed, List.countP_filter]
  apply List.countP_congr
  intro r hr
  simp only [Bool.and_eq_true, decide_eq_true_iff]
  refine and_congr_right fun hin => ?_
  rw [inside_mem_remains_iff hs hk hr hin, not_not]

theorem doomedCount_of_orphan (hd : d ∈ plan) (ho : d.orphan = true) :
    d.doomedCount (.of keep s) s = orphansIn keep s d.table := by
  rw [Deletion.doomedCount, Snapshot.gone, ← List.countP_eq_length_filter]
  apply List.countP_congr
  intro r hr
  simp only [decide_eq_true_iff]
  exact orphan_doomed_iff hs hd ho hr

/-- What the plan counts as orphans are the rows inside kept projects that go. -/
theorem orphanCount_eq_removedInside (hk : ∀ c ∈ keep, c ≠ .null) :
    orphanCount (.of keep s) s plan =
      removedInside keep s (remains keep s plan) .messages +
        removedInside keep s (remains keep s plan) .recipients +
          removedInside keep s (remains keep s plan) .reservations +
            removedInside keep s (remains keep s plan) .links := by
  have hlinks : orphanLinks.doomedCount (.of keep s) s = orphansIn keep s .links :=
    doomedCount_of_orphan hs (by simp [plan]) rfl
  have hrecipients : orphanRecipients.doomedCount (.of keep s) s = orphansIn keep s .recipients :=
    doomedCount_of_orphan hs (by simp [plan]) rfl
  have hmessages : orphanMessages.doomedCount (.of keep s) s = orphansIn keep s .messages :=
    doomedCount_of_orphan hs (by simp [plan]) rfl
  have hreservations :
      orphanReservations.doomedCount (.of keep s) s = orphansIn keep s .reservations :=
    doomedCount_of_orphan hs (by simp [plan]) rfl
  have horphans : plan.filter Deletion.orphan =
      [orphanLinks, orphanRecipients, orphanMessages, orphanReservations] := rfl
  rw [orphanCount_filter, horphans, orphanCount_cons rfl, orphanCount_cons rfl,
    orphanCount_cons rfl, orphanCount_cons rfl, orphanCount, hlinks, hrecipients, hmessages,
    hreservations]
  simp only [removedInside_remains hs hk]
  omega

end Strict

section Projects

theorem mem_keptIds_iff {n : Int} : .integer n ∈ keptIds kept ↔ ∃ k ∈ kept, k.id = n := by
  simp [keptIds]

/-- The plan deletes the projects that are not listed. -/
theorem removed_projects (hread : s.readProjects = .ok projects) :
    s.removed (remains (keptIds kept) s plan) .projects =
      (s.rows .projects).filter fun p => p.id ∉ keptIds kept := by
  apply List.filter_congr
  intro p hp
  obtain ⟨n, hn⟩ := Snapshot.id_of_readProjects hread hp
  have hleft : p ∈ (remains (keptIds kept) s plan).rows .projects ↔ p.id ∈ keptIds kept := by
    rw [remains, Snapshot.mem_rows_restrict, and_iff_right hp, spared_plan_projects, hn,
      mem_keptIds_iff, ← isIn_keptIds_iff]
    constructor
    · exact Cell.isIn_of_notIn_ne_yes (by simp) fun _ => ne_null_of_mem_keptIds
    · exact Cell.notIn_ne_yes_of_isIn
  simp only [hleft]

theorem doomedCount_outerProjects :
    outerProjects.doomedCount (.of keep s) s =
      (s.removed (remains keep s plan) .projects).length := by
  change (s.gone .projects fun p => p.id.notIn keep).length = _
  rw [Snapshot.gone, remains, Snapshot.removed_restrict]
  congr 1
  apply List.filter_congr
  intro p _
  rw [Bool.eq_iff_iff, Bool.not_eq_true', ← Bool.not_eq_true, spared_plan_projects, not_not,
    decide_eq_true_iff]
  rfl

/-- Where each project has its own id, the listed and the unlisted ones are all there are. -/
theorem length_add_unlisted (hread : s.readProjects = .ok projects)
    (hselect : select projects identifiers = .ok kept)
    (hn : ((s.rows .projects).map Project.id).Nodup) :
    kept.length + (s.rows .projects).countP (fun p => p.id ∉ keptIds kept) =
      (s.rows .projects).length := by
  have hp := Snapshot.nodup_of_readProjects hread hn
  have hkept : (keptIds kept).Nodup := by
    have hmap : keptIds kept = (kept.map ProjectRecord.id).map Cell.integer := by
      rw [List.map_map]
      rfl
    rw [hmap]
    exact (nodup_of_select hp hselect).map fun _ _ h => by simpa using h
  have hlisted : (((s.rows .projects).map Project.id).filter (· ∈ keptIds kept)).Perm
      (keptIds kept) := by
    refine (List.perm_ext_iff_of_nodup (hn.filter _) hkept).2 fun c => ?_
    rw [List.mem_filter, decide_eq_true_iff, and_iff_right_iff_imp]
    intro hc
    obtain ⟨k, hk, rfl⟩ := List.mem_map.1 hc
    obtain ⟨p, hrow, hid⟩ :=
      Snapshot.exists_project_of_readProjects hread (subset_of_select hselect hk)
    exact List.mem_map.2 ⟨p, hrow, hid⟩
  have hcount : (s.rows .projects).countP (fun p => p.id ∈ keptIds kept) = kept.length := by
    have hlength := hlisted.length_eq
    rw [← List.countP_eq_length_filter, List.countP_map, keptIds, List.length_map] at hlength
    exact hlength
  rw [List.length_eq_countP_add_countP (fun p : Project => decide (p.id ∈ keptIds kept)), hcount]
  simp

end Projects

/-- What the numbers of a scope call say about the snapshots before and after it. -/
structure Accounts (s t : Snapshot) (result : ScopeResult) : Prop where
  remaining : result.remaining = t.counts
  /-- Each row either has gone or is left. -/
  rows : ∀ u, (s.removed t u ++ t.rows u).Perm (s.rows u)
  projects : (t.rows .projects).length + result.removedCount = (s.rows .projects).length
  unlisted : result.removedCount =
    (s.rows .projects).countP fun p => p.id ∉ keptIds result.projects
  listed : ((s.rows .projects).map Project.id).Nodup →
    result.projects.length + result.removedCount = (s.rows .projects).length
  /-- The orphans are the rows that have gone although they lay in kept projects. -/
  orphans : s.Strict → result.orphansRemoved =
    removedInside (keptIds result.projects) s t .messages +
      removedInside (keptIds result.projects) s t .recipients +
        removedInside (keptIds result.projects) s t .reservations +
          removedInside (keptIds result.projects) s t .links
  /-- All of them named a stranger, and none was a project, an agent or a suggestion. -/
  strangers : s.Strict → ∀ u, ∀ r ∈ s.removed t u,
    Inside (keptIds result.projects) s u r → NamesStranger (keptIds result.projects) s u r

/-- The numbers of a scope call add up, whichever way it takes. -/
theorem apply_accounts (h : apply identifiers access s = .ok result t) : Accounts s t result := by
  obtain ⟨projects, kept, hread, hselect, -, ⟨hlength, rfl, rfl⟩ | ⟨-, totals, hrun, rfl⟩⟩ :=
    apply_outcome h
  · have hnone : (t.rows .projects).countP (fun p => p.id ∉ keptIds kept) = 0 := by
      refine List.countP_eq_zero.2 fun p hp => ?_
      have hall := all_selected_of_length_eq hselect hlength
      simpa using mem_keptIds_of_all hread hall hp
    constructor
    case remaining => rfl
    case rows =>
      intro u
      rw [Snapshot.removed_self, List.nil_append]
    case projects => rfl
    case unlisted => exact hnone.symm
    case listed =>
      intro hn
      have hsum := length_add_unlisted hread hselect hn
      rwa [hnone] at hsum
    case orphans =>
      intro _
      simp [removedInside, Snapshot.removed_self]
    case strangers =>
      intro _ u r hr
      rw [Snapshot.removed_self] at hr
      cases hr
  · obtain ⟨rfl, horphans⟩ := eq_remains_of_deleteUnselected hrun
    have hprojects := (projects_of_deleteUnselected hrun).trans doomedCount_outerProjects
    have hnull : ∀ c ∈ keptIds kept, c ≠ .null := fun _ => ne_null_of_mem_keptIds
    have hrows : ∀ u, (s.removed (remains (keptIds kept) s plan) u ++
        (remains (keptIds kept) s plan).rows u).Perm (s.rows u) :=
      fun _ => Snapshot.removed_append_perm
    have hunlisted : totals.projects =
        (s.rows .projects).countP fun p => p.id ∉ keptIds kept := by
      rw [hprojects, removed_projects hread, List.countP_eq_length_filter]
    constructor
    case remaining => rfl
    case rows => exact hrows
    case projects =>
      change _ + totals.projects = _
      rw [hprojects, ← (hrows .projects).length_eq, List.length_append, Nat.add_comm]
    case unlisted => exact hunlisted
    case listed =>
      intro hn
      change kept.length + totals.projects = _
      rw [hunlisted]
      exact length_add_unlisted hread hselect hn
    case orphans =>
      intro hs
      exact horphans.trans (orphanCount_eq_removedInside hs hnull)
    case strangers =>
      intro hs u r hr hin
      obtain ⟨hrow, hgone⟩ := List.mem_filter.1 hr
      by_contra hnot
      exact of_decide_eq_true hgone ((inside_mem_remains_iff hs hnull hrow hin).2 hnot)

/-- Each project has rows that name the agent of the other one. There is no table of suggestions. -/
def sharedSample : Snapshot :=
  { Snapshot.empty .strict with
    projects := some [⟨.integer 1, .text "one", .text "/one"⟩,
      ⟨.integer 2, .text "two", .text "/two"⟩]
    agents := some [⟨.integer 1, .integer 1, .text "x"⟩, ⟨.integer 2, .integer 2, .text "y"⟩]
    messages := some [⟨.integer 1, .integer 1, .integer 1, .null, .null, .null, .null⟩,
      ⟨.integer 2, .integer 1, .integer 2, .null, .null, .null, .null⟩,
      ⟨.integer 3, .integer 2, .integer 1, .null, .null, .null, .null⟩]
    recipients := some [⟨.integer 1, .integer 1, .null, .null⟩,
      ⟨.integer 1, .integer 2, .null, .null⟩, ⟨.integer 2, .integer 1, .null, .null⟩,
      ⟨.integer 3, .integer 1, .null, .null⟩]
    reservations := some [⟨.integer 1, .integer 1, .integer 2, .null⟩,
      ⟨.integer 2, .integer 2, .integer 1, .null⟩]
    links := some [⟨.integer 1, .integer 1, .integer 1, .integer 1, .integer 2⟩,
      ⟨.integer 2, .integer 1, .integer 1, .integer 2, .integer 2⟩]
    suggestions := none }

theorem strict_sharedSample : sharedSample.Strict := by decide

theorem complete_sharedSample : sharedSample.Complete := by decide

theorem readProjects_sharedSample : sharedSample.readProjects =
    .ok [⟨1, "one", "/one"⟩, ⟨2, "two", "/two"⟩] := rfl

theorem select_sharedSample :
    select [⟨1, "one", "/one"⟩, ⟨2, "two", "/two"⟩] ["one"] = .ok [⟨1, "one", "/one"⟩] := by
  decide +kernel

theorem narrows_sharedSample : Narrows sharedSample ["one"] [.integer 1] :=
  ⟨_, _, readProjects_sharedSample, by simp, select_sharedSample, by decide, rfl⟩

theorem apply_sharedSample : ∃ result t, apply ["one"] .readWrite sharedSample = .ok result t ∧
    Accounts sharedSample t result ∧ result.removedCount = 1 ∧ result.orphansRemoved = 5 := by
  obtain ⟨result, h⟩ := apply_of_balanced strict_sharedSample complete_sharedSample rfl
    narrows_sharedSample (by decide) (by decide)
  have hkept := projects_of_apply readProjects_sharedSample select_sharedSample h
  have haccounts := apply_accounts h
  refine ⟨result, _, h, haccounts, ?_, ?_⟩
  · rw [haccounts.unlisted, hkept]
    decide
  · rw [haccounts.orphans strict_sharedSample, hkept]
    decide

end Scope
end MailSnapshot
