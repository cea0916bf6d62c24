import MailSnapshot.Proofs.Scope.Integrity
import MailSnapshot.Proofs.Scope.Reselection

/-! Scoping in stages. What the plan leaves for some projects it also leaves when it first ran for
more of them. The second stage can fail where the first one has taken away the agent that would have
settled a broken reference, and only there. -/

namespace MailSnapshot

theorem Snapshot.restrict_eq_of_mem {s : Snapshot} {stays others : (t : Table) → t.Row → Bool}
    (h : ∀ t r, r ∈ (s.restrict stays).rows t ↔ r ∈ (s.restrict others).rows t) :
    s.restrict stays = s.restrict others := by
  refine (alike_restrict.trans alike_restrict.symm).eq_of_rows fun t => ?_
  rw [rows_restrict, rows_restrict]
  apply List.filter_congr
  intro r hr
  have hiff := h t r
  rw [mem_rows_restrict, mem_rows_restrict] at hiff
  exact Bool.eq_iff_iff.2 ⟨fun hs => (hiff.1 ⟨hr, hs⟩).2, fun ho => (hiff.2 ⟨hr, ho⟩).2⟩

theorem Cell.isIn_mono {c : Cell} {bs cs : List Cell} (hsub : bs ⊆ cs) (h : c.isIn bs = .yes) :
    c.isIn cs = .yes := by
  obtain ⟨b, hb, heq⟩ := isIn_eq_yes_iff.1 h
  exact isIn_eq_yes_iff.2 ⟨b, hsub hb, heq⟩

namespace Scope
variable {keep wide narrow : List Cell} {s t : Snapshot} {u : Table} {c : Cell}

/-- What the plan asks of a row of a strict store that stays. -/
def Stays (keep : List Cell) (s : Snapshot) : (u : Table) → u.Row → Prop
  | .projects, p => p.id.isIn keep = .yes
  | .agents, a => a.project.isIn keep = .yes
  | .messages, m =>
    m.project.isIn keep = .yes ∧ m.sender.isIn (Lookup.of keep s).agents = .yes
  | .recipients, r => ∀ m ∈ s.rows .messages, r.message.same m.id = true →
    (m.project.isIn keep = .yes ∧ m.sender.isIn (Lookup.of keep s).agents = .yes) ∧
      r.agent.isIn (Lookup.of keep s).agents = .yes
  | .reservations, r =>
    r.project.isIn keep = .yes ∧ r.agent.isIn (Lookup.of keep s).agents = .yes
  | .links, l => (l.projectA.isIn keep = .yes ∧ l.projectB.isIn keep = .yes) ∧
    l.agentA.isIn (Lookup.of keep s).agents = .yes ∧
      l.agentB.isIn (Lookup.of keep s).agents = .yes
  | .suggestions, g => g.projectA.isIn keep = .yes ∧ g.projectB.isIn keep = .yes

theorem notIn_or_ne_yes {d : Cell} {bs : List Cell} (hc : c.isIn bs = .yes)
    (hd : d.isIn bs = .yes) : (c.notIn bs).or (d.notIn bs) ≠ .yes := by
  intro h
  rcases Truth.or_eq_yes.1 h with h | h
  · exact Cell.notIn_ne_yes_of_isIn hc h
  · exact Cell.notIn_ne_yes_of_isIn hd h

/-- No condition of the plan dooms a row of which it asks no more. -/
theorem spared_of_stays {r : u.Row} (h : Stays keep s u r) :
    spared plan (.of keep s) u r = true := by
  cases u with
  | projects => exact spared_plan_projects.2 (Cell.notIn_ne_yes_of_isIn h)
  | agents => exact spared_plan_agents.2 (Cell.notIn_ne_yes_of_isIn h)
  | messages =>
    refine spared_plan_messages.2 ⟨fun hd => ?_, Cell.notIn_ne_yes_of_isIn h.1⟩
    exact Cell.notIn_ne_yes_of_isIn h.2 (Truth.and_eq_yes.1 hd).2
  | recipients =>
    have hfind : ∀ condition, r.message.isIn (Lookup.messagesWhere s condition) = .yes →
        ∃ m ∈ s.rows .messages, condition m = .yes ∧ r.message.same m.id = true := by
      intro condition hin
      obtain ⟨m, hm, heq, hcond⟩ := isIn_messagesWhere_iff.1 hin
      exact ⟨m, hm, hcond, (Cell.eq_eq_yes_iff.1 heq).2.2⟩
    refine (spared_recipients rfl).2 ⟨fun hd => ?_, fun hd => ?_⟩
    · obtain ⟨hinner, hor⟩ := Truth.and_eq_yes.1 hd
      obtain ⟨m, hm, -, hsame⟩ := hfind _ hinner
      rcases Truth.or_eq_yes.1 hor with hagent | hstray
      · exact Cell.notIn_ne_yes_of_isIn (h m hm hsame).2 hagent
      · obtain ⟨n, hn, hsender, hsame⟩ := hfind _ hstray
        exact Cell.notIn_ne_yes_of_isIn (h n hn hsame).1.2 hsender
    · obtain ⟨m, hm, hproject, hsame⟩ := hfind _ hd
      exact Cell.notIn_ne_yes_of_isIn (h m hm hsame).1.1 hproject
  | reservations =>
    refine spared_iff.2 ?_
    change ∀ d ∈ [orphanReservations, outerReservations], d.spares _ .reservations r = true
    rw [List.forall_mem_cons, List.forall_mem_singleton]
    refine ⟨(Deletion.spares_iff (d := orphanReservations)).2 fun hd => ?_,
      (Deletion.spares_iff (d := outerReservations)).2 (Cell.notIn_ne_yes_of_isIn h.1)⟩
    exact Cell.notIn_ne_yes_of_isIn h.2 (Truth.and_eq_yes.1 hd).2
  | links =>
    refine spared_iff.2 ?_
    change ∀ d ∈ [orphanLinks, outerLinks], d.spares _ .links r = true
    rw [List.forall_mem_cons, List.forall_mem_singleton]
    refine ⟨(Deletion.spares_iff (d := orphanLinks)).2 fun hd => ?_,
      (Deletion.spares_iff (d := outerLinks)).2 (notIn_or_ne_yes h.1.1 h.1.2)⟩
    exact notIn_or_ne_yes h.2.1 h.2.2 (Truth.and_eq_yes.1 hd).2
  | suggestions =>
    refine spared_iff.2 ?_
    change ∀ d ∈ [outerSuggestions], d.spares _ .suggestions r = true
    rw [List.forall_mem_singleton]
    exact (Deletion.spares_iff (d := outerSuggestions)).2 (notIn_or_ne_yes h.1 h.2)

/-- In a strict store exactly the rows stay that meet what the plan asks. -/
theorem mem_remains_iff (hs : s.Strict) (hk : ∀ c ∈ keep, c ≠ .null) {r : u.Row} :
    r ∈ (remains keep s plan).rows u ↔ r ∈ s.rows u ∧ Stays keep s u r := by
  constructor
  · intro hr
    refine ⟨mem_of_mem_remains hr, ?_⟩
    cases u with
    | projects =>
      refine Cell.isIn_of_notIn_ne_yes ?_ hk
        (doomed_ne_yes (d := outerProjects) (by simp [plan]) hr)
      exact hs.id_ne_null (t := .projects) (mem_of_mem_remains hr) rfl
    | agents => exact settled_agent hs hk (by simp [plan]) hr
    | messages => exact settled_message hs hk (by simp [plan]) (by simp [plan]) hr
    | recipients =>
      intro m hm hsame
      have hin := settled_recipient_message hs hk (by simp [plan]) hr hm hsame
      obtain ⟨hsender, hagent⟩ := settled_recipient_of_inner hs (by simp [plan]) hr hm hin hsame
      exact ⟨⟨hin, hsender⟩, hagent⟩
    | reservations => exact settled_reservation hs hk (by simp [plan]) (by simp [plan]) hr
    | links => exact settled_link hs hk (by simp [plan]) (by simp [plan]) hr
    | suggestions => exact settled_suggestion hs hk (by simp [plan]) hr
  · rintro ⟨hr, h⟩
    exact Snapshot.mem_rows_restrict.2 ⟨hr, spared_of_stays h⟩

theorem Strict.remains (hs : s.Strict) : (remains keep s plan).Strict := hs.restrict

section Nested
variable (hsub : narrow ⊆ wide)
include hsub

theorem isIn_agents_mono (h : c.isIn (Lookup.of narrow s).agents = .yes) :
    c.isIn (Lookup.of wide s).agents = .yes := by
  obtain ⟨a, ha, hin, heq⟩ := isIn_agents_iff.1 h
  exact isIn_agents_iff.2 ⟨a, ha, Cell.isIn_mono hsub hin, heq⟩

/-- What stays for some projects stays for more of them. -/
theorem Stays.mono {r : u.Row} (h : Stays narrow s u r) : Stays wide s u r := by
  cases u with
  | projects | agents => exact Cell.isIn_mono hsub h
  | messages | reservations => exact ⟨Cell.isIn_mono hsub h.1, isIn_agents_mono hsub h.2⟩
  | recipients =>
    intro m hm hsame
    obtain ⟨⟨hin, hsender⟩, hagent⟩ := h m hm hsame
    exact ⟨⟨Cell.isIn_mono hsub hin, isIn_agents_mono hsub hsender⟩, isIn_agents_mono hsub hagent⟩
  | links =>
    exact ⟨⟨Cell.isIn_mono hsub h.1.1, Cell.isIn_mono hsub h.1.2⟩, isIn_agents_mono hsub h.2.1,
      isIn_agents_mono hsub h.2.2⟩
  | suggestions => exact ⟨Cell.isIn_mono hsub h.1, Cell.isIn_mono hsub h.2⟩

/-- The agents of fewer projects are found again among those of more projects. -/
theorem agents_of_remains_wide :
    (Lookup.of narrow (remains wide s plan)).agents = (Lookup.of narrow s).agents := by
  change Lookup.agentsWhere _ _ = Lookup.agentsWhere _ _
  rw [Lookup.agentsWhere, Lookup.agentsWhere, remains, Snapshot.rows_restrict, List.filter_filter]
  congr 1
  apply List.filter_congr
  intro a _
  by_cases hin : a.project.isIn narrow = .yes
  · have hwide := Cell.notIn_ne_yes_of_isIn (Cell.isIn_mono hsub hin)
    simp [hin, (spared_plan_agents (k := .of wide s)).2 hwide]
  · simp [hin]

variable (hs : s.Strict) (hn : ∀ c ∈ narrow, c ≠ .null) (hw : ∀ c ∈ wide, c ≠ .null)
include hs hn hw

/-- The plan for some projects after the plan for more of them leaves what it leaves alone. -/
theorem remains_remains : remains narrow (remains wide s plan) plan = remains narrow s plan := by
  have hboth : remains narrow (remains wide s plan) plan = s.restrict fun u r =>
      spared plan (.of wide s) u r && spared plan (.of narrow (remains wide s plan)) u r :=
    Snapshot.restrict_restrict
  rw [hboth]
  apply Snapshot.restrict_eq_of_mem
  intro u r
  rw [← hboth]
  change r ∈ (remains narrow (remains wide s plan) plan).rows u ↔
    r ∈ (remains narrow s plan).rows u
  rw [mem_remains_iff (Strict.remains hs) hn, mem_remains_iff hs hw, mem_remains_iff hs hn,
    and_assoc]
  refine and_congr_right fun _ => ?_
  have hagents := agents_of_remains_wide (s := s) hsub
  constructor
  · rintro ⟨hwide, h⟩
    cases u with
    | projects | agents | suggestions => exact h
    | messages | reservations | links =>
      simp only [Stays, hagents] at h
      exact h
    | recipients =>
      intro m hm hsame
      have hleft := (mem_remains_iff hs hw).2 ⟨hm, (hwide m hm hsame).1⟩
      have hstays := h m hleft hsame
      rwa [hagents] at hstays
  · intro h
    refine ⟨h.mono hsub, ?_⟩
    cases u with
    | projects | agents | suggestions => exact h
    | messages | reservations | links =>
      simp only [Stays, hagents]
      exact h
    | recipients =>
      intro m hm hsame
      have hstays := h m (mem_of_mem_remains hm) hsame
      rwa [hagents]

omit hn in
/-- The same projects in another list leave the same. -/
theorem remains_eq_of_subset (hsub' : wide ⊆ narrow) :
    remains wide s plan = remains narrow s plan := by
  apply Snapshot.restrict_eq_of_mem
  intro u r
  change r ∈ (remains wide s plan).rows u ↔ r ∈ (remains narrow s plan).rows u
  rw [mem_remains_iff hs hw, mem_remains_iff hs fun c hc => hw c (hsub hc)]
  exact and_congr_right fun _ => ⟨Stays.mono hsub', Stays.mono hsub⟩

end Nested

section Count
variable {α : Type} {settled broken : α → Nat} {p : α → Bool}

/-- Leaving out what settles nothing never raises the count. -/
theorem foldl_count_filter_le {xs : List α} {n m : Nat}
    (h : ∀ x ∈ xs, p x = false → settled x = 0) (hnm : n ≤ m) :
    (xs.filter p).foldl (fun n x => n - settled x + broken x) n ≤
      xs.foldl (fun n x => n - settled x + broken x) m := by
  induction xs generalizing n m with
  | nil => exact hnm
  | cons x xs ih =>
    have hrest : ∀ y ∈ xs, p y = false → settled y = 0 := fun y hy => h y (by simp [hy])
    cases hx : p x with
    | true =>
      rw [List.filter_cons_of_pos hx, List.foldl_cons, List.foldl_cons]
      exact ih hrest (by omega)
    | false =>
      have hzero := h x (by simp) hx
      rw [List.filter_cons_of_neg (by simp [hx]), List.foldl_cons]
      exact ih hrest (by omega)

end Count

section Balance
variable (hs : s.Strict) (hn : ∀ c ∈ narrow, c ≠ .null) (hw : ∀ c ∈ wide, c ≠ .null)
  (hp : ∀ c ∈ wide, ∃ p ∈ s.rows .projects, p.id = c) (hsub : narrow ⊆ wide)
include hs hn hw hp hsub

omit hw hp in
theorem gone_wide : (s.gone .agents fun a => a.project.notIn wide) =
    (s.gone .agents fun a => a.project.notIn narrow).filter
      fun a => a.project.notIn wide = .yes := by
  rw [Snapshot.gone, Snapshot.gone, List.filter_filter]
  apply List.filter_congr
  intro a ha
  by_cases hwide : a.project.notIn wide = .yes
  · have hnull : a.project ≠ .null :=
      hs.reference_ne_null .agents a ha (.projects, a.project) (by simp [Table.references])
    have hnarrow : a.project.notIn narrow = .yes := by
      by_contra hne
      have hin := Cell.isIn_of_notIn_ne_yes hnull hn hne
      exact Cell.notIn_ne_yes_of_isIn (Cell.isIn_mono hsub hin) hwide
    simp [hwide, hnarrow]
  · simp [hwide]

/-- The count for more projects is at most that for fewer, since the agents that settle a reference
go in both. -/
theorem imbalance_wide_le : imbalance wide s ≤ imbalance narrow s := by
  rw [imbalance, gone_wide hs hn hsub, imbalance]
  refine foldl_count_filter_le ?_ (Nat.le_refl 0)
  intro a ha hstays
  have hrow := (List.mem_filter.1 ha).1
  have hin := isIn_keep hs hw (t := .projects) (u := .agents) (c := a.project) hrow
    (by simp [Table.references]) (of_decide_eq_false hstays)
  obtain ⟨c, hc, hsame⟩ := Cell.exists_same_of_isIn hin
  obtain ⟨p, hrow, rfl⟩ := hp c hc
  rw [Snapshot.dangles_eq_false_iff.2 ⟨p, hrow, p.id, rfl, hsame⟩]
  rfl

omit hn hsub in
/-- The plan leaves the recipients of lost messages, and makes no others. -/
theorem mem_lost_remains {r : Recipient} : r ∈ (remains wide s plan).lost ↔ r ∈ s.lost := by
  rw [Snapshot.lost, Snapshot.lost, List.mem_filter, List.mem_filter]
  constructor
  · rintro ⟨hr, hdangles⟩
    refine ⟨mem_of_mem_remains hr, ?_⟩
    by_contra hthere
    have hnot : (remains wide s plan).dangles (.messages, r.message) = false := by
      refine dangles_of_left hs hw hp (u := .recipients) hr ?_ (by simp [Table.references])
      rintro x hx ⟨⟩
      exact hthere (List.mem_filter.1 hx).2
    rw [hnot] at hdangles
    cases hdangles
  · rintro ⟨hr, hdangles⟩
    refine ⟨Snapshot.mem_rows_restrict.2 ⟨hr, spared_lost rfl hdangles⟩, ?_⟩
    rw [Snapshot.dangles_eq_true_iff] at hdangles ⊢
    intro m hm
    exact hdangles m (mem_of_mem_remains hm)

/-- A recipient of a lost message names an agent of a project that one selection keeps and the other
does not. -/
def StrandingBetween (wide narrow : List Cell) (s : Snapshot) : Prop :=
  ∃ r ∈ s.lost, ∃ a ∈ s.rows .agents, a.project.isIn wide = .yes ∧
    a.project.notIn narrow = .yes ∧ r.agent.same a.id = true

omit hn hsub in
theorem stranding_remains_iff :
    Stranding narrow (remains wide s plan) ↔ StrandingBetween wide narrow s := by
  constructor
  · rintro ⟨r, hr, a, ha, hgone, hsame⟩
    obtain ⟨hrow, hin⟩ := (mem_remains_iff hs hw).1 ha
    exact ⟨r, (mem_lost_remains hs hw hp).1 hr, a, hrow, hin, hgone, hsame⟩
  · rintro ⟨r, hr, a, ha, hin, hgone, hsame⟩
    exact ⟨r, (mem_lost_remains hs hw hp).2 hr, a, (mem_remains_iff hs hw).2 ⟨ha, hin⟩, hgone,
      hsame⟩

omit hn hsub in
/-- Every agent that is left has a project, so nothing settles what the second stage breaks. -/
theorem imbalance_remains_eq_zero_iff :
    imbalance narrow (remains wide s plan) = 0 ↔ ¬ StrandingBetween wide narrow s := by
  rw [← stranding_remains_iff hs hw hp]
  constructor
  · intro hzero hstranding
    refine imbalance_ne_zero hstranding ?_ hzero
    intro a ha _
    exact project_stays hw hp (settled_agent hs hw (by simp [plan]) ha)
  · exact imbalance_eq_zero

end Balance

section Apply
variable {projects kept keptWide : List ProjectRecord} {identifiers wider : List String}
  {access : Access} {result : ScopeResult}

theorem ne_null_of_mem_keptIds (hc : c ∈ keptIds kept) : c ≠ .null := by
  obtain ⟨_, _, rfl⟩ := List.mem_map.1 hc
  simp

theorem isIn_keptIds_iff {n : Int} :
    (Cell.integer n).isIn (keptIds kept) = .yes ↔ ∃ k ∈ kept, k.id = n := by
  constructor
  · intro h
    obtain ⟨_, hc, hsame⟩ := Cell.exists_same_of_isIn h
    obtain ⟨k, hk, rfl⟩ := List.mem_map.1 hc
    exact ⟨k, hk, (Cell.same_integer.1 hsame).symm⟩
  · rintro ⟨k, hk, rfl⟩
    exact Cell.isIn_of_mem (List.mem_map.2 ⟨k, hk, rfl⟩) (by simp)

/-- After the plan exactly the kept projects are read. -/
theorem readProjects_remains (hs : s.Strict) (h : s.readProjects = .ok projects) :
    (remains (keptIds kept) s plan).readProjects = .ok (projects.filter (keeps kept)) := by
  refine hs.readProjects_restrict h fun p record hrecord => ?_
  rw [Bool.eq_iff_iff, spared_plan_projects, keeps_iff, ← isIn_keptIds_iff,
    Project.id_of_record hrecord]
  constructor
  · exact Cell.isIn_of_notIn_ne_yes (by simp) fun _ => ne_null_of_mem_keptIds
  · exact Cell.notIn_ne_yes_of_isIn

theorem keeps_congr (p q : ProjectRecord) (h : p.id = q.id) : keeps kept p = keeps kept q := by
  rw [keeps, h, keeps]

theorem keeps_of_mem (hsub : kept ⊆ keptWide) : ∀ p ∈ kept, keeps keptWide p = true :=
  fun p hp => keeps_iff.2 ⟨p, hsub hp, rfl⟩

/-- A selection of all projects leaves the snapshot as it is. -/
theorem apply_of_length_eq (hread : s.readProjects = .ok projects)
    (hselect : select projects identifiers = .ok kept) (hlength : kept.length = projects.length)
    (hc : s.Complete) :
    apply identifiers access s = .ok ⟨identifiers, kept, 0, 0, s.counts⟩ s := by
  rw [apply_run hread, hselect]
  simp only [hlength, if_true]
  exact untouched_eq_ok_iff.2 ⟨hc, rfl, rfl⟩

variable (hs : s.Strict)
include hs

/-- A scope call that went through finds nothing to do when it is made again. -/
theorem apply_again (h : apply identifiers access s = .ok result t) :
    apply identifiers access t = .ok ⟨identifiers, result.projects, 0, 0, t.counts⟩ t := by
  obtain ⟨projects, kept, hread, hselect, rfl, hc, ⟨hlength, rfl, -⟩ | ⟨-, rfl, -⟩⟩ :=
    apply_cases h
  · exact apply_of_length_eq hread hselect hlength hc
  · have hp := hs.nodup_projects hread
    have hperm := filter_keeps_perm hp (nodup_of_select hp hselect) (subset_of_select hselect)
    have hselect' := select_filter keeps_congr hselect (keeps_of_mem (List.Subset.refl _))
    exact apply_of_length_eq (readProjects_remains hs hread) hselect' hperm.length_eq.symm hc

variable (hg : s.triggers = []) (hread : s.readProjects = .ok projects)
  (hwider : select projects wider = .ok keptWide)
include hg hread hwider

/-- A call for more projects than one that balances goes through, unless they are too many for the
parameters of a statement. -/
theorem apply_of_wider (hc : s.Complete) (hn : Narrows s identifiers (keptIds kept))
    (hzero : imbalance (keptIds kept) s = 0) (hsub : kept ⊆ keptWide)
    (hall : keptWide.length ≠ projects.length) (hfit : keptWide.length ≤ Parameter.limit) :
    ∃ first, apply wider .readWrite s = .ok first (remains (keptIds keptWide) s plan) := by
  have hn' := narrows_of_select hread hwider hall
  have hle := imbalance_wide_le hs hn.ne_null_of_mem hn'.ne_null_of_mem
    (fun _ hd => hn'.exists_project hd) (List.map_subset _ hsub)
  exact apply_of_balanced hs hc hg hn' (by rwa [length_keptIds])
    (Nat.le_zero.1 (hzero ▸ hle))

/-- The second stage, after a first one that deleted something: it leaves what it leaves alone, or
it meets a reference that the first stage has left nothing to settle. -/
theorem apply_after_remains (hc : s.Complete) (hselect : select projects identifiers = .ok kept)
    (hsub : kept ⊆ keptWide) (hfit : (keptIds kept).length ≤ Parameter.limit) :
    (¬ StrandingBetween (keptIds keptWide) (keptIds kept) s →
      ∃ second, apply identifiers .readWrite (remains (keptIds keptWide) s plan) =
        .ok second (remains (keptIds kept) s plan) ∧ second.projects = kept) ∧
    (StrandingBetween (keptIds keptWide) (keptIds kept) s →
      apply identifiers .readWrite (remains (keptIds keptWide) s plan) =
        .error (.store (.deleteRows .agents) .brokenReference)
          (remains (keptIds keptWide) s plan)) := by
  have hcells : keptIds kept ⊆ keptIds keptWide := List.map_subset _ hsub
  have hthere : ∀ c ∈ keptIds keptWide, ∃ p ∈ s.rows .projects, p.id = c := by
    intro c hmem
    obtain ⟨record, hrecord, rfl⟩ := List.mem_map.1 hmem
    exact Snapshot.exists_project_of_readProjects hread (subset_of_select hwider hrecord)
  have hnull : ∀ c ∈ keptIds keptWide, c ≠ .null := fun _ => ne_null_of_mem_keptIds
  have hnull' : ∀ c ∈ keptIds kept, c ≠ .null := fun _ => ne_null_of_mem_keptIds
  have hread' : (remains (keptIds keptWide) s plan).readProjects =
      .ok (projects.filter (keeps keptWide)) := readProjects_remains hs hread
  have hselect' := select_filter keeps_congr hselect (keeps_of_mem hsub)
  have hcomplete : (remains (keptIds keptWide) s plan).Complete :=
    Snapshot.alike_restrict.complete hc
  by_cases hlength : kept.length = (projects.filter (keeps keptWide)).length
  · -- Both stages keep the same projects.
    have hp := hs.nodup_projects hread
    have hperm := filter_keeps_perm hp (nodup_of_select hp hwider) (subset_of_select hwider)
    have hsame := subset_of_length_eq (nodup_of_select hp hselect) hsub
      (hlength.trans hperm.length_eq)
    have hcells' : keptIds keptWide ⊆ keptIds kept := List.map_subset _ hsame
    constructor
    · intro _
      refine ⟨⟨identifiers, kept, 0, 0, (remains (keptIds keptWide) s plan).counts⟩, ?_, rfl⟩
      rw [apply_of_length_eq hread' hselect' hlength hcomplete,
        ← remains_eq_of_subset hcells hs hnull hcells']
    · rintro ⟨r, -, a, -, hin, hout, -⟩
      exact absurd hout (Cell.notIn_ne_yes_of_isIn (Cell.isIn_mono hcells' hin))
  · have hn := narrows_of_select hread' hselect' hlength
    have hbalance : imbalance (keptIds kept) (remains (keptIds keptWide) s plan) = 0 ↔
        ¬ StrandingBetween (keptIds keptWide) (keptIds kept) s :=
      imbalance_remains_eq_zero_iff hs hnull hthere
    constructor
    · intro hnot
      obtain ⟨second, hrun⟩ :=
        apply_of_balanced (Strict.remains hs) hcomplete hg hn hfit (hbalance.2 hnot)
      have hkept := projects_of_apply hread' hselect' hrun
      rw [remains_remains hcells hs hnull' hnull] at hrun
      exact ⟨second, hrun, hkept⟩
    · intro hstranding
      exact apply_of_imbalance (Strict.remains hs) hcomplete hg hn hfit fun hzero =>
        hbalance.1 hzero hstranding

/-- Where a scope call goes through, so does one for more projects, unless these are too many for
the parameters of a statement and not all. The first call made after that one selects the same
projects and leaves the same snapshot as alone, except where the wider call deleted something and
left a recipient of a lost message with an agent that the narrower one removes. Made twice in a row,
a scope call does nothing the second time. -/
theorem apply_in_stages (h : apply identifiers .readWrite s = .ok result t)
    (hsub : result.projects ⊆ keptWide) :
    (keptWide.length = projects.length ∨ keptWide.length ≤ Parameter.limit →
      ∃ first u, apply wider .readWrite s = .ok first u ∧ first.projects = keptWide ∧
        (keptWide.length = projects.length ∨
            ¬ StrandingBetween (keptIds keptWide) (keptIds result.projects) s →
          ∃ second, apply identifiers .readWrite u = .ok second t ∧
            second.projects = result.projects) ∧
        (keptWide.length ≠ projects.length →
          StrandingBetween (keptIds keptWide) (keptIds result.projects) s →
            apply identifiers .readWrite u =
              .error (.store (.deleteRows .agents) .brokenReference) u)) ∧
    (keptWide.length ≠ projects.length → Parameter.limit < keptWide.length →
      apply wider .readWrite s = .error (excess s keptWide.length) s) ∧
    ∃ again, apply identifiers .readWrite t = .ok again t ∧ again.projects = result.projects ∧
      again.removedCount = 0 ∧ again.orphansRemoved = 0 := by
  refine ⟨fun hwide => ?_, fun hall hexcess => ?_, _, apply_again hs h, rfl, rfl, rfl⟩
  case refine_2 =>
    have hn := narrows_of_select hread hwider hall
    rw [apply_of_excess hn (by rwa [length_keptIds]), length_keptIds]
  obtain ⟨_, kept, hread', hselect, hkept, hct, hcases⟩ := apply_cases h
  cases hread.symm.trans hread'
  rw [hkept] at hsub ⊢
  have hp := hs.nodup_projects hread
  by_cases hall : keptWide.length = projects.length
  · have hc : s.Complete := by
      rcases hcases with ⟨-, rfl, -⟩ | ⟨-, rfl, -⟩
      · exact hct
      · exact Snapshot.alike_restrict.symm.complete hct
    exact ⟨_, s, apply_of_length_eq hread hwider hall hc, rfl, fun _ => ⟨result, h, hkept⟩,
      fun hne => absurd hall hne⟩
  · have hle : kept.length ≤ keptWide.length :=
      ((List.Nodup.of_map _ (nodup_of_select hp hselect)).subperm hsub).length_le
    have hle' : keptWide.length ≤ projects.length :=
      ((List.Nodup.of_map _ (nodup_of_select hp hwider)).subperm
        (subset_of_select hwider)).length_le
    obtain ⟨hlength, -⟩ | ⟨hlength, rfl, -⟩ := hcases
    · omega
    have hc : s.Complete := Snapshot.alike_restrict.symm.complete hct
    have hn := narrows_of_select hread hselect hlength
    obtain ⟨hfit, hzero⟩ := (exists_apply_iff hs hc hg hn).1 ⟨result, _, h⟩
    obtain ⟨first, hfirst⟩ :=
      apply_of_wider hs hg hread hwider hc hn hzero hsub hall (hwide.resolve_left hall)
    obtain ⟨hstages, hfails⟩ := apply_after_remains hs hg hread hwider hc hselect hsub hfit
    exact ⟨first, _, hfirst, projects_of_apply hread hwider hfirst,
      fun hor => hstages (hor.resolve_left hall), fun _ => hfails⟩

end Apply

/-- The agent without a project settles what the deletion of the other agent breaks, as long as both
go at once. -/
def stagingSample : Snapshot :=
  { settlingSample with
    projects := some [⟨.integer 1, .text "one", .text "/one"⟩,
      ⟨.integer 2, .text "two", .text "/two"⟩, ⟨.integer 3, .text "three", .text "/three"⟩] }

theorem strict_stagingSample : stagingSample.Strict := by decide

theorem complete_stagingSample : stagingSample.Complete := by decide

theorem readProjects_stagingSample : stagingSample.readProjects =
    .ok [⟨1, "one", "/one"⟩, ⟨2, "two", "/two"⟩, ⟨3, "three", "/three"⟩] := rfl

theorem narrows_stagingSample : Narrows stagingSample ["one"] [.integer 1] :=
  ⟨_, [⟨1, "one", "/one"⟩], readProjects_stagingSample, by simp, by decide +kernel, by decide, rfl⟩

theorem select_stagingSample_one :
    select [⟨1, "one", "/one"⟩, ⟨2, "two", "/two"⟩, ⟨3, "three", "/three"⟩] ["one"] =
      .ok [⟨1, "one", "/one"⟩] := by decide +kernel

theorem exists_apply_stagingSample : ∃ result t,
    apply ["one"] .readWrite stagingSample = .ok result t ∧
      result.projects = [⟨1, "one", "/one"⟩] := by
  obtain ⟨result, h⟩ := apply_of_balanced strict_stagingSample complete_stagingSample rfl
    narrows_stagingSample (by decide) (by decide)
  exact ⟨result, _, h, projects_of_apply readProjects_stagingSample select_stagingSample_one h⟩

theorem select_stagingSample :
    select [⟨1, "one", "/one"⟩, ⟨2, "two", "/two"⟩, ⟨3, "three", "/three"⟩] ["three", "one"] =
      .ok [⟨3, "three", "/three"⟩, ⟨1, "one", "/one"⟩] := by decide +kernel

/-- The second stage is as good as alone where the first one took the settling agent's project. -/
theorem apply_stages_stagingSample :
    ∃ first second again t u, apply ["one"] .readWrite stagingSample = .ok again t ∧
      apply ["three", "one"] .readWrite stagingSample = .ok first u ∧
      first.projects = [⟨3, "three", "/three"⟩, ⟨1, "one", "/one"⟩] ∧
      apply ["one"] .readWrite u = .ok second t := by
  obtain ⟨result, t, h, hkept⟩ := exists_apply_stagingSample
  have hstaged := (apply_in_stages strict_stagingSample rfl readProjects_stagingSample
    select_stagingSample h (by rw [hkept]; decide)).1
  obtain ⟨first, u, hfirst, hwide, hstages, -⟩ := hstaged (.inr (by decide))
  obtain ⟨second, hsecond, -⟩ := hstages (.inr (by rw [hkept]; unfold StrandingBetween; decide))
  exact ⟨first, second, result, t, u, h, hfirst, hwide, hsecond⟩

theorem select_stagingSample_fatal :
    select [⟨1, "one", "/one"⟩, ⟨2, "two", "/two"⟩, ⟨3, "three", "/three"⟩] ["one", "two"] =
      .ok [⟨1, "one", "/one"⟩, ⟨2, "two", "/two"⟩] := by decide +kernel

theorem narrows_stagingSample_fatal :
    Narrows stagingSample ["one", "two"] [.integer 1, .integer 2] :=
  ⟨_, _, readProjects_stagingSample, by simp, select_stagingSample_fatal, by decide, rfl⟩

theorem stranding_stagingSample :
    StrandingBetween [.integer 1, .integer 2] [.integer 1] stagingSample := by
  unfold StrandingBetween
  decide

/-- A scope call that goes through alone may fail after one for more projects. -/
theorem stages_may_fail :
    ¬ ∀ (s t : Snapshot) (wider identifiers : List String) (projects keptWide : List ProjectRecord)
      (result : ScopeResult), s.Strict → s.triggers = [] → s.readProjects = .ok projects →
        select projects wider = .ok keptWide → apply identifiers .readWrite s = .ok result t →
          result.projects ⊆ keptWide →
            ∃ first u second, apply wider .readWrite s = .ok first u ∧
              apply identifiers .readWrite u = .ok second t ∧
                second.projects = result.projects := by
  intro h
  obtain ⟨result, t, happly, hkept⟩ := exists_apply_stagingSample
  obtain ⟨first, u, second, hfirst, hsecond, -⟩ := h stagingSample t ["one", "two"] ["one"] _ _
    result strict_stagingSample rfl readProjects_stagingSample select_stagingSample_fatal happly
    (by rw [hkept]; decide)
  obtain ⟨wide, hwide⟩ := apply_of_balanced strict_stagingSample complete_stagingSample rfl
    narrows_stagingSample_fatal (by decide) (by decide)
  cases hwide.symm.trans hfirst
  have hfails := (apply_after_remains strict_stagingSample rfl readProjects_stagingSample
    select_stagingSample_fatal complete_stagingSample select_stagingSample_one (by decide)
    (by decide)).2 stranding_stagingSample
  cases hsecond.symm.trans hfails

end Scope
end MailSnapshot
