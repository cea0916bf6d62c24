import MailSnapshot.Proofs.Store.Restriction
import MailSnapshot.Proofs.Store.Run
import MailSnapshot.Scope.Plan

/-! The deletions of the plan, one after the other, against one filter on the snapshot before them.
A deletion looks up what the deletions before it have left, so the point is that nothing they take
away changes its verdict. -/

namespace MailSnapshot.Scope
variable {keep : List Cell} {s t : Snapshot} {d : Deletion} {pre ds es : List Deletion} {k : Lookup}
  {access : Access} {totals totals' : Totals} {u : Table}

/-- A deletion lets a row stay. It has no say in other tables than its own. -/
def Deletion.spares (d : Deletion) (k : Lookup) : (u : Table) → u.Row → Bool :=
  d.table.only fun r => d.doomed k r ≠ .yes

/-- How many rows a deletion dooms. -/
def Deletion.doomedCount (d : Deletion) (k : Lookup) (s : Snapshot) : Nat :=
  (s.gone d.table (d.doomed k)).length

/-- No deletion of a list dooms the row. -/
def spared (ds : List Deletion) (k : Lookup) (u : Table) (r : u.Row) : Bool :=
  ds.all fun d => d.spares k u r

/-- What some deletions leave when all of them look at the whole snapshot. -/
def remains (keep : List Cell) (s : Snapshot) (ds : List Deletion) : Snapshot :=
  s.restrict (spared ds (.of keep s))

/-- How many rows the orphan deletions of a list doom. -/
def orphanCount (k : Lookup) (s : Snapshot) : List Deletion → Nat
  | [] => 0
  | d :: ds => (if d.orphan then d.doomedCount k s else 0) + orphanCount k s ds

/-- A deletion that comes after others decides as if it came first, and if it counts orphans it
finds all rows of its table. -/
def Steady (keep : List Cell) (s : Snapshot) (pre : List Deletion) (d : Deletion) : Prop :=
  d.doomed (.of keep (remains keep s pre)) = d.doomed (.of keep s) ∧
    (d.orphan = true → (remains keep s pre).rows d.table = s.rows d.table)

/-- The deletions of the plan, case by case. -/
@[elab_as_elim]
theorem plan_cases {motive : (d : Deletion) → d ∈ plan → Prop}
    (orphanLinks : motive Scope.orphanLinks (by simp [plan]))
    (orphanRecipients : motive Scope.orphanRecipients (by simp [plan]))
    (orphanMessages : motive Scope.orphanMessages (by simp [plan]))
    (orphanReservations : motive Scope.orphanReservations (by simp [plan]))
    (outerLinks : motive Scope.outerLinks (by simp [plan]))
    (outerSuggestions : motive Scope.outerSuggestions (by simp [plan]))
    (outerRecipients : motive Scope.outerRecipients (by simp [plan]))
    (outerMessages : motive Scope.outerMessages (by simp [plan]))
    (outerReservations : motive Scope.outerReservations (by simp [plan]))
    (outerAgents : motive Scope.outerAgents (by simp [plan]))
    (outerProjects : motive Scope.outerProjects (by simp [plan]))
    (d : Deletion) (hd : d ∈ plan) : motive d hd := by
  have h := hd
  simp only [plan, List.mem_cons, List.not_mem_nil, or_false] at h
  rcases h with rfl | rfl | rfl | rfl | rfl | rfl | rfl | rfl | rfl | rfl | rfl
  · exact orphanLinks
  · exact orphanRecipients
  · exact orphanMessages
  · exact orphanReservations
  · exact outerLinks
  · exact outerSuggestions
  · exact outerRecipients
  · exact outerMessages
  · exact outerReservations
  · exact outerAgents
  · exact outerProjects

/-- Each deletion of a list stands in a relation to the ones before it. -/
def EachAfter (holds : List Deletion → Deletion → Prop) : List Deletion → List Deletion → Prop
  | _, [] => True
  | pre, d :: ds => holds pre d ∧ EachAfter holds (pre ++ [d]) ds

theorem eachAfter_append {holds : List Deletion → Deletion → Prop} :
    EachAfter holds pre (ds ++ es) ↔ EachAfter holds pre ds ∧ EachAfter holds (pre ++ ds) es := by
  induction ds generalizing pre with
  | nil => simp [EachAfter]
  | cons d ds ih => simp [EachAfter, ih, and_assoc]

theorem Deletion.spares_iff {r : d.table.Row} :
    d.spares k d.table r = true ↔ d.doomed k r ≠ .yes := by
  rw [Deletion.spares, Table.only_self, decide_eq_true_iff]

/-- Only the deletions of its own table decide on a row. -/
theorem spared_iff {r : u.Row} :
    spared ds k u r = true ↔ ∀ d ∈ ds.filter (·.table = u), d.spares k u r = true := by
  rw [spared, List.all_eq_true]
  constructor
  · intro h d hd
    exact h d (List.mem_filter.1 hd).1
  · intro h d hd
    by_cases hu : d.table = u
    · exact h d (List.mem_filter.2 ⟨hd, decide_eq_true hu⟩)
    · exact Table.only_of_ne (Ne.symm hu) r

theorem remains_nil : remains keep s [] = s :=
  Snapshot.restrict_of_all fun _ _ _ => rfl

theorem remains_append_singleton (h : Steady keep s pre d) :
    (remains keep s pre).restrict (d.spares (.of keep (remains keep s pre))) =
      remains keep s (pre ++ [d]) := by
  have hd : d.spares (.of keep (remains keep s pre)) = d.spares (.of keep s) := by
    rw [Deletion.spares, h.1, Deletion.spares]
  rw [hd, remains, Snapshot.restrict_restrict, remains]
  congr 1
  funext u r
  simp [spared]

theorem spared_of_forall_ne (h : ∀ d ∈ ds, d.table ≠ u) (r : u.Row) : spared ds k u r = true := by
  rw [spared, List.all_eq_true]
  intro d hd
  exact Table.only_of_ne (h d hd).symm r

theorem rows_remains_of_forall_ne (h : ∀ d ∈ ds, d.table ≠ u) :
    (remains keep s ds).rows u = s.rows u := by
  rw [remains, Snapshot.rows_restrict, List.filter_eq_self]
  intro r _
  exact spared_of_forall_ne h r

theorem Deletion.doomedCount_of_missing (h : s.has d.table = false) : d.doomedCount k s = 0 := by
  rw [Deletion.doomedCount, Snapshot.gone, Snapshot.rows_of_missing h]
  rfl

theorem Deletion.restrict_spares_of_missing (h : s.has d.table = false) :
    s.restrict (d.spares k) = s := by
  apply Snapshot.restrict_of_all
  intro u r hr
  by_cases hu : u = d.table
  · subst hu
    rw [Snapshot.rows_of_missing h] at hr
    cases hr
  · exact Table.only_of_ne hu r

theorem Deletion.run_of_missing (ho : d.optional = true) (hm : s.has d.table = false) :
    d.run keep totals access s = .ok totals s := by
  rw [Deletion.run, Pass.bind_run_of_ok (Pass.look_run _), ho, hm]
  rfl

/-- A deletion goes through exactly when the store takes as many parameters as projects are kept,
and then it is a deletion of rows. -/
theorem Deletion.execute_eq_ok_iff {n : Nat} : d.execute keep access s = .ok (n, t) ↔
    keep.length ≤ Parameter.limit ∧
      s.delete access d.table d.names (d.doomed (.of keep s)) = .ok (n, t) := by
  rw [Deletion.execute, Snapshot.checkParameters]
  split
  · rename_i hfit
    exact (and_iff_right hfit).symm
  · rename_i hexcess
    constructor
    · intro h
      cases h
    · rintro ⟨hfit, -⟩
      exact absurd hfit hexcess

theorem Deletion.execute_of_fit (hfit : keep.length ≤ Parameter.limit) :
    d.execute keep access s = s.delete access d.table d.names (d.doomed (.of keep s)) := by
  rw [Deletion.execute, Snapshot.checkParameters, if_pos hfit]
  rfl

theorem Deletion.execute_of_excess (hexcess : Parameter.limit < keep.length) :
    d.execute keep access s = .error (.parameterNumber (d.statement keep.length)) := by
  rw [Deletion.execute, Snapshot.checkParameters, if_neg (by omega)]
  rfl

theorem Deletion.run_of_required (hr : d.optional = false ∨ s.has d.table = true) :
    d.run keep totals access s =
      (Pass.change (.deleteRows d.table) (d.execute keep) >>=
        fun deleted => pure (totals.add d deleted) : Pass Totals) access s := by
  rw [Deletion.run, Pass.bind_run_of_ok (Pass.look_run _)]
  rcases hr with hr | hr
  · rw [hr]
    rfl
  · rw [hr, Bool.not_true, Bool.and_false]
    rfl

/-- What one deletion does, also when its table is missing. -/
theorem Deletion.run_eq_ok (h : d.run keep totals access s = .ok totals' t) :
    t = s.restrict (d.spares (.of keep s)) ∧
      totals'.orphans = totals.orphans + if d.orphan then d.doomedCount (.of keep s) s else 0 := by
  rw [Deletion.run, Pass.bind_eq_ok_iff] at h
  obtain ⟨present, s₁, hl, h⟩ := h
  cases hl
  split at h
  · rename_i hm
    cases h
    have hmissing : s.has d.table = false := by simp_all
    rw [Deletion.doomedCount_of_missing hmissing, ite_self,
      Deletion.restrict_spares_of_missing hmissing]
    exact ⟨rfl, rfl⟩
  · obtain ⟨n, s₂, hc, h⟩ := Pass.bind_eq_ok_iff.1 h
    cases h
    obtain ⟨-, hdelete⟩ := Deletion.execute_eq_ok_iff.1 (Pass.change_eq_ok_iff.1 hc)
    obtain ⟨-, -, -, -, -, -, rfl, rfl⟩ := Snapshot.delete_eq_ok_iff.1 hdelete
    refine ⟨rfl, ?_⟩
    unfold Totals.add
    split
    · rfl
    · split <;> rfl

/-- Steady deletions leave what they would leave if all of them looked at the whole snapshot. -/
theorem foldlM_run_eq_ok (hs : EachAfter (Steady keep s) pre ds)
    (h : ds.foldlM (fun totals d => d.run keep totals) totals access (remains keep s pre) =
      .ok totals' t) :
    t = remains keep s (pre ++ ds) ∧
      totals'.orphans = totals.orphans + orphanCount (.of keep s) s ds := by
  induction ds generalizing pre totals with
  | nil =>
    cases h
    rw [List.append_nil]
    exact ⟨rfl, rfl⟩
  | cons d ds ih =>
    obtain ⟨hd, hds⟩ := hs
    rw [List.foldlM_cons, Pass.bind_eq_ok_iff] at h
    obtain ⟨totals₁, s₁, h₁, h⟩ := h
    obtain ⟨rfl, ho⟩ := Deletion.run_eq_ok h₁
    rw [remains_append_singleton hd] at h
    obtain ⟨rfl, ho'⟩ := ih hds h
    refine ⟨by rw [List.append_assoc, List.singleton_append], ?_⟩
    rw [ho', ho, orphanCount, Nat.add_assoc]
    split
    · rename_i horphan
      have hrows := hd.2 horphan
      rw [Deletion.doomedCount, Deletion.doomedCount, Snapshot.gone, Snapshot.gone, hrows, hd.1]
    · rfl

theorem agents_of_remains (h : ∀ d ∈ pre, d.table ≠ .agents) :
    (Lookup.of keep (remains keep s pre)).agents = (Lookup.of keep s).agents := by
  change Lookup.agentsWhere _ _ = Lookup.agentsWhere _ _
  rw [Lookup.agentsWhere, Lookup.agentsWhere, rows_remains_of_forall_ne h]

theorem of_remains (ha : ∀ d ∈ pre, d.table ≠ .agents) (hm : ∀ d ∈ pre, d.table ≠ .messages) :
    Lookup.of keep (remains keep s pre) = Lookup.of keep s := by
  unfold Lookup.of Lookup.agentsWhere Lookup.messagesWhere
  rw [rows_remains_of_forall_ne ha, rows_remains_of_forall_ne hm]

/-- Messages of the other projects that are all still there are found again. -/
theorem outer_of_remains
    (h : ∀ m ∈ s.rows .messages, m.project.notIn keep = .yes →
      spared pre (.of keep s) .messages m = true) :
    (Lookup.of keep (remains keep s pre)).outer = (Lookup.of keep s).outer := by
  change Lookup.messagesWhere _ _ = Lookup.messagesWhere _ _
  rw [Lookup.messagesWhere, Lookup.messagesWhere, remains, Snapshot.rows_restrict,
    List.filter_filter]
  congr 1
  apply List.filter_congr
  intro m hm
  by_cases hk : m.project.notIn keep = .yes
  · simp [hk, h m hm hk]
  · simp [hk]

/-- An orphan message lies in a kept project. -/
theorem orphanMessages_spares {m : Message} (h : m.project.notIn keep = .yes) :
    orphanMessages.spares (.of keep s) .messages m = true := by
  have hin : m.project.isIn keep = .no := Truth.not_eq_yes.1 h
  change decide _ = true
  simp [orphanMessages, Lookup.of, hin]

theorem steady_of_untouched (ha : ∀ e ∈ pre, e.table ≠ .agents)
    (hm : ∀ e ∈ pre, e.table ≠ .messages) (hd : ∀ e ∈ pre, e.table ≠ d.table) :
    Steady keep s pre d := by
  refine ⟨?_, fun _ => rows_remains_of_forall_ne hd⟩
  rw [of_remains ha hm]

/-- The reservations look at the agents alone, which are all still there. -/
theorem steady_orphanReservations (ha : ∀ e ∈ pre, e.table ≠ .agents)
    (hd : ∀ e ∈ pre, e.table ≠ .reservations) : Steady keep s pre orphanReservations := by
  refine ⟨?_, fun _ => rows_remains_of_forall_ne hd⟩
  funext r
  change (r.project.isIn keep).and (r.agent.notIn (Lookup.of keep (remains keep s pre)).agents) = _
  rw [agents_of_remains ha]
  rfl

/-- The recipients look for messages of the other projects. The only messages gone by then lay in
kept projects. -/
theorem steady_outerRecipients :
    Steady keep s [orphanLinks, orphanRecipients, orphanMessages, orphanReservations, outerLinks,
      outerSuggestions] outerRecipients := by
  refine ⟨?_, fun h => nomatch h⟩
  funext r
  change r.message.isIn (Lookup.of keep (remains keep s _)).outer = _
  rw [outer_of_remains]
  · rfl
  · intro m _ hm
    rw [spared, List.all_eq_true]
    intro d hd
    simp only [List.mem_cons, List.not_mem_nil, or_false] at hd
    rcases hd with rfl | rfl | rfl | rfl | rfl | rfl
    case inr.inr.inl => exact orphanMessages_spares hm
    all_goals exact Table.only_of_ne (by decide) m

theorem steady_plan : EachAfter (Steady keep s) [] plan := by
  refine ⟨?_, ?_, ?_, ?_, ?_, ?_, ?_, ?_, ?_, ?_, ?_, trivial⟩
  case refine_1 => exact steady_of_untouched (by decide) (by decide) (by decide)
  case refine_2 => exact steady_of_untouched (by decide) (by decide) (by decide)
  case refine_3 => exact steady_of_untouched (by decide) (by decide) (by decide)
  case refine_4 => exact steady_orphanReservations (by decide) (by decide)
  case refine_7 => exact steady_outerRecipients
  -- The other deletions look nothing up.
  all_goals exact ⟨rfl, fun h => nomatch h⟩

section Plan

theorem spared_plan_projects {p : Project} :
    spared plan k .projects p = true ↔ p.id.notIn k.keep ≠ .yes := by
  rw [spared_iff]
  change (∀ d ∈ [outerProjects], d.spares k .projects p = true) ↔ _
  rw [List.forall_mem_singleton]
  exact Deletion.spares_iff (d := outerProjects)

theorem spared_plan_agents {a : Agent} :
    spared plan k .agents a = true ↔ a.project.notIn k.keep ≠ .yes := by
  rw [spared_iff]
  change (∀ d ∈ [outerAgents], d.spares k .agents a = true) ↔ _
  rw [List.forall_mem_singleton]
  exact Deletion.spares_iff (d := outerAgents)

theorem spared_plan_messages {m : Message} :
    spared plan k .messages m = true ↔
      orphanMessages.doomed k m ≠ .yes ∧ m.project.notIn k.keep ≠ .yes := by
  rw [spared_iff]
  change (∀ d ∈ [orphanMessages, outerMessages], d.spares k .messages m = true) ↔ _
  rw [List.forall_mem_cons, List.forall_mem_singleton]
  exact and_congr (Deletion.spares_iff (d := orphanMessages))
    (Deletion.spares_iff (d := outerMessages))

theorem spared_recipients {r : Recipient}
    (h : ds.filter (·.table = .recipients) = [orphanRecipients, outerRecipients]) :
    spared ds k .recipients r = true ↔
      orphanRecipients.doomed k r ≠ .yes ∧ outerRecipients.doomed k r ≠ .yes := by
  rw [spared_iff, h, List.forall_mem_cons, List.forall_mem_singleton]
  exact and_congr (Deletion.spares_iff (d := orphanRecipients))
    (Deletion.spares_iff (d := outerRecipients))

end Plan

theorem eq_remains_of_deleteUnselected (h : deleteUnselected keep access s = .ok totals t) :
    t = remains keep s plan ∧ totals.orphans = orphanCount (.of keep s) s plan := by
  have hrun : plan.foldlM (fun totals d => d.run keep totals) ⟨0, 0⟩ access (remains keep s []) =
      .ok totals t := by
    rw [remains_nil]
    exact h
  obtain ⟨rfl, ho⟩ := foldlM_run_eq_ok steady_plan hrun
  rw [Nat.zero_add] at ho
  exact ⟨rfl, ho⟩

section First
variable {fault : Fault}

/-- The first deletion of the plan that is not passed over. -/
def firstDeletion (s : Snapshot) : Deletion :=
  if s.has .links then orphanLinks else orphanRecipients

theorem firstDeletion_mem_plan : firstDeletion s ∈ plan := by
  unfold firstDeletion
  split
  · simp [plan]
  · simp [plan]

theorem Deletion.run_of_fault (hr : d.optional = false ∨ s.has d.table = true)
    (h : d.execute keep access s = .error fault) :
    d.run keep totals access s = .error (.store (.deleteRows d.table) fault) s := by
  rw [Deletion.run_of_required hr]
  exact Pass.bind_run_of_error (Pass.change_run_of_error h)

/-- Where the first deletion fails the plan fails and has not changed anything. -/
theorem deleteUnselected_of_fault (h : (firstDeletion s).execute keep access s = .error fault) :
    deleteUnselected keep access s =
      .error (.store (.deleteRows (firstDeletion s).table) fault) s := by
  rw [deleteUnselected, plan, List.foldlM_cons]
  unfold firstDeletion at h ⊢
  split at h
  · rename_i hlinks
    rw [if_pos hlinks]
    exact Pass.bind_run_of_error (Deletion.run_of_fault (.inr hlinks) h)
  · rename_i hlinks
    have hmissing : s.has .links = false := by simpa using hlinks
    rw [if_neg hlinks, Pass.bind_run_of_ok (Deletion.run_of_missing rfl hmissing),
      List.foldlM_cons]
    exact Pass.bind_run_of_error (Deletion.run_of_fault (.inl rfl) h)

/-- How the plan fails when more projects are kept than a statement has parameters. -/
def excess (s : Snapshot) (kept : Nat) : Failure :=
  let d := firstDeletion s
  .store (.deleteRows d.table) (.parameterNumber (d.statement kept))

theorem deleteUnselected_of_excess (hexcess : Parameter.limit < keep.length) :
    deleteUnselected keep access s = .error (excess s keep.length) s :=
  deleteUnselected_of_fault (Deletion.execute_of_excess hexcess)

end First

/-- The plan leaves exactly the rows that none of its conditions dooms when each of them looks at
the whole snapshot, and it counts as orphans the rows that its orphan conditions doom there. -/
theorem deleteUnselected_eq_filter (h : deleteUnselected keep access s = .ok totals t) :
    (t.schema = s.schema ∧ t.triggers = s.triggers ∧
      ∀ u, t.table? u = (s.table? u).map (List.filter (spared plan (.of keep s) u))) ∧
    totals.orphans =
      orphanLinks.doomedCount (.of keep s) s + orphanRecipients.doomedCount (.of keep s) s +
        orphanMessages.doomedCount (.of keep s) s +
        orphanReservations.doomedCount (.of keep s) s := by
  obtain ⟨rfl, ho⟩ := eq_remains_of_deleteUnselected h
  refine ⟨⟨rfl, rfl, fun u => Snapshot.table?_restrict u⟩, ?_⟩
  rw [ho]
  simp only [orphanCount, plan, orphanLinks, orphanRecipients, orphanMessages, orphanReservations,
    outerLinks, outerSuggestions, outerRecipients, outerMessages, outerReservations, outerAgents,
    outerProjects]
  simp [Nat.add_assoc]

/-- Two agents with one id, a null in most columns that a condition reads, and no table of links. -/
def looseSample : Snapshot :=
  { Snapshot.empty .loose with
    projects := some [⟨.integer 1, .text "a", .null⟩, ⟨.integer 2, .text "b", .null⟩]
    agents := some [⟨.integer 1, .integer 1, .null⟩, ⟨.integer 1, .integer 2, .null⟩,
      ⟨.null, .integer 2, .null⟩]
    messages := some [⟨.integer 5, .integer 1, .integer 9, .null, .null, .null, .null⟩,
      ⟨.integer 6, .null, .integer 1, .null, .null, .null, .null⟩,
      ⟨.integer 7, .integer 2, .integer 1, .null, .null, .null, .null⟩]
    recipients := some [⟨.integer 5, .integer 1, .null, .null⟩, ⟨.integer 6, .null, .null, .null⟩,
      ⟨.integer 7, .integer 1, .null, .null⟩]
    reservations := some [⟨.integer 1, .integer 1, .null, .null⟩]
    links := none }

/-- What the plan leaves of the sample when it keeps the first project. -/
def looseSampleKept : Snapshot :=
  { looseSample with
    projects := some [⟨.integer 1, .text "a", .null⟩]
    agents := some [⟨.integer 1, .integer 1, .null⟩]
    messages := some [⟨.integer 6, .null, .integer 1, .null, .null, .null, .null⟩]
    recipients := some [⟨.integer 6, .null, .null, .null⟩] }

theorem deleteUnselected_looseSample :
    deleteUnselected [.integer 1] .readWrite looseSample = .ok ⟨1, 2⟩ looseSampleKept ∧
      looseSampleKept.messages = looseSample.messages.map
        (List.filter (spared plan (.of [.integer 1] looseSample) .messages)) := by
  have h : deleteUnselected [.integer 1] .readWrite looseSample = .ok ⟨1, 2⟩ looseSampleKept := by
    rfl
  exact ⟨h, (deleteUnselected_eq_filter h).1.2.2 .messages⟩

end MailSnapshot.Scope
