import MailSnapshot.Proofs.Scope.Outcome
import MailSnapshot.Proofs.Scope.References
import Mathlib.Data.List.Basic

/-! Referential integrity of scoping. The store counts broken references as the agents of the other
projects go; the count alone decides, and what is left dangles nowhere but in recipients of messages
that were lost before. -/

namespace MailSnapshot.Scope
variable {keep : List Cell} {s t : Snapshot} {identifiers : List String}

/-- A recipient of a lost message names an agent that goes. -/
def Stranding (keep : List Cell) (s : Snapshot) : Prop :=
  ∃ r ∈ s.lost, ∃ a ∈ s.rows .agents, a.project.notIn keep = .yes ∧ r.agent.same a.id = true

section Count
variable {α : Type} {settled broken : α → Nat} {xs : List α}

theorem foldl_count_eq_zero (hb : ∀ x ∈ xs, broken x = 0) :
    xs.foldl (fun n x => n - settled x + broken x) 0 = 0 := by
  induction xs with
  | nil => rfl
  | cons x xs ih =>
    rw [List.foldl_cons, hb x (by simp), Nat.zero_sub]
    exact ih fun y hy => hb y (by simp [hy])

theorem le_foldl_count (broken : α → Nat) (n : Nat) (hs : ∀ x ∈ xs, settled x = 0) :
    n ≤ xs.foldl (fun n x => n - settled x + broken x) n := by
  induction xs generalizing n with
  | nil => exact Nat.le_refl n
  | cons x xs ih =>
    rw [List.foldl_cons, hs x (by simp)]
    have := ih (n - 0 + broken x) fun y hy => hs y (by simp [hy])
    omega

theorem broken_le_foldl_count (settled broken : α → Nat) (hs : ∀ x ∈ xs, settled x = 0) {x : α}
    (hx : x ∈ xs) (n : Nat) : broken x ≤ xs.foldl (fun n x => n - settled x + broken x) n := by
  obtain ⟨before, after, rfl⟩ := List.append_of_mem hx
  rw [List.foldl_append, List.foldl_cons]
  have hafter : ∀ y ∈ after, settled y = 0 := fun y hy => hs y (by simp [hy])
  have := le_foldl_count broken (before.foldl (fun n x => n - settled x + broken x) n - settled x +
    broken x) hafter
  omega

end Count

theorem imbalance_eq_zero (h : ¬ Stranding keep s) : imbalance keep s = 0 := by
  apply foldl_count_eq_zero
  intro a ha
  obtain ⟨ha, hgone⟩ := List.mem_filter.1 ha
  rw [List.countP_eq_zero]
  intro r hr hsame
  exact h ⟨r, hr, a, ha, of_decide_eq_true hgone, Cell.same_symm hsame⟩

/-- The count comes back to nothing only when an agent that goes had no project. -/
theorem imbalance_ne_zero (h : Stranding keep s)
    (hp : ∀ a ∈ s.rows .agents, a.project.notIn keep = .yes →
      s.dangles (.projects, a.project) = false) : imbalance keep s ≠ 0 := by
  obtain ⟨r, hr, a, ha, hgone, hsame⟩ := h
  have hmem : a ∈ s.gone .agents fun a => a.project.notIn keep :=
    List.mem_filter.2 ⟨ha, decide_eq_true hgone⟩
  have hcount : 0 < s.lost.countP fun r => a.id.same r.agent :=
    List.countP_pos_iff.2 ⟨r, hr, Cell.same_symm hsame⟩
  have hle := broken_le_foldl_count
    (fun a : Agent => if s.dangles (.projects, a.project) then 1 else 0)
    (fun a => s.lost.countP fun r => a.id.same r.agent) ?_ hmem 0
  · exact Nat.ne_of_gt (Nat.lt_of_lt_of_le hcount hle)
  · intro b hb
    obtain ⟨hb, hgone⟩ := List.mem_filter.1 hb
    rw [hp b hb (of_decide_eq_true hgone)]
    rfl

/-- No deletion takes the recipient of a lost message. -/
theorem spared_lost {r : Recipient} {ds : List Deletion}
    (hds : ds.filter (·.table = .recipients) = [orphanRecipients, outerRecipients])
    (hr : s.dangles (.messages, r.message) = true) :
    spared ds (.of keep s) .recipients r = true := by
  have hnot : ∀ condition, r.message.isIn (Lookup.messagesWhere s condition) ≠ .yes := by
    intro condition hin
    obtain ⟨m, hm, heq, -⟩ := isIn_messagesWhere_iff.1 hin
    have hsame := (Cell.eq_eq_yes_iff.1 heq).2.2
    rw [Snapshot.dangles_eq_true_iff.1 hr m hm m.id rfl] at hsame
    cases hsame
  exact (spared_recipients hds).2 ⟨fun h => hnot _ (Truth.and_eq_yes.1 h).1, hnot _⟩

section Strict
variable (hs : s.Strict) (hk : ∀ c ∈ keep, c ≠ .null)
include hs hk

/-- Of the recipients that name an agent that goes, exactly those of lost messages are left. -/
theorem spared_iff_lost {a : Agent} {r : Recipient} (ha : a ∈ s.rows .agents)
    (hgone : a.project.notIn keep = .yes) (hr : r ∈ s.rows .recipients)
    (hsame : a.id.same r.agent = true) :
    spared settling (.of keep s) .recipients r = s.dangles (.messages, r.message) := by
  rw [Bool.eq_iff_iff]
  constructor
  · intro hspared
    rw [Snapshot.dangles_eq_true_iff]
    intro m hm id hid
    cases hid
    rw [← Bool.not_eq_true]
    intro hmessage
    have hleft : r ∈ (remains keep s settling).rows .recipients :=
      Snapshot.mem_rows_restrict.2 ⟨hr, hspared⟩
    have hin := settled_recipient_message hs hk (by simp [settling]) hleft hm hmessage
    have hagent := (settled_recipient_of_inner hs (by simp [settling]) hleft hm hin hmessage).2
    rw [not_same_of_named hs ha hgone hagent] at hsame
    cases hsame
  · intro hlost
    exact spared_lost rfl hlost

theorem brokenBy_outerAgents : brokenBy keep s settling outerAgents = imbalance keep s := by
  have hagents : (remains keep s settling).rows .agents = s.rows .agents :=
    rows_remains_of_forall_ne (by decide)
  have hprojects : (remains keep s settling).rows .projects = s.rows .projects :=
    rows_remains_of_forall_ne (by decide)
  have hgone : (remains keep s settling).gone .agents (fun a => a.project.notIn keep) =
      s.gone .agents fun a => a.project.notIn keep := by
    rw [Snapshot.gone, hagents, Snapshot.gone]
  change (remains keep s settling).tally .agents
    ((remains keep s settling).gone .agents fun a => a.project.notIn keep) = _
  rw [hgone, Snapshot.tally, imbalance]
  apply List.foldl_ext
  intro n a ha
  obtain ⟨ha, hdoomed⟩ := List.mem_filter.1 ha
  have hdoomed := of_decide_eq_true hdoomed
  have hdangling : (remains keep s settling).danglingIn .agents a =
      if s.dangles (.projects, a.project) then 1 else 0 := by
    have hsame : (remains keep s settling).dangles (.projects, a.project) =
        s.dangles (.projects, a.project) := by
      rw [Snapshot.dangles, Snapshot.dangles, hprojects]
    simp only [Snapshot.danglingIn, Table.references, List.countP_cons, List.countP_nil, hsame,
      Nat.zero_add]
  have hnamed : ((remains keep s settling).namings .agents).countP a.id.same =
      s.lost.countP fun r => a.id.same r.agent := by
    rw [agent_named_only_by_lost hs hk (List.Subset.refl _) ha hdoomed, remains,
      Snapshot.rows_restrict, List.countP_filter, Snapshot.lost, List.countP_filter]
    apply List.countP_congr
    intro r hr
    by_cases hsame : a.id.same r.agent = true
    · simp [hsame, spared_iff_lost hs hk ha hdoomed hr hsame]
    · simp [hsame]
  rw [Snapshot.tallyAfter, hdangling]
  change _ + ((remains keep s settling).namings .agents).countP a.id.same = _
  rw [hnamed]

theorem deleteUnselected_of_balanced (hc : s.Complete) (hg : s.triggers = [])
    (hfit : keep.length ≤ Parameter.limit) (h : imbalance keep s = 0) :
    ∃ totals, deleteUnselected keep .readWrite s = .ok totals (remains keep s plan) := by
  have hclear : EachAfter (Clear keep s) [] (settling ++ [outerAgents, outerProjects]) := by
    refine eachAfter_append.2 ⟨clear_settling hs hk, ?_, ?_, trivial⟩
    · exact (brokenBy_outerAgents hs hk).trans h
    · exact clear_outerProjects hs hk (by simp) (by simp)
  obtain ⟨totals, hrun⟩ := foldlM_run_of_clear hs hc hg hfit (fun _ hd => hd) steady_plan hclear
    ⟨0, 0⟩
  rw [remains_nil] at hrun
  exact ⟨totals, hrun⟩

theorem deleteUnselected_of_imbalance (hc : s.Complete) (hg : s.triggers = [])
    (hfit : keep.length ≤ Parameter.limit) (h : imbalance keep s ≠ 0) :
    ∃ t, deleteUnselected keep .readWrite s =
      .error (.store (.deleteRows .agents) .brokenReference) t := by
  obtain ⟨hfirst, hagents, _⟩ := eachAfter_append.1
    (show EachAfter (Steady keep s) [] (settling ++ [outerAgents, outerProjects]) from steady_plan)
  obtain ⟨totals, hrun⟩ := foldlM_run_of_clear hs hc hg hfit
    (fun d hd => List.mem_append_left [outerAgents, outerProjects] hd) hfirst
    (clear_settling hs hk) ⟨0, 0⟩
  rw [remains_nil, List.nil_append] at hrun
  have hfail := run_of_broken hs hc hg hfit (show outerAgents ∈ plan by simp [plan]) hagents
    (hc .agents (by decide) (by decide)) (by rwa [List.nil_append, brokenBy_outerAgents hs hk])
    totals
  refine ⟨remains keep s settling, ?_⟩
  rw [deleteUnselected, show plan = settling ++ [outerAgents, outerProjects] from rfl,
    List.foldlM_append, Pass.bind_run_of_ok hrun, List.foldlM_cons]
  exact Pass.bind_run_of_error hfail

end Strict

section Left
variable (hs : s.Strict) (hk : ∀ c ∈ keep, c ≠ .null)
  (hp : ∀ c ∈ keep, ∃ p ∈ s.rows .projects, p.id = c)

include hk hp in
/-- A kept project stays. -/
theorem project_stays {c : Cell} (h : c.isIn keep = .yes) :
    (remains keep s plan).dangles (.projects, c) = false := by
  obtain ⟨_, hd, hsame⟩ := Cell.exists_same_of_isIn h
  obtain ⟨p, hrow, rfl⟩ := hp _ hd
  have hspared := spared_plan_projects (k := .of keep s).2
    (Cell.notIn_ne_yes_of_isIn (Cell.isIn_of_mem hd (hk _ hd)))
  exact Snapshot.dangles_eq_false_iff.2
    ⟨p, Snapshot.mem_rows_restrict.2 ⟨hrow, hspared⟩, p.id, rfl, hsame⟩

/-- An agent of a kept project stays. -/
theorem agent_stays {c : Cell} (h : c.isIn (Lookup.of keep s).agents = .yes) :
    (remains keep s plan).dangles (.agents, c) = false := by
  obtain ⟨a, hrow, hin, heq⟩ := isIn_agents_iff.1 h
  have hsame := (Cell.eq_eq_yes_iff.1 heq).2.2
  have hspared := spared_plan_agents (k := .of keep s).2 (Cell.notIn_ne_yes_of_isIn hin)
  exact Snapshot.dangles_eq_false_iff.2
    ⟨a, Snapshot.mem_rows_restrict.2 ⟨hrow, hspared⟩, a.id, rfl, hsame⟩

/-- A message in a kept project from an agent of a kept project stays. -/
theorem message_stays {c : Cell} {m : Message} (hm : m ∈ s.rows .messages)
    (hin : m.project.isIn keep = .yes) (hsender : m.sender.isIn (Lookup.of keep s).agents = .yes)
    (hsame : c.same m.id = true) : (remains keep s plan).dangles (.messages, c) = false := by
  have hspared := spared_plan_messages (k := .of keep s).2
    ⟨fun h => Cell.notIn_ne_yes_of_isIn hsender (Truth.and_eq_yes.1 h).2,
      Cell.notIn_ne_yes_of_isIn hin⟩
  exact Snapshot.dangles_eq_false_iff.2
    ⟨m, Snapshot.mem_rows_restrict.2 ⟨hm, hspared⟩, m.id, rfl, hsame⟩

include hs hk hp

/-- Every reference of a row that the plan leaves names something, unless the row was the recipient
of a lost message. -/
theorem dangles_of_left {u : Table} {r : u.Row} (hr : r ∈ (remains keep s plan).rows u)
    (hlost : ∀ x ∈ s.lost, (⟨u, r⟩ : Σ u : Table, u.Row) ≠ ⟨.recipients, x⟩) {ref : Table × Cell}
    (href : ref ∈ u.references r) : (remains keep s plan).dangles ref = false := by
  cases u with
  | projects => simp [Table.references] at href
  | agents =>
    obtain rfl : ref = (.projects, Agent.project r) := by simpa [Table.references] using href
    exact project_stays hk hp (settled_agent hs hk (by simp [plan]) hr)
  | messages =>
    obtain ⟨hin, hsender⟩ := settled_message hs hk (by simp [plan]) (by simp [plan]) hr
    have hcell : ref = (.projects, Message.project r) ∨ ref = (.agents, Message.sender r) := by
      simpa [Table.references] using href
    rcases hcell with rfl | rfl
    · exact project_stays hk hp hin
    · exact agent_stays hsender
  | recipients =>
    have hthere : s.dangles (.messages, Recipient.message r) = false := by
      rw [← Bool.not_eq_true]
      intro hdangles
      exact hlost r (List.mem_filter.2 ⟨mem_of_mem_remains hr, hdangles⟩) rfl
    obtain ⟨m, hm, _, ⟨⟩, hsame⟩ := Snapshot.dangles_eq_false_iff.1 hthere
    have hin := settled_recipient_message hs hk (by simp [plan]) hr hm hsame
    obtain ⟨hsender, hagent⟩ := settled_recipient_of_inner hs (by simp [plan]) hr hm hin hsame
    have hcell : ref = (.messages, Recipient.message r) ∨ ref = (.agents, Recipient.agent r) := by
      simpa [Table.references] using href
    rcases hcell with rfl | rfl
    · exact message_stays hm hin hsender hsame
    · exact agent_stays hagent
  | reservations =>
    obtain ⟨hin, hagent⟩ := settled_reservation hs hk (by simp [plan]) (by simp [plan]) hr
    have hcell :
        ref = (.projects, Reservation.project r) ∨ ref = (.agents, Reservation.agent r) := by
      simpa [Table.references] using href
    rcases hcell with rfl | rfl
    · exact project_stays hk hp hin
    · exact agent_stays hagent
  | links =>
    obtain ⟨⟨hinA, hinB⟩, hagentA, hagentB⟩ :=
      settled_link hs hk (by simp [plan]) (by simp [plan]) hr
    have hcell : ref = (.projects, AgentLink.projectA r) ∨ ref = (.agents, AgentLink.agentA r) ∨
        ref = (.projects, AgentLink.projectB r) ∨ ref = (.agents, AgentLink.agentB r) := by
      simpa [Table.references] using href
    rcases hcell with rfl | rfl | rfl | rfl
    · exact project_stays hk hp hinA
    · exact agent_stays hagentA
    · exact project_stays hk hp hinB
    · exact agent_stays hagentB
  | suggestions =>
    obtain ⟨hinA, hinB⟩ := settled_suggestion hs hk (by simp [plan]) hr
    have hcell : ref = (.projects, SiblingSuggestion.projectA r) ∨
        ref = (.projects, SiblingSuggestion.projectB r) := by
      simpa [Table.references] using href
    rcases hcell with rfl | rfl
    · exact project_stays hk hp hinA
    · exact project_stays hk hp hinB

end Left

section Apply
variable (hs : s.Strict) (hc : s.Complete) (hg : s.triggers = [])
  (hn : Narrows s identifiers keep)
include hs hc hg hn

theorem apply_of_balanced (hfit : keep.length ≤ Parameter.limit) (h : imbalance keep s = 0) :
    ∃ result, apply identifiers .readWrite s = .ok result (remains keep s plan) := by
  obtain ⟨kept, heq⟩ := apply_of_narrows hn .readWrite
  obtain ⟨totals, hrun⟩ := deleteUnselected_of_balanced hs hn.ne_null_of_mem hc hg hfit h
  have hleft : (remains keep s plan).Complete := by
    intro u hl hg
    rw [remains, Snapshot.has_restrict]
    exact hc u hl hg
  exact ⟨_, heq ▸ planned_eq_ok_iff.2 ⟨totals, hrun, hleft, rfl⟩⟩

theorem apply_of_imbalance (hfit : keep.length ≤ Parameter.limit) (h : imbalance keep s ≠ 0) :
    apply identifiers .readWrite s = .error (.store (.deleteRows .agents) .brokenReference) s := by
  obtain ⟨kept, heq⟩ := apply_of_narrows hn .readWrite
  obtain ⟨t, hrun⟩ := deleteUnselected_of_imbalance hs hn.ne_null_of_mem hc hg hfit h
  rw [heq, planned]
  exact Pass.atomic_run_of_error (Pass.bind_run_of_error hrun)

theorem exists_apply_iff : (∃ result t, apply identifiers .readWrite s = .ok result t) ↔
    keep.length ≤ Parameter.limit ∧ imbalance keep s = 0 := by
  constructor
  · rintro ⟨result, t, hok⟩
    have hfit := fit_of_apply hn hok
    refine ⟨hfit, ?_⟩
    by_contra hb
    rw [apply_of_imbalance hs hc hg hn hfit hb] at hok
    cases hok
  · rintro ⟨hfit, hb⟩
    obtain ⟨result, hok⟩ := apply_of_balanced hs hc hg hn hfit hb
    exact ⟨result, _, hok⟩

/-- Scoping a strict store succeeds exactly when a statement takes as many parameters as projects
are kept and the count of broken references comes back to nothing, and otherwise it fails for the
one or the other. Without a recipient of a lost message that names an agent that goes the count does
come back to nothing, and with one it does not unless an agent that goes had no project. What
dangles afterwards are recipients of lost messages. -/
theorem apply_keeps_references :
    ((∃ result t, apply identifiers .readWrite s = .ok result t) ↔
      keep.length ≤ Parameter.limit ∧ imbalance keep s = 0) ∧
    (keep.length ≤ Parameter.limit → imbalance keep s ≠ 0 → apply identifiers .readWrite s =
      .error (.store (.deleteRows .agents) .brokenReference) s) ∧
    (Parameter.limit < keep.length →
      apply identifiers .readWrite s = .error (excess s keep.length) s) ∧
    (¬ Stranding keep s → imbalance keep s = 0) ∧
    ((∀ a ∈ s.rows .agents, a.project.notIn keep = .yes →
      s.dangles (.projects, a.project) = false) → Stranding keep s → imbalance keep s ≠ 0) ∧
    (∀ result t, apply identifiers .readWrite s = .ok result t →
      ∀ u, ∀ r ∈ t.rows u, 0 < t.danglingIn u r →
        ∃ x ∈ s.lost, (⟨u, r⟩ : Σ u : Table, u.Row) = ⟨.recipients, x⟩) ∧
    (keep.length ≤ Parameter.limit → s.lost = [] →
      ∃ result t, apply identifiers .readWrite s = .ok result t ∧
        ∀ u, ∀ r ∈ t.rows u, t.danglingIn u r = 0) := by
  have hleft : ∀ u, ∀ r ∈ (remains keep s plan).rows u, 0 < (remains keep s plan).danglingIn u r →
      ∃ x ∈ s.lost, (⟨u, r⟩ : Σ u : Table, u.Row) = ⟨.recipients, x⟩ := by
    intro u r hr hpos
    by_cases hx : ∃ x ∈ s.lost, (⟨u, r⟩ : Σ u : Table, u.Row) = ⟨.recipients, x⟩
    · exact hx
    · obtain ⟨ref, href, hdangles⟩ := List.countP_pos_iff.1 hpos
      have hthere := dangles_of_left hs hn.ne_null_of_mem (fun _ hd => hn.exists_project hd) hr
        (fun x hlost he => hx ⟨x, hlost, he⟩) href
      rw [hthere] at hdangles
      cases hdangles
  refine ⟨exists_apply_iff hs hc hg hn, apply_of_imbalance hs hc hg hn, apply_of_excess hn,
    imbalance_eq_zero, fun hp h => imbalance_ne_zero h hp, ?_, ?_⟩
  · intro result t hok
    rw [eq_remains_of_apply hn hok]
    exact hleft
  · intro hfit hnone
    have hb : imbalance keep s = 0 := by
      apply imbalance_eq_zero
      rintro ⟨r, hr, _⟩
      rw [hnone] at hr
      cases hr
    obtain ⟨result, hok⟩ := apply_of_balanced hs hc hg hn hfit hb
    refine ⟨result, _, hok, ?_⟩
    intro u r hr
    by_cases hpos : 0 < (remains keep s plan).danglingIn u r
    · obtain ⟨x, hx, _⟩ := hleft u r hr hpos
      rw [hnone] at hx
      cases hx
    · omega

end Apply

/-- The second agent has no project, so that its deletion settles the reference that the deletion
of the first one breaks. -/
def settlingSample : Snapshot :=
  { Snapshot.empty .strict with
    projects := some [⟨.integer 1, .text "one", .text "/one"⟩,
      ⟨.integer 2, .text "two", .text "/two"⟩]
    agents := some [⟨.integer 1, .integer 2, .text "x"⟩, ⟨.integer 2, .integer 99, .text "y"⟩]
    recipients := some [⟨.integer 77, .integer 1, .null, .null⟩] }

theorem strict_settlingSample : settlingSample.Strict := by decide

theorem complete_settlingSample : settlingSample.Complete := by decide

theorem narrows_settlingSample : Narrows settlingSample ["one"] [.integer 1] :=
  ⟨[⟨1, "one", "/one"⟩, ⟨2, "two", "/two"⟩], [⟨1, "one", "/one"⟩], rfl, by simp,
    by decide +kernel, by decide, rfl⟩

theorem apply_settlingSample :
    settlingSample.Strict ∧ settlingSample.Complete ∧ settlingSample.triggers = [] ∧
      Narrows settlingSample ["one"] [.integer 1] ∧
        ∃ result t, apply ["one"] .readWrite settlingSample = .ok result t :=
  ⟨strict_settlingSample, complete_settlingSample, rfl, narrows_settlingSample,
    (apply_keeps_references strict_settlingSample complete_settlingSample rfl
      narrows_settlingSample).1.2 ⟨by decide, by decide⟩⟩

/-- A recipient of a lost message that names an agent that goes does not always make scoping
fail. -/
theorem stranding_may_succeed :
    ¬ ∀ (s : Snapshot) (identifiers : List String) (keep : List Cell), s.Strict → s.Complete →
      s.triggers = [] → Narrows s identifiers keep →
        ((∃ result t, apply identifiers .readWrite s = .ok result t) ↔ ¬ Stranding keep s) := by
  intro h
  have hiff := h settlingSample ["one"] [.integer 1] strict_settlingSample complete_settlingSample
    rfl narrows_settlingSample
  obtain ⟨result, hok⟩ := apply_of_balanced strict_settlingSample complete_settlingSample rfl
    narrows_settlingSample (by decide) (by decide)
  exact hiff.1 ⟨result, _, hok⟩ ⟨⟨.integer 77, .integer 1, .null, .null⟩, by decide,
    ⟨.integer 1, .integer 2, .text "x"⟩, by decide, by decide, by decide⟩

end MailSnapshot.Scope
