import MailSnapshot.Proofs.Scope.OneShot
import MailSnapshot.Proofs.Store.Strict

/-! What the rows that deletions leave refer to. In a strict store a row that survives the deletions
of its table belongs to kept projects and names agents of kept projects. -/

namespace MailSnapshot.Scope
variable {keep : List Cell} {s : Snapshot} {pre : List Deletion} {c : Cell}

theorem mem_agents_iff :
    c ∈ (Lookup.of keep s).agents ↔
      ∃ a ∈ s.rows .agents, a.project.isIn keep = .yes ∧ a.id = c := by
  change c ∈ Lookup.agentsWhere _ _ ↔ _
  simp [Lookup.agentsWhere, and_assoc]

theorem mem_messagesWhere_iff {condition : Message → Truth} :
    c ∈ Lookup.messagesWhere s condition ↔
      ∃ m ∈ s.rows .messages, condition m = .yes ∧ m.id = c := by
  simp [Lookup.messagesWhere, and_assoc]

/-- A cell names an agent that lives in a kept project. -/
theorem isIn_agents_iff : c.isIn (Lookup.of keep s).agents = .yes ↔
    ∃ a ∈ s.rows .agents, a.project.isIn keep = .yes ∧ c.eq a.id = .yes := by
  rw [Cell.isIn_eq_yes_iff]
  constructor
  · rintro ⟨d, hd, heq⟩
    obtain ⟨a, ha, hin, rfl⟩ := mem_agents_iff.1 hd
    exact ⟨a, ha, hin, heq⟩
  · rintro ⟨a, ha, hin, heq⟩
    exact ⟨a.id, mem_agents_iff.2 ⟨a, ha, hin, rfl⟩, heq⟩

/-- A cell names a message for which a condition is true. -/
theorem isIn_messagesWhere_iff {condition : Message → Truth} :
    c.isIn (Lookup.messagesWhere s condition) = .yes ↔
      ∃ m ∈ s.rows .messages, c.eq m.id = .yes ∧ condition m = .yes := by
  rw [Cell.isIn_eq_yes_iff]
  constructor
  · rintro ⟨d, hd, heq⟩
    obtain ⟨m, hm, hcondition, rfl⟩ := mem_messagesWhere_iff.1 hd
    exact ⟨m, hm, heq, hcondition⟩
  · rintro ⟨m, hm, heq, hcondition⟩
    exact ⟨m.id, mem_messagesWhere_iff.2 ⟨m, hm, hcondition, rfl⟩, heq⟩

theorem agents_ne_null (hs : s.Strict) (h : c ∈ (Lookup.of keep s).agents) : c ≠ .null := by
  obtain ⟨a, ha, _, rfl⟩ := mem_agents_iff.1 h
  exact hs.id_ne_null (t := .agents) ha rfl

/-- A row that is left was doomed by none of the deletions. -/
theorem doomed_ne_yes {d : Deletion} (hd : d ∈ pre) {r : d.table.Row}
    (hr : r ∈ (remains keep s pre).rows d.table) : d.doomed (.of keep s) r ≠ .yes := by
  have h := (Snapshot.mem_rows_restrict.1 hr).2
  exact Deletion.spares_iff.1 (List.all_eq_true.1 h d hd)

theorem mem_of_mem_remains {u : Table} {r : u.Row} (hr : r ∈ (remains keep s pre).rows u) :
    r ∈ s.rows u :=
  (Snapshot.mem_rows_restrict.1 hr).1

section Strict
variable (hs : s.Strict) (hk : ∀ c ∈ keep, c ≠ .null)
include hs hk

theorem isIn_keep {t u : Table} {r : u.Row} (hr : r ∈ s.rows u) (href : (t, c) ∈ u.references r)
    (h : c.notIn keep ≠ .yes) : c.isIn keep = .yes :=
  Cell.isIn_of_notIn_ne_yes (hs.reference_ne_null u r hr _ href) hk h

omit hk in
theorem isIn_agents {t u : Table} {r : u.Row} (hr : r ∈ s.rows u)
    (href : (t, c) ∈ u.references r) (h : c.notIn (Lookup.of keep s).agents ≠ .yes) :
    c.isIn (Lookup.of keep s).agents = .yes :=
  Cell.isIn_of_notIn_ne_yes (hs.reference_ne_null u r hr _ href)
    (fun _ hc => agents_ne_null hs hc) h

theorem settled_agent {a : Agent} (hd : outerAgents ∈ pre)
    (ha : a ∈ (remains keep s pre).rows .agents) : a.project.isIn keep = .yes :=
  isIn_keep hs hk (t := .projects) (u := .agents) (c := a.project) (mem_of_mem_remains ha)
    (by simp [Table.references]) (doomed_ne_yes hd ha)

theorem settled_message {m : Message} (hd : orphanMessages ∈ pre) (hd' : outerMessages ∈ pre)
    (hm : m ∈ (remains keep s pre).rows .messages) :
    m.project.isIn keep = .yes ∧ m.sender.isIn (Lookup.of keep s).agents = .yes := by
  have hin := isIn_keep hs hk (t := .projects) (u := .messages) (c := m.project)
    (mem_of_mem_remains hm) (by simp [Table.references]) (doomed_ne_yes hd' hm)
  refine ⟨hin, isIn_agents hs (t := .agents) (u := .messages) (c := m.sender)
    (mem_of_mem_remains hm) (by simp [Table.references]) ?_⟩
  intro hsender
  exact doomed_ne_yes hd hm (Truth.and_eq_yes.2 ⟨hin, hsender⟩)

theorem settled_reservation {r : Reservation} (hd : orphanReservations ∈ pre)
    (hd' : outerReservations ∈ pre) (hr : r ∈ (remains keep s pre).rows .reservations) :
    r.project.isIn keep = .yes ∧ r.agent.isIn (Lookup.of keep s).agents = .yes := by
  have hin := isIn_keep hs hk (t := .projects) (u := .reservations) (c := r.project)
    (mem_of_mem_remains hr) (by simp [Table.references]) (doomed_ne_yes hd' hr)
  refine ⟨hin, isIn_agents hs (t := .agents) (u := .reservations) (c := r.agent)
    (mem_of_mem_remains hr) (by simp [Table.references]) ?_⟩
  intro hagent
  exact doomed_ne_yes hd hr (Truth.and_eq_yes.2 ⟨hin, hagent⟩)

theorem settled_link {l : AgentLink} (hd : orphanLinks ∈ pre) (hd' : outerLinks ∈ pre)
    (hl : l ∈ (remains keep s pre).rows .links) :
    (l.projectA.isIn keep = .yes ∧ l.projectB.isIn keep = .yes) ∧
      l.agentA.isIn (Lookup.of keep s).agents = .yes ∧
        l.agentB.isIn (Lookup.of keep s).agents = .yes := by
  have hsl := mem_of_mem_remains hl
  have houter := doomed_ne_yes hd' hl
  have horphan := doomed_ne_yes hd hl
  have ha := isIn_keep hs hk (t := .projects) (u := .links) (c := l.projectA) hsl
    (by simp [Table.references]) fun h => houter (Truth.or_eq_yes.2 (.inl h))
  have hb := isIn_keep hs hk (t := .projects) (u := .links) (c := l.projectB) hsl
    (by simp [Table.references]) fun h => houter (Truth.or_eq_yes.2 (.inr h))
  have hboth := Truth.and_eq_yes.2 ⟨ha, hb⟩
  refine ⟨⟨ha, hb⟩, ?_, ?_⟩
  · refine isIn_agents hs (t := .agents) (u := .links) (c := l.agentA) hsl
      (by simp [Table.references]) fun h => horphan ?_
    exact Truth.and_eq_yes.2 ⟨hboth, Truth.or_eq_yes.2 (.inl h)⟩
  · refine isIn_agents hs (t := .agents) (u := .links) (c := l.agentB) hsl
      (by simp [Table.references]) fun h => horphan ?_
    exact Truth.and_eq_yes.2 ⟨hboth, Truth.or_eq_yes.2 (.inr h)⟩

theorem settled_suggestion {g : SiblingSuggestion} (hd : outerSuggestions ∈ pre)
    (hg : g ∈ (remains keep s pre).rows .suggestions) :
    g.projectA.isIn keep = .yes ∧ g.projectB.isIn keep = .yes := by
  have hsg := mem_of_mem_remains hg
  have houter := doomed_ne_yes hd hg
  constructor
  · exact isIn_keep hs hk (t := .projects) (u := .suggestions) (c := g.projectA) hsg
      (by simp [Table.references]) fun h => houter (Truth.or_eq_yes.2 (.inl h))
  · exact isIn_keep hs hk (t := .projects) (u := .suggestions) (c := g.projectB) hsg
      (by simp [Table.references]) fun h => houter (Truth.or_eq_yes.2 (.inr h))

omit hk in
/-- A recipient of a message in a kept project has an agent of a kept project, and so has the
message. -/
theorem settled_recipient_of_inner {r : Recipient} {m : Message} (hd : orphanRecipients ∈ pre)
    (hr : r ∈ (remains keep s pre).rows .recipients) (hm : m ∈ s.rows .messages)
    (hin : m.project.isIn keep = .yes) (h : r.message.same m.id = true) :
    m.sender.isIn (Lookup.of keep s).agents = .yes ∧
      r.agent.isIn (Lookup.of keep s).agents = .yes := by
  have hsr := mem_of_mem_remains hr
  have hid := hs.id_ne_null (t := .messages) hm rfl
  have hnull := hs.reference_ne_null .recipients r hsr (.messages, r.message)
    (by simp [Table.references])
  have hinner : r.message.isIn (Lookup.of keep s).inner = .yes :=
    Cell.isIn_of_same h (mem_messagesWhere_iff.2 ⟨m, hm, hin, rfl⟩) hnull hid
  have horphan := doomed_ne_yes hd hr
  constructor
  · refine isIn_agents hs (t := .agents) (u := .messages) (c := m.sender) hm
      (by simp [Table.references]) fun hstray => horphan ?_
    refine Truth.and_eq_yes.2 ⟨hinner, Truth.or_eq_yes.2 (.inr ?_)⟩
    exact Cell.isIn_of_same h (mem_messagesWhere_iff.2 ⟨m, hm, hstray, rfl⟩) hnull hid
  · refine isIn_agents hs (t := .agents) (u := .recipients) (c := r.agent) hsr
      (by simp [Table.references]) fun hagent => horphan ?_
    exact Truth.and_eq_yes.2 ⟨hinner, Truth.or_eq_yes.2 (.inl hagent)⟩

/-- The message that a recipient names, where there is one, lies in a kept project. -/
theorem settled_recipient_message {r : Recipient} {m : Message} (hd : outerRecipients ∈ pre)
    (hr : r ∈ (remains keep s pre).rows .recipients) (hm : m ∈ s.rows .messages)
    (h : r.message.same m.id = true) : m.project.isIn keep = .yes := by
  refine isIn_keep hs hk (t := .projects) (u := .messages) (c := m.project) hm
    (by simp [Table.references]) fun hout => doomed_ne_yes hd hr ?_
  exact Cell.isIn_of_same h (mem_messagesWhere_iff.2 ⟨m, hm, hout, rfl⟩)
    (hs.reference_ne_null .recipients r (mem_of_mem_remains hr) (.messages, r.message)
      (by simp [Table.references])) (hs.id_ne_null (t := .messages) hm rfl)

omit hk in
/-- An agent that goes is none of those that live in kept projects. -/
theorem not_same_of_named {a : Agent} (ha : a ∈ s.rows .agents)
    (hgone : a.project.notIn keep = .yes) (h : c.isIn (Lookup.of keep s).agents = .yes) :
    a.id.same c = false := by
  obtain ⟨b, hb, hin, heq⟩ := isIn_agents_iff.1 h
  have hsame := (Cell.eq_eq_yes_iff.1 heq).2.2
  rw [← Bool.not_eq_true]
  intro hac
  have hab := hs.eq_of_same (t := .agents) ha hb rfl rfl (Cell.same_trans hac hsame)
  subst hab
  exact Cell.notIn_ne_yes_of_isIn hin hgone

end Strict
end MailSnapshot.Scope
