import MailSnapshot.Proofs.Scope.Outcome
import MailSnapshot.Proofs.Scope.Settled
import Mathlib.Data.List.Basic

/-! Scoping confines. A condition that comes out unknown deletes nothing, so what survives in a
loose store belongs to a kept project or says nothing of its project at all. -/

namespace MailSnapshot.Scope
variable {keep : List Cell} {c : Cell} {s t : Snapshot} {identifiers : List String}
  {access : Access} {result : ScopeResult}

/-- A cell names a kept project or nothing. -/
def Belongs (keep : List Cell) (c : Cell) : Prop := c = .null ∨ ∃ k ∈ keep, c.eq k = .yes

/-- What holds of the rows that are left of a snapshot when some projects are kept. -/
structure Confined (keep : List Cell) (s t : Snapshot) : Prop where
  projects : ∀ p ∈ t.rows .projects, p.id ∈ keep
  agents : ∀ a ∈ t.rows .agents, Belongs keep a.project
  messages : ∀ m ∈ t.rows .messages, Belongs keep m.project
  reservations : ∀ r ∈ t.rows .reservations, Belongs keep r.project
  links : ∀ l ∈ t.rows .links, Belongs keep l.projectA ∧ Belongs keep l.projectB
  suggestions : ∀ g ∈ t.rows .suggestions, Belongs keep g.projectA ∧ Belongs keep g.projectB
  /-- No recipient names a message that went. -/
  recipients : ∀ m ∈ s.rows .messages, m ∉ t.rows .messages →
    ∀ r ∈ t.rows .recipients, r.message.eq m.id ≠ .yes

theorem belongs_of_notIn_ne_yes (hk : ∀ k ∈ keep, k ≠ .null) (h : c.notIn keep ≠ .yes) :
    Belongs keep c := by
  by_cases hc : c = .null
  · exact .inl hc
  · exact .inr (Cell.isIn_eq_yes_iff.1 (Cell.isIn_of_notIn_ne_yes hc hk h))

theorem both_belong (hk : ∀ k ∈ keep, k ≠ .null) {d : Cell}
    (h : (c.notIn keep).or (d.notIn keep) ≠ .yes) : Belongs keep c ∧ Belongs keep d :=
  ⟨belongs_of_notIn_ne_yes hk fun hc => h (Truth.or_eq_yes.2 (.inl hc)),
    belongs_of_notIn_ne_yes hk fun hd => h (Truth.or_eq_yes.2 (.inr hd))⟩

/-- The recipients of a message that goes are found by way of the message, while it is still
there. -/
theorem recipient_goes {m : Message} {r : Recipient} (hm : m ∈ s.rows .messages)
    (hgone : m ∉ (remains keep s plan).rows .messages)
    (hr : r ∈ (remains keep s plan).rows .recipients) : r.message.eq m.id ≠ .yes := by
  intro heq
  have hin : ∀ condition : Message → Truth, condition m = .yes →
      r.message.isIn (Lookup.messagesWhere s condition) = .yes := fun condition h =>
    isIn_messagesWhere_iff.2 ⟨m, hm, heq, h⟩
  have horphan := doomed_ne_yes (d := orphanRecipients) (by simp [plan]) hr
  have houter := doomed_ne_yes (d := outerRecipients) (by simp [plan]) hr
  apply hgone
  refine Snapshot.mem_rows_restrict.2 ⟨hm, spared_plan_messages.2 ⟨fun hdoomed => ?_, fun h => ?_⟩⟩
  · obtain ⟨hproject, hsender⟩ := Truth.and_eq_yes.1 hdoomed
    exact horphan (Truth.and_eq_yes.2 ⟨hin _ hproject, Truth.or_eq_yes.2 (.inr (hin _ hsender))⟩)
  · exact houter (hin _ h)

theorem confined_remains (hk : ∀ k ∈ keep, ∃ n, k = .integer n)
    (hp : ∀ p ∈ s.rows .projects, ∃ n, p.id = .integer n) :
    Confined keep s (remains keep s plan) := by
  have hnull : ∀ k ∈ keep, k ≠ .null := by
    rintro k hmem rfl
    obtain ⟨_, h⟩ := hk _ hmem
    cases h
  have left {d : Deletion} (hd : d ∈ plan) {r : d.table.Row}
      (hr : r ∈ (remains keep s plan).rows d.table) : d.doomed (.of keep s) r ≠ .yes :=
    doomed_ne_yes hd hr
  constructor
  case projects =>
    intro p hrow
    obtain ⟨n, hid⟩ := hp p (mem_of_mem_remains hrow)
    have hin := Cell.isIn_of_notIn_ne_yes (by simp [hid]) hnull
      (left (d := outerProjects) (by simp [plan]) hrow)
    obtain ⟨k, hmem, hsame⟩ := Cell.exists_same_of_isIn hin
    obtain ⟨m, rfl⟩ := hk k hmem
    rw [hid, Cell.same_integer] at hsame
    rw [hid, hsame]
    exact hmem
  case agents =>
    intro a ha
    exact belongs_of_notIn_ne_yes hnull (left (d := outerAgents) (by simp [plan]) ha)
  case messages =>
    intro m hm
    exact belongs_of_notIn_ne_yes hnull (left (d := outerMessages) (by simp [plan]) hm)
  case reservations =>
    intro r hr
    exact belongs_of_notIn_ne_yes hnull (left (d := outerReservations) (by simp [plan]) hr)
  case links =>
    intro l hl
    exact both_belong hnull (left (d := outerLinks) (by simp [plan]) hl)
  case suggestions =>
    intro g hg
    exact both_belong hnull (left (d := outerSuggestions) (by simp [plan]) hg)
  case recipients =>
    intro m hm hgone r hr
    exact recipient_goes hm hgone hr

/-- No row of a project that is not kept survives scoping, whatever the cells hold. -/
theorem apply_confines (hn : Narrows s identifiers keep)
    (h : apply identifiers access s = .ok result t) : Confined keep s t := by
  rw [eq_remains_of_apply hn h]
  refine confined_remains hn.integer_of_mem fun p hp => ?_
  obtain ⟨_, _, hread, _⟩ := hn
  exact Snapshot.id_of_readProjects hread hp

theorem apply_looseSample :
    Narrows looseSample ["a"] [.integer 1] ∧ (∃ result,
      apply ["a"] .readWrite looseSample = .ok result looseSampleKept) ∧
        Confined [.integer 1] looseSample looseSampleKept := by
  have hn : Narrows looseSample ["a"] [.integer 1] :=
    ⟨[⟨1, "a", ""⟩, ⟨2, "b", ""⟩], [⟨1, "a", ""⟩], rfl, by simp, by decide +kernel, by decide, rfl⟩
  obtain ⟨kept, heq⟩ := apply_of_narrows hn .readWrite
  have hrun : deleteUnselected [.integer 1] .readWrite looseSample =
      .ok ⟨1, 2⟩ looseSampleKept := by
    cbv
  have h := heq ▸ planned_eq_ok_iff.2 ⟨_, hrun, by decide, rfl⟩
  exact ⟨hn, ⟨_, h⟩, apply_confines hn h⟩

end MailSnapshot.Scope
