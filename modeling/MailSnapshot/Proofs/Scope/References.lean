import MailSnapshot.Proofs.Scope.Selection
import MailSnapshot.Proofs.Scope.Settled

/-! References after scoping: when the plan of deletions runs into a broken reference, and which
references name nothing after it. -/

namespace MailSnapshot

/-- The recipients of messages that are not there. -/
def Snapshot.lost (s : Snapshot) : List Recipient :=
  (s.rows .recipients).filter fun r => s.dangles (.messages, r.message)

namespace Scope
variable {keep : List Cell} {s t : Snapshot} {d : Deletion} {pre xs : List Deletion}
  {identifiers : List String}

/-- The store's count of broken references for a deletion that comes after others. -/
def brokenBy (keep : List Cell) (s : Snapshot) (pre : List Deletion) (d : Deletion) : Nat :=
  (remains keep s pre).tally d.table ((remains keep s pre).gone d.table (d.doomed (.of keep s)))

def Clear (keep : List Cell) (s : Snapshot) (pre : List Deletion) (d : Deletion) : Prop :=
  brokenBy keep s pre d = 0

/-- The store's count of broken references while the agents of the other projects go. An agent
whose own project is not there settles one of them, and each recipient of a lost message that
names the agent is a new one. -/
def imbalance (keep : List Cell) (s : Snapshot) : Nat :=
  (s.gone .agents fun a => a.project.notIn keep).foldl (fun n a =>
    n - (if s.dangles (.projects, a.project) then 1 else 0) +
      s.lost.countP fun r => a.id.same r.agent) 0

theorem plan_needs :
    ∀ d ∈ plan, (d.optional = true ∨ d.table ≠ .links ∧ d.table ≠ .suggestions) ∧
      ∀ u ∈ d.names, u ≠ .links ∧ u ≠ .suggestions := by
  decide

theorem optional_or_has (hc : s.Complete) (hd : d ∈ plan) :
    d.optional = true ∨ s.has d.table = true :=
  (plan_needs d hd).1.imp_right fun h => hc _ h.1 h.2

theorem has_names (hc : s.Complete) (hd : d ∈ plan) : ∀ u ∈ d.names, s.has u = true :=
  fun u hu => hc u ((plan_needs d hd).2 u hu).1 ((plan_needs d hd).2 u hu).2

theorem has_firstDeletion (hc : s.Complete) : s.has (firstDeletion s).table = true := by
  unfold firstDeletion
  split
  · rename_i hlinks
    exact hlinks
  · exact hc .recipients (by decide) (by decide)

/-- A store that may only be read refuses the first deletion. -/
theorem execute_firstDeletion_of_readOnly (hc : s.Complete)
    (hfit : keep.length ≤ Parameter.limit) :
    (firstDeletion s).execute keep .readOnly s = .error .notWritable := by
  rw [Deletion.execute_of_fit hfit]
  exact Snapshot.delete_of_readOnly (has_firstDeletion hc) (has_names hc firstDeletion_mem_plan)
    fun _ hu => hc.has_parent hu

/-- The deletions before those of agents and projects. -/
def settling : List Deletion :=
  [orphanLinks, orphanRecipients, orphanMessages, orphanReservations, outerLinks,
   outerSuggestions, outerRecipients, outerMessages, outerReservations]

section Run
variable (hs : s.Strict) (hc : s.Complete) (hg : s.triggers = [])
  (hfit : keep.length ≤ Parameter.limit)
include hs hc hg hfit

theorem execute_remains (hd : d ∈ plan) (hsteady : Steady keep s pre d) (ht : s.has d.table) :
    d.execute keep .readWrite (remains keep s pre) =
      if brokenBy keep s pre d = 0 then
        .ok (((remains keep s pre).gone d.table (d.doomed (.of keep s))).length,
          remains keep s (pre ++ [d]))
      else .error .brokenReference := by
  have hnames : ∀ u ∈ d.names, (remains keep s pre).has u = true := by
    intro u hu
    rw [remains, Snapshot.has_restrict]
    exact has_names hc hd u hu
  have hparents : ∀ u ∈ d.table.parents, (remains keep s pre).has u = true := by
    intro u hu
    rw [remains, Snapshot.has_restrict]
    exact hc.has_parent hu
  have htable : (remains keep s pre).has d.table = true := by
    rw [remains, Snapshot.has_restrict]
    exact ht
  have hstrict : (remains keep s pre).schema = .strict := hs.schema
  rw [Deletion.execute_of_fit hfit, Snapshot.delete_eq htable hnames hparents hg,
    ← remains_append_singleton hsteady, Deletion.spares, hsteady.1, Snapshot.checkReferences,
    hstrict]
  change Except.map _ (if brokenBy keep s pre d = 0 then _ else _) = _
  split <;> rfl

theorem run_of_clear (hd : d ∈ plan) (hsteady : Steady keep s pre d) (hclear : Clear keep s pre d)
    (totals : Totals) : ∃ totals', d.run keep totals .readWrite (remains keep s pre) =
      .ok totals' (remains keep s (pre ++ [d])) := by
  by_cases ht : s.has d.table = true
  · have hexecute := execute_remains hs hc hg hfit hd hsteady ht
    rw [if_pos (show brokenBy keep s pre d = 0 from hclear)] at hexecute
    refine ⟨totals.add d ((remains keep s pre).gone d.table (d.doomed (.of keep s))).length, ?_⟩
    have hpresent : (remains keep s pre).has d.table = true := by
      rw [remains, Snapshot.has_restrict]
      exact ht
    rw [Deletion.run_of_required (.inr hpresent),
      Pass.bind_run_of_ok (Pass.change_eq_ok_iff.2 hexecute)]
    rfl
  · have hmissing : (remains keep s pre).has d.table = false := by
      rw [remains, Snapshot.has_restrict]
      simpa using ht
    have hoptional : d.optional = true := (optional_or_has hc hd).resolve_right ht
    refine ⟨totals, ?_⟩
    rw [← remains_append_singleton hsteady, Deletion.restrict_spares_of_missing hmissing]
    exact Deletion.run_of_missing hoptional hmissing

theorem run_of_broken (hd : d ∈ plan) (hsteady : Steady keep s pre d) (ht : s.has d.table)
    (h : brokenBy keep s pre d ≠ 0) (totals : Totals) :
    d.run keep totals .readWrite (remains keep s pre) =
      .error (.store (.deleteRows d.table) .brokenReference) (remains keep s pre) := by
  have hexecute := execute_remains hs hc hg hfit hd hsteady ht
  rw [if_neg h] at hexecute
  have hpresent : (remains keep s pre).has d.table = true := by
    rw [remains, Snapshot.has_restrict]
    exact ht
  rw [Deletion.run_of_required (.inr hpresent)]
  exact Pass.bind_run_of_error (Pass.change_run_of_error hexecute)

theorem foldlM_run_of_clear (hd : ∀ d ∈ xs, d ∈ plan) (hsteady : EachAfter (Steady keep s) pre xs)
    (hclear : EachAfter (Clear keep s) pre xs) (totals : Totals) :
    ∃ totals', xs.foldlM (fun totals d => d.run keep totals) totals .readWrite
      (remains keep s pre) = .ok totals' (remains keep s (pre ++ xs)) := by
  induction xs generalizing pre totals with
  | nil =>
    rw [List.append_nil]
    exact ⟨totals, rfl⟩
  | cons d xs ih =>
    obtain ⟨totals₁, h₁⟩ := run_of_clear hs hc hg hfit (hd d (by simp)) hsteady.1 hclear.1 totals
    obtain ⟨totals', h⟩ := ih (fun e he => hd e (by simp [he])) hsteady.2 hclear.2 totals₁
    refine ⟨totals', ?_⟩
    rw [List.foldlM_cons, Pass.bind_run_of_ok h₁, h, List.append_assoc, List.singleton_append]

end Run

section Counts
variable (hs : s.Strict) (hk : ∀ c ∈ keep, c ≠ .null)
include hs hk

omit hs hk in
theorem clear_of_leaf (h : ∀ u : Table, d.table ∉ u.parents) : Clear keep s pre d := by
  apply Snapshot.tally_eq_zero
  intro r _ id _ c hc
  rw [Snapshot.namings_eq_nil h] at hc
  cases hc

omit hs hk in
theorem mem_recipients_of_mem_namings {s : Snapshot} {c : Cell} (h : c ∈ s.namings .messages) :
    ∃ r ∈ s.rows .recipients, r.message = c := by
  obtain ⟨u, r, hr, href⟩ := Snapshot.mem_namings_iff.1 h
  cases u <;> simp [Table.references] at href
  exact ⟨r, hr, href.symm⟩

omit hk in
/-- The recipients of orphan messages are gone before these. -/
theorem clear_orphanMessages (h : orphanRecipients ∈ pre) : Clear keep s pre orphanMessages := by
  apply Snapshot.tally_eq_zero
  intro m hm id hid c hc
  cases hid
  obtain ⟨hm, hdoomed⟩ := List.mem_filter.1 hm
  obtain ⟨hin, hstray⟩ := Truth.and_eq_yes.1 (of_decide_eq_true hdoomed)
  obtain ⟨r, hr, rfl⟩ := mem_recipients_of_mem_namings hc
  rw [← Bool.not_eq_true]
  intro hsame
  have hsettled := settled_recipient_of_inner hs h hr (mem_of_mem_remains hm) hin
    (Cell.same_symm hsame)
  exact Cell.notIn_ne_yes_of_isIn hsettled.1 hstray

/-- The recipients of messages of other projects are gone before these. -/
theorem clear_outerMessages (h : outerRecipients ∈ pre) : Clear keep s pre outerMessages := by
  apply Snapshot.tally_eq_zero
  intro m hm id hid c hc
  cases hid
  obtain ⟨hm, hdoomed⟩ := List.mem_filter.1 hm
  obtain ⟨r, hr, rfl⟩ := mem_recipients_of_mem_namings hc
  rw [← Bool.not_eq_true]
  intro hsame
  have hin := settled_recipient_message hs hk h hr (mem_of_mem_remains hm) (Cell.same_symm hsame)
  exact Cell.notIn_ne_yes_of_isIn hin (of_decide_eq_true hdoomed)

/-- Before the projects go, every row that names one names a kept one. -/
theorem isIn_keep_of_mem_namings {c : Cell} (hset : settling ⊆ pre) (ha : outerAgents ∈ pre)
    (hc : c ∈ (remains keep s pre).namings .projects) : c.isIn keep = .yes := by
  have mem {d : Deletion} (hd : d ∈ settling) : d ∈ pre := hset hd
  obtain ⟨u, r, hr, href⟩ := Snapshot.mem_namings_iff.1 hc
  cases u with
  | projects | recipients => simp [Table.references] at href
  | agents =>
    obtain rfl : c = Agent.project r := by simpa [Table.references] using href
    exact settled_agent hs hk ha hr
  | messages =>
    obtain rfl : c = Message.project r := by simpa [Table.references] using href
    exact (settled_message hs hk (mem (by simp [settling])) (mem (by simp [settling])) hr).1
  | reservations =>
    obtain rfl : c = Reservation.project r := by simpa [Table.references] using href
    exact (settled_reservation hs hk (mem (by simp [settling])) (mem (by simp [settling])) hr).1
  | links =>
    have hlink := (settled_link hs hk (mem (by simp [settling])) (mem (by simp [settling])) hr).1
    have hcell : c = AgentLink.projectA r ∨ c = AgentLink.projectB r := by
      simpa [Table.references] using href
    rcases hcell with rfl | rfl
    · exact hlink.1
    · exact hlink.2
  | suggestions =>
    have hboth := settled_suggestion hs hk (mem (by simp [settling])) hr
    have hcell : c = SiblingSuggestion.projectA r ∨ c = SiblingSuggestion.projectB r := by
      simpa [Table.references] using href
    rcases hcell with rfl | rfl
    · exact hboth.1
    · exact hboth.2

theorem clear_outerProjects (hset : settling ⊆ pre) (ha : outerAgents ∈ pre) :
    Clear keep s pre outerProjects := by
  apply Snapshot.tally_eq_zero
  intro p hp id hid c hc
  cases hid
  obtain ⟨hp, hdoomed⟩ := List.mem_filter.1 hp
  obtain ⟨d, hd, hsame⟩ := Cell.exists_same_of_isIn (isIn_keep_of_mem_namings hs hk hset ha hc)
  rw [← Bool.not_eq_true]
  intro h
  have hnull := hs.id_ne_null (t := .projects) (mem_of_mem_remains hp) rfl
  exact Cell.notIn_ne_yes_of_isIn (Cell.isIn_of_same (Cell.same_trans h hsame) hd hnull (hk d hd))
    (of_decide_eq_true hdoomed)

theorem clear_settling : EachAfter (Clear keep s) [] settling := by
  refine ⟨?_, ?_, ?_, ?_, ?_, ?_, ?_, ?_, ?_, trivial⟩
  case refine_3 => exact clear_orphanMessages hs (by simp)
  case refine_8 => exact clear_outerMessages hs hk (by simp)
  -- No row refers to the other tables.
  all_goals exact clear_of_leaf fun u => by cases u <;> decide

/-- When the agents of the other projects go, only recipients of lost messages still name them. -/
theorem agent_named_only_by_lost {a : Agent} (hset : settling ⊆ pre) (ha : a ∈ s.rows .agents)
    (hgone : a.project.notIn keep = .yes) :
    ((remains keep s pre).namings .agents).countP a.id.same =
      ((remains keep s pre).rows .recipients).countP fun r => a.id.same r.agent := by
  have mem {d : Deletion} (hd : d ∈ settling) : d ∈ pre := hset hd
  apply Snapshot.countP_namings_agents
  intro u hu r hr c href
  apply not_same_of_named hs ha hgone
  cases u with
  | projects | agents | suggestions => simp [Table.references] at href
  | recipients => exact absurd rfl hu
  | messages =>
    obtain rfl : c = Message.sender r := by simpa [Table.references] using href
    exact (settled_message hs hk (mem (by simp [settling])) (mem (by simp [settling])) hr).2
  | reservations =>
    obtain rfl : c = Reservation.agent r := by simpa [Table.references] using href
    exact (settled_reservation hs hk (mem (by simp [settling])) (mem (by simp [settling])) hr).2
  | links =>
    have hlink := (settled_link hs hk (mem (by simp [settling])) (mem (by simp [settling])) hr).2
    have hcell : c = AgentLink.agentA r ∨ c = AgentLink.agentB r := by
      simpa [Table.references] using href
    rcases hcell with rfl | rfl
    · exact hlink.1
    · exact hlink.2

end Counts
end Scope
end MailSnapshot
