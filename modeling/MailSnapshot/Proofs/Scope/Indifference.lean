import MailSnapshot.Proofs.Scope.Integrity
import MailSnapshot.Proofs.Store.Revision

/-! What scoping does not look at. A revision that takes away reservations and links at most changes
neither which projects there are, nor what a deletion of the plan finds, nor the count of broken
references. -/

namespace MailSnapshot

/-- Only reservations and links may go. -/
def Revision.Sparing (f : Revision) : Prop :=
  ∀ u, u ≠ .reservations → u ≠ .links → ∀ r, (f.row u r).isSome

namespace Scope
variable {keep : List Cell} {s t : Snapshot} {identifiers : List String} {result : ScopeResult}
  {f : Revision} {k : Lookup} {d : Deletion} {u : Table}

/-- Every deletion of the plan decides by what rows keep. -/
theorem doomed_of_keeps (hd : d ∈ plan) {r r' : d.table.Row} (h : d.table.Keeps r r') :
    d.doomed k r' = d.doomed k r := by
  induction d, hd using plan_cases with
  | orphanRecipients =>
    obtain ⟨hmessage, hagent⟩ := h
    simp only [orphanRecipients, hmessage, hagent]
  | orphanMessages =>
    obtain ⟨-, hproject, hsender⟩ := h
    simp only [orphanMessages, hproject, hsender]
  | outerRecipients =>
    obtain ⟨hmessage, -⟩ := h
    simp only [outerRecipients, hmessage]
  | outerMessages =>
    obtain ⟨-, hproject, -⟩ := h
    simp only [outerMessages, hproject]
  -- The rows of the other tables keep everything.
  | _ =>
    cases h
    rfl

theorem spares_of_keeps (hd : d ∈ plan) {r r' : u.Row} (h : u.Keeps r r') :
    d.spares k u r' = d.spares k u r := by
  by_cases hu : u = d.table
  · subst hu
    rw [Deletion.spares, Table.only_self, Table.only_self, doomed_of_keeps hd h]
  · rw [Deletion.spares, Table.only_of_ne hu, Table.only_of_ne hu]

theorem spared_of_keeps {r r' : u.Row} (h : u.Keeps r r') :
    spared plan k u r' = spared plan k u r := by
  unfold spared
  rw [Bool.eq_iff_iff, List.all_eq_true, List.all_eq_true]
  constructor
  · intro hall d hd
    rw [← spares_of_keeps hd h]
    exact hall d hd
  · intro hall d hd
    rw [spares_of_keeps hd h]
    exact hall d hd

section Sparing
variable (hf : f.Sparing)
include hf

theorem rows_projects_revise : (s.revise f).rows .projects = s.rows .projects :=
  Snapshot.rows_revise_of_eq (fun r _ => hf .projects (by decide) (by decide) r) fun _ _ h => h

theorem rows_agents_revise : (s.revise f).rows .agents = s.rows .agents :=
  Snapshot.rows_revise_of_eq (fun r _ => hf .agents (by decide) (by decide) r) fun _ _ h => h

theorem readProjects_revise : (s.revise f).readProjects = s.readProjects := by
  have hneed : (s.revise f).need .projects = s.need .projects := by
    rw [Snapshot.need, Snapshot.need, Snapshot.table?_eq_ite, Snapshot.table?_eq_ite s,
      Snapshot.alike_revise.has, rows_projects_revise hf]
  rw [Snapshot.readProjects, hneed, Snapshot.readProjects]

theorem messagesWhere_revise {condition : Message → Truth}
    (hc : ∀ m m', Table.messages.Keeps m m' → condition m' = condition m) :
    Lookup.messagesWhere (s.revise f) condition = Lookup.messagesWhere s condition := by
  have hlist : ∀ ms : List Message, (ms.filter fun m => condition m = .yes).map Message.id =
      ms.filterMap fun m => if condition m = .yes then some m.id else none := by
    intro ms
    rw [← List.filterMap_eq_map, List.filterMap_filter]
    simp
  rw [Lookup.messagesWhere, Lookup.messagesWhere, hlist, hlist]
  apply Snapshot.filterMap_rows_revise fun r _ => hf .messages (by decide) (by decide) r
  intro m m' h
  rw [hc m m' h, h.1]

theorem of_revise : Lookup.of keep (s.revise f) = Lookup.of keep s := by
  have hagents : ∀ condition, Lookup.agentsWhere (s.revise f) condition =
      Lookup.agentsWhere s condition := fun condition => by
    rw [Lookup.agentsWhere, rows_agents_revise hf, Lookup.agentsWhere]
  have hinner : Lookup.messagesWhere (s.revise f) (·.project.isIn keep) =
      Lookup.messagesWhere s (·.project.isIn keep) :=
    messagesWhere_revise hf fun m m' h => by rw [h.2.1]
  have houter : Lookup.messagesWhere (s.revise f) (·.project.notIn keep) =
      Lookup.messagesWhere s (·.project.notIn keep) :=
    messagesWhere_revise hf fun m m' h => by rw [h.2.1]
  have hstray : ∀ agents, Lookup.messagesWhere (s.revise f) (·.sender.notIn agents) =
      Lookup.messagesWhere s (·.sender.notIn agents) := fun agents =>
    messagesWhere_revise hf fun m m' h => by rw [h.2.2]
  simp only [Lookup.of, hagents, hinner, houter, hstray]

/-- The plan and the revision do not get into each other's way. -/
theorem remains_revise : remains keep (s.revise f) plan = (remains keep s plan).revise f := by
  rw [remains, of_revise hf, remains]
  exact Snapshot.restrict_revise fun u r r' h => spared_of_keeps h

theorem doomedCount_outerProjects_revise :
    outerProjects.doomedCount (.of keep (s.revise f)) (s.revise f) =
      outerProjects.doomedCount (.of keep s) s := by
  change ((s.revise f).gone .projects fun p => p.id.notIn keep).length =
    (s.gone .projects fun p => p.id.notIn keep).length
  rw [Snapshot.gone, rows_projects_revise hf, Snapshot.gone]

theorem countP_lost_revise {a : Agent} :
    (s.revise f).lost.countP (fun r => a.id.same r.agent) =
      s.lost.countP fun r => a.id.same r.agent := by
  have hdangles : ∀ c, (s.revise f).dangles (.messages, c) = s.dangles (.messages, c) := fun c =>
    Snapshot.dangles_revise fun r _ => hf .messages (by decide) (by decide) r
  simp only [Snapshot.lost, List.countP_filter, hdangles]
  apply Snapshot.countP_rows_revise fun r _ => hf .recipients (by decide) (by decide) r
  intro r r' h
  rw [h.1, h.2]

theorem imbalance_revise : imbalance keep (s.revise f) = imbalance keep s := by
  have hdangles : ∀ c, (s.revise f).dangles (.projects, c) = s.dangles (.projects, c) := fun c =>
    Snapshot.dangles_revise fun r _ => hf .projects (by decide) (by decide) r
  simp only [imbalance, Snapshot.gone, rows_agents_revise hf, hdangles, countP_lost_revise hf]

/-- Where a scope call goes through, it also goes through after the revision, selects and removes
the same projects, and leaves what the revision makes of what it left before. -/
theorem apply_revise (hs : s.Strict) (hg : s.triggers = [])
    (h : apply identifiers .readWrite s = .ok result t) :
    ∃ result', apply identifiers .readWrite (s.revise f) = .ok result' (t.revise f) ∧
      result'.projects = result.projects ∧ result'.removedCount = result.removedCount := by
  obtain ⟨projects, kept, hread, hselect, hkept, hc, hcases⟩ := apply_cases h
  have hread' := (readProjects_revise hf).trans hread
  obtain ⟨hlength, rfl, hcount⟩ | ⟨hlength, rfl, hcount⟩ := hcases
  · refine ⟨⟨identifiers, kept, 0, 0, (t.revise f).counts⟩, ?_, hkept.symm, hcount.symm⟩
    rw [apply_run hread', hselect]
    simp only [hlength, if_true]
    exact untouched_eq_ok_iff.2 ⟨Snapshot.alike_revise.complete hc, rfl, rfl⟩
  · have hsc : s.Complete := Snapshot.alike_restrict.symm.complete hc
    have hn := narrows_of_select hread hselect hlength
    obtain ⟨hfit, hbalanced⟩ := (exists_apply_iff hs hsc hg hn).1 ⟨result, _, h⟩
    obtain ⟨result', hrun⟩ := apply_of_balanced hs.revise (Snapshot.alike_revise.complete hsc) hg
      (narrows_of_select hread' hselect hlength) hfit ((imbalance_revise hf).trans hbalanced)
    obtain ⟨projects', kept', hread₂, hselect₂, hkept', -, hcases'⟩ := apply_cases hrun
    cases hread'.symm.trans hread₂
    cases hselect.symm.trans hselect₂
    rw [remains_revise hf] at hrun
    obtain ⟨heq, -⟩ | ⟨-, -, hcount'⟩ := hcases'
    · exact absurd heq hlength
    · refine ⟨result', hrun, hkept'.trans hkept.symm, ?_⟩
      rw [hcount', hcount, doomedCount_outerProjects_revise hf]

end Sparing
end Scope
end MailSnapshot
