import MailSnapshot.Proofs.Store.Mapping
import MailSnapshot.Proofs.Store.Strict
import MailSnapshot.Scrub.Basic

/-! Resetting what is short-lived: what each reset makes of a snapshot, and that a reset of what is
reset already changes nothing. -/

namespace MailSnapshot

/-- Nothing short-lived is left. -/
structure Snapshot.Settled (s : Snapshot) : Prop where
  acks : ∀ m ∈ s.rows .messages, m.ackRequired = .integer 0
  reads : ∀ r ∈ s.rows .recipients, r.readAt = .null ∧ r.ackAt = .null
  reservations : s.rows .reservations = []
  links : s.rows .links = []

namespace Scrub
variable {s s' t : Snapshot} {u v : Table} {access : Access} {n : Nat} {preset : Preset}
  {summary : ScrubSummary}

def clearAck (m : Message) : Message := { m with ackRequired := .integer 0 }

def clearReads (r : Recipient) : Recipient := { r with readAt := .null, ackAt := .null }

/-- The snapshot with no row in one table. -/
def emptied (s : Snapshot) (u : Table) : Snapshot := s.restrict (u.only fun _ => false)

theorem rows_emptied_self : (emptied s u).rows u = [] := by
  rw [emptied, Snapshot.rows_restrict]
  simp

theorem rows_emptied_of_ne (h : v ≠ u) : (emptied s u).rows v = s.rows v := by
  rw [emptied, Snapshot.rows_restrict, List.filter_eq_self]
  intro r _
  exact Table.only_of_ne h r

theorem emptied_of_rows (h : s.rows u = []) : emptied s u = s := by
  apply Snapshot.restrict_of_all
  intro v r hr
  by_cases hv : v = u
  · subst hv
    rw [h] at hr
    cases hr
  · exact Table.only_of_ne hv r

section Steps
variable (s)

def acked : Snapshot := s.mapTable .messages clearAck

def unread : Snapshot := (acked s).mapTable .recipients clearReads

def unreserved : Snapshot := emptied (unread s) .reservations

/-- The snapshot after all resets. -/
def settle : Snapshot := emptied (unreserved s) .links

end Steps

theorem resetAcks_eq_ok_iff : resetAcks access s = .ok n t ↔
    s.has .messages ∧ access = .readWrite ∧
      s.Passes .update .messages ["ack_required"] (s.rows .messages).length ∧
      n = (s.rows .messages).length ∧ t = acked s := by
  unfold resetAcks
  rw [Pass.change_eq_ok_iff, Snapshot.update_eq_ok_iff, List.countP_true]
  rfl

theorem resetReads_eq_ok_iff : resetReads access s = .ok n t ↔
    s.has .recipients ∧ access = .readWrite ∧
      s.Passes .update .recipients ["read_ts", "ack_ts"] (s.rows .recipients).length ∧
      n = (s.rows .recipients).length ∧ t = s.mapTable .recipients clearReads := by
  unfold resetReads
  rw [Pass.change_eq_ok_iff, Snapshot.update_eq_ok_iff, List.countP_true]
  rfl

/-- Nothing stops the deletion of all rows of a table that no other table refers to. -/
def Clearable (access : Access) (s : Snapshot) (u : Table) : Prop :=
  s.has u = true → access = .readWrite ∧ s.needParents u = .ok () ∧
    s.Passes .delete u [] (s.rows u).length

theorem checkReferences_of_leaf (hu : ∀ v : Table, u ∉ v.parents) (gone : List u.Row) :
    s.checkReferences u gone = .ok () := by
  have htally : s.tally u gone = 0 := by
    apply Snapshot.tally_eq_zero
    intro r _ id _ c hc
    rw [Snapshot.namings_eq_nil hu] at hc
    cases hc
  unfold Snapshot.checkReferences
  rw [htally]
  cases s.schema <;> rfl

theorem emptyTable_eq_ok_iff (hu : ∀ v : Table, u ∉ v.parents) : emptyTable u access s = .ok n t ↔
    Clearable access s u ∧ n = (s.rows u).length ∧ t = emptied s u := by
  have hgone : s.gone u (fun _ => .yes) = s.rows u := by simp [Snapshot.gone]
  have hstays : (u.only fun _ => decide (Truth.yes ≠ .yes)) = u.only fun _ => false := rfl
  have hnames : s.needAll [] = .ok () := rfl
  unfold emptyTable Clearable
  rw [Pass.bind_run_of_ok (Pass.look_run _)]
  cases hh : s.has u with
  | true =>
    rw [if_pos rfl, Pass.change_eq_ok_iff, Snapshot.delete_eq_ok_iff, hgone]
    simp only [hh, hnames, hstays, emptied, checkReferences_of_leaf hu, true_and, forall_const]
    constructor
    · rintro ⟨hparents, haccess, hpass, hn, ht⟩
      exact ⟨⟨haccess, hparents, hpass⟩, hn, ht⟩
    · rintro ⟨⟨haccess, hparents, hpass⟩, hn, ht⟩
      exact ⟨hparents, haccess, hpass, hn, ht⟩
  | false =>
    have hrows := Snapshot.rows_of_missing hh
    rw [emptied_of_rows hrows, hrows]
    simp [eq_comm]

/-- What a snapshot must offer for its resets to go through. -/
structure Resettable (access : Access) (s : Snapshot) : Prop where
  agents : s.has .agents = true
  messages : s.has .messages = true
  recipients : s.has .recipients = true
  writable : access = .readWrite
  acks : s.Passes .update .messages ["ack_required"] (s.rows .messages).length
  reads : s.Passes .update .recipients ["read_ts", "ack_ts"] (s.rows .recipients).length
  reservations : Clearable access s .reservations
  links : Clearable access s .links

/-- What the resets report. -/
def resetSummary (preset : Preset) (s : Snapshot) : ScrubSummary :=
  ⟨preset, (s.rows .agents).length, (s.rows .messages).length, (s.rows .recipients).length,
    (s.rows .reservations).length, (s.rows .links).length, 0, 0, 0, 0⟩

theorem Clearable.congr (h : s'.Alike s) (hrows : s'.rows u = s.rows u) :
    Clearable access s' u ↔ Clearable access s u := by
  unfold Clearable
  rw [h.has, h.needParents, h.passes, hrows]

theorem Clearable.of_rows_eq_nil (hs : Clearable access s u) (h : s'.Alike s)
    (hrows : s'.rows u = []) : Clearable access s' u := by
  intro hh
  rw [h.has] at hh
  obtain ⟨haccess, hparents, -⟩ := hs hh
  refine ⟨haccess, h.needParents.trans hparents, .inl ?_⟩
  rw [hrows]
  rfl

theorem scrubSecrets_of_ne_archive (hp : preset ≠ .archive) :
    preset.options.scrubSecrets = true := by
  cases preset with
  | standard => rfl
  | strict => rfl
  | archive => exact absurd rfl hp

theorem reset_run (hp : preset ≠ .archive) : reset preset = do
    let agents ← Pass.count .agents
    let acks ← resetAcks
    let reads ← resetReads
    let reservations ← emptyTable .reservations
    let links ← emptyTable .links
    return ⟨preset, agents, acks, reads, reservations, links, 0, 0, 0, 0⟩ := by
  cases preset with
  | standard => rfl
  | strict => rfl
  | archive => exact absurd rfl hp

/-- A store that may only be read refuses the first reset. -/
theorem reset_of_readOnly (hp : preset ≠ .archive) (ha : s.has .agents) (hm : s.has .messages) :
    reset preset .readOnly s = .error (.store .resetAcks .notWritable) s := by
  have hupdate : s.update .readOnly .messages ["ack_required"] (fun _ => true)
      (fun m => { m with ackRequired := .integer 0 }) = .error .notWritable := by
    rw [Snapshot.update, Snapshot.need_of_has hm]
    rfl
  rw [reset_run hp, Pass.bind_run_of_ok (Pass.count_eq_ok_iff.2 ⟨ha, rfl, rfl⟩)]
  exact Pass.bind_run_of_error (Pass.change_run_of_error hupdate)

theorem alike_emptied : (emptied s u).Alike s := Snapshot.alike_restrict

section Steps
variable (s)

theorem alike_acked : (acked s).Alike s := Snapshot.alike_mapTable

theorem alike_unread : (unread s).Alike s := Snapshot.alike_mapTable.trans (alike_acked s)

theorem alike_unreserved : (unreserved s).Alike s := alike_emptied.trans (alike_unread s)

theorem alike_settle : (settle s).Alike s := alike_emptied.trans (alike_unreserved s)

theorem rows_acked_of_ne (h : u ≠ .messages) : (acked s).rows u = s.rows u :=
  Snapshot.rows_mapTable_of_ne h

theorem rows_unread_of_ne (hm : u ≠ .messages) (hr : u ≠ .recipients) :
    (unread s).rows u = s.rows u := by
  rw [unread, Snapshot.rows_mapTable_of_ne hr, rows_acked_of_ne s hm]

theorem rows_unreserved_links : (unreserved s).rows .links = s.rows .links := by
  rw [unreserved, rows_emptied_of_ne (by decide), rows_unread_of_ne s (by decide) (by decide)]

end Steps

theorem not_mem_parents_reservations (v : Table) : .reservations ∉ v.parents := by
  cases v <;> decide

theorem not_mem_parents_links (v : Table) : .links ∉ v.parents := by
  cases v <;> decide

/-- The resets go through exactly where nothing stands in the way of any of them. -/
theorem reset_eq_ok_iff (hp : preset ≠ .archive) : reset preset access s = .ok summary t ↔
    Resettable access s ∧ summary = resetSummary preset s ∧ t = settle s := by
  have hrecipients : (acked s).rows .recipients = s.rows .recipients :=
    rows_acked_of_ne s (by decide)
  have hreservations : (unread s).rows .reservations = s.rows .reservations :=
    rows_unread_of_ne s (by decide) (by decide)
  have hlinks : (unreserved s).rows .links = s.rows .links := rows_unreserved_links s
  have hsummary : (⟨preset, (s.rows .agents).length, (s.rows .messages).length,
      ((acked s).rows .recipients).length, ((unread s).rows .reservations).length,
      ((unreserved s).rows .links).length, 0, 0, 0, 0⟩ : ScrubSummary) = resetSummary preset s := by
    rw [hrecipients, hreservations, hlinks, resetSummary]
  rw [reset_run hp]
  simp only [Pass.bind_eq_ok_iff, Pass.count_eq_ok_iff, resetAcks_eq_ok_iff, resetReads_eq_ok_iff,
    emptyTable_eq_ok_iff not_mem_parents_reservations, emptyTable_eq_ok_iff not_mem_parents_links]
  constructor
  · rintro ⟨_, _, ⟨ha, rfl, rfl⟩, _, _, ⟨hm, rfl, hacks, rfl, rfl⟩, _, _, ⟨hr, -, hreads, rfl, rfl⟩,
      _, _, ⟨hv, rfl, rfl⟩, _, _, ⟨hl, rfl, rfl⟩, h⟩
    rw [hrecipients, (alike_acked s).passes] at hreads
    rw [(alike_acked s).has] at hr
    have hv := (Clearable.congr (alike_unread s) hreservations).1 hv
    have hl := (Clearable.congr (alike_unreserved s) hlinks).1 hl
    cases h
    exact ⟨⟨ha, hm, hr, rfl, hacks, hreads, hv, hl⟩, hsummary, rfl⟩
  · rintro ⟨h, rfl, rfl⟩
    have hr := ((alike_acked s).has .recipients).trans h.recipients
    have hreads := (alike_acked s).passes.2 h.reads
    have hv := (Clearable.congr (alike_unread s) hreservations).2 h.reservations
    have hl := (Clearable.congr (alike_unreserved s) hlinks).2 h.links
    rw [← hrecipients] at hreads
    refine ⟨_, s, ⟨h.agents, rfl, rfl⟩, _, acked s, ⟨h.messages, h.writable, h.acks, rfl, rfl⟩, _,
      unread s, ⟨hr, h.writable, hreads, rfl, rfl⟩, _, unreserved s, ⟨hv, rfl, rfl⟩, _, settle s,
      ⟨hl, rfl, rfl⟩, ?_⟩
    rw [Pass.pure_run, hsummary]

theorem rows_settle_messages (s : Snapshot) :
    (settle s).rows .messages = (s.rows .messages).map clearAck := by
  rw [settle, rows_emptied_of_ne (by decide), unreserved, rows_emptied_of_ne (by decide), unread,
    Snapshot.rows_mapTable_of_ne (by decide), acked, Snapshot.rows_mapTable_self]

theorem rows_settle_recipients (s : Snapshot) :
    (settle s).rows .recipients = (s.rows .recipients).map clearReads := by
  rw [settle, rows_emptied_of_ne (by decide), unreserved, rows_emptied_of_ne (by decide), unread,
    Snapshot.rows_mapTable_self, rows_acked_of_ne s (by decide)]

theorem settled_settle (s : Snapshot) : (settle s).Settled where
  acks := by
    rw [rows_settle_messages]
    intro m hm
    obtain ⟨_, _, rfl⟩ := List.mem_map.1 hm
    rfl
  reads := by
    rw [rows_settle_recipients]
    intro r hr
    obtain ⟨_, _, rfl⟩ := List.mem_map.1 hr
    exact ⟨rfl, rfl⟩
  reservations := by
    rw [settle, rows_emptied_of_ne (by decide), unreserved, rows_emptied_self]
  links := rows_emptied_self

theorem settle_eq_self (h : s.Settled) : settle s = s := by
  have hacked : acked s = s := by
    apply Snapshot.mapTable_of_all
    intro m hm
    rw [clearAck, ← h.acks m hm]
  have hunread : unread s = s := by
    rw [unread, hacked]
    apply Snapshot.mapTable_of_all
    intro r hr
    obtain ⟨hread, hack⟩ := h.reads r hr
    cases r
    cases hread
    cases hack
    rfl
  rw [settle, unreserved, hunread, emptied_of_rows h.reservations, emptied_of_rows h.links]

/-- Without triggers a writable snapshot can be reset, also where it has no table of reservations or
links. -/
theorem resettable_of_core (hc : s.Core) (hg : s.triggers = []) : Resettable .readWrite s := by
  have hpasses : ∀ event u columns n, s.Passes event u columns n := by
    intro event u columns n
    right
    simp [Snapshot.refusal?, hg]
  have hclear : ∀ u, Clearable .readWrite s u := by
    intro u _
    refine ⟨rfl, ?_, hpasses _ _ _ _⟩
    have hparents : u.parents.reverse.find? (!s.has ·) = none := by
      rw [List.find?_eq_none]
      intro v hv
      simp [hc.has_parent (List.mem_reverse.1 hv)]
    rw [Snapshot.needParents, hparents]
    cases s.schema <;> rfl
  exact ⟨hc _ (by decide) (by decide) (by decide), hc _ (by decide) (by decide) (by decide),
    hc _ (by decide) (by decide) (by decide), rfl, hpasses _ _ _ _, hpasses _ _ _ _, hclear _,
    hclear _⟩

theorem resettable_of_quiet (hc : s.Complete) (hg : s.triggers = []) : Resettable .readWrite s :=
  resettable_of_core hc.core hg

/-- What could be reset once can be reset again. -/
theorem Resettable.again (h : Resettable access s) (ha : s'.Alike s) (hs : s'.Settled)
    (hm : (s'.rows .messages).length = (s.rows .messages).length)
    (hr : (s'.rows .recipients).length = (s.rows .recipients).length) : Resettable access s' where
  agents := (ha.has _).trans h.agents
  messages := (ha.has _).trans h.messages
  recipients := (ha.has _).trans h.recipients
  writable := h.writable
  acks := by
    rw [hm, ha.passes]
    exact h.acks
  reads := by
    rw [hr, ha.passes]
    exact h.reads
  reservations := h.reservations.of_rows_eq_nil ha hs.reservations
  links := h.links.of_rows_eq_nil ha hs.links

end Scrub
end MailSnapshot
