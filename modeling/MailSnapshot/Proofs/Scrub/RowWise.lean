import MailSnapshot.Proofs.Scrub.Rewriting
import MailSnapshot.Proofs.Scrub.Cleaning
import MailSnapshot.Proofs.Store.Revision

/-! Scrub passes over strict stores. There an edit reaches the message it was made for and no other,
so that a pass is one revision, and what becomes of a row depends on this row alone. -/

namespace MailSnapshot

theorem Edit.fill_fill (r : Edit) (m : Message) : r.fill (r.fill m) = r.fill m := by
  obtain ⟨subject, body, attachments, -, -, -, -⟩ := r
  cases subject <;> cases body <;> cases attachments <;> rfl

namespace Scrub
variable {s t : Snapshot} {u : Table} {access : Access} {read : List (Int × Message)} {r : Edit}
  {m : Message} {o : ScrubOptions} {preset : Preset} {summary : ScrubSummary}

section Edits
variable (hr : ∀ p ∈ read, m.id.same (.integer p.1) = true → p.2.edit o = r)
include hr

theorem rewrite_of_filled (hm : r.fill m = m) : rewrite o read m = m := by
  induction read with
  | nil => rfl
  | cons p ps ih =>
    have hplace : place p.1 (p.2.edit o) m = m := by
      unfold place
      split
      · rename_i hsame
        rw [hr p (by simp) hsame, hm]
      · rfl
    change rewrite o ps (place p.1 (p.2.edit o) m) = m
    rw [hplace]
    exact ih fun q hq => hr q (by simp [hq])

/-- A message that a single edit reaches, once or more often, is as this edit leaves it. -/
theorem rewrite_eq_fill (hm : ∃ p ∈ read, m.id.same (.integer p.1) = true) :
    rewrite o read m = r.fill m := by
  induction read with
  | nil =>
    obtain ⟨_, hp, _⟩ := hm
    cases hp
  | cons p ps ih =>
    have hps : ∀ q ∈ ps, m.id.same (.integer q.1) = true → q.2.edit o = r := fun q hq =>
      hr q (by simp [hq])
    change rewrite o ps (place p.1 (p.2.edit o) m) = r.fill m
    by_cases hp : m.id.same (.integer p.1) = true
    · rw [place, if_pos hp, hr p (by simp) hp]
      exact rewrite_of_filled hps (r.fill_fill m)
    · rw [place, if_neg hp]
      apply ih hps
      obtain ⟨q, hq, hsame⟩ := hm
      rcases List.mem_cons.1 hq with rfl | hq
      · exact absurd hsame hp
      · exact ⟨q, hq, hsame⟩

end Edits

/-- With one message to an id, the edits of all messages that were read come down to its own. -/
theorem rewrite_of_strict (hs : s.Strict) (hread : s.readMessages = .ok read)
    (hm : m ∈ s.rows .messages) : rewrite o read m = m.scrubbed o := by
  obtain ⟨id, hid⟩ := Snapshot.exists_read hread hm
  apply rewrite_eq_fill
  · intro p hp hsame
    obtain ⟨hrow, hpid⟩ := Snapshot.mem_rows_of_read hread hp
    rw [← hpid] at hsame
    rw [hs.eq_of_same (t := .messages) hm hrow rfl rfl hsame]
  · refine ⟨(id, m), hid, ?_⟩
    rw [(Snapshot.mem_rows_of_read hread hid).2, Cell.same_integer]

/-- Nothing short-lived stays. -/
def resetting : Revision where
  row
    | .messages, m => some (clearAck m)
    | .recipients, r => some (clearReads r)
    | .reservations, _ | .links, _ => none
    | .projects, r | .agents, r | .suggestions, r => some r
  keeps t r r' h := by
    cases t <;> cases h
    case messages => exact ⟨rfl, rfl, rfl⟩
    case recipients => exact ⟨rfl, rfl⟩
    all_goals exact .refl _

/-- Every message is scrubbed by itself. -/
def rewriting (o : ScrubOptions) : Revision where
  row
    | .messages, m => some (m.scrubbed o)
    | .projects, r | .agents, r | .recipients, r | .reservations, r | .links, r
    | .suggestions, r => some r
  keeps t r r' h := by
    cases t <;> cases h
    case messages => exact ⟨rfl, rfl, rfl⟩
    all_goals exact .refl _

/-- What a scrub pass makes of each row. -/
def cleaning (preset : Preset) : Revision :=
  if preset = .archive then .keeping fun _ _ => true
  else resetting.andThen (rewriting preset.options)

theorem cleaning_of_ne_archive (hp : preset ≠ .archive) :
    cleaning preset = resetting.andThen (rewriting preset.options) := if_neg hp

theorem revise_cleaning_archive : s.revise (cleaning .archive) = s :=
  Snapshot.revise_of_all fun _ _ _ => rfl

/-- Only reservations and links go. -/
theorem isSome_cleaning (hv : u ≠ .reservations) (hl : u ≠ .links) (r : u.Row) :
    ((cleaning preset).row u r).isSome := by
  unfold cleaning
  split
  · rfl
  · cases u <;> first | rfl | contradiction

theorem rows_settle_of_ne (hm : u ≠ .messages) (hr : u ≠ .recipients) (hv : u ≠ .reservations)
    (hl : u ≠ .links) : (settle s).rows u = s.rows u := by
  rw [settle, rows_emptied_of_ne hl, unreserved, rows_emptied_of_ne hv, rows_unread_of_ne s hm hr]

theorem settle_eq_revise : settle s = s.revise resetting := by
  have hsettled := settled_settle s
  refine ((alike_settle s).trans Snapshot.alike_revise.symm).eq_of_rows fun u => ?_
  rw [Snapshot.rows_revise]
  cases u with
  | messages =>
    rw [rows_settle_messages, ← List.filterMap_eq_map]
    rfl
  | recipients =>
    rw [rows_settle_recipients, ← List.filterMap_eq_map]
    rfl
  | reservations =>
    rw [hsettled.reservations]
    exact (List.filterMap_eq_nil_iff.2 fun _ _ => rfl).symm
  | links =>
    rw [hsettled.links]
    exact (List.filterMap_eq_nil_iff.2 fun _ _ => rfl).symm
  | projects | agents | suggestions =>
    rw [rows_settle_of_ne (by decide) (by decide) (by decide) (by decide)]
    exact List.filterMap_some.symm

theorem mapTable_rewrite_eq_revise (hs : s.Strict) (hread : s.readMessages = .ok read) :
    s.mapTable .messages (rewrite o read) = s.revise (rewriting o) := by
  refine (Snapshot.alike_mapTable.trans Snapshot.alike_revise.symm).eq_of_rows fun u => ?_
  rw [Snapshot.rows_revise]
  by_cases hu : u = .messages
  · subst hu
    rw [Snapshot.rows_mapTable_self, List.map_congr_left fun m hm => rewrite_of_strict hs hread hm,
      ← List.filterMap_eq_map]
    rfl
  · rw [Snapshot.rows_mapTable_of_ne hu]
    cases u with
    | messages => exact absurd rfl hu
    | projects | agents | recipients | reservations | links | suggestions =>
      exact List.filterMap_some.symm

/-- Whatever a strict store holds, a pass that goes through revises it row by row. -/
theorem eq_revise_of_apply (hs : s.Strict) (h : apply preset access s = .ok summary t) :
    t = s.revise (cleaning preset) := by
  by_cases hp : preset = .archive
  · subst hp
    obtain ⟨-, -, rfl⟩ := apply_archive_eq_ok_iff.1 h
    exact revise_cleaning_archive.symm
  · obtain ⟨-, read, hread, -, -, rfl⟩ := (apply_eq_ok_iff hp).1 h
    have hstrict : (settle s).Strict := settle_eq_revise ▸ hs.revise
    rw [mapTable_rewrite_eq_revise hstrict hread, settle_eq_revise, cleaning_of_ne_archive hp,
      Snapshot.revise_andThen]

/-- Without triggers every pass over a strict store goes through, also where there is no table of
reservations or links. -/
theorem exists_apply_of_core (hs : s.Strict) (hc : s.Core) (hg : s.triggers = [])
    (preset : Preset) :
    ∃ summary, apply preset .readWrite s = .ok summary (s.revise (cleaning preset)) := by
  by_cases hp : preset = .archive
  · subst hp
    refine ⟨_, apply_archive_eq_ok_iff.2 ⟨hc _ (by decide) (by decide) (by decide), rfl, ?_⟩⟩
    exact revise_cleaning_archive.symm
  · have hstrict : (settle s).Strict := settle_eq_revise ▸ hs.revise
    have hquiet : (settle s).triggers = [] := (alike_settle s).triggers.trans hg
    have hmessages : (settle s).has .messages = true :=
      ((alike_settle s).has .messages).trans (hc _ (by decide) (by decide) (by decide))
    obtain ⟨read, hread⟩ := Snapshot.exists_readMessages hmessages
      fun m hm => hstrict.id_integer .messages m hm m.id rfl
    have hrun := (apply_eq_ok_iff hp).2 ⟨resettable_of_core hc hg, read, hread,
      fun _ _ => writable_of_quiet hquiet, rfl, rfl⟩
    exact ⟨_, eq_revise_of_apply hs hrun ▸ hrun⟩

theorem exists_apply_of_strict (hs : s.Strict) (hc : s.Complete) (hg : s.triggers = [])
    (preset : Preset) :
    ∃ summary, apply preset .readWrite s = .ok summary (s.revise (cleaning preset)) :=
  exists_apply_of_core hs hc.core hg preset

end Scrub
end MailSnapshot
