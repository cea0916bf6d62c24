import MailSnapshot.Proofs.Attachment.Substance
import MailSnapshot.Proofs.Scrub.Again
import MailSnapshot.Proofs.Scrub.RowWise

/-! What a scrub pass reports against what it changes. The counters are kept apart from the writes,
so each of them is tied to the cells that differ: an edit counts something exactly where it changes
its message. -/

namespace MailSnapshot
open Attachment

/-- How many messages have another cell in a column after than before. -/
def Snapshot.changedMessages (s t : Snapshot) (column : Message → Cell) : Nat :=
  ((s.rows .messages).zip (t.rows .messages)).countP fun p => column p.1 ≠ column p.2

/-- The part of a message that a scrub pass reads and rewrites. -/
def Message.contents (m : Message) : Cell × Cell × Cell := (m.subject, m.body, m.attachments)

/-- A stored list of attachments with an item in it. -/
def Cell.holdsItems (c : Cell) : Bool := c.items?.any fun items => !items.isEmpty

namespace Scrub
variable {s t : Snapshot} {access : Access} {preset : Preset} {summary : ScrubSummary}
  {read : List (Int × Message)} {m : Message} {o : ScrubOptions} {c : Cell}

section Cells
variable (ho : o.scrubSecrets = true)

theorem redactBody_keeps_iff (hr : o.redactBody = true) (scanned : Option String) :
    ((redactBody o c scanned).1.map Cell.text).getD c = c ↔
      (redactBody o c scanned).2 = false := by
  unfold redactBody
  rw [if_pos hr]
  split
  · simp
  · rename_i hc
    rw [Cell.text?_eq_some_iff] at hc
    simp [eq_comm, hc]

theorem contents_scrubbed_iff : (m.scrubbed o).contents = m.contents ↔
    ((scanCell o m.subject).1.map Cell.text).getD m.subject = m.subject ∧
    ((redactBody o m.body (scanCell o m.body).1).1.map Cell.text).getD m.body = m.body ∧
    ((editAttachments o m.attachments).text.map Cell.text).getD m.attachments =
      m.attachments := by
  rw [Message.contents, Message.contents, Prod.mk.injEq, Prod.mk.injEq]
  rfl

include ho

theorem scanCell_keeps_iff :
    ((scanCell o c).1.map Cell.text).getD c = c ↔ (scanCell o c).2 = 0 := by
  constructor
  · intro h
    cases hc : c.text? with
    | none => rw [scanCell_of_not_text ho hc]
    | some s =>
      obtain rfl := Cell.text?_eq_some_iff.1 hc
      rw [scanCell_of_text ho hc] at h ⊢
      by_cases hchanged : (Secret.scanString s).changed = true
      · rw [if_pos hchanged] at h
        exact Secret.string_scanString_eq_iff.1 (Cell.text.inj h)
      · simpa [Secret.Scan.changed] using hchanged
  · intro h
    rw [scanCell_eq_nothing ho h]
    rfl

/-- Attachments count as sanitized exactly where their cell gets another text. -/
theorem editAttachments_keeps_iff (c : Cell) :
    ((editAttachments o c).text.map Cell.text).getD c = c ↔
      (editAttachments o c).sanitized = false := by
  obtain ⟨left, hleft, -, -, hempty⟩ := exists_items_edited ho c
  cases hitems : c.items? with
  | none =>
    have hsanitized : (editAttachments o c).sanitized = true := by
      simp [editAttachments, ScrubOptions.touchesAttachments, ho, hitems]
    rw [hsanitized]
    refine iff_of_false ?_ (by decide)
    intro h
    rw [h, hitems] at hleft
    cases hleft
  | some items =>
    by_cases hcleared : o.dropAttachments = true ∧ items ≠ []
    · have hsanitized : (editAttachments o c).sanitized = true := by
        simp [editAttachments, ScrubOptions.touchesAttachments, ho, hitems, hcleared]
      rw [hsanitized]
      refine iff_of_false ?_ (by decide)
      intro h
      rw [h, hitems] at hleft
      exact hcleared.2 ((Option.some.inj hleft).trans (hempty hcleared.1))
    · have hdrop : o.dropAttachments = true → items = [] := fun hd =>
        Classical.not_not.1 fun hne => hcleared ⟨hd, hne⟩
      rw [editAttachments_of_items ho hitems hdrop]
      by_cases hsame : (scrub (.arr items)).value = .arr items
      · simp [scrub_eq_of_value hsame, Scrubbed.unchanged]
      · obtain ⟨raw, rfl, hparse⟩ := Cell.items?_eq_some_iff.1 hitems
        simp [hsame, canonical_scrub_ne hparse hsame]

theorem counts_of_not_sanitized (h : (editAttachments o c).sanitized = false) :
    (editAttachments o c).secrets = 0 ∧ (editAttachments o c).cleared = false := by
  simp only [editAttachments, ScrubOptions.touchesAttachments, ho, Bool.or_true, if_true,
    Bool.or_eq_false_iff, decide_eq_false_iff_not] at h ⊢
  exact ⟨by omega, h.1.1.2⟩

theorem cleared_editAttachments :
    (editAttachments o c).cleared = (o.dropAttachments && c.holdsItems) := by
  simp only [editAttachments, ScrubOptions.touchesAttachments, ho, Bool.or_true, if_true,
    Cell.holdsItems]
  cases c.items? <;> simp

/-- An edit counts nothing exactly where it leaves its message as it is. -/
theorem changes_edit_eq_zero_iff
    (hp : o.redactBody = true → (Secret.scanString o.placeholder).replacements = 0) :
    changes (m.edit o) = 0 ↔ (m.scrubbed o).contents = m.contents := by
  have hcount : changes (m.edit o) = 0 ↔ (m.edit o).secrets = 0 ∧
      (editAttachments o m.attachments).sanitized = false ∧
      (redactBody o m.body (scanCell o m.body).1).2 = false ∧
      (editAttachments o m.attachments).cleared = false := by
    simp only [changes, Nat.add_eq_zero_iff, Bool.toNat_eq_zero, and_assoc]
    rfl
  rw [contents_scrubbed_iff, hcount, Message.secrets_edit_eq_zero_iff, scanCell_keeps_iff ho,
    editAttachments_keeps_iff ho]
  cases hr : o.redactBody with
  | false =>
    have hbody : redactBody o m.body (scanCell o m.body).1 = ((scanCell o m.body).1, false) := by
      rw [redactBody, hr]
      rfl
    rw [hbody, scanCell_keeps_iff ho]
    constructor
    · rintro ⟨⟨hs, hb, -⟩, ha, -, -⟩
      exact ⟨hs, hb, ha⟩
    · rintro ⟨hs, hb, ha⟩
      obtain ⟨hzero, hcleared⟩ := counts_of_not_sanitized ho ha
      exact ⟨⟨hs, hb, hzero⟩, ha, rfl, hcleared⟩
  | true =>
    rw [redactBody_keeps_iff hr]
    constructor
    · rintro ⟨⟨hs, -, -⟩, ha, hb, -⟩
      exact ⟨hs, hb, ha⟩
    · rintro ⟨hs, hb, ha⟩
      obtain ⟨hzero, hcleared⟩ := counts_of_not_sanitized ho ha
      refine ⟨⟨hs, ?_, hzero⟩, ha, hb, hcleared⟩
      -- A body that is not redacted is the placeholder, in which there is nothing to find.
      rw [scanCell_count_eq_zero_iff ho]
      intro text htext
      by_cases hplace : m.body.text? = some o.placeholder
      · rw [hplace] at htext
        cases htext
        exact hp hr
      · simp [redactBody, hr, hplace] at hb

end Cells

section Summary

/-- A counter of flagged edits. -/
theorem flag_addEdits (counter : ScrubSummary → Nat) (flag : Edit → Bool)
    (hadd : ∀ summary r, counter (summary.addEdit r) = counter summary + (flag r).toNat) :
    counter (addEdits o read summary) =
      counter summary + read.countP fun p => flag (p.2.edit o) := by
  induction read generalizing summary with
  | nil => rfl
  | cons p ps ih =>
    change counter (addEdits o ps (summary.addEdit (p.2.edit o))) = _
    rw [ih, hadd, List.countP_cons, Nat.add_assoc, Nat.add_comm (Bool.toNat _)]
    cases flag (p.2.edit o) <;> rfl

@[simp] theorem reservationsRemoved_addEdits :
    (addEdits o read summary).reservationsRemoved = summary.reservationsRemoved := by
  induction read generalizing summary with
  | nil => rfl
  | cons p ps ih => exact ih

@[simp] theorem linksRemoved_addEdits :
    (addEdits o read summary).linksRemoved = summary.linksRemoved := by
  induction read generalizing summary with
  | nil => rfl
  | cons p ps ih => exact ih

/-- The messages as they are read after the resets are edited as the ones before them. -/
theorem countP_read (hread : (settle s).readMessages = .ok read) (flag : Edit → Bool) :
    (read.countP fun p => flag (p.2.edit o)) =
      (s.rows .messages).countP fun m => flag (m.edit o) := by
  obtain ⟨-, hrows, -⟩ := Snapshot.readMessages_eq_ok_iff.1 hread
  calc (read.countP fun p => flag (p.2.edit o))
      = (read.map Prod.snd).countP fun m => flag (m.edit o) := by
        rw [List.countP_map]
        rfl
    _ = ((settle s).rows .messages).countP fun m => flag (m.edit o) := by
        rw [hrows]
        exact (orderById_perm _).countP_eq _
    _ = (s.rows .messages).countP fun m => flag (m.edit o) := by
        rw [rows_settle_messages, List.countP_map]
        rfl

theorem forall_read_iff (hread : (settle s).readMessages = .ok read) (P : Edit → Prop) :
    (∀ p ∈ read, P (p.2.edit o)) ↔ ∀ m ∈ s.rows .messages, P (m.edit o) := by
  constructor
  · intro h m hm
    have hrow : clearAck m ∈ (settle s).rows .messages := by
      rw [rows_settle_messages]
      exact List.mem_map_of_mem hm
    obtain ⟨id, hid⟩ := Snapshot.exists_read hread hrow
    exact h _ hid
  · intro h p hp
    obtain ⟨hrow, -⟩ := Snapshot.mem_rows_of_read hread hp
    rw [rows_settle_messages] at hrow
    obtain ⟨m, hm, heq⟩ := List.mem_map.1 hrow
    rw [← heq]
    exact h m hm

theorem changedMessages_of_map {f : Message → Message} {column : Message → Cell}
    (h : t.rows .messages = (s.rows .messages).map f) :
    s.changedMessages t column = (s.rows .messages).countP fun m => column m ≠ column (f m) := by
  rw [Snapshot.changedMessages, h]
  induction s.rows .messages with
  | nil => rfl
  | cons m ms ih =>
    rw [List.map_cons, List.zip_cons_cons, List.countP_cons, List.countP_cons, ih]

end Summary

theorem rows_messages_cleaning (hp : preset ≠ .archive) :
    (s.revise (cleaning preset)).rows .messages =
      (s.rows .messages).map fun m => (clearAck m).scrubbed preset.options := by
  rw [cleaning_of_ne_archive hp, Snapshot.rows_revise, ← List.filterMap_eq_map]
  rfl

theorem redactBody_options : preset.options.redactBody = decide (preset = .strict) := by
  cases preset <;> rfl

theorem dropAttachments_options : preset.options.dropAttachments = decide (preset = .strict) := by
  cases preset <;> rfl

theorem replacements_placeholder_of_redactBody (hr : preset.options.redactBody = true) :
    (Secret.scanString preset.options.placeholder).replacements = 0 := by
  cases preset with
  | strict => exact replacements_placeholder
  | standard => cases hr
  | archive => cases hr

section Pass
variable (hp : preset ≠ .archive) (hs : s.Strict) (h : apply preset access s = .ok summary t)
include hp hs h

omit hs in
/-- The counters of a pass, message by message. -/
theorem counters_of_apply :
    summary.attachmentsSanitized =
      ((s.rows .messages).countP fun m => (m.edit preset.options).sanitized) ∧
    summary.bodiesRedacted =
      ((s.rows .messages).countP fun m => (m.edit preset.options).redacted) ∧
    summary.attachmentsCleared =
      ((s.rows .messages).countP fun m => (m.edit preset.options).cleared) ∧
    summary.reservationsRemoved = (s.rows .reservations).length ∧
    summary.linksRemoved = (s.rows .links).length ∧
    (summary.contentChanges = 0 ↔ s.rows .reservations = [] ∧ s.rows .links = [] ∧
      ∀ m ∈ s.rows .messages, changes (m.edit preset.options) = 0) := by
  obtain ⟨-, read, hread, -, rfl, -⟩ := (apply_eq_ok_iff hp).1 h
  refine ⟨?_, ?_, ?_, ?_, ?_, ?_⟩
  · rw [flag_addEdits ScrubSummary.attachmentsSanitized Edit.sanitized fun _ _ => rfl,
      countP_read hread, resetSummary, Nat.zero_add]
  · rw [flag_addEdits ScrubSummary.bodiesRedacted Edit.redacted fun _ _ => rfl, countP_read hread,
      resetSummary, Nat.zero_add]
  · rw [flag_addEdits ScrubSummary.attachmentsCleared Edit.cleared fun _ _ => rfl,
      countP_read hread, resetSummary, Nat.zero_add]
  · rw [reservationsRemoved_addEdits, resetSummary]
  · rw [linksRemoved_addEdits, resetSummary]
  · have hstart : (resetSummary preset s).contentChanges = 0 ↔
        s.rows .reservations = [] ∧ s.rows .links = [] := by
      simp [resetSummary, ScrubSummary.contentChanges]
    have hall := forall_read_iff (o := preset.options) hread fun r => changes r = 0
    rw [contentChanges_addEdits_eq_zero_iff, hstart, hall, and_assoc]

theorem attachmentsSanitized_of_apply :
    summary.attachmentsSanitized = s.changedMessages t Message.attachments := by
  have ho := scrubSecrets_of_ne_archive hp
  have ht := eq_revise_of_apply hs h
  rw [(counters_of_apply hp h).1, changedMessages_of_map (ht ▸ rows_messages_cleaning hp)]
  apply List.countP_congr
  intro m _
  have hkeeps := editAttachments_keeps_iff ho m.attachments
  change (editAttachments preset.options m.attachments).sanitized = true ↔
    decide (m.attachments ≠ ((editAttachments preset.options m.attachments).text.map
      Cell.text).getD m.attachments) = true
  rw [decide_eq_true_iff, ne_comm, ne_eq, hkeeps, Bool.not_eq_false]

theorem bodiesRedacted_of_apply : summary.bodiesRedacted =
    if preset = .strict then s.changedMessages t Message.body else 0 := by
  have ht := eq_revise_of_apply hs h
  rw [(counters_of_apply hp h).2.1, changedMessages_of_map (ht ▸ rows_messages_cleaning hp)]
  split
  · rename_i hstrict
    apply List.countP_congr
    intro m _
    have hredact : preset.options.redactBody = true := by
      rw [redactBody_options, hstrict]
      rfl
    have hkeeps := redactBody_keeps_iff (c := m.body) hredact (scanCell preset.options m.body).1
    change (redactBody preset.options m.body (scanCell preset.options m.body).1).2 = true ↔
      decide (m.body ≠ ((redactBody preset.options m.body
        (scanCell preset.options m.body).1).1.map Cell.text).getD m.body) = true
    rw [decide_eq_true_iff, ne_comm, ne_eq, hkeeps, Bool.not_eq_false]
  · rename_i hstrict
    rw [List.countP_eq_zero]
    intro m _
    have hredact : preset.options.redactBody = false := by
      rw [redactBody_options, decide_eq_false hstrict]
    change ¬ (redactBody preset.options m.body (scanCell preset.options m.body).1).2 = true
    rw [redactBody, hredact]
    exact Bool.false_ne_true

omit hs in
theorem attachmentsCleared_of_apply : summary.attachmentsCleared =
    if preset = .strict then (s.rows .messages).countP (·.attachments.holdsItems) else 0 := by
  have ho := scrubSecrets_of_ne_archive hp
  have hcleared : ∀ m : Message, (m.edit preset.options).cleared =
      (decide (preset = .strict) && m.attachments.holdsItems) := by
    intro m
    rw [← dropAttachments_options]
    exact cleared_editAttachments ho
  rw [(counters_of_apply hp h).2.2.1]
  simp only [hcleared]
  split <;> simp_all

theorem contentChanges_of_apply : summary.contentChanges = 0 ↔
    (t.rows .messages).map Message.contents = (s.rows .messages).map Message.contents ∧
      t.rows .reservations = s.rows .reservations ∧ t.rows .links = s.rows .links := by
  have ho := scrubSecrets_of_ne_archive hp
  have hsettled := settled_of_apply hp h
  have ht := eq_revise_of_apply hs h
  have hedit : ∀ m : Message, changes (m.edit preset.options) = 0 ↔
      (m.scrubbed preset.options).contents = m.contents := fun m =>
    changes_edit_eq_zero_iff ho replacements_placeholder_of_redactBody
  have hmessages : (t.rows .messages).map Message.contents =
      (s.rows .messages).map fun m => (m.scrubbed preset.options).contents := by
    rw [ht, rows_messages_cleaning hp, List.map_map]
    rfl
  rw [(counters_of_apply hp h).2.2.2.2.2, hmessages, List.map_inj_left, hsettled.reservations,
    hsettled.links]
  simp only [hedit, eq_comm (a := ([] : List Reservation)), eq_comm (a := ([] : List AgentLink))]
  exact ⟨fun ⟨hv, hl, hm⟩ => ⟨hm, hv, hl⟩, fun ⟨hm, hv, hl⟩ => ⟨hv, hl, hm⟩⟩

end Pass

/-- Every counter of a pass over a strict store says how much of the store is other than before, and
no change is reported exactly when there is none. -/
theorem apply_reports_changes (hs : s.Strict) (h : apply preset access s = .ok summary t) :
    (t.rows .messages).map Message.id = (s.rows .messages).map Message.id ∧
    summary.attachmentsSanitized = s.changedMessages t Message.attachments ∧
    summary.bodiesRedacted =
      (if preset = .strict then s.changedMessages t Message.body else 0) ∧
    summary.attachmentsCleared =
      (if preset = .strict then (s.rows .messages).countP (·.attachments.holdsItems) else 0) ∧
    summary.reservationsRemoved + (t.rows .reservations).length =
      (s.rows .reservations).length ∧
    summary.linksRemoved + (t.rows .links).length = (s.rows .links).length ∧
    (summary.contentChanges = 0 ↔
      (t.rows .messages).map Message.contents = (s.rows .messages).map Message.contents ∧
        t.rows .reservations = s.rows .reservations ∧ t.rows .links = s.rows .links) := by
  by_cases hp : preset = .archive
  · subst hp
    obtain ⟨-, rfl, rfl⟩ := apply_archive_eq_ok_iff.1 h
    have hsame : ∀ column, s.changedMessages s column = 0 := by
      intro column
      rw [changedMessages_of_map (List.map_id' _).symm]
      simp
    simp [hsame, ScrubSummary.contentChanges]
  · obtain ⟨-, -, -, hreservations, hlinks, -⟩ := counters_of_apply hp h
    have hsettled := settled_of_apply hp h
    refine ⟨?_, attachmentsSanitized_of_apply hp hs h, bodiesRedacted_of_apply hp hs h,
      attachmentsCleared_of_apply hp h, ?_, ?_, contentChanges_of_apply hp hs h⟩
    · rw [eq_revise_of_apply hs h, rows_messages_cleaning hp, List.map_map]
      rfl
    · rw [hreservations, hsettled.reservations, List.length_nil, Nat.add_zero]
    · rw [hlinks, hsettled.links, List.length_nil, Nat.add_zero]

/-- Of three messages one has nothing to redact, one has an attachment to drop, and one has neither
a body nor attachments that are text. There is no table of links. -/
def countedSample : Snapshot :=
  { Snapshot.empty .strict with
    projects := some [⟨.integer 1, .text "demo", .text "/demo"⟩]
    agents := some [⟨.integer 1, .integer 1, .text "x"⟩]
    messages := some [
      ⟨.integer 1, .integer 1, .integer 1, .text "plain", .text "[Message body redacted]",
        .text "[]", .integer 1⟩,
      ⟨.integer 2, .integer 1, .integer 1, .text "plain", .text "hello", .text "[1]", .integer 0⟩,
      ⟨.integer 4, .integer 1, .integer 1, .blob [1], .rawText [255], .text "\x7b", .integer 0⟩]
    reservations := some [⟨.integer 1, .integer 1, .integer 1, .text "*"⟩]
    links := none }

theorem strict_countedSample : countedSample.Strict := by decide

theorem complete_countedSample : countedSample.Complete := by decide

theorem apply_countedSample :
    countedSample.Strict ∧ ∃ summary t, apply .strict .readWrite countedSample = .ok summary t ∧
      summary.attachmentsSanitized = 2 ∧ summary.bodiesRedacted = 2 ∧
        summary.attachmentsCleared = 1 ∧ summary.reservationsRemoved + 0 = 1 ∧
          summary.linksRemoved + 0 = 0 ∧ summary.contentChanges ≠ 0 := by
  obtain ⟨summary, h⟩ :=
    exists_apply_of_strict strict_countedSample complete_countedSample rfl .strict
  obtain ⟨-, hsanitized, hredacted, hcleared, hreservations, hlinks, hchanges⟩ :=
    apply_reports_changes strict_countedSample h
  refine ⟨strict_countedSample, summary, _, h, ?_, ?_, ?_, hreservations, hlinks, ?_⟩
  · rw [hsanitized]
    decide +kernel
  · rw [hredacted]
    decide +kernel
  · rw [hcleared]
    decide +kernel
  · rw [ne_eq, hchanges]
    decide +kernel

end Scrub
end MailSnapshot
