import MailSnapshot.Proofs.Scrub.Counting

/-! What a scrub pass makes of each cell of a message. A cell depends on what it held before and on
the options, and an edit writes into a cell only what the cell does not hold already. -/

namespace MailSnapshot
open Scrub
variable {o : ScrubOptions} {c : Cell} {m : Message} {preset : Preset}

namespace Cell

/-- The cell without its secrets. Only text is scanned. -/
def scanned : Cell → Cell
  | text s => text (Secret.scanString s).string
  | c => c

/-- What the options leave of the stored attachments. What is no list counts as an empty one. -/
def attachmentsLeft (o : ScrubOptions) (c : Cell) : Json :=
  let items := Json.arr (if o.dropAttachments then [] else c.items?.getD [])
  if o.scrubSecrets then (Attachment.scrub items).value else items

/-- A stored list that the options leave as it is stays as it is written. -/
def relisted (o : ScrubOptions) (c : Cell) : Cell :=
  if c.items?.map Json.arr = some (c.attachmentsLeft o) then c
  else text (c.attachmentsLeft o).canonical

end Cell

/-- What a scrub pass makes of a message: each cell by itself. -/
def Message.cleaned (o : ScrubOptions) (m : Message) : Message :=
  { m with
    subject := if o.scrubSecrets then m.subject.scanned else m.subject
    body :=
      if o.redactBody then .text o.placeholder
      else if o.scrubSecrets then m.body.scanned else m.body
    attachments := if o.touchesAttachments then m.attachments.relisted o else m.attachments
    ackRequired := if o.clearAckState then .integer 0 else m.ackRequired }

namespace Scrub

section Cells

theorem getD_scanCell :
    ((scanCell o c).1.map Cell.text).getD c = if o.scrubSecrets then c.scanned else c := by
  cases ho : o.scrubSecrets with
  | false =>
    rw [scanCell, ho]
    rfl
  | true =>
    cases hc : c.text? with
    | none =>
      rw [scanCell_of_not_text ho hc]
      cases c with
      | text s => cases hc
      | null | integer | real | rawText | blob => rfl
    | some s =>
      obtain rfl := Cell.text?_eq_some_iff.1 hc
      rw [scanCell_of_text ho hc]
      by_cases hzero : (Secret.scanString s).replacements = 0
      · rw [Secret.Scan.changed, hzero]
        exact congrArg Cell.text (Secret.string_scanString_eq_iff.2 hzero).symm
      · rw [Secret.Scan.changed, decide_eq_true (Nat.pos_of_ne_zero hzero)]
        rfl

theorem getD_redactBody (scanned : Option String) :
    ((redactBody o c scanned).1.map Cell.text).getD c =
      if o.redactBody then .text o.placeholder else (scanned.map Cell.text).getD c := by
  unfold redactBody
  split
  · split
    · rename_i hc
      exact Cell.text?_eq_some_iff.1 hc
    · rfl
  · rfl

/-- A list is cleared only where there is something in it, which makes no difference to what is left
of it. -/
theorem attachmentsLeft_eq (o : ScrubOptions) (c : Cell) :
    let items := c.items?.getD []
    let kept := Json.arr (if o.dropAttachments && !items.isEmpty then [] else items)
    c.attachmentsLeft o = if o.scrubSecrets then (Attachment.scrub kept).value else kept := by
  have hkept : (if o.dropAttachments then [] else c.items?.getD []) =
      if o.dropAttachments && !(c.items?.getD []).isEmpty then [] else c.items?.getD [] := by
    cases c.items?.getD [] <;> simp
  rw [Cell.attachmentsLeft, hkept]

theorem attachmentsLeft_of_dropped (hd : o.dropAttachments = true) :
    c.attachmentsLeft o = .arr [] := by
  rw [Cell.attachmentsLeft, if_pos hd]
  exact ite_self _

/-- Attachments are written exactly where what is left of them is not what is stored. -/
theorem text_editAttachments (ht : o.touchesAttachments = true) :
    (editAttachments o c).text = if c.items?.map Json.arr = some (c.attachmentsLeft o) then none
      else some (c.attachmentsLeft o).canonical := by
  have hleft := attachmentsLeft_eq o c
  have hvalue : ∀ kept, (if o.scrubSecrets then Attachment.scrub kept else .unchanged kept).value =
      if o.scrubSecrets then (Attachment.scrub kept).value else kept := by
    intro kept
    cases o.scrubSecrets <;> rfl
  simp only [editAttachments, ht, if_true, hvalue]
  simp only at hleft
  rw [← hleft]
  cases hitems : c.items? with
  | none => simp
  | some items =>
    simp only [Option.getD_some, Option.map_some, Option.isNone_some, Bool.false_or,
      Option.some.injEq]
    by_cases hcleared : (o.dropAttachments && !items.isEmpty) = true
    · obtain ⟨hd, hne⟩ := Bool.and_eq_true_iff.1 hcleared
      have hitems : Json.arr items ≠ .arr [] := by
        intro h
        rw [Json.arr.inj h] at hne
        cases hne
      rw [hcleared, Bool.true_or, if_pos rfl, attachmentsLeft_of_dropped hd, if_neg hitems]
    · rw [Bool.not_eq_true] at hcleared
      rw [hcleared, Bool.false_or, if_neg Bool.false_ne_true]
      by_cases hsame : c.attachmentsLeft o = .arr items
      · simp [hsame]
      · simp [hsame, Ne.symm hsame]

theorem getD_editAttachments :
    ((editAttachments o c).text.map Cell.text).getD c =
      if o.touchesAttachments then c.relisted o else c := by
  cases ht : o.touchesAttachments with
  | false =>
    rw [editAttachments, ht]
    rfl
  | true =>
    rw [text_editAttachments ht, if_pos rfl, Cell.relisted]
    split <;> rfl

/-- The edit of a message, filled in, is what a pass makes of its contents. -/
theorem scrubbed_eq_cleaned : m.scrubbed o = { m.cleaned o with ackRequired := m.ackRequired } := by
  have hbody := getD_redactBody (o := o) (c := m.body) (scanCell o m.body).1
  rw [getD_scanCell] at hbody
  change { m with
    subject := ((scanCell o m.subject).1.map Cell.text).getD m.subject
    body := ((redactBody o m.body (scanCell o m.body).1).1.map Cell.text).getD m.body
    attachments := ((editAttachments o m.attachments).text.map Cell.text).getD m.attachments } = _
  rw [getD_scanCell, hbody, getD_editAttachments]
  rfl

theorem contents_scrubbed : (m.scrubbed o).contents = (m.cleaned o).contents := by
  rw [scrubbed_eq_cleaned]
  rfl

theorem scrubbed_clearAck (hc : o.clearAckState = true) :
    (clearAck m).scrubbed o = m.cleaned o := by
  rw [scrubbed_eq_cleaned, Message.cleaned, Message.cleaned, hc]
  rfl

end Cells

section Writes
variable (ho : o.scrubSecrets = true)
include ho

theorem scanCell_eq_none_iff :
    (scanCell o c).1 = none ↔ ((scanCell o c).1.map Cell.text).getD c = c := by
  constructor
  · intro h
    rw [h]
    rfl
  · intro h
    rw [scanCell_eq_nothing ho ((scanCell_keeps_iff ho).1 h)]

/-- A redacted body is written only where it is not the placeholder already. -/
theorem redactBody_eq_none_iff :
    (redactBody o c (scanCell o c).1).1 = none ↔
      ((redactBody o c (scanCell o c).1).1.map Cell.text).getD c = c := by
  cases hr : o.redactBody with
  | false =>
    have hscan : redactBody o c (scanCell o c).1 = ((scanCell o c).1, false) := by
      rw [redactBody, hr]
      rfl
    rw [hscan]
    exact scanCell_eq_none_iff ho
  | true =>
    rw [redactBody_keeps_iff hr, redactBody, if_pos hr]
    split <;> simp

theorem text_editAttachments_eq_none_iff : (editAttachments o c).text = none ↔
    ((editAttachments o c).text.map Cell.text).getD c = c := by
  constructor
  · intro h
    rw [h]
    rfl
  · intro h
    have hsanitized := (editAttachments_keeps_iff ho c).1 h
    have ht : o.touchesAttachments = true := by
      rw [ScrubOptions.touchesAttachments, ho, Bool.or_true]
    simp only [editAttachments, ht, if_true] at hsanitized ⊢
    rw [Bool.or_eq_false_iff] at hsanitized
    rw [hsanitized.1, if_neg Bool.false_ne_true]

theorem isEmpty_edit_of_scrubSecrets :
    (m.edit o).isEmpty = true ↔ (m.cleaned o).contents = m.contents := by
  have hempty : (m.edit o).isEmpty = true ↔ (scanCell o m.subject).1 = none ∧
      (redactBody o m.body (scanCell o m.body).1).1 = none ∧
      (editAttachments o m.attachments).text = none := by
    simp only [Edit.isEmpty, Bool.and_eq_true, Option.isNone_iff_eq_none, and_assoc]
    rfl
  rw [hempty, scanCell_eq_none_iff ho, redactBody_eq_none_iff ho,
    text_editAttachments_eq_none_iff ho, ← contents_scrubbed, contents_scrubbed_iff]

end Writes

/-- A preset has something to write for a message exactly where it makes something else of it. -/
theorem isEmpty_edit_iff :
    (m.edit preset.options).isEmpty = true ↔ (m.cleaned preset.options).contents = m.contents := by
  by_cases hp : preset = .archive
  · subst hp
    exact iff_of_true rfl rfl
  · exact isEmpty_edit_of_scrubSecrets (scrubSecrets_of_ne_archive hp)

/-- A pass makes of each message what its own cells and the preset say. -/
theorem rows_messages_of_apply {s t : Snapshot} {access : Access} {summary : ScrubSummary}
    (hs : s.Strict) (h : apply preset access s = .ok summary t) :
    t.rows .messages = (s.rows .messages).map (Message.cleaned preset.options) := by
  by_cases hp : preset = .archive
  · subst hp
    obtain ⟨-, -, rfl⟩ := apply_archive_eq_ok_iff.1 h
    exact (List.map_id' _).symm
  · have hc : preset.options.clearAckState = true := by
      cases preset with
      | standard | strict => rfl
      | archive => exact absurd rfl hp
    rw [eq_revise_of_apply hs h, rows_messages_cleaning hp]
    exact List.map_congr_left fun m _ => scrubbed_clearAck hc

end Scrub
end MailSnapshot
