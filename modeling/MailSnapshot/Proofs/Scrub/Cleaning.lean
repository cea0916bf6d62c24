import MailSnapshot.Proofs.Attachment.Clean
import MailSnapshot.Scrub.Message

/-! Clean messages: what the edit of a message leaves of it, and when a second edit finds anything
in what is left. -/

namespace MailSnapshot
open Attachment Json Scrub
variable {c : Cell} {s : String} {items : List Json} {o : ScrubOptions} {m : Message}

namespace Cell

theorem text?_eq_some_iff : c.text? = some s ↔ c = .text s := by
  cases c <;> simp [text?]

theorem items?_eq_some_iff :
    c.items? = some items ↔ ∃ raw, c = .text raw ∧ Json.parse raw = some (.arr items) := by
  unfold items?
  cases c with
  | text raw =>
    cases hparse : Json.parse raw with
    | none => simp [text?, hparse]
    | some v => cases v <;> simp [text?, hparse]
  | null | integer | real | rawText | blob => simp [text?]

theorem readable_of_items? (h : c.items? = some items) : Readable maxDepth (.arr items) := by
  obtain ⟨raw, -, hparse⟩ := items?_eq_some_iff.1 h
  exact readable_of_parse hparse

/-- A cell that can be read as text holds no secret, except perhaps a user and a password in an
address. -/
def Redacted (c : Cell) : Prop :=
  ∀ s, c.text? = some s → Secret.Redacted s.toList

/-- A cell holds a list without credentials in which every string is redacted. -/
def HoldsClean (c : Cell) : Prop :=
  ∃ items, c.items? = some items ∧ NoCredentials (.arr items) ∧ StringsRedacted (.arr items)

theorem redacted_text (h : Secret.Redacted s.toList) : (text s).Redacted := by
  intro t ht
  cases ht
  exact h

end Cell

/-- Leaves everything as it is. -/
def Edit.nothing : Edit := ⟨none, none, none, 0, false, false, false⟩

namespace Message

/-- A text in a place of a message where it is scanned for secrets. -/
def Exposes (m : Message) (text : String) : Prop :=
  m.subject.text? = some text ∨ m.body.text? = some text ∨
    ∃ items, m.attachments.items? = some items ∧ Within (.str text) (.arr items)

/-- Nothing is left in a message of what the options remove, except perhaps users and passwords in
addresses. -/
structure Clean (o : ScrubOptions) (m : Message) : Prop where
  subject : m.subject.Redacted
  body : m.body.Redacted
  attachments : m.attachments.HoldsClean
  placeholder : o.redactBody = true → m.body = .text o.placeholder
  dropped : o.dropAttachments = true → m.attachments.items? = some []

theorem Clean.redacted (h : m.Clean o) (he : m.Exposes s) : Secret.Redacted s.toList := by
  rcases he with he | he | ⟨items, hitems, he⟩
  · exact h.subject s he
  · exact h.body s he
  · obtain ⟨stored, hstored, _, hstrings⟩ := h.attachments
    cases hitems.symm.trans hstored
    exact hstrings s he

end Message

namespace Scrub
variable (ho : o.scrubSecrets = true)
include ho

theorem scanCell_of_text (hc : c.text? = some s) : scanCell o c =
    (if (Secret.scanString s).changed then some (Secret.scanString s).string else none,
      (Secret.scanString s).replacements) := by
  simp only [scanCell, ho, hc]

theorem scanCell_of_not_text (hc : c.text? = none) : scanCell o c = (none, 0) := by
  simp only [scanCell, ho, hc]

theorem scanCell_count_eq_zero_iff :
    (scanCell o c).2 = 0 ↔ ∀ s, c.text? = some s → (Secret.scanString s).replacements = 0 := by
  cases hc : c.text? with
  | none => simp [scanCell_of_not_text ho hc]
  | some s => simp [scanCell_of_text ho hc]

theorem scanCell_eq_nothing (h : (scanCell o c).2 = 0) : scanCell o c = (none, 0) := by
  cases hc : c.text? with
  | none => exact scanCell_of_not_text ho hc
  | some s =>
    have hzero := (scanCell_count_eq_zero_iff ho).1 h s hc
    rw [scanCell_of_text ho hc, Secret.Scan.changed, hzero]
    rfl

theorem redacted_scanCell : (((scanCell o c).1.map Cell.text).getD c).Redacted := by
  intro t ht
  cases hc : c.text? with
  | none =>
    rw [scanCell_of_not_text ho hc] at ht
    cases hc.symm.trans ht
  | some s =>
    rw [scanCell_of_text ho hc, Secret.Scan.changed] at ht
    by_cases hzero : (Secret.scanString s).replacements = 0
    · rw [hzero] at ht
      cases hc.symm.trans ht
      rw [← scanString_eq hzero]
      exact redacted_scanString t
    · rw [decide_eq_true (Nat.pos_of_ne_zero hzero)] at ht
      cases ht
      exact redacted_scanString s

theorem editAttachments_of_items (hitems : c.items? = some items)
    (hdrop : o.dropAttachments = true → items = []) : editAttachments o c =
      { text := if (scrub (.arr items)).value ≠ .arr items then
          some (scrub (.arr items)).value.canonical else none
        secrets := (scrub (.arr items)).replacements
        sanitized := decide ((scrub (.arr items)).value ≠ .arr items) ||
          decide (0 < (scrub (.arr items)).replacements + (scrub (.arr items)).keysRemoved)
        cleared := false } := by
  have hcleared : (o.dropAttachments && !items.isEmpty) = false := by
    cases hd : o.dropAttachments with
    | false => rfl
    | true =>
      rw [hdrop hd]
      rfl
  simp [editAttachments, ScrubOptions.touchesAttachments, ho, hitems, hcleared]

/-- Attachments are either written anew from what the scrubbing of a readable list leaves, or are
left as a list that the scrubbing does not change. -/
theorem editAttachments_cases (c : Cell) :
    (∃ kept, Readable maxDepth (.arr kept) ∧ (o.dropAttachments = true → kept = []) ∧
      (editAttachments o c).text = some (scrub (.arr kept)).value.canonical) ∨
    ∃ items, c.items? = some items ∧ (o.dropAttachments = true → items = []) ∧
      (scrub (.arr items)).value = .arr items ∧ (editAttachments o c).text = none := by
  cases hitems : c.items? with
  | none =>
    refine .inl ⟨[], .arr (by simp), fun _ => rfl, ?_⟩
    simp [editAttachments, ScrubOptions.touchesAttachments, ho, hitems]
  | some items =>
    by_cases hcleared : o.dropAttachments = true ∧ items ≠ []
    · refine .inl ⟨[], .arr (by simp), fun _ => rfl, ?_⟩
      simp [editAttachments, ScrubOptions.touchesAttachments, ho, hitems, hcleared]
    · have hdrop : o.dropAttachments = true → items = [] := fun hd =>
        Classical.not_not.1 fun hne => hcleared ⟨hd, hne⟩
      rw [editAttachments_of_items ho hitems hdrop]
      by_cases hsame : (scrub (.arr items)).value = .arr items
      · exact .inr ⟨items, rfl, hdrop, hsame, by simp [hsame]⟩
      · exact .inl ⟨items, Cell.readable_of_items? hitems, hdrop, by simp [hsame]⟩

/-- Whatever a cell held, once it is edited it holds a clean list. -/
theorem exists_items_edited (c : Cell) :
    ∃ items, (((editAttachments o c).text.map Cell.text).getD c).items? = some items ∧
      NoCredentials (.arr items) ∧ StringsRedacted (.arr items) ∧
      (o.dropAttachments = true → items = []) := by
  rcases editAttachments_cases ho c with
    ⟨kept, hread, hdrop, htext⟩ | ⟨items, hitems, hdrop, hsame, htext⟩
  · -- What is read back is the scrubbed list, sorted, with its numbers as they are printed.
    have hparse := parse_canonical (readable_scrub hread)
    have hkeys := faithful_reread.noCredentials
      (faithful_sorted.noCredentials (noCredentials_scrub (.arr kept)))
    have hstrings := faithful_reread.stringsRedacted
      (faithful_sorted.stringsRedacted (stringsRedacted_scrub (.arr kept)))
    rw [value_scrub_arr] at hparse hkeys hstrings htext
    refine ⟨_, ?_, hkeys, hstrings, ?_⟩
    · rw [htext]
      exact Cell.items?_eq_some_iff.2 ⟨_, rfl, hparse⟩
    · intro hd
      rw [hdrop hd]
      rfl
  · refine ⟨items, ?_, ?_, ?_, hdrop⟩
    · rw [htext]
      exact hitems
    · rw [← hsame]
      exact noCredentials_scrub _
    · rw [← hsame]
      exact stringsRedacted_scrub _

theorem editAttachments_secrets_eq_zero_iff (hitems : c.items? = some items)
    (hkeys : NoCredentials (.arr items)) (hdrop : o.dropAttachments = true → items = []) :
    (editAttachments o c).secrets = 0 ↔
      ∀ s, Within (.str s) (.arr items) → (Secret.scanString s).replacements = 0 := by
  rw [editAttachments_of_items ho hitems hdrop]
  constructor
  · intro h s hs
    exact Nat.le_zero.1 (h ▸ replacements_le_scrub hkeys hs)
  · intro h
    rw [scrub_eq hkeys h]
    rfl

theorem editAttachments_eq_nothing (hitems : c.items? = some items)
    (hkeys : NoCredentials (.arr items)) (hdrop : o.dropAttachments = true → items = [])
    (h : (editAttachments o c).secrets = 0) : editAttachments o c = ⟨none, 0, false, false⟩ := by
  have hzero := (editAttachments_secrets_eq_zero_iff ho hitems hkeys hdrop).1 h
  rw [editAttachments_of_items ho hitems hdrop, scrub_eq hkeys hzero]
  simp [Scrubbed.unchanged]

end Scrub

namespace Message

/-- The message with its own edit filled in. -/
def scrubbed (o : ScrubOptions) (m : Message) : Message := (m.edit o).fill m

theorem secrets_edit : (m.edit o).secrets =
    (scanCell o m.subject).2 + (scanCell o m.body).2 + (editAttachments o m.attachments).secrets :=
  rfl

theorem secrets_edit_eq_zero_iff : (m.edit o).secrets = 0 ↔ (scanCell o m.subject).2 = 0 ∧
    (scanCell o m.body).2 = 0 ∧ (editAttachments o m.attachments).secrets = 0 := by
  rw [secrets_edit, Nat.add_eq_zero_iff, Nat.add_eq_zero_iff, and_assoc]

theorem Clean.exists_items (h : m.Clean o) : ∃ items, m.attachments.items? = some items ∧
    NoCredentials (.arr items) ∧ (o.dropAttachments = true → items = []) := by
  obtain ⟨items, hitems, hkeys, -⟩ := h.attachments
  refine ⟨items, hitems, hkeys, ?_⟩
  intro hd
  exact Option.some.inj (hitems.symm.trans (h.dropped hd))

section
variable (ho : o.scrubSecrets = true)
include ho

/-- What an edit leaves of its message is clean, whatever the message held. -/
theorem clean_scrubbed (hp : o.redactBody = true → Secret.Redacted o.placeholder.toList)
    (m : Message) : (m.scrubbed o).Clean o := by
  have hplaceholder : o.redactBody = true → (m.scrubbed o).body = .text o.placeholder := by
    intro hr
    change ((redactBody o m.body (scanCell o m.body).1).1.map Cell.text).getD m.body = _
    unfold redactBody
    rw [if_pos hr]
    split
    · rename_i hbody
      exact Cell.text?_eq_some_iff.1 hbody
    · rfl
  obtain ⟨items, hitems, hkeys, hstrings, hdrop⟩ := exists_items_edited ho m.attachments
  refine ⟨redacted_scanCell ho, ?_, ⟨items, hitems, hkeys, hstrings⟩, hplaceholder, ?_⟩
  · cases hr : o.redactBody with
    | true =>
      rw [hplaceholder hr]
      exact Cell.redacted_text (hp hr)
    | false =>
      have hbody : (m.scrubbed o).body = ((scanCell o m.body).1.map Cell.text).getD m.body := by
        change ((redactBody o m.body (scanCell o m.body).1).1.map Cell.text).getD m.body = _
        rw [redactBody, hr]
        rfl
      rw [hbody]
      exact redacted_scanCell ho
  · intro hd
    rw [← hdrop hd]
    exact hitems

/-- A second edit counts a secret exactly where an address holds a user and a password. -/
theorem Clean.secrets_eq_zero_iff (h : m.Clean o) : (m.edit o).secrets = 0 ↔
    ∀ s, m.Exposes s → ¬ Secret.urlCredentials.pattern.OccursIn s.toList := by
  obtain ⟨items, hitems, hkeys, hdrop⟩ := h.exists_items
  have hclean : ∀ s, m.Exposes s → ((Secret.scanString s).replacements = 0 ↔
      ¬ Secret.urlCredentials.pattern.OccursIn s.toList) :=
    fun s hs => (h.redacted hs).replacements_eq_zero_iff
  rw [secrets_edit_eq_zero_iff, scanCell_count_eq_zero_iff ho, scanCell_count_eq_zero_iff ho,
    editAttachments_secrets_eq_zero_iff ho hitems hkeys hdrop]
  constructor
  · rintro ⟨hsubject, hbody, hattachments⟩ s hs
    apply (hclean s hs).1
    rcases hs with hs | hs | ⟨stored, hstored, hs⟩
    · exact hsubject s hs
    · exact hbody s hs
    · cases hitems.symm.trans hstored
      exact hattachments s hs
  · intro hnot
    refine ⟨fun s hs => ?_, fun s hs => ?_, fun s hs => ?_⟩
    · exact (hclean s (.inl hs)).2 (hnot s (.inl hs))
    · exact (hclean s (.inr (.inl hs))).2 (hnot s (.inr (.inl hs)))
    · have he : m.Exposes s := .inr (.inr ⟨items, hitems, hs⟩)
      exact (hclean s he).2 (hnot s he)

/-- A second edit that counts no secret does nothing at all. -/
theorem Clean.edit_eq_nothing (h : m.Clean o) (hz : (m.edit o).secrets = 0) :
    m.edit o = .nothing := by
  obtain ⟨items, hitems, hkeys, hdrop⟩ := h.exists_items
  obtain ⟨hsubject, hbody, hattachments⟩ := secrets_edit_eq_zero_iff.1 hz
  have hredact : redactBody o m.body none = (none, false) := by
    unfold redactBody
    split
    · rename_i hr
      rw [if_pos (Cell.text?_eq_some_iff.2 (h.placeholder hr))]
    · rfl
  unfold Message.edit
  rw [scanCell_eq_nothing ho hsubject, scanCell_eq_nothing ho hbody,
    editAttachments_eq_nothing ho hitems hkeys hdrop hattachments]
  simp only [hredact]
  rfl

end
end Message
end MailSnapshot
