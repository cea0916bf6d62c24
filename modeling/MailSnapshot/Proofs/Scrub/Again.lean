import MailSnapshot.Proofs.Scrub.Cleaning
import MailSnapshot.Proofs.Scrub.Rewriting

/-! What a scrub pass leaves: clean messages, and nothing short-lived. A second pass goes through
and finds addresses at most. -/

namespace MailSnapshot.Scrub
open Attachment Secret
variable {s t : Snapshot} {access : Access} {preset : Preset} {summary : ScrubSummary}
  {read : List (Int × Message)} {m : Message} {o : ScrubOptions} {id : Int}

theorem replacements_placeholder : (scan ScrubOptions.redactedBody.toList).replacements = 0 := by
  decide +kernel

theorem redacted_placeholder : Redacted ScrubOptions.redactedBody.toList := by
  have hscan := scan_eq_of_replacements replacements_placeholder
  have h : Redacted (scan ScrubOptions.redactedBody.toList).text := redacted_scan
  rwa [hscan] at h

theorem redacted_placeholder_of_redactBody (hr : preset.options.redactBody = true) :
    Redacted preset.options.placeholder.toList := by
  cases preset with
  | strict => exact redacted_placeholder
  | standard => cases hr
  | archive => cases hr

/-- What an edit adds to the changes that are reported. -/
def changes (r : Edit) : Nat :=
  r.secrets + r.sanitized.toNat + r.redacted.toNat + r.cleared.toNat

theorem secrets_le_changes (r : Edit) : r.secrets ≤ changes r := by
  unfold changes
  omega

theorem contentChanges_addEdit (summary : ScrubSummary) (r : Edit) :
    (summary.addEdit r).contentChanges = summary.contentChanges + changes r := by
  simp only [ScrubSummary.addEdit, ScrubSummary.contentChanges, changes]
  omega

theorem contentChanges_addEdits_eq_zero_iff :
    (addEdits o read summary).contentChanges = 0 ↔
      summary.contentChanges = 0 ∧ ∀ p ∈ read, changes (p.2.edit o) = 0 := by
  induction read generalizing summary with
  | nil => simp [addEdits]
  | cons p ps ih =>
    change (addEdits o ps (summary.addEdit (p.2.edit o))).contentChanges = 0 ↔ _
    rw [ih, contentChanges_addEdit, Nat.add_eq_zero_iff, List.forall_mem_cons, and_assoc]

/-- A message is clean after the edits of all messages, whoever wrote its columns last. -/
theorem clean_rewrite (ho : o.scrubSecrets = true)
    (hplaceholder : o.redactBody = true → Redacted o.placeholder.toList)
    (hm : (id, m) ∈ read) (hid : m.id = .integer id) : (rewrite o read m).Clean o := by
  have hclean : ∀ x : Message, ((x.edit o).fill x).Clean o := Message.clean_scrubbed ho hplaceholder
  obtain ⟨p, -, hp⟩ := exists_column_rewrite Message.subject Edit.subject (fun _ _ => rfl) hm hid
  obtain ⟨q, -, hq⟩ := exists_column_rewrite Message.body Edit.body (fun _ _ => rfl) hm hid
  obtain ⟨r, -, hr⟩ :=
    exists_column_rewrite Message.attachments Edit.attachments (fun _ _ => rfl) hm hid
  refine ⟨?_, ?_, ?_, ?_, ?_⟩
  · rw [hp]
    exact (hclean p.2).subject
  · rw [hq]
    exact (hclean q.2).body
  · rw [hr]
    exact (hclean r.2).attachments
  · rw [hq]
    exact (hclean q.2).placeholder
  · rw [hr]
    exact (hclean r.2).dropped

/-- No text in a message holds an address with a user and a password. -/
def AddressesClean (s : Snapshot) : Prop :=
  ∀ m ∈ s.rows .messages, ∀ text, m.Exposes text → ¬ urlCredentials.pattern.OccursIn text.toList

section Pass
variable (hp : preset ≠ .archive) (h : apply preset access s = .ok summary t)
include hp h

theorem alike_of_apply : t.Alike s := by
  obtain ⟨-, _, -, -, -, rfl⟩ := (apply_eq_ok_iff hp).1 h
  exact Snapshot.alike_mapTable.trans (alike_settle s)

theorem settled_of_apply : t.Settled := by
  obtain ⟨-, _, -, -, -, rfl⟩ := (apply_eq_ok_iff hp).1 h
  have hs := settled_settle s
  refine ⟨?_, ?_, ?_, ?_⟩
  · intro m hm
    rw [Snapshot.rows_mapTable_self] at hm
    obtain ⟨x, hx, rfl⟩ := List.mem_map.1 hm
    rw [ackRequired_rewrite]
    exact hs.acks x hx
  · rw [Snapshot.rows_mapTable_of_ne (by decide)]
    exact hs.reads
  · rw [Snapshot.rows_mapTable_of_ne (by decide)]
    exact hs.reservations
  · rw [Snapshot.rows_mapTable_of_ne (by decide)]
    exact hs.links

theorem exists_rewrite_of_apply (hm : m ∈ t.rows .messages) : ∃ read id x, (id, x) ∈ read ∧
    x.id = .integer id ∧ rewrite preset.options read x = m := by
  obtain ⟨-, read, hread, -, -, rfl⟩ := (apply_eq_ok_iff hp).1 h
  rw [Snapshot.rows_mapTable_self] at hm
  obtain ⟨x, hx, rfl⟩ := List.mem_map.1 hm
  obtain ⟨id, hid⟩ := Snapshot.exists_read hread hx
  exact ⟨read, id, x, hid, (Snapshot.mem_rows_of_read hread hid).2, rfl⟩

theorem clean_of_apply (hm : m ∈ t.rows .messages) : m.Clean preset.options := by
  obtain ⟨read, id, x, hread, hid, rfl⟩ := exists_rewrite_of_apply hp h hm
  exact clean_rewrite (scrubSecrets_of_ne_archive hp) redacted_placeholder_of_redactBody hread hid

theorem id_of_apply (hm : m ∈ t.rows .messages) : ∃ n, m.id = .integer n := by
  obtain ⟨read, id, x, -, hid, rfl⟩ := exists_rewrite_of_apply hp h hm
  exact ⟨id, id_rewrite.trans hid⟩

/-- The edits of a second pass are not refused: either no trigger guards the contents of messages,
or the first pass wrote into none of them, and the second one reads what the first one read. -/
theorem writable_again {reread : List (Int × Message)} (hreread : t.readMessages = .ok reread) :
    ∀ p ∈ reread, Writable t p.1 (p.2.edit preset.options) := by
  obtain ⟨-, read, hread, hwritable, -, ht⟩ := (apply_eq_ok_iff hp).1 h
  intro p hmem
  by_cases hquiet : s.refusal? .update .messages editedColumns = none
  · exact .inr ((alike_of_apply hp h).passes.2 (.inr hquiet))
  · have hempty : ∀ q ∈ read, (q.2.edit preset.options).isEmpty = true := by
      intro q hq
      obtain ⟨hrow, hid⟩ := Snapshot.mem_rows_of_read hread hq
      rcases hwritable q hq with he | hpass
      · exact he
      · rcases (alike_settle s).passes.1 hpass with hzero | hnone
        · have hcount := List.countP_eq_zero.1 hzero q.2 hrow
          rw [hid, Cell.same_integer] at hcount
          exact absurd rfl hcount
        · exact absurd hnone hquiet
    have hsame : t = settle s :=
      ht.trans (Snapshot.mapTable_of_all fun _ _ => rewrite_of_all_isEmpty hempty)
    rw [hsame, hread] at hreread
    cases hreread
    exact .inl (hempty p hmem)

theorem resettable_again : Resettable access t := by
  obtain ⟨hreset, read, -, -, -, ht⟩ := (apply_eq_ok_iff hp).1 h
  apply hreset.again (alike_of_apply hp h) (settled_of_apply hp h)
  · rw [ht, Snapshot.rows_mapTable_self, rows_settle_messages, List.length_map, List.length_map]
  · rw [ht, Snapshot.rows_mapTable_of_ne (by decide), rows_settle_recipients, List.length_map]

/-- A pass that went through once goes through again, and has nothing left to reset. -/
theorem exists_apply_again : ∃ read, t.readMessages = .ok read ∧
    apply preset access t = .ok (addEdits preset.options read (resetSummary preset t))
      (t.mapTable .messages (rewrite preset.options read)) := by
  have hs := settled_of_apply hp h
  have hagain := resettable_again hp h
  obtain ⟨reread, hreread⟩ := Snapshot.exists_readMessages hagain.messages fun _ => id_of_apply hp h
  refine ⟨reread, hreread, (apply_eq_ok_iff hp).2 ?_⟩
  rw [settle_eq_self hs]
  exact ⟨hagain, reread, hreread, writable_again hp h hreread, rfl, rfl⟩

/-- A second pass leaves everything as it is, and reports so, exactly when no address with a user
and a password is left. -/
theorem again_unchanged_iff (hread : t.readMessages = .ok read) :
    (t.mapTable .messages (rewrite preset.options read) = t ∧
      (addEdits preset.options read (resetSummary preset t)).contentChanges = 0) ↔
    AddressesClean t := by
  have ho := scrubSecrets_of_ne_archive hp
  have hs := settled_of_apply hp h
  have hclean : ∀ p ∈ read, p.2.Clean preset.options := fun p hmem =>
    clean_of_apply hp h (Snapshot.mem_rows_of_read hread hmem).1
  have hstart : (resetSummary preset t).contentChanges = 0 := by
    simp [resetSummary, ScrubSummary.contentChanges, hs.reservations, hs.links]
  rw [contentChanges_addEdits_eq_zero_iff]
  constructor
  · rintro ⟨-, -, hzero⟩ m hm
    obtain ⟨id, hid⟩ := Snapshot.exists_read hread hm
    have hsecrets : (m.edit preset.options).secrets = 0 :=
      Nat.le_zero.1 (hzero (id, m) hid ▸ secrets_le_changes _)
    exact ((hclean (id, m) hid).secrets_eq_zero_iff ho).1 hsecrets
  · intro hnone
    have hedit : ∀ p ∈ read, p.2.edit preset.options = .nothing := by
      intro p hmem
      have hrow := (Snapshot.mem_rows_of_read hread hmem).1
      exact (hclean p hmem).edit_eq_nothing ho
        (((hclean p hmem).secrets_eq_zero_iff ho).2 (hnone p.2 hrow))
    refine ⟨?_, hstart, ?_⟩
    · apply Snapshot.mapTable_of_all
      intro m _
      apply rewrite_of_all_isEmpty
      intro p hmem
      rw [hedit p hmem]
      rfl
    · intro p hmem
      rw [hedit p hmem]
      rfl

end Pass

end MailSnapshot.Scrub
