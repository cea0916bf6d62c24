import MailSnapshot.Proofs.Scrub.Cells

/-! What a scrub pass writes. A message is written exactly where the pass makes something else of
its contents, so a trigger on one of their columns stops a pass exactly when the contents of some
message change. -/

namespace MailSnapshot

/-- Refuses the updates of messages that set one column of their contents. -/
def Trigger.WatchesContents (g : Trigger) : Prop :=
  g.event = .update ∧ g.table = .messages ∧
    ∃ c, g.column = some c ∧ Text.lowercaseAscii c ∈ Scrub.editedColumns

/-- The snapshot with a single trigger. -/
def Snapshot.guarded (s : Snapshot) (g : Trigger) : Snapshot := { s with triggers := [g] }

namespace Scrub
variable {s t : Snapshot} {g : Trigger} {access : Access} {preset : Preset}
  {summary : ScrubSummary} {read : List (Int × Message)} {r : Edit} {m : Message} {id : Int}
  {o : ScrubOptions} {text : String}

section Write

theorem writeMessage_of_isEmpty (h : r.isEmpty = true) : writeMessage id r = pure () := by
  rw [writeMessage, h]
  rfl

/-- An edit with new contents objects where there is nothing to write to. -/
theorem writeMessage_eq_pure_iff : writeMessage id r = pure () ↔ r.isEmpty = true := by
  refine ⟨fun h => ?_, writeMessage_of_isEmpty⟩
  by_contra hr
  rw [Bool.not_eq_true] at hr
  have hrun := congrArg (fun p : Pass Unit => p .readOnly Snapshot.bare) h
  rw [writeMessage, hr] at hrun
  cases hrun

/-- A refused edit of a message that is there stops with the words of the trigger. -/
theorem writeMessage_refused (hh : s.has .messages = true)
    (hrefusal : s.refusal? .update .messages editedColumns = some text)
    (hm : m ∈ s.rows .messages) (hid : m.id = .integer id) (hr : r.isEmpty = false) :
    writeMessage id r .readWrite s = .error (.store .editMessage (.refused text)) s := by
  have hreach : ∃ m ∈ s.rows .messages, m.id.same (.integer id) = true := by
    refine ⟨m, hm, ?_⟩
    rw [hid, Cell.same_integer]
  have hupdate := Snapshot.update_refused (f := r.fill) hh hrefusal hreach
  have hwrite : writeMessage id r = discard (Pass.change .editMessage fun access s =>
      s.update access .messages editedColumns (fun m => m.id.same (.integer id)) r.fill) := by
    rw [writeMessage, hr]
    rfl
  rw [hwrite]
  change ((fun _ => ()) <$> _ : Pass Unit) .readWrite s = _
  rw [Pass.map_eq_error_iff]
  exact Pass.change_run_of_error hupdate

/-- The first edit that is not empty is refused, and nothing is written before it. -/
theorem scrubMessages_refused (hh : s.has .messages = true)
    (hrefusal : s.refusal? .update .messages editedColumns = some text)
    (hread : ∀ p ∈ read, p.2 ∈ s.rows .messages ∧ p.2.id = .integer p.1)
    (hwrites : ∃ p ∈ read, (p.2.edit o).isEmpty = false) :
    read.foldlM (scrubMessage o) summary .readWrite s =
      .error (.store .editMessage (.refused text)) s := by
  induction read generalizing summary with
  | nil =>
    obtain ⟨_, hp, _⟩ := hwrites
    cases hp
  | cons p ps ih =>
    rw [List.foldlM_cons]
    cases hp : (p.2.edit o).isEmpty with
    | false =>
      obtain ⟨hrow, hid⟩ := hread p (by simp)
      apply Pass.bind_run_of_error
      exact Pass.bind_run_of_error (writeMessage_refused hh hrefusal hrow hid hp)
    | true =>
      have hstep : scrubMessage o summary p .readWrite s =
          .ok (summary.addEdit (p.2.edit o)) s := by
        rw [scrubMessage, writeMessage_of_isEmpty hp]
        rfl
      rw [Pass.bind_run_of_ok hstep]
      apply ih fun q hq => hread q (by simp [hq])
      obtain ⟨q, hq, hempty⟩ := hwrites
      rcases List.mem_cons.1 hq with rfl | hq
      · rw [hp] at hempty
        cases hempty
      · exact ⟨q, hq, hempty⟩

end Write

section Guarded
variable (hg : g.WatchesContents)
include hg

/-- The trigger wakes for updates of messages that set its column, and for nothing else. -/
theorem exists_refusal?_guarded (s : Snapshot) : ∃ c ∈ editedColumns, ∀ event u columns,
    (s.guarded g).refusal? event u columns =
      if event = .update ∧ u = .messages ∧ c ∈ columns then some g.message else none := by
  obtain ⟨hevent, htable, c, hcolumn, hc⟩ := hg
  refine ⟨_, hc, fun event u columns => ?_⟩
  simp only [Snapshot.refusal?, Snapshot.guarded, List.reverse_singleton, List.find?_singleton,
    hevent, htable, hcolumn, List.contains_eq_mem]
  by_cases hwakes : event = .update ∧ u = .messages ∧ Text.lowercaseAscii c ∈ columns
  · obtain ⟨rfl, rfl, hin⟩ := hwakes
    simp [hin]
  · rw [if_neg hwakes, if_neg]
    · rfl
    · simp only [Bool.and_eq_true, decide_eq_true_eq, and_assoc]
      rintro ⟨rfl, rfl, hin⟩
      exact hwakes ⟨rfl, rfl, hin⟩

theorem passes_guarded {event : Trigger.Event} {u : Table} {columns : List String} {n : Nat}
    (h : event = .delete ∨ u ≠ .messages ∨ ∀ c ∈ editedColumns, c ∉ columns) :
    (s.guarded g).Passes event u columns n := by
  obtain ⟨c, hc, hrefusal⟩ := exists_refusal?_guarded hg s
  right
  rw [hrefusal, if_neg]
  rintro ⟨rfl, rfl, hin⟩
  rcases h with h | h | h
  · cases h
  · exact h rfl
  · exact h c hc hin

theorem refusal?_edit :
    (s.guarded g).refusal? .update .messages editedColumns = some g.message := by
  obtain ⟨c, hc, hrefusal⟩ := exists_refusal?_guarded hg s
  rw [hrefusal, if_pos ⟨rfl, rfl, hc⟩]

/-- The resets set no column of the contents. -/
theorem Resettable.guarded (h : Resettable access s) : Resettable access (s.guarded g) where
  agents := h.agents
  messages := h.messages
  recipients := h.recipients
  writable := h.writable
  acks := passes_guarded hg (.inr (.inr (by decide)))
  reads := passes_guarded hg (.inr (.inl (by decide)))
  reservations hh := ⟨h.writable, (h.reservations hh).2.1, passes_guarded hg (.inl rfl)⟩
  links hh := ⟨h.writable, (h.links hh).2.1, passes_guarded hg (.inl rfl)⟩

end Guarded

theorem settle_guarded : settle (s.guarded g) = (settle s).guarded g := by
  rw [settle_eq_revise, settle_eq_revise]
  rfl

section Pass
variable (hp : preset ≠ .archive) (hg : g.WatchesContents)
  (h : apply preset access s = .ok summary t)
include hp hg h

/-- With nothing to write a pass does not meet the trigger. -/
theorem apply_guarded_of_isEmpty
    (hempty : ∀ m ∈ s.rows .messages, (m.edit preset.options).isEmpty = true) :
    apply preset access (s.guarded g) = .ok summary (t.guarded g) := by
  obtain ⟨hreset, read, hread, -, rfl, rfl⟩ := (apply_eq_ok_iff hp).1 h
  have hall := (forall_read_iff hread fun r => r.isEmpty = true).2 hempty
  refine (apply_eq_ok_iff hp).2 ⟨hreset.guarded hg, read, ?_, fun p hp => .inl (hall p hp), rfl, ?_⟩
  · rw [settle_guarded]
    exact hread
  · rw [settle_guarded]
    rfl

theorem apply_guarded_of_not_isEmpty
    (hwrites : ∃ m ∈ s.rows .messages, (m.edit preset.options).isEmpty = false) :
    apply preset access (s.guarded g) =
      .error (.store .editMessage (.refused g.message)) (s.guarded g) := by
  obtain ⟨hreset, read, hread, -, -, -⟩ := (apply_eq_ok_iff hp).1 h
  obtain rfl := hreset.writable
  have hguarded := hreset.guarded hg
  have hread : ((settle s).guarded g).readMessages = .ok read := hread
  rw [← settle_guarded] at hread
  have hsome : ∃ p ∈ read, (p.2.edit preset.options).isEmpty = false := by
    by_contra hnone
    obtain ⟨m, hm, hempty⟩ := hwrites
    have hall := forall_read_iff (o := preset.options) hread fun r => ¬ r.isEmpty = false
    exact hall.1 (fun p hp hp' => hnone ⟨p, hp, hp'⟩) m hm hempty
  have hreads : preset.options.readsMessages = true := by
    rw [ScrubOptions.readsMessages, scrubSecrets_of_ne_archive hp]
    rfl
  have hmessages : (settle (s.guarded g)).has .messages = true :=
    ((alike_settle _).has .messages).trans hguarded.messages
  have hrefusal : (settle (s.guarded g)).refusal? .update .messages editedColumns =
      some g.message := by
    rw [settle_guarded]
    exact refusal?_edit hg
  apply Pass.atomic_run_of_error (t := settle (s.guarded g))
  rw [Pass.bind_run_of_ok ((reset_eq_ok_iff hp).2 ⟨hguarded, rfl, rfl⟩), scrubMessages,
    if_pos hreads, Pass.bind_run_of_ok (Pass.query_run_of_ok hread)]
  exact scrubMessages_refused hmessages hrefusal
    (fun p hp => Snapshot.mem_rows_of_read hread hp) hsome

end Pass

/-- The trigger stops a pass that goes through without it exactly where there is something to
write. -/
theorem apply_guarded (hg : g.WatchesContents) (h : apply preset access s = .ok summary t) :
    apply preset access (s.guarded g) =
      if ∀ m ∈ s.rows .messages, (m.edit preset.options).isEmpty = true then
        .ok summary (t.guarded g)
      else .error (.store .editMessage (.refused g.message)) (s.guarded g) := by
  by_cases hp : preset = .archive
  · subst hp
    obtain ⟨hagents, rfl, rfl⟩ := apply_archive_eq_ok_iff.1 h
    have hempty : ∀ m ∈ s.rows .messages, (m.edit Preset.archive.options).isEmpty = true :=
      fun _ _ => rfl
    rw [if_pos hempty]
    exact apply_archive_eq_ok_iff.2 ⟨hagents, rfl, rfl⟩
  · split
    · rename_i hempty
      exact apply_guarded_of_isEmpty hp hg h hempty
    · rename_i hempty
      apply apply_guarded_of_not_isEmpty hp hg h
      simpa using hempty

/-- Of two messages one is clean already. There are no tables of reservations and links. -/
def writtenSample : Snapshot :=
  { Snapshot.empty .strict with
    projects := some [⟨.integer 1, .text "demo", .text "/demo"⟩]
    agents := some [⟨.integer 1, .integer 1, .text "x"⟩]
    messages := some [
      ⟨.integer 1, .integer 1, .integer 1, .text "plain", .blob [1], .text "[ ]", .integer 1⟩,
      ⟨.integer 2, .integer 1, .integer 1, .text "set $API_KEY", .rawText [255], .null, .integer 0⟩]
    reservations := none
    links := none }

/-- Refuses the updates that set a body. -/
def bodyGuard : Trigger := ⟨.update, .messages, some "Body_MD", "bodies are sealed"⟩

theorem strict_writtenSample : writtenSample.Strict := by decide

theorem core_writtenSample : writtenSample.Core := by decide

theorem watchesContents_bodyGuard : bodyGuard.WatchesContents :=
  ⟨rfl, rfl, "Body_MD", rfl, by decide⟩

/-- The attachments of the only message are no list. -/
def unlistedSample : Snapshot :=
  { Snapshot.empty .strict with
    projects := some [⟨.integer 1, .text "demo", .text "/repo/demo"⟩]
    agents := some [⟨.integer 1, .integer 1, .text "BlueLake"⟩]
    messages := some [⟨.integer 1, .integer 1, .integer 1, .text "plain", .text "plain",
      .text "not json at all", .integer 0⟩] }

end Scrub
end MailSnapshot
