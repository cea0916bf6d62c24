import MailSnapshot.Proofs.Scrub.Reset
import MailSnapshot.Proofs.Store.Sameness

/-! Rewriting the messages: the edits of all messages that were read, one after the other. An edit
goes to every message with the id, so a message may be written by the edit of another one. -/

namespace MailSnapshot
variable {s t : Snapshot} {access : Access} {read : List (Int × Message)} {r : Edit} {m : Message}
  {id : Int} {o : ScrubOptions} {summary summary' : ScrubSummary}

theorem mapM_readInteger_eq_ok_iff {messages : List Message} :
    (messages.mapM fun m => do
      return (← m.id.readInteger 0 "id", m) : Except Fault (List (Int × Message))) = .ok read ↔
    read.map Prod.snd = messages ∧ ∀ p ∈ read, p.2.id = .integer p.1 := by
  induction messages generalizing read with
  | nil =>
    rw [List.mapM_nil, List.map_eq_nil_iff]
    constructor
    · rintro ⟨⟩
      exact ⟨rfl, by simp⟩
    · rintro ⟨rfl, -⟩
      rfl
  | cons m messages ih =>
    rw [List.mapM_cons]
    simp only [bind_ok_iff, Cell.readInteger_eq_ok_iff, ih]
    constructor
    · rintro ⟨p, ⟨n, hn, hp⟩, ps, ⟨hps, hids⟩, h⟩
      cases h
      cases hp
      refine ⟨by rw [List.map_cons, hps], ?_⟩
      intro q hq
      rcases List.mem_cons.1 hq with rfl | hq
      · exact hn
      · exact hids q hq
    · rintro ⟨hmap, hids⟩
      obtain ⟨p, ps, rfl, rfl, hps⟩ := List.map_eq_cons_iff.1 hmap
      exact ⟨p, ⟨p.1, hids p (by simp), rfl⟩, ps, ⟨hps, fun q hq => hids q (by simp [hq])⟩, rfl⟩

namespace Snapshot

/-- The messages are read in the order of their ids, which must all be integers. -/
theorem readMessages_eq_ok_iff : s.readMessages = .ok read ↔
    s.has .messages ∧ read.map Prod.snd = orderById Message.id (s.rows .messages) ∧
      ∀ p ∈ read, p.2.id = .integer p.1 := by
  unfold readMessages
  rw [bind_ok_iff]
  constructor
  · rintro ⟨_, hneed, hread⟩
    obtain ⟨hh, rfl⟩ := need_eq_ok_iff.1 hneed
    exact ⟨hh, mapM_readInteger_eq_ok_iff.1 hread⟩
  · rintro ⟨hh, hread⟩
    exact ⟨_, need_of_has hh, mapM_readInteger_eq_ok_iff.2 hread⟩

theorem mem_rows_of_read (h : s.readMessages = .ok read) {p : Int × Message} (hp : p ∈ read) :
    p.2 ∈ s.rows .messages ∧ p.2.id = .integer p.1 := by
  obtain ⟨-, hrows, hids⟩ := readMessages_eq_ok_iff.1 h
  have hmem : p.2 ∈ orderById Message.id (s.rows .messages) := by
    rw [← hrows]
    exact List.mem_map_of_mem hp
  exact ⟨(orderById_perm _).mem_iff.1 hmem, hids p hp⟩

theorem exists_read (h : s.readMessages = .ok read) (hm : m ∈ s.rows .messages) :
    ∃ id, (id, m) ∈ read := by
  obtain ⟨-, hrows, -⟩ := readMessages_eq_ok_iff.1 h
  have hmem : m ∈ orderById Message.id (s.rows .messages) := (orderById_perm _).mem_iff.2 hm
  rw [← hrows] at hmem
  obtain ⟨⟨id, _⟩, hp, rfl⟩ := List.mem_map.1 hmem
  exact ⟨id, hp⟩

theorem exists_readMessages (hh : s.has .messages = true)
    (hids : ∀ m ∈ s.rows .messages, ∃ n, m.id = .integer n) :
    ∃ read, s.readMessages = .ok read := by
  rw [readMessages, need_of_has hh]
  apply exists_mapM
  intro m hm
  obtain ⟨n, hn⟩ := hids m ((orderById_perm _).mem_iff.1 hm)
  exact ⟨(n, m), by rw [hn]; rfl⟩

end Snapshot

namespace Edit

theorem fill_of_isEmpty (h : r.isEmpty = true) : r.fill m = m := by
  simp only [isEmpty, Bool.and_eq_true, Option.isNone_iff_eq_none] at h
  obtain ⟨⟨hs, hb⟩, ha⟩ := h
  rw [fill, hs, hb, ha]
  rfl

end Edit

namespace Scrub

/-- An edit changes the messages with the id, and no other. -/
def place (id : Int) (r : Edit) (m : Message) : Message :=
  if m.id.same (.integer id) then r.fill m else m

/-- What the edits of all messages that were read make of one message. -/
def rewrite (o : ScrubOptions) (read : List (Int × Message)) (m : Message) : Message :=
  read.foldl (fun m p => place p.1 (p.2.edit o) m) m

/-- Adds what was done to all messages that were read. -/
def addEdits (o : ScrubOptions) (read : List (Int × Message)) (summary : ScrubSummary) :
    ScrubSummary :=
  read.foldl (fun summary p => summary.addEdit (p.2.edit o)) summary

@[simp] theorem id_place : (place id r m).id = m.id := by
  unfold place
  split <;> rfl

@[simp] theorem ackRequired_place : (place id r m).ackRequired = m.ackRequired := by
  unfold place
  split <;> rfl

theorem place_of_isEmpty (h : r.isEmpty = true) : place id r m = m := by
  rw [place, Edit.fill_of_isEmpty h, ite_self]

@[simp] theorem id_rewrite : (rewrite o read m).id = m.id := by
  induction read generalizing m with
  | nil => rfl
  | cons p ps ih => exact ih.trans id_place

@[simp] theorem ackRequired_rewrite : (rewrite o read m).ackRequired = m.ackRequired := by
  induction read generalizing m with
  | nil => rfl
  | cons p ps ih => exact ih.trans ackRequired_place

theorem rewrite_of_all_isEmpty (h : ∀ p ∈ read, (p.2.edit o).isEmpty = true) :
    rewrite o read m = m := by
  induction read generalizing m with
  | nil => rfl
  | cons p ps ih =>
    change rewrite o ps (place p.1 (p.2.edit o) m) = m
    rw [place_of_isEmpty (h p (by simp))]
    exact ih fun q hq => h q (by simp [hq])

/-- No trigger stops an edit. -/
def Writable (s : Snapshot) (id : Int) (r : Edit) : Prop :=
  r.isEmpty = true ∨ s.Passes .update .messages editedColumns
    ((s.rows .messages).countP fun m => m.id.same (.integer id))

theorem writable_mapTable {f : Message → Message} (hf : ∀ m, (f m).id = m.id) :
    Writable (s.mapTable .messages f) id r ↔ Writable s id r := by
  have hcount : ((s.mapTable .messages f).rows .messages).countP
      (fun m => m.id.same (.integer id)) =
        (s.rows .messages).countP fun m => m.id.same (.integer id) := by
    rw [Snapshot.rows_mapTable_self, List.countP_map]
    congr 1
    funext m
    rw [Function.comp_apply, hf]
  unfold Writable
  rw [Snapshot.alike_mapTable.passes, hcount]

theorem writable_of_quiet (hg : s.triggers = []) : Writable s id r := by
  right
  right
  simp [Snapshot.refusal?, hg]

theorem writeMessage_eq_ok_iff {done : Unit} (hh : s.has .messages = true) :
    writeMessage id r .readWrite s = .ok done t ↔
      Writable s id r ∧ t = s.mapTable .messages (place id r) := by
  unfold writeMessage Writable
  cases hr : r.isEmpty with
  | true =>
    have hsame : s.mapTable .messages (place id r) = s :=
      Snapshot.mapTable_of_all fun m _ => place_of_isEmpty hr
    rw [hsame]
    simp [eq_comm]
  | false =>
    simp only [Bool.false_eq_true, false_or, if_false]
    rw [Pass.discard_eq_ok_iff]
    constructor
    · rintro ⟨n, hn⟩
      obtain ⟨-, -, hpass, -, rfl⟩ := Snapshot.update_eq_ok_iff.1 (Pass.change_eq_ok_iff.1 hn)
      exact ⟨hpass, rfl⟩
    · rintro ⟨hpass, rfl⟩
      exact ⟨_, Pass.change_eq_ok_iff.2 (Snapshot.update_eq_ok_iff.2 ⟨hh, rfl, hpass, rfl, rfl⟩)⟩

theorem scrubMessage_eq_ok_iff {p : Int × Message} (hh : s.has .messages = true) :
    scrubMessage o summary p .readWrite s = .ok summary' t ↔ Writable s p.1 (p.2.edit o) ∧
      summary' = summary.addEdit (p.2.edit o) ∧
      t = s.mapTable .messages (place p.1 (p.2.edit o)) := by
  unfold scrubMessage
  rw [Pass.bind_eq_ok_iff]
  constructor
  · rintro ⟨_, _, hwrite, h⟩
    obtain ⟨hw, rfl⟩ := (writeMessage_eq_ok_iff hh).1 hwrite
    cases h
    exact ⟨hw, rfl, rfl⟩
  · rintro ⟨hw, rfl, rfl⟩
    exact ⟨(), _, (writeMessage_eq_ok_iff hh).2 ⟨hw, rfl⟩, rfl⟩

/-- The edits go through exactly where no trigger stops one that is not empty, and they rewrite
every message. -/
theorem scrubMessages_eq_ok_iff (hh : s.has .messages = true) :
    read.foldlM (scrubMessage o) summary .readWrite s = .ok summary' t ↔
      (∀ p ∈ read, Writable s p.1 (p.2.edit o)) ∧
      summary' = addEdits o read summary ∧
      t = s.mapTable .messages (rewrite o read) := by
  induction read generalizing summary s with
  | nil =>
    have hsame : s.mapTable .messages (rewrite o []) = s := Snapshot.mapTable_of_all fun _ _ => rfl
    rw [hsame, List.foldlM_nil, Pass.pure_run]
    simp [addEdits, eq_comm]
  | cons p ps ih =>
    have hh' : (s.mapTable .messages (place p.1 (p.2.edit o))).has .messages = true := by
      rw [Snapshot.has_mapTable, hh]
    have hall : (∀ q ∈ ps, Writable (s.mapTable .messages (place p.1 (p.2.edit o))) q.1
        (q.2.edit o)) ↔ ∀ q ∈ ps, Writable s q.1 (q.2.edit o) := by
      simp only [writable_mapTable fun _ => id_place]
    have hsplit :
        (s.mapTable .messages (place p.1 (p.2.edit o))).mapTable .messages (rewrite o ps) =
          s.mapTable .messages (rewrite o (p :: ps)) := Snapshot.mapTable_mapTable
    rw [List.foldlM_cons, List.forall_mem_cons, Pass.bind_eq_ok_iff, ← hsplit]
    simp only [scrubMessage_eq_ok_iff hh]
    constructor
    · rintro ⟨_, _, ⟨hp, rfl, rfl⟩, hrest⟩
      obtain ⟨hps, rfl, rfl⟩ := (ih hh').1 hrest
      exact ⟨⟨hp, hall.1 hps⟩, rfl, rfl⟩
    · rintro ⟨⟨hp, hps⟩, rfl, rfl⟩
      exact ⟨_, _, ⟨hp, rfl, rfl⟩, (ih hh').2 ⟨hall.2 hps, rfl, rfl⟩⟩

/-- A scrub pass resets what is short-lived and then rewrites the messages as they were read after
that. -/
theorem apply_eq_ok_iff {preset : Preset} (hp : preset ≠ .archive) :
    apply preset access s = .ok summary t ↔ Resettable access s ∧
      ∃ read, (settle s).readMessages = .ok read ∧
        (∀ p ∈ read, Writable (settle s) p.1 (p.2.edit preset.options)) ∧
        summary = addEdits preset.options read (resetSummary preset s) ∧
        t = (settle s).mapTable .messages (rewrite preset.options read) := by
  have hreads : preset.options.readsMessages = true := by
    rw [ScrubOptions.readsMessages, scrubSecrets_of_ne_archive hp]
    rfl
  unfold apply
  rw [Pass.atomic_eq_ok_iff, Pass.bind_eq_ok_iff]
  simp only [reset_eq_ok_iff hp]
  unfold scrubMessages
  simp only [hreads, if_true]
  constructor
  · rintro ⟨_, _, ⟨hreset, rfl, rfl⟩, h⟩
    obtain ⟨read, _, hquery, h⟩ := Pass.bind_eq_ok_iff.1 h
    obtain ⟨hread, rfl⟩ := Pass.query_eq_ok_iff.1 hquery
    obtain rfl := hreset.writable
    have hh := ((alike_settle s).has .messages).trans hreset.messages
    exact ⟨hreset, read, hread, (scrubMessages_eq_ok_iff hh).1 h⟩
  · rintro ⟨hreset, read, hread, h⟩
    obtain rfl := hreset.writable
    have hh := ((alike_settle s).has .messages).trans hreset.messages
    refine ⟨_, _, ⟨hreset, rfl, rfl⟩, ?_⟩
    rw [Pass.bind_run_of_ok (Pass.query_run_of_ok hread)]
    exact (scrubMessages_eq_ok_iff hh).2 h

/-- The archive preset only counts the agents. -/
theorem apply_archive_eq_ok_iff : apply .archive access s = .ok summary t ↔
    s.has .agents = true ∧ summary = ⟨.archive, (s.rows .agents).length, 0, 0, 0, 0, 0, 0, 0, 0⟩ ∧
      s = t := by
  have hreset : reset .archive = do
      let agents ← Pass.count .agents
      return ⟨.archive, agents, 0, 0, 0, 0, 0, 0, 0, 0⟩ := rfl
  have hscrub : ∀ start, scrubMessages Preset.archive.options start = pure start := fun _ => rfl
  unfold apply
  rw [Pass.atomic_eq_ok_iff, hreset]
  simp only [hscrub, Pass.bind_eq_ok_iff, Pass.count_eq_ok_iff]
  constructor
  · rintro ⟨_, _, ⟨_, _, ⟨ha, rfl, rfl⟩, h⟩, h'⟩
    cases h
    cases h'
    exact ⟨ha, rfl, rfl⟩
  · rintro ⟨ha, rfl, rfl⟩
    exact ⟨_, _, ⟨_, _, ⟨ha, rfl, rfl⟩, rfl⟩, rfl⟩

section Column
variable (column : Message → Cell) (new : Edit → Option String)
  (hfill : ∀ r m, column (r.fill m) = ((new r).map Cell.text).getD (column m))
include hfill

/-- The last new content wins. Without any the column stays. -/
theorem column_rewrite_cases (o : ScrubOptions) (read : List (Int × Message)) (m : Message) :
    (column (rewrite o read m) = column m ∧
      ∀ p ∈ read, m.id.same (.integer p.1) = true → new (p.2.edit o) = none) ∨
    ∃ p ∈ read, ∃ text, new (p.2.edit o) = some text ∧ column (rewrite o read m) = .text text := by
  induction read generalizing m with
  | nil => exact .inl ⟨rfl, by simp⟩
  | cons p ps ih =>
    change (column (rewrite o ps (place p.1 (p.2.edit o) m)) = _ ∧ _) ∨
      ∃ q ∈ p :: ps, ∃ text, _ ∧ column (rewrite o ps (place p.1 (p.2.edit o) m)) = _
    rcases ih (place p.1 (p.2.edit o) m) with ⟨hkept, hnone⟩ | ⟨q, hq, text, hnew, htext⟩
    · rw [id_place] at hnone
      by_cases hsame : m.id.same (.integer p.1) = true
      · rw [place, if_pos hsame, hfill] at hkept
        cases hnew : new (p.2.edit o) with
        | none =>
          rw [hnew] at hkept
          rw [place, if_pos hsame]
          exact .inl ⟨hkept, List.forall_mem_cons.2 ⟨fun _ => hnew, hnone⟩⟩
        | some text =>
          rw [hnew] at hkept
          rw [place, if_pos hsame]
          exact .inr ⟨p, by simp, text, hnew, hkept⟩
      · rw [place, if_neg hsame] at hkept ⊢
        exact .inl ⟨hkept, List.forall_mem_cons.2 ⟨fun h => absurd h hsame, hnone⟩⟩
    · exact .inr ⟨q, by simp [hq], text, hnew, htext⟩

/-- Each column of a rewritten message is this column of some message after its own edit. -/
theorem exists_column_rewrite (hm : (id, m) ∈ read) (hid : m.id = .integer id) :
    ∃ p ∈ read, column (rewrite o read m) = column ((p.2.edit o).fill p.2) := by
  rcases column_rewrite_cases column new hfill o read m with
    ⟨hkept, hnone⟩ | ⟨p, hp, text, hnew, htext⟩
  · have hown := hnone (id, m) hm (by rw [hid, Cell.same_integer])
    refine ⟨(id, m), hm, ?_⟩
    rw [hkept, hfill, hown]
    rfl
  · refine ⟨p, hp, ?_⟩
    rw [htext, hfill, hnew]
    rfl

end Column

end Scrub
end MailSnapshot
