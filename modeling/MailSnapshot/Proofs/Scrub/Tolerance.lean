import MailSnapshot.Proofs.Scrub.Rewriting
import MailSnapshot.Proofs.Store.Ordering

/-! What a scrub pass tolerates. Whatever the cells of a snapshot hold, the only thing that stops a
pass is the id of a message that is no integer, and the pass names the first such id. -/

namespace MailSnapshot
variable {s t : Snapshot} {ids : List Cell} {c d : Cell}

namespace Cell

/-- An id that is no integer, and before which no other such id comes. -/
def FirstUnnumbered (ids : List Cell) (c : Cell) : Prop :=
  c ∈ ids ∧ c.kind ≠ .integer ∧ ∀ d ∈ ids, d.kind ≠ .integer → d.comesBefore c = false

instance : Decidable (FirstUnnumbered ids c) := by
  unfold FirstUnnumbered
  exact inferInstance

theorem FirstUnnumbered.mono {ids' : List Cell} (h : FirstUnnumbered ids c)
    (hids : ∀ d, d ∈ ids' ↔ d ∈ ids) : FirstUnnumbered ids' c := by
  obtain ⟨hmem, hkind, hfirst⟩ := h
  exact ⟨(hids c).2 hmem, hkind, fun d hd => hfirst d ((hids d).1 hd)⟩

/-- Two first ids may differ, but not in their kind: reals are the only other numbers. -/
theorem FirstUnnumbered.kind_eq (hc : FirstUnnumbered ids c) (hd : FirstUnnumbered ids d) :
    c.kind = d.kind := by
  obtain ⟨hcmem, hckind, hcfirst⟩ := hc
  obtain ⟨hdmem, hdkind, hdfirst⟩ := hd
  have hcd := rank_le_of_not_comesBefore (hdfirst c hcmem hckind)
  have hdc := rank_le_of_not_comesBefore (hcfirst d hdmem hdkind)
  have hrank : rank c.kind = rank d.kind := by omega
  cases hc : c.kind <;> cases hd : d.kind <;> simp_all [rank]

/-- The ids in the order in which they are read show the first one that is no integer. -/
theorem firstUnnumbered_of_ordered {before after : List Cell}
    (h : (before ++ c :: after).Pairwise fun a b => b.comesBefore a = false)
    (hbefore : ∀ d ∈ before, d.kind = .integer) (hc : c.kind ≠ .integer) :
    FirstUnnumbered (before ++ c :: after) c := by
  refine ⟨by simp, hc, ?_⟩
  intro d hd hkind
  rw [List.pairwise_append, List.pairwise_cons] at h
  rcases List.mem_append.1 hd with hd | hd
  · exact absurd (hbefore d hd) hkind
  rcases List.mem_cons.1 hd with rfl | hd
  · exact not_comesBefore_self d
  · exact h.2.1.1 d hd

end Cell

namespace Snapshot

def messageIds (s : Snapshot) : List Cell := (s.rows .messages).map Message.id

/-- The messages cannot be read exactly where one of their ids is no integer. -/
theorem readMessages_eq_error_iff (hh : s.has .messages = true) {fault : Fault} :
    s.readMessages = .error fault ↔
      ∃ c, Cell.FirstUnnumbered s.messageIds c ∧ fault = .columnKind c.kind 0 "id" := by
  have hforward {fault : Fault} (h : s.readMessages = .error fault) :
      ∃ c, Cell.FirstUnnumbered s.messageIds c ∧ fault = .columnKind c.kind 0 "id" := by
    have hmem (c : Cell) :
        c ∈ s.messageIds ↔ c ∈ (orderById Message.id (s.rows .messages)).map Message.id := by
      rw [messageIds, ((orderById_perm _).map Message.id).mem_iff]
    rw [readMessages, need_of_has hh] at h
    obtain ⟨before, m, after, hrows, hbefore, hm⟩ := mapM_eq_error_iff.1 h
    obtain ⟨hkind, rfl⟩ : m.id.kind ≠ .integer ∧ fault = .columnKind m.id.kind 0 "id" := by
      rcases bind_error_iff.1 hm with hread | ⟨n, -, h⟩
      · exact Cell.readInteger_eq_error_iff.1 hread
      · cases h
    refine ⟨m.id, ?_, rfl⟩
    have hordered : ((orderById Message.id (s.rows .messages)).map Message.id).Pairwise
        fun a b => b.comesBefore a = false :=
      List.pairwise_map.2 (pairwise_orderById Message.id _)
    rw [hrows] at hordered hmem
    rw [List.map_append, List.map_cons] at hordered hmem
    refine (Cell.firstUnnumbered_of_ordered hordered ?_ hkind).mono hmem
    intro d hd
    obtain ⟨x, hx, rfl⟩ := List.mem_map.1 hd
    obtain ⟨p, hp⟩ := hbefore x hx
    obtain ⟨n, hn, -⟩ := bind_ok_iff.1 hp
    rw [Cell.readInteger_eq_ok_iff.1 hn]
    rfl
  refine ⟨hforward, ?_⟩
  rintro ⟨c, hc, rfl⟩
  cases hread : s.readMessages with
  | ok read =>
    -- Then every id is an integer, that of `c` too.
    obtain ⟨m, hm, rfl⟩ := List.mem_map.1 hc.1
    obtain ⟨id, hid⟩ := exists_read hread hm
    have hinteger := (mem_rows_of_read hread hid).2
    exact absurd (by rw [hinteger]; rfl) hc.2.1
  | error fault =>
    obtain ⟨d, hd, rfl⟩ := hforward hread
    rw [hc.kind_eq hd]

end Snapshot

namespace Scrub
variable {preset : Preset} {summary : ScrubSummary} {e : Failure}

theorem messageIds_settle (s : Snapshot) : (settle s).messageIds = s.messageIds := by
  rw [Snapshot.messageIds, rows_settle_messages, List.map_map]
  rfl

theorem has_messages_settle (hc : s.Core) : (settle s).has .messages = true :=
  ((alike_settle s).has .messages).trans (hc _ (by decide) (by decide) (by decide))

section Quiet
variable (hc : s.Core) (hquiet : s.triggers = [])
include hc hquiet

/-- A pass that can read the messages goes through. -/
theorem exists_apply_of_read (hp : preset ≠ .archive) {read : List (Int × Message)}
    (hread : (settle s).readMessages = .ok read) :
    ∃ summary t, apply preset .readWrite s = .ok summary t := by
  have hq : (settle s).triggers = [] := (alike_settle s).triggers.trans hquiet
  exact ⟨_, _, (apply_eq_ok_iff hp).2
    ⟨resettable_of_core hc hquiet, read, hread, fun _ _ => writable_of_quiet hq, rfl, rfl⟩⟩

/-- A pass that cannot read the messages gives back the snapshot that it was given. -/
theorem apply_of_unreadable (hp : preset ≠ .archive) {fault : Fault}
    (hread : (settle s).readMessages = .error fault) :
    apply preset .readWrite s = .error (.store .readMessages fault) s := by
  have hreads : preset.options.readsMessages = true := by
    rw [ScrubOptions.readsMessages, scrubSecrets_of_ne_archive hp]
    rfl
  apply Pass.atomic_run_of_error (t := settle s)
  rw [Pass.bind_run_of_ok ((reset_eq_ok_iff hp).2 ⟨resettable_of_core hc hquiet, rfl, rfl⟩),
    scrubMessages, if_pos hreads]
  exact Pass.bind_run_of_error (Pass.query_run_of_error hread)

theorem apply_eq_error_iff (hp : preset ≠ .archive) :
    apply preset .readWrite s = .error e t ↔ ∃ c, Cell.FirstUnnumbered s.messageIds c ∧
      e = .store .readMessages (.columnKind c.kind 0 "id") ∧ t = s := by
  have hunreadable {fault : Fault} : (settle s).readMessages = .error fault ↔
      ∃ c, Cell.FirstUnnumbered s.messageIds c ∧ fault = .columnKind c.kind 0 "id" := by
    rw [Snapshot.readMessages_eq_error_iff (has_messages_settle hc), messageIds_settle]
  constructor
  · intro h
    cases hread : (settle s).readMessages with
    | ok read =>
      obtain ⟨_, _, hrun⟩ := exists_apply_of_read hc hquiet hp hread
      rw [hrun] at h
      cases h
    | error fault =>
      rw [apply_of_unreadable hc hquiet hp hread] at h
      cases h
      obtain ⟨c, hfirst, rfl⟩ := hunreadable.1 hread
      exact ⟨c, hfirst, rfl, rfl⟩
  · rintro ⟨c, hfirst, rfl, rfl⟩
    exact apply_of_unreadable hc hquiet hp (hunreadable.2 ⟨c, hfirst, rfl⟩)

theorem exists_apply_iff (hp : preset ≠ .archive) :
    (∃ summary t, apply preset .readWrite s = .ok summary t) ↔
      ∀ m ∈ s.rows .messages, ∃ n, m.id = .integer n := by
  constructor
  · rintro ⟨summary, t, h⟩ m hm
    obtain ⟨-, read, hread, -⟩ := (apply_eq_ok_iff hp).1 h
    have hrow : clearAck m ∈ (settle s).rows .messages := by
      rw [rows_settle_messages]
      exact List.mem_map_of_mem hm
    obtain ⟨id, hid⟩ := Snapshot.exists_read hread hrow
    exact ⟨id, (Snapshot.mem_rows_of_read hread hid).2⟩
  · intro h
    obtain ⟨read, hread⟩ : ∃ read, (settle s).readMessages = .ok read := by
      apply Snapshot.exists_readMessages (has_messages_settle hc)
      intro m hm
      rw [rows_settle_messages] at hm
      obtain ⟨m', hm', rfl⟩ := List.mem_map.1 hm
      exact h m' hm'
    exact exists_apply_of_read hc hquiet hp hread

end Quiet

/-- A loose store without reservations and links. No cell of its first message is of the kind that
its column is meant for. -/
def unnumberedSample : Snapshot :=
  { Snapshot.empty .loose with
    agents := some [⟨.null, .text "x", .blob []⟩]
    messages := some [
      ⟨.blob [1], .null, .text "x", .null, .rawText [255], .blob [0], .text "yes"⟩,
      ⟨.text "7", .integer 1, .integer 1, .integer 5, .null, .text "[[", .null⟩,
      ⟨.real ⟨false, 3, -1⟩, .integer 1, .integer 1, .text "s", .text "b", .null, .null⟩,
      ⟨.integer 2, .integer 1, .integer 1, .text "s", .text "b", .text "[]", .integer 1⟩]
    reservations := none
    links := none }

theorem core_unnumberedSample : unnumberedSample.Core := by decide

end Scrub
end MailSnapshot
