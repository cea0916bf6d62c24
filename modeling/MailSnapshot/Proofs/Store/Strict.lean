import MailSnapshot.Proofs.Store.Restriction
import MailSnapshot.Proofs.Store.Run
import MailSnapshot.Proofs.Store.Sameness

/-! Strict stores: what their columns promise of every row, the references that name nothing, and
how many rows there are. -/

namespace MailSnapshot

theorem Table.mem_all (t : Table) : t ∈ all := by
  cases t <;> decide

theorem Cell.kind_eq_integer_iff {c : Cell} : c.kind = .integer ↔ ∃ n, c = .integer n := by
  cases c <;> simp [kind]

namespace Snapshot
variable {s : Snapshot} {t : Table} {c : Cell}

/-- The promises of a strict store. Ids are integers, each once and in order, and no reference is
null. A reference may still name nothing. -/
structure Strict (s : Snapshot) : Prop where
  schema : s.schema = .strict
  id_integer : ∀ t, ∀ r ∈ s.rows t, ∀ c, t.id? r = some c → ∃ n, c = .integer n
  ids_increasing : ∀ t, (s.rows t).Pairwise fun r r' =>
    ∀ c d, t.id? r = some c → t.id? r' = some d → c.comesBefore d = true
  reference_ne_null : ∀ t, ∀ r ∈ s.rows t, ∀ ref ∈ t.references r, ref.2 ≠ .null

/-- Every table is there that may not be missing. -/
def Complete (s : Snapshot) : Prop :=
  ∀ t, t ≠ .links → t ≠ .suggestions → s.has t = true

/-- Every table is there to which another one refers, and the recipients are there. -/
def Core (s : Snapshot) : Prop :=
  ∀ t, t ≠ .reservations → t ≠ .links → t ≠ .suggestions → s.has t = true

/-- Every reference names something. -/
def Intact (s : Snapshot) : Prop :=
  ∀ u, ∀ r ∈ s.rows u, ∀ ref ∈ u.references r, s.dangles ref = false

instance : Decidable s.Strict :=
  decidable_of_iff
    (s.schema = .strict ∧
      (∀ t ∈ Table.all, ∀ r ∈ s.rows t, ∀ c ∈ t.id? r, c.kind = .integer) ∧
      (∀ t ∈ Table.all, (s.rows t).Pairwise fun r r' =>
        ∀ c ∈ t.id? r, ∀ d ∈ t.id? r', c.comesBefore d = true) ∧
      ∀ t ∈ Table.all, ∀ r ∈ s.rows t, ∀ ref ∈ t.references r, ref.2 ≠ .null) <| by
    constructor
    · rintro ⟨hschema, hids, hincreasing, hreferences⟩
      refine ⟨hschema, fun t r hr c hc => ?_, fun t => ?_, fun t => hreferences t t.mem_all⟩
      · exact Cell.kind_eq_integer_iff.1 (hids t t.mem_all r hr c hc)
      · exact (hincreasing t t.mem_all).imp fun h c d hc hd => h c hc d hd
    · rintro ⟨hschema, hids, hincreasing, hreferences⟩
      refine ⟨hschema, fun t _ r hr c hc => ?_, fun t _ => ?_, fun t _ => hreferences t⟩
      · exact Cell.kind_eq_integer_iff.2 (hids t r hr c hc)
      · exact (hincreasing t).imp fun h c hc d hd => h c d hc hd

instance : Decidable s.Complete :=
  decidable_of_iff (∀ t ∈ Table.all, t ≠ .links → t ≠ .suggestions → s.has t = true)
    ⟨fun h t => h t t.mem_all, fun h t _ => h t⟩

instance : Decidable s.Core :=
  decidable_of_iff
    (∀ t ∈ Table.all, t ≠ .reservations → t ≠ .links → t ≠ .suggestions → s.has t = true)
    ⟨fun h t => h t t.mem_all, fun h t _ => h t⟩

instance : Decidable s.Intact :=
  decidable_of_iff
    (∀ t ∈ Table.all, ∀ r ∈ s.rows t, ∀ ref ∈ t.references r, s.dangles ref = false)
    ⟨fun h t => h t t.mem_all, fun h t _ => h t⟩

theorem Complete.core (h : s.Complete) : s.Core := fun t _ => h t

theorem Core.has_parent (h : s.Core) {u : Table} (hu : u ∈ t.parents) : s.has u = true := by
  apply h <;> rintro rfl <;> cases t <;> simp [Table.parents] at hu

theorem Complete.has_parent (h : s.Complete) {u : Table} (hu : u ∈ t.parents) : s.has u = true :=
  h.core.has_parent hu

theorem Strict.id_ne_null (hs : s.Strict) {r : t.Row} (hr : r ∈ s.rows t)
    (hc : t.id? r = some c) : c ≠ .null := by
  obtain ⟨n, rfl⟩ := hs.id_integer t r hr c hc
  simp

theorem not_same_of_comesBefore {n m : Int}
    (h : (Cell.integer n).comesBefore (.integer m) = true) :
    (Cell.integer n).same (.integer m) = false := by
  have hlt : n < m := by simpa [Cell.comesBefore, Cell.kind, Cell.rank, Cell.number?] using h
  rw [← Bool.not_eq_true, Cell.same_integer]
  omega

theorem Strict.not_same_of_comesBefore (hs : s.Strict) {r r' : t.Row} {d : Cell}
    (hr : r ∈ s.rows t) (hr' : r' ∈ s.rows t) (hc : t.id? r = some c) (hd : t.id? r' = some d)
    (h : c.comesBefore d = true) : c.same d = false := by
  obtain ⟨n, rfl⟩ := hs.id_integer t r hr c hc
  obtain ⟨m, rfl⟩ := hs.id_integer t r' hr' d hd
  exact Snapshot.not_same_of_comesBefore h

/-- Two rows with the same id are one row. -/
theorem Strict.eq_of_same (hs : s.Strict) {r r' : t.Row} {d : Cell} (hr : r ∈ s.rows t)
    (hr' : r' ∈ s.rows t) (hc : t.id? r = some c) (hd : t.id? r' = some d)
    (h : c.same d = true) : r = r' := by
  let agree : t.Row → t.Row → Prop := fun x y =>
    ∀ c d, t.id? x = some c → t.id? y = some d → c.same d = true → x = y
  have hforward : (s.rows t).Pairwise agree := by
    refine (hs.ids_increasing t).imp_of_mem ?_
    intro x y hx hy hxy c d hc hd hsame
    rw [hs.not_same_of_comesBefore hx hy hc hd (hxy c d hc hd)] at hsame
    cases hsame
  have hbackward : (s.rows t).Pairwise (flip agree) := by
    refine (hs.ids_increasing t).imp_of_mem ?_
    intro x y hx hy hxy c d hc hd hsame
    rw [Cell.same_comm, hs.not_same_of_comesBefore hx hy hd hc (hxy d c hd hc)] at hsame
    cases hsame
  have hall := List.Pairwise.forall_of_forall_of_flip (fun _ _ _ _ _ _ _ => rfl) hforward hbackward
  exact hall hr hr' c d hc hd h

theorem dangles_eq_false_iff {ref : Table × Cell} :
    s.dangles ref = false ↔
      ∃ r ∈ s.rows ref.1, ∃ c, ref.1.id? r = some c ∧ ref.2.same c = true := by
  simp [dangles, Option.any_eq_true]

theorem dangles_eq_true_iff {ref : Table × Cell} :
    s.dangles ref = true ↔
      ∀ r ∈ s.rows ref.1, ∀ c, ref.1.id? r = some c → ref.2.same c = false := by
  rw [← Bool.not_eq_false, dangles_eq_false_iff]
  simp

/-- The tally stays at nothing when no cell names one of the rows that go. -/
theorem tally_eq_zero {gone : List t.Row}
    (h : ∀ r ∈ gone, ∀ id, t.id? r = some id → ∀ c ∈ s.namings t, id.same c = false) :
    s.tally t gone = 0 := by
  have hstep : ∀ r ∈ gone, s.tallyAfter t (s.namings t) 0 r = 0 := by
    intro r hr
    unfold tallyAfter
    cases hid : t.id? r with
    | none => simp
    | some id =>
      have hc : (s.namings t).countP id.same = 0 := by
        rw [List.countP_eq_zero]
        intro c hc
        rw [h r hr id hid c hc]
        decide
      simp [hc]
  unfold tally
  clear h
  induction gone with
  | nil => rfl
  | cons r rs ih =>
    rw [List.foldl_cons, hstep r (by simp)]
    exact ih fun x hx => hstep x (by simp [hx])

theorem mem_namings_iff :
    c ∈ s.namings t ↔ ∃ u, ∃ r ∈ s.rows u, (t, c) ∈ u.references r := by
  constructor
  · intro h
    obtain ⟨u, _, h⟩ := List.mem_flatMap.1 h
    obtain ⟨r, hr, h⟩ := List.mem_flatMap.1 h
    obtain ⟨⟨v, d⟩, hd, h⟩ := List.mem_filterMap.1 h
    simp only at h
    split at h
    · rename_i hv
      cases h
      subst hv
      exact ⟨u, r, hr, hd⟩
    · cases h
  · rintro ⟨u, r, hr, hc⟩
    refine List.mem_flatMap.2 ⟨u, u.mem_all, List.mem_flatMap.2 ⟨r, hr, ?_⟩⟩
    exact List.mem_filterMap.2 ⟨(t, c), hc, by simp⟩

theorem namings_eq_nil (h : ∀ u : Table, t ∉ u.parents) : s.namings t = [] := by
  apply List.eq_nil_iff_forall_not_mem.2
  intro c hc
  obtain ⟨u, r, _, href⟩ := mem_namings_iff.1 hc
  apply h u
  rw [← Table.map_fst_references u r]
  exact List.mem_map_of_mem href

/-- Where only recipients matter, the cells that name agents are those of the recipients. -/
theorem countP_namings_agents {p : Cell → Bool}
    (h : ∀ u, u ≠ .recipients → ∀ r ∈ s.rows u, ∀ c, (Table.agents, c) ∈ u.references r →
      p c = false) :
    (s.namings .agents).countP p = (s.rows .recipients).countP fun r => p r.agent := by
  have hother : ∀ u, u ≠ .recipients → ((s.rows u).flatMap fun r =>
      (u.references r).filterMap fun ref => if ref.1 = .agents then some ref.2 else none).countP p
        = 0 := by
    intro u hu
    rw [List.countP_eq_zero]
    intro c hc
    obtain ⟨r, hr, hc⟩ := List.mem_flatMap.1 hc
    obtain ⟨⟨v, d⟩, hd, hc⟩ := List.mem_filterMap.1 hc
    simp only at hc
    split at hc
    · rename_i hv
      cases hc
      subst hv
      rw [h u hu r hr c hd]
      decide
    · cases hc
  have hmap : ((s.rows .recipients).flatMap fun r => (Table.recipients.references r).filterMap
      fun ref => if ref.1 = .agents then some ref.2 else none) =
        (s.rows .recipients).map Recipient.agent := by
    rw [List.map_eq_flatMap]
    rfl
  unfold namings Table.all
  simp only [List.flatMap_cons, List.flatMap_nil, List.countP_append, List.countP_nil]
  rw [hother .projects (by decide), hother .agents (by decide), hother .messages (by decide),
    hother .reservations (by decide), hother .links (by decide), hother .suggestions (by decide),
    hmap, List.countP_map]
  simp only [Nat.zero_add, Nat.add_zero]
  rfl

/-- The number of rows of each table; a missing one has none. -/
def counts (s : Snapshot) : RowCounts :=
  ⟨(s.rows .projects).length, (s.rows .agents).length, (s.rows .messages).length,
    (s.rows .recipients).length, (s.rows .reservations).length, (s.rows .links).length,
    (s.rows .suggestions).length⟩

end Snapshot

namespace Pass
variable {access : Access} {s t : Snapshot} {u : Table} {n : Nat} {counts : RowCounts}

theorem count_eq_ok_iff : count u access s = .ok n t ↔
    s.has u = true ∧ n = (s.rows u).length ∧ s = t := by
  unfold count Snapshot.count
  rw [query_eq_ok_iff]
  cases hh : s.has u with
  | true =>
    rw [Snapshot.need_of_has hh]
    simp [Except.map, eq_comm]
  | false =>
    have hneed : s.need u = .error (.noSuchTable u.name) := by
      have hs : s.table? u = none := by simpa [Snapshot.has] using hh
      rw [Snapshot.need, hs]
    rw [hneed]
    simp [Except.map]

theorem countIfPresent_eq_ok_iff :
    countIfPresent u access s = .ok n t ↔ n = (s.rows u).length ∧ s = t := by
  rw [countIfPresent, bind_run_of_ok (look_run _)]
  cases hh : s.has u with
  | true => simp [count_eq_ok_iff, hh]
  | false => simp [Snapshot.rows_of_missing hh, eq_comm]

/-- The rows can be counted exactly where no table is missing that may not be. -/
theorem rowCounts_eq_ok_iff :
    rowCounts access s = .ok counts t ↔ s.Complete ∧ counts = s.counts ∧ s = t := by
  unfold rowCounts
  simp only [bind_eq_ok_iff, count_eq_ok_iff, countIfPresent_eq_ok_iff]
  constructor
  · rintro ⟨_, _, ⟨hp, rfl, rfl⟩, _, _, ⟨ha, rfl, rfl⟩, _, _, ⟨hm, rfl, rfl⟩, _, _, ⟨hr, rfl, rfl⟩,
      _, _, ⟨hv, rfl, rfl⟩, _, _, ⟨rfl, rfl⟩, _, _, ⟨rfl, rfl⟩, h⟩
    cases h
    refine ⟨fun u hl hg => ?_, rfl, rfl⟩
    cases u <;> first | assumption | contradiction
  · rintro ⟨h, rfl, rfl⟩
    exact ⟨_, _, ⟨h _ (by decide) (by decide), rfl, rfl⟩, _, _,
      ⟨h _ (by decide) (by decide), rfl, rfl⟩, _, _, ⟨h _ (by decide) (by decide), rfl, rfl⟩, _, _,
      ⟨h _ (by decide) (by decide), rfl, rfl⟩, _, _, ⟨h _ (by decide) (by decide), rfl, rfl⟩, _, _,
      ⟨rfl, rfl⟩, _, _, ⟨rfl, rfl⟩, rfl⟩

end Pass
end MailSnapshot
