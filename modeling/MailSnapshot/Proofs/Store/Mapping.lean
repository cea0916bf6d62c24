import MailSnapshot.Proofs.Store.Restriction

/-! Rows that change in place: a table mapped row by row, what an update makes of it, and snapshots
that differ in nothing but their rows. -/

namespace MailSnapshot.Snapshot
variable {s s' s₁ s₂ s₃ : Snapshot} {t u : Table} {f g : t.Row → t.Row}
  {stays : (t : Table) → t.Row → Bool} {access : Access} {columns : List String}
  {selected : t.Row → Bool} {n : Nat}

/-- The snapshot with a function applied to each row of one table. -/
def mapTable (s : Snapshot) (t : Table) (f : t.Row → t.Row) : Snapshot :=
  s.setTable t ((s.table? t).map (List.map f))

@[simp] theorem schema_mapTable : (s.mapTable t f).schema = s.schema := schema_setTable _

@[simp] theorem triggers_mapTable : (s.mapTable t f).triggers = s.triggers := triggers_setTable _

@[simp] theorem table?_mapTable_self :
    (s.mapTable t f).table? t = (s.table? t).map (List.map f) := table?_setTable_self _

theorem table?_mapTable_of_ne (h : u ≠ t) : (s.mapTable t f).table? u = s.table? u :=
  table?_setTable_of_ne _ h

@[simp] theorem has_mapTable : (s.mapTable t f).has u = s.has u := by
  unfold has
  by_cases h : u = t
  · subst h
    rw [table?_mapTable_self, Option.isSome_map]
  · rw [table?_mapTable_of_ne h]

@[simp] theorem rows_mapTable_self : (s.mapTable t f).rows t = (s.rows t).map f := by
  unfold Snapshot.rows
  rw [table?_mapTable_self]
  cases s.table? t <;> rfl

theorem rows_mapTable_of_ne (h : u ≠ t) : (s.mapTable t f).rows u = s.rows u := by
  unfold Snapshot.rows
  rw [table?_mapTable_of_ne h]

theorem mapTable_of_all (h : ∀ r ∈ s.rows t, f r = r) : s.mapTable t f = s := by
  refine ext_table? schema_mapTable triggers_mapTable ?_
  intro u
  by_cases hu : u = t
  · subst hu
    rw [table?_mapTable_self]
    unfold Snapshot.rows at h
    cases hs : s.table? u with
    | none => rfl
    | some rows =>
      have hrows : rows.map f = rows := by
        rw [hs] at h
        exact (List.map_congr_left h).trans (List.map_id' rows)
      rw [Option.map_some, hrows]
  · exact table?_mapTable_of_ne hu

theorem mapTable_mapTable : (s.mapTable t f).mapTable t g = s.mapTable t fun r => g (f r) := by
  refine ext_table? (by simp) (by simp) ?_
  intro u
  by_cases hu : u = t
  · subst hu
    simp only [table?_mapTable_self, Option.map_map]
    congr 1
    funext rows
    exact List.map_map
  · simp only [table?_mapTable_of_ne hu]

theorem put_map (h : s.has t) : s.put t ((s.rows t).map f) = s.mapTable t f := by
  obtain ⟨rows, hr⟩ := Option.isSome_iff_exists.1 h
  rw [put, mapTable, Snapshot.rows, hr]
  rfl

/-- An update that succeeds changes the selected rows, and no other. -/
theorem update_eq_ok_iff : s.update access t columns selected f = .ok (n, s') ↔
    s.has t ∧ access = .readWrite ∧ s.Passes .update t columns ((s.rows t).countP selected) ∧
      n = (s.rows t).countP selected ∧
      s' = s.mapTable t fun r => if selected r then f r else r := by
  unfold update Passes
  simp only [bind_ok_iff, need_eq_ok_iff, checkAccess_eq_ok_iff, skip_ok_iff,
    checkTriggers_eq_ok_iff]
  constructor
  · rintro ⟨_, ⟨ht, rfl⟩, _, haccess, hpass, h⟩
    cases h
    exact ⟨ht, haccess, hpass, rfl, put_map ht⟩
  · rintro ⟨ht, haccess, hpass, rfl, rfl⟩
    refine ⟨_, ⟨ht, rfl⟩, (), haccess, hpass, ?_⟩
    rw [← put_map ht]
    rfl

/-- An update that a trigger watches fails as soon as it reaches a row. -/
theorem update_refused {text : String} (ht : s.has t)
    (hrefusal : s.refusal? .update t columns = some text)
    (hreach : ∃ r ∈ s.rows t, selected r = true) :
    s.update .readWrite t columns selected f = .error (.refused text) := by
  have hcheck : s.checkTriggers .update t columns = .error (.refused text) := by
    rw [checkTriggers, hrefusal]
  have htouched : (s.rows t).countP selected ≠ 0 :=
    Nat.pos_iff_ne_zero.1 (List.countP_pos_iff.2 hreach)
  unfold update
  simp only [need_of_has ht, checkAccess, hcheck, htouched, bind, Except.bind, if_false]

/-- The same rules and the same tables, whatever rows these hold. -/
structure Alike (s₁ s₂ : Snapshot) : Prop where
  schema : s₁.schema = s₂.schema
  triggers : s₁.triggers = s₂.triggers
  has : ∀ t, s₁.has t = s₂.has t

theorem Alike.trans (h : s₁.Alike s₂) (h' : s₂.Alike s₃) : s₁.Alike s₃ :=
  ⟨h.schema.trans h'.schema, h.triggers.trans h'.triggers, fun t => (h.has t).trans (h'.has t)⟩

theorem Alike.symm (h : s₁.Alike s₂) : s₂.Alike s₁ :=
  ⟨h.schema.symm, h.triggers.symm, fun t => (h.has t).symm⟩

theorem alike_mapTable : (s.mapTable t f).Alike s :=
  ⟨schema_mapTable, triggers_mapTable, fun _ => has_mapTable⟩

theorem alike_restrict : (s.restrict stays).Alike s := ⟨rfl, rfl, fun _ => has_restrict⟩

theorem Alike.passes (h : s₁.Alike s₂) {event : Trigger.Event} :
    s₁.Passes event t columns n ↔ s₂.Passes event t columns n := by
  unfold Passes refusal?
  rw [h.triggers]

theorem Alike.needParents (h : s₁.Alike s₂) : s₁.needParents t = s₂.needParents t := by
  unfold Snapshot.needParents
  rw [h.schema, funext h.has]

end MailSnapshot.Snapshot
