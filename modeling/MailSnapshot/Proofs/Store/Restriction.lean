import MailSnapshot.Proofs.Store.Run

/-! Rows that stay and rows that go: a snapshot restricted by a test on its rows, and what a
deletion makes of it. -/

namespace MailSnapshot

/-- A test on the rows of one table that lets the rows of all others pass. -/
def Table.only (t : Table) (test : t.Row → Bool) (u : Table) (r : u.Row) : Bool :=
  if h : u = t then test (h ▸ r) else true

@[simp] theorem Table.only_self {t : Table} {test : t.Row → Bool} (r : t.Row) :
    t.only test t r = test r := by
  simp [Table.only]

theorem Table.only_of_ne {t u : Table} {test : t.Row → Bool} (h : u ≠ t) (r : u.Row) :
    t.only test u r = true := by
  simp [Table.only, h]

namespace Snapshot
variable {s s' : Snapshot} {t u : Table} {stays others : (t : Table) → t.Row → Bool}
  {access : Access} {names : List Table} {doomed : t.Row → Truth} {n : Nat}

/-- The snapshot with the rows that pass a test. -/
def restrict (s : Snapshot) (stays : (t : Table) → t.Row → Bool) : Snapshot where
  schema := s.schema
  triggers := s.triggers
  projects := s.projects.map (List.filter (stays .projects))
  agents := s.agents.map (List.filter (stays .agents))
  messages := s.messages.map (List.filter (stays .messages))
  recipients := s.recipients.map (List.filter (stays .recipients))
  reservations := s.reservations.map (List.filter (stays .reservations))
  links := s.links.map (List.filter (stays .links))
  suggestions := s.suggestions.map (List.filter (stays .suggestions))

@[simp] theorem schema_restrict : (s.restrict stays).schema = s.schema := rfl

@[simp] theorem triggers_restrict : (s.restrict stays).triggers = s.triggers := rfl

theorem table?_restrict (t : Table) :
    (s.restrict stays).table? t = (s.table? t).map (List.filter (stays t)) := by
  cases t <;> rfl

@[simp] theorem has_restrict : (s.restrict stays).has t = s.has t := by
  rw [has, has, table?_restrict, Option.isSome_map]

theorem rows_of_missing (h : s.has t = false) : s.rows t = [] := by
  have hs : s.table? t = none := by simpa [has] using h
  rw [rows, hs]
  rfl

theorem rows_restrict (t : Table) : (s.restrict stays).rows t = (s.rows t).filter (stays t) := by
  rw [rows, rows, table?_restrict]
  cases s.table? t <;> rfl

theorem mem_rows_restrict {r : t.Row} :
    r ∈ (s.restrict stays).rows t ↔ r ∈ s.rows t ∧ stays t r = true := by
  rw [rows_restrict, List.mem_filter]

theorem restrict_restrict :
    (s.restrict stays).restrict others = s.restrict fun t r => stays t r && others t r := by
  refine ext_table? rfl rfl ?_
  intro t
  rw [table?_restrict, table?_restrict, table?_restrict, Option.map_map]
  congr 1
  funext rows
  rw [Function.comp_apply, List.filter_filter]
  simp only [Bool.and_comm]

theorem restrict_of_all (h : ∀ t, ∀ r ∈ s.rows t, stays t r = true) : s.restrict stays = s := by
  refine ext_table? rfl rfl ?_
  intro t
  rw [table?_restrict]
  have ht := h t
  unfold rows at ht
  cases hs : s.table? t with
  | none => rfl
  | some rows =>
    rw [hs] at ht
    rw [Option.map_some, List.filter_eq_self.2 (by simpa using ht)]

theorem put_filter (h : s.has t) (test : t.Row → Bool) :
    s.put t ((s.rows t).filter test) = s.restrict (t.only test) := by
  obtain ⟨rows, hr⟩ := Option.isSome_iff_exists.1 h
  refine ext_table? (by simp [put]) (by simp [put]) ?_
  intro u
  rw [table?_restrict, put]
  by_cases hu : u = t
  · subst hu
    rw [table?_setTable_self, Snapshot.rows, hr]
    congr 2
    funext r
    rw [Table.only_self]
  · rw [table?_setTable_of_ne _ hu]
    cases hs : s.table? u with
    | none => rfl
    | some rows =>
      rw [Option.map_some, List.filter_eq_self.2]
      intro r _
      exact Table.only_of_ne hu r

theorem need_of_has (h : s.has t) : s.need t = .ok (s.rows t) := by
  obtain ⟨rows, hr⟩ := Option.isSome_iff_exists.1 h
  rw [need, Snapshot.rows, hr]
  rfl

theorem need_eq_ok_iff {rows : List t.Row} : s.need t = .ok rows ↔ s.has t ∧ rows = s.rows t := by
  unfold need has Snapshot.rows
  cases s.table? t <;> simp [eq_comm]

/-- The rows that a deletion removes. -/
def gone (s : Snapshot) (t : Table) (doomed : t.Row → Truth) : List t.Row :=
  (s.rows t).filter fun r => doomed r = .yes

/-- No trigger stops a statement on this many rows. A statement on none wakes no trigger. -/
def Passes (s : Snapshot) (event : Trigger.Event) (t : Table) (columns : List String)
    (touched : Nat) : Prop :=
  touched = 0 ∨ s.refusal? event t columns = none

theorem checkAccess_eq_ok_iff {done : Unit} :
    checkAccess access = .ok done ↔ access = .readWrite := by
  cases access <;> simp [checkAccess]

theorem checkTriggers_eq_ok_iff {event : Trigger.Event} {columns : List String} :
    s.checkTriggers event t columns = .ok () ↔ s.refusal? event t columns = none := by
  unfold checkTriggers
  cases s.refusal? event t columns <;> simp

/-- A deletion that succeeds removes the rows for which its condition is true, and no other. -/
theorem delete_eq_ok_iff : s.delete access t names doomed = .ok (n, s') ↔
    s.has t ∧ s.needAll names = .ok () ∧ s.needParents t = .ok () ∧ access = .readWrite ∧
      s.Passes .delete t [] (s.gone t doomed).length ∧
      s.checkReferences t (s.gone t doomed) = .ok () ∧ n = (s.gone t doomed).length ∧
      s' = s.restrict (t.only fun r => doomed r ≠ .yes) := by
  have hresult : s.has t → s.put t ((s.rows t).filter fun r => doomed r ≠ .yes) =
      s.restrict (t.only fun r => doomed r ≠ .yes) := fun h => put_filter h _
  unfold delete Passes
  simp only [bind_ok_iff, need_eq_ok_iff, checkAccess_eq_ok_iff, skip_ok_iff,
    checkTriggers_eq_ok_iff, List.isEmpty_iff, List.length_eq_zero_iff]
  constructor
  · rintro ⟨_, ⟨ht, rfl⟩, _, hnames, _, hparents, _, haccess, hpass, _, hrefs, h⟩
    cases h
    exact ⟨ht, hnames, hparents, haccess, hpass, hrefs, rfl, hresult ht⟩
  · rintro ⟨ht, hnames, hparents, haccess, hpass, hrefs, rfl, rfl⟩
    refine ⟨_, ⟨ht, rfl⟩, (), hnames, (), hparents, (), haccess, hpass, (), hrefs, ?_⟩
    rw [hresult ht]
    rfl

theorem needAll_of_has (h : ∀ u ∈ names, s.has u) : s.needAll names = .ok () := by
  unfold needAll
  rw [List.find?_eq_none.2 (by simpa using h)]

theorem needParents_of_has (h : ∀ u ∈ t.parents, s.has u) : s.needParents t = .ok () := by
  unfold needParents
  rw [List.find?_eq_none.2 (by simpa using h)]
  cases s.schema <;> rfl

/-- Everything that a deletion names is there, but the store may only be read. -/
theorem delete_of_readOnly (ht : s.has t) (hn : ∀ u ∈ names, s.has u)
    (hp : ∀ u ∈ t.parents, s.has u) :
    s.delete .readOnly t names doomed = .error .notWritable := by
  rw [delete, need_of_has ht, needAll_of_has hn, needParents_of_has hp]
  rfl

/-- Where no row goes, no reference breaks. -/
theorem checkReferences_nil : s.checkReferences t [] = .ok () := by
  unfold checkReferences
  cases s.schema <;> rfl

/-- Where everything that a deletion names is there and nothing refuses it, only the references
decide. -/
theorem delete_eq (ht : s.has t) (hn : ∀ u ∈ names, s.has u) (hp : ∀ u ∈ t.parents, s.has u)
    (hg : s.triggers = []) :
    s.delete .readWrite t names doomed =
      (s.checkReferences t (s.gone t doomed)).map fun _ =>
        ((s.gone t doomed).length, s.restrict (t.only fun r => doomed r ≠ .yes)) := by
  have hquiet : s.checkTriggers .delete t [] = .ok () := by
    simp [checkTriggers, refusal?, hg]
  have hput := put_filter ht fun r => decide (doomed r ≠ .yes)
  unfold delete
  simp only [need_of_has ht, needAll_of_has hn, needParents_of_has hp, hquiet, checkAccess, bind,
    Except.bind, pure, Except.pure, ite_self]
  rw [hput]
  unfold gone
  cases s.checkReferences t ((s.rows t).filter fun r => doomed r = .yes) <;> rfl

end Snapshot
end MailSnapshot
