import MailSnapshot.Proofs.Store.Mapping
import MailSnapshot.Proofs.Store.Strict
import Mathlib.Data.List.Forall2

/-! Revisions: some rows of a snapshot go, and those that stay keep their identity and what they
refer to. Whatever a revision does, a strict store stays a strict one and no row comes in. -/

namespace MailSnapshot

/-- A row and what may become of it. A message keeps its id, its project and its sender, a recipient
its message and its agent; other rows stay as they are. -/
def Table.Keeps : (t : Table) → t.Row → t.Row → Prop
  | .messages, m, m' => m'.id = m.id ∧ m'.project = m.project ∧ m'.sender = m.sender
  | .recipients, r, r' => r'.message = r.message ∧ r'.agent = r.agent
  | .projects, r, r' | .agents, r, r' | .reservations, r, r' | .links, r, r'
  | .suggestions, r, r' => r' = r

/-- The new rows are some of the old ones in their order, each with its identity. -/
def Table.Thins (t : Table) (old new : List t.Row) : Prop :=
  ∃ left, left.Sublist old ∧ List.Forall₂ t.Keeps left new

/-- What becomes of each row. A row without a value goes. -/
structure Revision where
  row : (t : Table) → t.Row → Option t.Row
  keeps : ∀ t r r', row t r = some r' → t.Keeps r r'

namespace Table
variable {t : Table} {r r' r'' : t.Row}

theorem Keeps.refl (r : t.Row) : t.Keeps r r := by
  cases t with
  | messages => exact ⟨rfl, rfl, rfl⟩
  | recipients => exact ⟨rfl, rfl⟩
  | projects | agents | reservations | links | suggestions => rfl

theorem Keeps.trans (h : t.Keeps r r') (h' : t.Keeps r' r'') : t.Keeps r r'' := by
  cases t with
  | messages => exact ⟨h'.1.trans h.1, h'.2.1.trans h.2.1, h'.2.2.trans h.2.2⟩
  | recipients => exact ⟨h'.1.trans h.1, h'.2.trans h.2⟩
  | projects | agents | reservations | links | suggestions => exact Eq.trans h' h

theorem Keeps.id? (h : t.Keeps r r') : t.id? r' = t.id? r := by
  cases t with
  | messages => exact congrArg some h.1
  | recipients => rfl
  | projects | agents | reservations | links | suggestions =>
    cases h
    rfl

theorem Keeps.references (h : t.Keeps r r') : t.references r' = t.references r := by
  cases t with
  | messages => simp only [Table.references, h.2.1, h.2.2]
  | recipients => simp only [Table.references, h.1, h.2]
  | projects | agents | reservations | links | suggestions =>
    cases h
    rfl

end Table

namespace Revision
variable {f g : Revision} {stays : (t : Table) → t.Row → Bool}

/-- One revision after another. -/
def andThen (f g : Revision) : Revision where
  row t r := (f.row t r).bind (g.row t)
  keeps t r r' h := by
    obtain ⟨x, hx, hr⟩ := Option.bind_eq_some_iff.1 h
    exact (f.keeps t r x hx).trans (g.keeps t x r' hr)

/-- Only the rows that pass a test stay. -/
def keeping (stays : (t : Table) → t.Row → Bool) : Revision where
  row t r := if stays t r then some r else none
  keeps t r r' h := by
    split at h
    · cases h
      exact .refl r
    · cases h

end Revision

namespace Snapshot
variable {s s₁ s₂ : Snapshot} {t u : Table} {f g : Revision} {ref : Table × Cell}
  {stays : (t : Table) → t.Row → Bool}

/-- The snapshot after a revision. -/
def revise (s : Snapshot) (f : Revision) : Snapshot where
  schema := s.schema
  triggers := s.triggers
  projects := s.projects.map (List.filterMap (f.row .projects))
  agents := s.agents.map (List.filterMap (f.row .agents))
  messages := s.messages.map (List.filterMap (f.row .messages))
  recipients := s.recipients.map (List.filterMap (f.row .recipients))
  reservations := s.reservations.map (List.filterMap (f.row .reservations))
  links := s.links.map (List.filterMap (f.row .links))
  suggestions := s.suggestions.map (List.filterMap (f.row .suggestions))

theorem table?_revise (t : Table) :
    (s.revise f).table? t = (s.table? t).map (List.filterMap (f.row t)) := by
  cases t <;> rfl

theorem rows_revise (t : Table) : (s.revise f).rows t = (s.rows t).filterMap (f.row t) := by
  rw [rows, rows, table?_revise]
  cases s.table? t <;> rfl

theorem mem_rows_revise {r' : t.Row} :
    r' ∈ (s.revise f).rows t ↔ ∃ r ∈ s.rows t, f.row t r = some r' := by
  rw [rows_revise, List.mem_filterMap]

theorem alike_revise : (s.revise f).Alike s := by
  refine ⟨rfl, rfl, fun t => ?_⟩
  rw [has, has, table?_revise, Option.isSome_map]

theorem table?_eq_ite (s : Snapshot) (t : Table) :
    s.table? t = if s.has t then some (s.rows t) else none := by
  unfold has rows
  cases s.table? t <;> rfl

/-- Snapshots that are alike differ in their rows at most. -/
theorem Alike.eq_of_rows (h : s₁.Alike s₂) (hrows : ∀ t, s₁.rows t = s₂.rows t) : s₁ = s₂ := by
  refine ext_table? h.schema h.triggers fun t => ?_
  rw [table?_eq_ite, table?_eq_ite, h.has, hrows]

theorem restrict_eq_revise : s.restrict stays = s.revise (.keeping stays) := by
  refine (alike_restrict.trans alike_revise.symm).eq_of_rows fun t => ?_
  rw [rows_restrict, rows_revise, ← List.filterMap_eq_filter]
  rfl

theorem revise_andThen : s.revise (f.andThen g) = (s.revise f).revise g := by
  refine (alike_revise.trans (alike_revise.trans alike_revise).symm).eq_of_rows fun t => ?_
  rw [rows_revise, rows_revise, rows_revise, List.filterMap_filterMap]
  rfl

theorem revise_of_all (h : ∀ t, ∀ r ∈ s.rows t, f.row t r = some r) : s.revise f = s := by
  refine alike_revise.eq_of_rows fun t => ?_
  rw [rows_revise, List.filterMap_congr (h t), List.filterMap_some]

theorem thins_revise (t : Table) : t.Thins (s.rows t) ((s.revise f).rows t) := by
  refine ⟨(s.rows t).filter fun r => (f.row t r).isSome, List.filter_sublist, ?_⟩
  rw [rows_revise]
  induction s.rows t with
  | nil => exact .nil
  | cons r rs ih =>
    cases hr : f.row t r with
    | none =>
      rw [List.filter_cons_of_neg (by simp [hr]), List.filterMap_cons_none hr]
      exact ih
    | some r' =>
      rw [List.filter_cons_of_pos (by simp [hr]), List.filterMap_cons_some hr]
      exact .cons (f.keeps t r r' hr) ih

theorem Strict.revise (hs : s.Strict) : (s.revise f).Strict where
  schema := hs.schema
  id_integer := by
    intro t r' hr' c hc
    obtain ⟨r, hr, hf⟩ := mem_rows_revise.1 hr'
    rw [(f.keeps t r r' hf).id?] at hc
    exact hs.id_integer t r hr c hc
  ids_increasing := by
    intro t
    rw [rows_revise]
    refine (hs.ids_increasing t).filterMap (f.row t) ?_
    intro r x hrx r' hr' x' hx' c d hc hd
    rw [(f.keeps t r r' hr').id?] at hc
    rw [(f.keeps t x x' hx').id?] at hd
    exact hrx c d hc hd
  reference_ne_null := by
    intro t r' hr' ref href
    obtain ⟨r, hr, hf⟩ := mem_rows_revise.1 hr'
    rw [(f.keeps t r r' hf).references] at href
    exact hs.reference_ne_null t r hr ref href

theorem Alike.complete (h : s₁.Alike s₂) (hc : s₂.Complete) : s₁.Complete := by
  intro t hl hg
  rw [h.has]
  exact hc t hl hg

/-- A revision under which no row of a table goes does not change which ids the table holds. -/
theorem dangles_revise (h : ∀ r ∈ s.rows ref.1, (f.row ref.1 r).isSome) :
    (s.revise f).dangles ref = s.dangles ref := by
  rw [← Bool.not_inj_iff, Bool.eq_iff_iff]
  simp only [Bool.not_eq_true', dangles_eq_false_iff]
  constructor
  · rintro ⟨r', hr', c, hc, hsame⟩
    obtain ⟨r, hr, hf⟩ := mem_rows_revise.1 hr'
    rw [(f.keeps _ r r' hf).id?] at hc
    exact ⟨r, hr, c, hc, hsame⟩
  · rintro ⟨r, hr, c, hc, hsame⟩
    obtain ⟨r', hf⟩ := Option.isSome_iff_exists.1 (h r hr)
    refine ⟨r', mem_rows_revise.2 ⟨r, hr, hf⟩, c, ?_, hsame⟩
    rw [(f.keeps _ r r' hf).id?]
    exact hc

section Stay
variable {α : Type} (h : ∀ r ∈ s.rows t, (f.row t r).isSome)
include h

/-- Where no row goes, a list that is read off what rows keep stays the same. -/
theorem filterMap_rows_revise {g : t.Row → Option α} (hg : ∀ r r', t.Keeps r r' → g r' = g r) :
    ((s.revise f).rows t).filterMap g = (s.rows t).filterMap g := by
  rw [rows_revise, List.filterMap_filterMap]
  apply List.filterMap_congr
  intro r hr
  obtain ⟨r', hr'⟩ := Option.isSome_iff_exists.1 (h r hr)
  rw [hr', Option.bind_some, hg r r' (f.keeps t r r' hr')]

theorem countP_rows_revise {p : t.Row → Bool} (hp : ∀ r r', t.Keeps r r' → p r' = p r) :
    ((s.revise f).rows t).countP p = (s.rows t).countP p := by
  rw [rows_revise, List.countP_filterMap]
  apply List.countP_congr
  intro r hr
  obtain ⟨r', hr'⟩ := Option.isSome_iff_exists.1 (h r hr)
  rw [hr', Option.map_some, Option.getD_some, hp r r' (f.keeps t r r' hr')]

/-- Rows that keep everything are the same rows. -/
theorem rows_revise_of_eq (ht : ∀ r r', t.Keeps r r' → r' = r) :
    (s.revise f).rows t = s.rows t := by
  have hsome := filterMap_rows_revise h (g := some) fun r r' hk => congrArg some (ht r r' hk)
  rwa [List.filterMap_some, List.filterMap_some] at hsome

end Stay

/-- A test that sees only what rows keep can be made before a revision or after it. -/
theorem restrict_revise (h : ∀ t r r', t.Keeps r r' → stays t r' = stays t r) :
    (s.revise f).restrict stays = (s.restrict stays).revise f := by
  have halike : ((s.revise f).restrict stays).Alike (s.revise f) := alike_restrict
  refine (halike.trans (alike_revise.trans
    (alike_revise.trans alike_restrict).symm)).eq_of_rows fun t => ?_
  rw [rows_restrict, rows_revise, rows_revise, rows_restrict, List.filter_filterMap,
    List.filterMap_filter]
  apply List.filterMap_congr
  intro r _
  cases hr : f.row t r with
  | none => simp
  | some r' => simp [Option.filter, h t r r' (f.keeps t r r' hr)]

end Snapshot
end MailSnapshot
