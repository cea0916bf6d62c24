import MailSnapshot.Proofs.Scope.Outcome
import MailSnapshot.Proofs.Store.Revision
import Mathlib.Data.List.Nodup
import Mathlib.Data.List.Perm.Subperm

/-! Selecting again after some projects have gone. The projects are read in the order in which they
stand, and an identifier that named one that is left names the same one. -/

namespace MailSnapshot

section Order
variable {α : Type} {id : α → Cell} {row : α} {rows : List α}

theorem insertById_of_first (h : ∀ r ∈ rows, (id r).comesBefore (id row) = false) :
    insertById id row rows = row :: rows := by
  cases rows with
  | nil => rfl
  | cons r rs =>
    rw [insertById, h r (by simp)]
    rfl

theorem orderById_of_ordered
    (h : rows.Pairwise fun r r' => (id r').comesBefore (id r) = false) :
    orderById id rows = rows := by
  induction rows with
  | nil => rfl
  | cons r rs ih =>
    obtain ⟨hr, hrs⟩ := List.pairwise_cons.1 h
    change insertById id r (orderById id rs) = _
    rw [ih hrs, insertById_of_first hr]

end Order

theorem Cell.comesBefore_integer {n m : Int} :
    (integer n).comesBefore (integer m) = true ↔ n < m := by
  simp [comesBefore, kind, rank, number?]

theorem mapM_filter {α β ε : Type} {f : α → Except ε β} {xs : List α} {ys : List β}
    {p : α → Bool} {q : β → Bool} (h : xs.mapM f = .ok ys)
    (hpq : ∀ x y, f x = .ok y → p x = q y) : (xs.filter p).mapM f = .ok (ys.filter q) := by
  have hall := mapM_eq_ok_iff.1 h
  refine mapM_eq_ok_iff.2 ?_
  clear h
  induction hall with
  | nil => exact .nil
  | @cons x y xs ys hxy _ ih =>
    rw [List.filter_cons, List.filter_cons, hpq x y hxy]
    split
    · exact .cons hxy ih
    · exact ih

theorem map_id_of_records {rows : List Project} {projects : List ProjectRecord}
    (h : rows.mapM Project.record = .ok projects) :
    rows.map Project.id = (projects.map ProjectRecord.id).map Cell.integer := by
  have hall := mapM_eq_ok_iff.1 h
  clear h
  induction hall with
  | nil => rfl
  | cons hr _ ih => simp only [List.map_cons, ih, Project.id_of_record hr]

namespace Snapshot
variable {s : Snapshot} {projects : List ProjectRecord}

theorem Strict.restrict (hs : s.Strict) {stays : (t : Table) → t.Row → Bool} :
    (s.restrict stays).Strict := by
  rw [restrict_eq_revise]
  exact hs.revise

theorem Strict.orderById_projects (hs : s.Strict) :
    orderById Project.id (s.rows .projects) = s.rows .projects := by
  apply orderById_of_ordered
  refine (hs.ids_increasing .projects).imp_of_mem ?_
  intro p q hp hq hpq
  have hbefore := hpq p.id q.id rfl rfl
  obtain ⟨n, hn⟩ := hs.id_integer .projects p hp p.id rfl
  obtain ⟨m, hm⟩ := hs.id_integer .projects q hq q.id rfl
  rw [hn, hm, Cell.comesBefore_integer] at hbefore
  rw [hn, hm, ← Bool.not_eq_true, Cell.comesBefore_integer]
  omega

theorem Strict.readProjects_eq_ok_iff (hs : s.Strict) : s.readProjects = .ok projects ↔
    s.has .projects ∧ (s.rows .projects).mapM Project.record = .ok projects := by
  rw [Snapshot.readProjects, bind_ok_iff]
  constructor
  · rintro ⟨_, hneed, h⟩
    obtain ⟨ht, rfl⟩ := need_eq_ok_iff.1 hneed
    rw [hs.orderById_projects] at h
    exact ⟨ht, h⟩
  · rintro ⟨ht, h⟩
    refine ⟨_, need_of_has ht, ?_⟩
    rw [hs.orderById_projects]
    exact h

theorem nodup_of_readProjects (h : s.readProjects = .ok projects)
    (hn : ((s.rows .projects).map Project.id).Nodup) : (projects.map ProjectRecord.id).Nodup := by
  obtain ⟨_, hneed, hrun⟩ := bind_ok_iff.1 h
  obtain ⟨-, rfl⟩ := need_eq_ok_iff.1 hneed
  refine List.Nodup.of_map Cell.integer ?_
  rw [← map_id_of_records hrun]
  exact ((orderById_perm _).map _).nodup_iff.2 hn

theorem Strict.nodup_ids (hs : s.Strict) : ((s.rows .projects).map Project.id).Nodup := by
  rw [List.Nodup, List.pairwise_map]
  refine (hs.ids_increasing .projects).imp_of_mem ?_
  intro p q hp hq hpq heq
  have hsame := hs.not_same_of_comesBefore hp hq rfl rfl (hpq p.id q.id rfl rfl)
  rw [heq, Cell.same_refl] at hsame
  cases hsame

/-- A strict store has every project once. -/
theorem Strict.nodup_projects (hs : s.Strict) (h : s.readProjects = .ok projects) :
    (projects.map ProjectRecord.id).Nodup :=
  nodup_of_readProjects h hs.nodup_ids

/-- Where projects go by their ids, those that are left are read as before. -/
theorem Strict.readProjects_restrict (hs : s.Strict) (h : s.readProjects = .ok projects)
    {stays : (t : Table) → t.Row → Bool} {wanted : ProjectRecord → Bool}
    (hw : ∀ p record, Project.record p = .ok record → stays .projects p = wanted record) :
    (s.restrict stays).readProjects = .ok (projects.filter wanted) := by
  obtain ⟨ht, hrun⟩ := hs.readProjects_eq_ok_iff.1 h
  refine hs.restrict.readProjects_eq_ok_iff.2 ⟨has_restrict.trans ht, ?_⟩
  rw [rows_restrict]
  exact mapM_filter hrun hw

end Snapshot

namespace Scope
variable {projects found kept wide narrow : List ProjectRecord} {identifiers : List String}
  {wanted : ProjectRecord → Bool} {p q : ProjectRecord} {key : String}

/-- A project with the same id is among the kept ones. -/
def keeps (kept : List ProjectRecord) (p : ProjectRecord) : Bool := kept.any (·.id = p.id)

theorem keeps_iff : keeps kept p = true ↔ ∃ k ∈ kept, k.id = p.id := by
  simp [keeps]

section Find
variable {α : Type} {test stays : α → Bool} {xs : List α} {x : α}

theorem find?_filter_eq_some (h : xs.find? test = some x) (hx : stays x = true) :
    (xs.filter stays).find? test = some x := by
  obtain ⟨hx', before, after, rfl, hbefore⟩ := List.find?_eq_some_iff_append.1 h
  refine List.find?_eq_some_iff_append.2 ⟨hx', before.filter stays, after.filter stays, ?_, ?_⟩
  · rw [List.filter_append, List.filter_cons_of_pos hx]
  · intro y hy
    exact hbefore y (List.mem_filter.1 hy).1

theorem find?_filter_eq_none (h : xs.find? test = none) : (xs.filter stays).find? test = none := by
  rw [List.find?_eq_none] at h ⊢
  intro y hy
  exact h y (List.mem_filter.1 hy).1

end Find

theorem pick?_filter (h : pick? projects key = some p) (hp : wanted p = true) :
    pick? (projects.filter wanted) key = some p := by
  rw [pick?, Option.orElse_eq_orElse, Option.orElse_eq_or, Option.or_eq_some_iff] at h ⊢
  rcases h with h | ⟨hnone, h⟩
  · exact .inl (find?_filter_eq_some h hp)
  · exact .inr ⟨find?_filter_eq_none hnone, find?_filter_eq_some h hp⟩

theorem subset_addOnce : found ⊆ addOnce found p := by
  unfold addOnce
  split
  · exact List.Subset.refl _
  · exact List.subset_append_left _ _

theorem keeps_addOnce : keeps (addOnce found p) p = true := by
  unfold addOnce
  split
  · assumption
  · exact keeps_iff.2 ⟨p, by simp, rfl⟩

theorem nodup_addOnce (h : (found.map ProjectRecord.id).Nodup) :
    ((addOnce found p).map ProjectRecord.id).Nodup := by
  unfold addOnce
  split
  · exact h
  · rename_i hp
    rw [List.map_append]
    refine List.Nodup.append h (List.nodup_singleton _) ?_
    intro n hn hn'
    obtain ⟨q, hq, rfl⟩ := List.mem_map.1 hn
    exact hp (keeps_iff.2 ⟨q, hq, by simpa using hn'⟩)

theorem found_subset_of_resolveFrom (h : resolveFrom projects found identifiers = .ok kept) :
    found ⊆ kept := by
  induction identifiers generalizing found with
  | nil =>
    cases h
    exact List.Subset.refl _
  | cons identifier others ih =>
    simp only [resolveFrom] at h
    split at h
    · exact ih h
    · split at h
      · exact List.Subset.trans subset_addOnce (ih h)
      · cases h

theorem nodup_of_resolveFrom (hf : (found.map ProjectRecord.id).Nodup)
    (h : resolveFrom projects found identifiers = .ok kept) :
    (kept.map ProjectRecord.id).Nodup := by
  induction identifiers generalizing found with
  | nil =>
    cases h
    exact hf
  | cons identifier others ih =>
    simp only [resolveFrom] at h
    split at h
    · exact ih hf h
    · split at h
      · exact ih (nodup_addOnce hf) h
      · cases h

/-- What is selected stays selected when only other projects go. -/
theorem resolveFrom_filter (hid : ∀ p q, p.id = q.id → wanted p = wanted q)
    (h : resolveFrom projects found identifiers = .ok kept)
    (hw : ∀ p ∈ kept, wanted p = true) :
    resolveFrom (projects.filter wanted) found identifiers = .ok kept := by
  induction identifiers generalizing found with
  | nil => exact h
  | cons identifier others ih =>
    simp only [resolveFrom] at h ⊢
    split at h
    · rename_i hblank
      rw [if_pos hblank]
      exact ih h
    · rename_i hkey
      rw [if_neg hkey]
      split at h
      · rename_i p hpick
        have hkeeps : keeps (addOnce found p) p = true := keeps_addOnce
        obtain ⟨q, hq, hsame⟩ := keeps_iff.1 hkeeps
        have hp : wanted p = true := hid q p hsame ▸ hw q (found_subset_of_resolveFrom h hq)
        rw [pick?_filter hpick hp]
        exact ih h
      · cases h

theorem resolve_eq_ok_iff : resolve projects identifiers = .ok kept ↔
    resolveFrom projects [] identifiers = .ok kept ∧ kept ≠ [] := by
  rw [resolve, bind_ok_iff]
  constructor
  · rintro ⟨found, hfound, h⟩
    cases found with
    | nil => cases h
    | cons p ps =>
      cases h
      exact ⟨hfound, by simp⟩
  · rintro ⟨hfound, hne⟩
    refine ⟨kept, hfound, ?_⟩
    cases kept with
    | nil => exact absurd rfl hne
    | cons p ps => rfl

theorem select_cases (h : select projects identifiers = .ok kept) :
    projects ≠ [] ∧ (identifiers = [] ∧ kept = projects ∨
      identifiers ≠ [] ∧ resolve projects identifiers = .ok kept) := by
  unfold select at h
  split at h
  · cases h
  · split at h
    · cases h
      exact ⟨‹_›, .inl ⟨‹_›, rfl⟩⟩
    · exact ⟨‹_›, .inr ⟨‹_›, h⟩⟩

theorem subset_of_select (h : select projects identifiers = .ok kept) : kept ⊆ projects := by
  obtain ⟨-, ⟨-, rfl⟩ | ⟨-, hresolve⟩⟩ := select_cases h
  · exact List.Subset.refl _
  · exact subset_of_resolve hresolve

theorem nodup_of_select (hp : (projects.map ProjectRecord.id).Nodup)
    (h : select projects identifiers = .ok kept) : (kept.map ProjectRecord.id).Nodup := by
  obtain ⟨-, ⟨-, rfl⟩ | ⟨-, hresolve⟩⟩ := select_cases h
  · exact hp
  · exact nodup_of_resolveFrom (by simp) (resolve_eq_ok_iff.1 hresolve).1

theorem select_filter (hid : ∀ p q, p.id = q.id → wanted p = wanted q)
    (h : select projects identifiers = .ok kept) (hw : ∀ p ∈ kept, wanted p = true) :
    select (projects.filter wanted) identifiers = .ok kept := by
  obtain ⟨hne, ⟨rfl, rfl⟩ | ⟨hi, hresolve⟩⟩ := select_cases h
  · rwa [List.filter_eq_self.2 hw]
  · obtain ⟨hfrom, hkept⟩ := resolve_eq_ok_iff.1 hresolve
    obtain ⟨p, hp⟩ := List.exists_mem_of_ne_nil _ hkept
    have hleft : projects.filter wanted ≠ [] := List.ne_nil_of_mem
      (List.mem_filter.2 ⟨subset_of_resolve hresolve hp, hw p hp⟩)
    rw [select, if_neg hleft, if_neg hi]
    exact resolve_eq_ok_iff.2 ⟨resolveFrom_filter hid hfrom hw, hkept⟩

/-- The kept projects, in the order in which they stand. -/
theorem filter_keeps_perm (hp : (projects.map ProjectRecord.id).Nodup)
    (hk : (kept.map ProjectRecord.id).Nodup) (hsub : kept ⊆ projects) :
    (projects.filter (keeps kept)).Perm kept := by
  refine (List.perm_ext_iff_of_nodup ((List.Nodup.of_map _ hp).filter _)
    (List.Nodup.of_map _ hk)).2 fun p => ?_
  rw [List.mem_filter, keeps_iff]
  constructor
  · rintro ⟨hmem, q, hq, hid⟩
    rw [← List.inj_on_of_nodup_map hp (hsub hq) hmem hid]
    exact hq
  · intro hmem
    exact ⟨hsub hmem, p, hmem, rfl⟩

/-- Of two selections, one in the other, the wider one is the narrower one if they are equally
long. -/
theorem subset_of_length_eq (hn : (narrow.map ProjectRecord.id).Nodup) (hsub : narrow ⊆ wide)
    (hlength : narrow.length = wide.length) : wide ⊆ narrow :=
  have hperm : narrow.Perm wide :=
    ((List.Nodup.of_map _ hn).subperm hsub).perm_of_length_le (Nat.le_of_eq hlength.symm)
  hperm.symm.subset

/-- A selection as long as the list of all projects holds all of them, even where two of them share
an id. -/
theorem all_selected_of_length_eq (h : select projects identifiers = .ok kept)
    (hlength : kept.length = projects.length) : projects ⊆ kept := by
  obtain ⟨-, ⟨-, rfl⟩ | ⟨-, hresolve⟩⟩ := select_cases h
  · exact List.Subset.refl _
  · have hn := nodup_of_resolveFrom (by simp) (resolve_eq_ok_iff.1 hresolve).1
    exact subset_of_length_eq hn (subset_of_resolve hresolve) hlength

theorem length_eq_of_all_selected (hp : (projects.map ProjectRecord.id).Nodup)
    (h : select projects identifiers = .ok kept) (hall : projects ⊆ kept) :
    kept.length = projects.length := by
  refine Nat.le_antisymm ?_ ?_
  · exact ((List.Nodup.of_map _ (nodup_of_select hp h)).subperm (subset_of_select h)).length_le
  · exact ((List.Nodup.of_map _ hp).subperm hall).length_le

theorem mem_keptIds_of_all {s : Snapshot} {p : Project} (hread : s.readProjects = .ok projects)
    (hall : projects ⊆ kept) (hp : p ∈ s.rows .projects) : p.id ∈ keptIds kept := by
  obtain ⟨record, hrecord, hid⟩ := Snapshot.exists_record_of_readProjects hread hp
  rw [hid]
  exact List.mem_map.2 ⟨record, hall hrecord, rfl⟩

end Scope
end MailSnapshot
