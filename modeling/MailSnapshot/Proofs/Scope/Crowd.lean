import MailSnapshot.Proofs.Scope.Naming

/-! Snapshots of any number of projects and nothing else. Each project goes by a slug of its own, so
that a scope call can name as many of them as one likes. -/

namespace MailSnapshot

namespace Text
variable {before : List Char} {n : Nat}

theorem trimChars_replicate {c : Char} (hc : isBlank c = false) :
    trimChars (List.replicate n c) = List.replicate n c := by
  have hnone : ∀ xs : List Char, (∀ x ∈ xs, isBlank x = false) → xs.dropWhile isBlank = xs := by
    intro xs hxs
    cases xs with
    | nil => rfl
    | cons x rest => rw [List.dropWhile_cons_of_neg (by simp [hxs x])]
  have hall : ∀ x ∈ List.replicate n c, isBlank x = false := by
    intro x hx
    rwa [List.eq_of_mem_replicate hx]
  rw [trimChars, hnone _ hall, List.reverse_replicate, hnone _ hall, List.reverse_replicate]

theorem lowercaseAfter_replicate {c : Char} (hsigma : c ≠ 'Σ') (hc : lowerChar c = [c]) :
    lowercaseAfter before (List.replicate n c) = List.replicate n c := by
  induction n generalizing before with
  | zero => rfl
  | succ n ih =>
    rw [List.replicate_succ, lowercaseAfter, if_neg hsigma, hc, ih]
    rfl

end Text

namespace Scope
variable {i j m n : Nat}

/-- A slug of one character more for each project. -/
def crowdSlug (i : Nat) : String := String.ofList (List.replicate (i + 1) 'x')

def crowdMember (i : Nat) : Project := ⟨.integer i, .text (crowdSlug i), .text ""⟩

def crowdRecord (i : Nat) : ProjectRecord := ⟨i, crowdSlug i, ""⟩

/-- So many projects and nothing else. -/
def crowd (n : Nat) : Snapshot :=
  { Snapshot.empty .strict with projects := some ((List.range n).map crowdMember) }

/-- The first of the projects as they are read. -/
def crowdRecords (n : Nat) : List ProjectRecord := (List.range n).map crowdRecord

theorem length_crowdRecords : (crowdRecords n).length = n := by
  rw [crowdRecords, List.length_map, List.length_range]

theorem ne_nil_crowdRecords (hn : 0 < n) : crowdRecords n ≠ [] := by
  rw [ne_eq, ← List.length_eq_zero_iff, length_crowdRecords]
  omega

theorem lookupKey_crowdSlug : lookupKey (crowdSlug i) = crowdSlug i := by
  rw [lookupKey, Text.trim, Text.lowercase, crowdSlug, String.toList_ofList, String.toList_ofList,
    Text.trimChars_replicate (by decide), Text.lowercaseAfter_replicate (by decide) (by decide)]

theorem crowdSlug_injective (h : crowdSlug i = crowdSlug j) : i = j := by
  have hlength := congrArg (fun s : String => s.toList.length) h
  simpa [crowdSlug] using hlength

theorem not_blank_crowdSlug : ¬ Blank (crowdSlug i) := by
  intro h
  have hx := h 'x' (by simp [crowdSlug])
  revert hx
  decide

/-- Every row is a project. -/
theorem eq_crowdMember {u : Table} {r : u.Row} (hr : r ∈ (crowd n).rows u) :
    ∃ i, (⟨u, r⟩ : Σ u : Table, u.Row) = ⟨.projects, crowdMember i⟩ := by
  cases u with
  | projects =>
    obtain ⟨i, -, rfl⟩ := List.mem_map.1 hr
    exact ⟨i, rfl⟩
  | _ => exact absurd hr List.not_mem_nil

theorem strict_crowd : (crowd n).Strict where
  schema := rfl
  id_integer := by
    intro u r hr c hc
    obtain ⟨i, hi⟩ := eq_crowdMember hr
    cases hi
    exact ⟨i, (Option.some.inj hc).symm⟩
  ids_increasing := by
    intro u
    cases u with
    | projects =>
      change ((List.range n).map crowdMember).Pairwise _
      rw [List.pairwise_map]
      refine List.pairwise_lt_range.imp ?_
      rintro i j hij _ _ ⟨⟩ ⟨⟩
      exact Cell.comesBefore_integer.2 (Int.ofNat_lt.2 hij)
    | _ => exact .nil
  reference_ne_null := by
    intro u r hr ref href
    obtain ⟨i, hi⟩ := eq_crowdMember hr
    cases hi
    cases href

theorem complete_crowd : (crowd n).Complete := by
  intro u _ _
  cases u <;> rfl

theorem intact_crowd : (crowd n).Intact := by
  intro u r hr ref href
  obtain ⟨i, hi⟩ := eq_crowdMember hr
  cases hi
  cases href

theorem readProjects_crowd : (crowd n).readProjects = .ok (crowdRecords n) := by
  refine strict_crowd.readProjects_eq_ok_iff.2 ⟨rfl, mapM_eq_ok_iff.2 ?_⟩
  change List.Forall₂ _ ((List.range n).map crowdMember) ((List.range n).map crowdRecord)
  rw [List.forall₂_map_left_iff, List.forall₂_map_right_iff, List.forall₂_same]
  exact fun _ _ => rfl

theorem increasing_crowdRecords : (crowdRecords n).Pairwise fun p q => p.id < q.id := by
  rw [crowdRecords, List.pairwise_map]
  refine List.pairwise_lt_range.imp ?_
  intro i j hij
  exact Int.ofNat_lt.2 hij

/-- The first projects can be named by their slugs. -/
theorem resolve_crowd (hm : 0 < m) (hn : m ≤ n) :
    resolve (crowdRecords n) ((crowdRecords m).map ProjectRecord.slug) = .ok (crowdRecords m) := by
  apply resolve_slugs increasing_crowdRecords
  · intro p hp
    obtain ⟨i, -, rfl⟩ := List.mem_map.1 hp
    exact not_blank_crowdSlug
  · intro p hp q hq hlike
    obtain ⟨i, -, rfl⟩ := List.mem_map.1 hp
    obtain ⟨j, -, rfl⟩ := List.mem_map.1 hq
    change lookupKey (crowdSlug j) = lookupKey (crowdSlug i) at hlike
    rw [lookupKey_crowdSlug, lookupKey_crowdSlug] at hlike
    rw [crowdSlug_injective hlike]
  · exact List.map_subset _ (List.range_subset.2 hn)
  · exact nodup_of_increasing increasing_crowdRecords
  · exact ne_nil_crowdRecords hm

theorem narrows_crowd (hm : 0 < m) (hn : m < n) :
    Narrows (crowd n) ((crowdRecords m).map ProjectRecord.slug) (keptIds (crowdRecords m)) := by
  refine ⟨_, _, readProjects_crowd, ?_, resolve_crowd hm (Nat.le_of_lt hn), ?_, rfl⟩
  · rw [ne_eq, List.map_eq_nil_iff]
    exact ne_nil_crowdRecords hm
  · rw [length_crowdRecords, length_crowdRecords]
    omega

end Scope
end MailSnapshot
