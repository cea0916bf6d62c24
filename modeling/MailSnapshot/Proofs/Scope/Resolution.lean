import MailSnapshot.Proofs.Scope.Stages

/-! What identifiers come down to: the keys of those that are not blank. The order and the spelling
of the identifiers decide at most in which order the kept projects are listed. -/

namespace MailSnapshot.Scope
variable {projects found kept ps : List ProjectRecord} {identifiers others : List String}
  {p q : ProjectRecord} {keep keep' : List Cell} {d : Deletion} {ds : List Deletion}
  {s t : Snapshot} {access : Access} {result : ScopeResult} {totals : Totals}

/-- The keys of the identifiers that are not blank. -/
def keys (identifiers : List String) : List String :=
  (identifiers.map lookupKey).filter (!·.isEmpty)

theorem keys_cons {identifier : String} : keys (identifier :: others) =
    if (lookupKey identifier).isEmpty then keys others
    else lookupKey identifier :: keys others := by
  rw [keys, List.map_cons, List.filter_cons]
  cases (lookupKey identifier).isEmpty <;> rfl

/-- Resolution goes through exactly when each key picks a project. Then each picked project is added
once. -/
theorem resolveFrom_eq_ok_iff : resolveFrom projects found identifiers = .ok kept ↔
    (∀ key ∈ keys identifiers, pick? projects key ≠ none) ∧
      kept = ((keys identifiers).filterMap (pick? projects)).foldl addOnce found := by
  induction identifiers generalizing found with
  | nil => simp [resolveFrom, keys, eq_comm]
  | cons identifier others ih =>
    simp only [resolveFrom, keys_cons]
    split
    · exact ih
    · rw [List.forall_mem_cons]
      cases hpick : pick? projects (lookupKey identifier) with
      | none => simp
      | some p =>
        rw [List.filterMap_cons_some hpick, List.foldl_cons, and_iff_right (Option.some_ne_none p)]
        exact ih

section Once
variable (hp : (projects.map ProjectRecord.id).Nodup)
include hp

/-- Among projects with ids of their own, a project with the same id is the same. -/
theorem mem_addOnce_iff (hf : found ⊆ projects) (hmem : p ∈ projects) :
    q ∈ addOnce found p ↔ q ∈ found ∨ q = p := by
  refine ⟨mem_of_addOnce, ?_⟩
  rintro (hq | rfl)
  · exact subset_addOnce hq
  · have hkeeps : keeps (addOnce found q) q = true := keeps_addOnce
    obtain ⟨k, hk, hid⟩ := keeps_iff.1 hkeeps
    have hthere : k ∈ projects := by
      rcases mem_of_addOnce hk with hfound | rfl
      · exact hf hfound
      · exact hmem
    exact List.inj_on_of_nodup_map hp hthere hmem hid ▸ hk

theorem mem_foldl_addOnce_iff (hf : found ⊆ projects) (hps : ps ⊆ projects) :
    q ∈ ps.foldl addOnce found ↔ q ∈ found ∨ q ∈ ps := by
  induction ps generalizing found with
  | nil => simp
  | cons p ps ih =>
    have hmem : p ∈ projects := hps (by simp)
    have hadd : addOnce found p ⊆ projects := by
      intro r hr
      rcases mem_of_addOnce hr with hr | rfl
      · exact hf hr
      · exact hmem
    rw [List.foldl_cons, ih hadd (List.subset_of_cons_subset hps), mem_addOnce_iff hp hf hmem,
      List.mem_cons, or_assoc]

/-- The projects that are found are those that some key picks. -/
theorem mem_of_resolveFrom_iff (h : resolveFrom projects [] identifiers = .ok kept) :
    q ∈ kept ↔ ∃ key ∈ keys identifiers, pick? projects key = some q := by
  obtain ⟨-, rfl⟩ := resolveFrom_eq_ok_iff.1 h
  have hpicked : (keys identifiers).filterMap (pick? projects) ⊆ projects := by
    intro p hmem
    obtain ⟨key, -, hpick⟩ := List.mem_filterMap.1 hmem
    exact mem_of_pick? hpick
  rw [mem_foldl_addOnce_iff hp (List.nil_subset _) hpicked, List.mem_filterMap]
  simp

/-- Identifiers with the same keys select the same projects. -/
theorem exists_select_of_keys (hi : identifiers ≠ []) (ho : others ≠ [])
    (hkeys : ∀ key, key ∈ keys identifiers ↔ key ∈ keys others)
    (h : select projects identifiers = .ok kept) :
    ∃ kept', select projects others = .ok kept' ∧ kept.Perm kept' := by
  obtain ⟨hsome, ⟨hnone, -⟩ | ⟨-, hresolve⟩⟩ := select_cases h
  · exact absurd hnone hi
  obtain ⟨hfrom, hne⟩ := resolve_eq_ok_iff.1 hresolve
  have hpicks : ∀ key ∈ keys others, pick? projects key ≠ none := fun key hkey =>
    (resolveFrom_eq_ok_iff.1 hfrom).1 key ((hkeys key).2 hkey)
  obtain ⟨kept', hfrom'⟩ : ∃ kept', resolveFrom projects [] others = .ok kept' :=
    ⟨_, resolveFrom_eq_ok_iff.2 ⟨hpicks, rfl⟩⟩
  have hperm : kept.Perm kept' := by
    refine (List.perm_ext_iff_of_nodup
      (List.Nodup.of_map _ (nodup_of_resolveFrom (by simp) hfrom))
      (List.Nodup.of_map _ (nodup_of_resolveFrom (by simp) hfrom'))).2 fun q => ?_
    rw [mem_of_resolveFrom_iff hp hfrom, mem_of_resolveFrom_iff hp hfrom']
    exact exists_congr fun key => and_congr_left fun _ => hkeys key
  have hne' : kept' ≠ [] := fun hnil => hne (List.perm_nil.1 (hnil ▸ hperm))
  refine ⟨kept', ?_, hperm⟩
  rw [select, if_neg hsome, if_neg ho]
  exact resolve_eq_ok_iff.2 ⟨hfrom', hne'⟩

end Once

section Delete
variable (h : keep.Perm keep')
include h

/-- The conditions of the plan ask of the kept ids only whether a cell is among them. -/
theorem doomed_congr (hd : d ∈ plan) (s : Snapshot) :
    d.doomed (.of keep s) = d.doomed (.of keep' s) := by
  have hin : ∀ c : Cell, c.isIn keep = c.isIn keep' := Cell.isIn_congr fun _ => h.mem_iff
  have hout : ∀ c : Cell, c.notIn keep = c.notIn keep' := fun c => congrArg Truth.not (hin c)
  have hof : Lookup.of keep s = { Lookup.of keep' s with keep } := by
    simp only [Lookup.of, hin, hout]
  rw [hof]
  funext r
  induction d, hd using plan_cases <;>
    simp only [orphanLinks, orphanRecipients, orphanMessages, orphanReservations, outerLinks,
      outerSuggestions, outerRecipients, outerMessages, outerReservations, outerAgents,
      outerProjects, Lookup.of, hin, hout]

/-- The text of a deletion says no more of the kept ids than how many they are. -/
theorem execute_congr (hd : d ∈ plan) : d.execute keep = d.execute keep' := by
  funext access s
  rw [Deletion.execute, Deletion.execute, h.length_eq, doomed_congr h hd]

theorem foldlM_run_congr (hd : ds ⊆ plan) : ds.foldlM (fun totals d => d.run keep totals) totals =
    ds.foldlM (fun totals d => d.run keep' totals) totals := by
  induction ds generalizing totals with
  | nil => rfl
  | cons d ds ih =>
    have hrun : d.run keep totals = d.run keep' totals := by
      simp only [Deletion.run, execute_congr h (hd (List.mem_cons_self ..))]
    rw [List.foldlM_cons, List.foldlM_cons, hrun]
    congr 1
    funext after
    exact ih (List.subset_of_cons_subset hd)

theorem deleteUnselected_congr : deleteUnselected keep = deleteUnselected keep' :=
  foldlM_run_congr h (List.Subset.refl _)

end Delete

/-- Where a scope call goes through, so does one with the same keys, and it differs at most in the
order in which it lists the projects. -/
theorem apply_of_keys (hs : s.Strict) (hi : identifiers ≠ []) (ho : others ≠ [])
    (hkeys : ∀ key, key ∈ keys identifiers ↔ key ∈ keys others)
    (h : apply identifiers access s = .ok result t) :
    (result.projects.map ProjectRecord.id).Nodup ∧ ∃ kept', result.projects.Perm kept' ∧
      apply others access s = .ok
        ⟨others, kept', result.removedCount, result.orphansRemoved, result.remaining⟩ t := by
  obtain ⟨projects, kept, hread, hselect, hc, hcases⟩ := apply_outcome h
  have hp := hs.nodup_projects hread
  have hn := nodup_of_select hp hselect
  obtain ⟨kept', hselect', hperm⟩ := exists_select_of_keys hp hi ho hkeys hselect
  have hlength := hperm.length_eq
  obtain ⟨hall, rfl, rfl⟩ | ⟨hsome, totals, hrun, rfl⟩ := hcases
  · refine ⟨hn, kept', hperm, ?_⟩
    rw [apply_run hread, hselect']
    simp only [← hlength, hall, if_true]
    exact untouched_eq_ok_iff.2 ⟨hc, rfl, rfl⟩
  · refine ⟨hn, kept', hperm, ?_⟩
    rw [apply_run hread, hselect']
    simp only [← hlength, hsome, if_false]
    have hids : (keptIds kept).Perm (keptIds kept') := hperm.map _
    rw [deleteUnselected_congr hids] at hrun
    exact planned_eq_ok_iff.2 ⟨totals, hrun, hc, rfl⟩

/-- Two lists of identifiers with the same keys come to the same: blanks around an identifier, its
case, blank identifiers, repetitions and the order make no difference but in the order in which the
kept projects are listed. -/
theorem apply_depends_on_keys (hs : s.Strict) (hi : identifiers ≠ []) (ho : others ≠ [])
    (hkeys : ∀ key, key ∈ keys identifiers ↔ key ∈ keys others) :
    ((∃ result t, apply identifiers access s = .ok result t) ↔
      ∃ result t, apply others access s = .ok result t) ∧
    ∀ result t result' t', apply identifiers access s = .ok result t →
      apply others access s = .ok result' t' →
        t = t' ∧ result.removedCount = result'.removedCount ∧
        result.orphansRemoved = result'.orphansRemoved ∧
        result.remaining = result'.remaining ∧ result.projects.Perm result'.projects ∧
        (result.projects.map ProjectRecord.id).Nodup ∧
        (result'.projects.map ProjectRecord.id).Nodup := by
  refine ⟨⟨?_, ?_⟩, ?_⟩
  · rintro ⟨result, t, h⟩
    obtain ⟨-, _, -, hother⟩ := apply_of_keys hs hi ho hkeys h
    exact ⟨_, t, hother⟩
  · rintro ⟨result, t, h⟩
    obtain ⟨-, _, -, hother⟩ := apply_of_keys hs ho hi (fun key => (hkeys key).symm) h
    exact ⟨_, t, hother⟩
  · intro result t result' t' h h'
    obtain ⟨hn, kept', hperm, hother⟩ := apply_of_keys hs hi ho hkeys h
    cases h'.symm.trans hother
    exact ⟨rfl, rfl, rfl, rfl, hperm, hn, ((hperm.map _).nodup_iff).1 hn⟩

theorem keys_stagingSample (key : String) :
    key ∈ keys ["three", "one"] ↔ key ∈ keys [" ONE", "", "Three", "one"] := by
  have hkeys : keys ["three", "one"] = ["three", "one"] := by decide +kernel
  have hothers : keys [" ONE", "", "Three", "one"] = ["one", "three", "one"] := by decide +kernel
  rw [hkeys, hothers]
  simp only [List.mem_cons, List.not_mem_nil, or_false]
  tauto

theorem narrows_stagingSample_both :
    Narrows stagingSample ["three", "one"] [.integer 3, .integer 1] :=
  ⟨_, _, readProjects_stagingSample, by simp, select_stagingSample, by decide, rfl⟩

theorem apply_respelled_stagingSample :
    stagingSample.Strict ∧ (∀ key, key ∈ keys ["three", "one"] ↔
        key ∈ keys [" ONE", "", "Three", "one"]) ∧
      ∃ result result' t, apply ["three", "one"] .readWrite stagingSample = .ok result t ∧
        apply [" ONE", "", "Three", "one"] .readWrite stagingSample = .ok result' t ∧
          result.projects.Perm result'.projects := by
  obtain ⟨result, h⟩ := apply_of_balanced strict_stagingSample complete_stagingSample rfl
    narrows_stagingSample_both (by decide) (by decide)
  obtain ⟨result', t', h'⟩ := (apply_depends_on_keys strict_stagingSample (by simp) (by simp)
    keys_stagingSample).1.1 ⟨result, _, h⟩
  obtain ⟨rfl, -, -, -, hperm, -⟩ := (apply_depends_on_keys strict_stagingSample (by simp)
    (by simp) keys_stagingSample).2 _ _ _ _ h h'
  exact ⟨strict_stagingSample, keys_stagingSample, result, result', _, h, h', hperm⟩

end MailSnapshot.Scope
