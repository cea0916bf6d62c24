import MailSnapshot.Proofs.Scope.Resolution
import Mathlib.Data.List.DropRight

/-! Which projects a list of identifiers names, said without the search for them. An identifier
picks the lowest project with its slug, and only where no slug is alike the lowest one with its
human key. Resolution lists the picked projects in the order in which they are first picked, and it
stops at the first identifier that picks nothing. -/

namespace MailSnapshot

namespace Text
variable {before cs : List Char} {s : String}

/-- Nothing is left of blanks, and of nothing else. -/
theorem trimChars_eq_nil_iff : trimChars cs = [] ↔ ∀ c ∈ cs, isBlank c = true := by
  rw [trimChars, List.reverse_eq_nil_iff, List.dropWhile_eq_nil_iff]
  simp only [List.mem_reverse]
  rw [← List.dropWhile_eq_nil_iff, List.dropWhile_idempotent, List.dropWhile_eq_nil_iff]

theorem lowerChar_ne_nil {c : Char} : lowerChar c ≠ [] := by
  unfold lowerChar
  split
  · simp
  · split <;> simp

theorem lowercaseAfter_eq_nil_iff : lowercaseAfter before cs = [] ↔ cs = [] := by
  cases cs with
  | nil => simp [lowercaseAfter]
  | cons c rest =>
    simp only [lowercaseAfter, List.append_eq_nil_iff, reduceCtorEq, iff_false, not_and]
    intro h
    split at h
    · simp at h
    · exact absurd h lowerChar_ne_nil

end Text

namespace Scope
variable {projects found kept : List ProjectRecord} {p q : ProjectRecord} {identifier : String}
  {seen rest identifiers : List String} {e : Failure}

/-- An identifier of blanks only. -/
def Blank (identifier : String) : Prop := ∀ c ∈ identifier.toList, Text.isBlank c = true

/-- Of the projects that pass a test, `p` has the lowest id. -/
def Lowest (projects : List ProjectRecord) (test : ProjectRecord → Prop) (p : ProjectRecord) :
    Prop :=
  p ∈ projects ∧ test p ∧ ∀ q ∈ projects, test q → p.id ≤ q.id

/-- An identifier picks the lowest project with its slug, and where no slug is alike the lowest one
with its human key. -/
def Picks (projects : List ProjectRecord) (identifier : String) (p : ProjectRecord) : Prop :=
  Lowest projects (fun q => lookupKey q.slug = lookupKey identifier) p ∨
    (∀ q ∈ projects, lookupKey q.slug ≠ lookupKey identifier) ∧
      Lowest projects (fun q => lookupKey q.humanKey = lookupKey identifier) p

/-- One of the identifiers, not a blank one, picks the project. -/
def Named (projects : List ProjectRecord) (identifiers : List String) (p : ProjectRecord) : Prop :=
  ∃ identifier ∈ identifiers, ¬ Blank identifier ∧ Picks projects identifier p

/-- When `p` is first picked, `q` has not been picked yet. -/
def NamedBefore (projects : List ProjectRecord) (identifiers : List String)
    (p q : ProjectRecord) : Prop :=
  ∃ earlier, earlier <+: identifiers ∧ Named projects earlier p ∧ ¬ Named projects earlier q

/-- An identifier that should pick a project and picks none. -/
def Unknown (projects : List ProjectRecord) (identifier : String) : Prop :=
  ¬ Blank identifier ∧ ∀ p, ¬ Picks projects identifier p

/-- The first of the identifiers that should pick a project and picks none. -/
def FirstUnknown (projects : List ProjectRecord) (identifiers : List String)
    (identifier : String) : Prop :=
  ∃ earlier later, identifiers = earlier ++ identifier :: later ∧ Unknown projects identifier ∧
    ∀ other ∈ earlier, ¬ Unknown projects other

/-- The projects found so far are those that the identifiers seen so far name, each once, as they
are first named. -/
structure Listed (projects : List ProjectRecord) (seen : List String)
    (found : List ProjectRecord) : Prop where
  nodup : (found.map ProjectRecord.id).Nodup
  mem_iff : ∀ p, p ∈ found ↔ Named projects seen p
  inOrder : found.Pairwise (NamedBefore projects seen)

instance : Decidable (Blank identifier) :=
  List.decidableBAll (fun c => Text.isBlank c = true) identifier.toList

instance (test : ProjectRecord → Prop) [DecidablePred test] : Decidable (Lowest projects test p) :=
  inferInstanceAs (Decidable (_ ∧ _ ∧ _))

instance : Decidable (Picks projects identifier p) :=
  inferInstanceAs (Decidable (_ ∨ _ ∧ _))

theorem isEmpty_lookupKey_iff : (lookupKey identifier).isEmpty = true ↔ Blank identifier := by
  rw [String.isEmpty_iff, lookupKey, Text.lowercase, String.ofList_eq_empty_iff,
    Text.lowercaseAfter_eq_nil_iff, Text.trim, String.toList_ofList, Text.trimChars_eq_nil_iff]
  exact Iff.rfl

theorem named_append_iff : Named projects (seen ++ rest) p ↔
    Named projects seen p ∨ Named projects rest p := by
  simp only [Named, List.mem_append, or_and_right, exists_or]

theorem named_singleton_iff : Named projects [identifier] p ↔
    ¬ Blank identifier ∧ Picks projects identifier p := by
  simp [Named]

theorem Picks.mem (h : Picks projects identifier p) : p ∈ projects := by
  rcases h with h | ⟨_, h⟩
  · exact h.1
  · exact h.1

instance : Decidable (∃ p, Picks projects identifier p) :=
  decidable_of_iff (∃ p ∈ projects, Picks projects identifier p)
    ⟨fun ⟨p, _, h⟩ => ⟨p, h⟩, fun ⟨p, h⟩ => ⟨p, h.mem, h⟩⟩

instance : Decidable (Unknown projects identifier) :=
  decidable_of_iff (¬ Blank identifier ∧ ¬ ∃ p, Picks projects identifier p)
    (and_congr_right fun _ => not_exists)

theorem NamedBefore.append (h : NamedBefore projects seen p q) :
    NamedBefore projects (seen ++ rest) p q := by
  obtain ⟨earlier, hprefix, hp, hq⟩ := h
  exact ⟨earlier, hprefix.trans (List.prefix_append seen rest), hp, hq⟩

theorem listed_nil : Listed projects [] [] :=
  ⟨List.nodup_nil, by simp [Named], .nil⟩

theorem Listed.subset (h : Listed projects seen found) : found ⊆ projects := by
  intro p hp
  obtain ⟨_, _, _, hpick⟩ := (h.mem_iff p).1 hp
  exact hpick.mem

theorem Listed.eq_nil_iff (h : Listed projects seen found)
    (hknown : ∀ identifier ∈ seen, ¬ Unknown projects identifier) :
    found = [] ↔ ∀ identifier ∈ seen, Blank identifier := by
  constructor
  · rintro rfl identifier hi
    by_contra hblank
    refine hknown identifier hi ⟨hblank, ?_⟩
    intro p hpick
    have hmem := (h.mem_iff p).2 ⟨identifier, hi, hblank, hpick⟩
    cases hmem
  · intro hall
    refine List.eq_nil_iff_forall_not_mem.2 ?_
    intro p hmem
    obtain ⟨identifier, hi, hblank, -⟩ := (h.mem_iff p).1 hmem
    exact hblank (hall identifier hi)

theorem Listed.pass (h : Listed projects seen found) (hi : Blank identifier) :
    Listed projects (seen ++ [identifier]) found where
  nodup := h.nodup
  mem_iff := by
    intro p
    rw [h.mem_iff, named_append_iff, named_singleton_iff]
    simp [hi]
  inOrder := h.inOrder.imp NamedBefore.append

theorem blank_or_picks_or_unknown (projects : List ProjectRecord) (identifier : String) :
    Blank identifier ∨ (¬ Blank identifier ∧ ∃ p, Picks projects identifier p) ∨
      Unknown projects identifier := by
  by_cases hi : Blank identifier
  · exact .inl hi
  by_cases hpick : ∃ p, Picks projects identifier p
  · exact .inr (.inl ⟨hi, hpick⟩)
  · exact .inr (.inr ⟨hi, not_exists.1 hpick⟩)

theorem not_unknown_iff : ¬ Unknown projects identifier ↔
    (¬ Blank identifier → ∃ p, Picks projects identifier p) := by
  simp [Unknown]

theorem Blank.not_unknown (h : Blank identifier) : ¬ Unknown projects identifier :=
  fun hu => hu.1 h

theorem Picks.not_unknown (h : Picks projects identifier p) : ¬ Unknown projects identifier :=
  fun hu => hu.2 p h

theorem firstUnknown_cons_iff {other : String} :
    FirstUnknown projects (identifier :: rest) other ↔
      (Unknown projects identifier ∧ other = identifier) ∨
        ¬ Unknown projects identifier ∧ FirstUnknown projects rest other := by
  constructor
  · rintro ⟨_ | ⟨first, earlier⟩, later, heq, hu, hearlier⟩
    · obtain ⟨rfl, rfl⟩ := List.cons.inj heq
      exact .inl ⟨hu, rfl⟩
    · obtain ⟨rfl, rfl⟩ := List.cons.inj heq
      exact .inr ⟨hearlier _ (by simp), earlier, later, rfl, hu,
        fun o ho => hearlier o (by simp [ho])⟩
  · rintro (⟨hu, rfl⟩ | ⟨hknown, earlier, later, rfl, hu, hearlier⟩)
    · exact ⟨[], rest, rfl, hu, by simp⟩
    · exact ⟨identifier :: earlier, later, rfl, hu, List.forall_mem_cons.2 ⟨hknown, hearlier⟩⟩

theorem resolve_eq_error_iff : resolve projects identifiers = .error e ↔
    resolveFrom projects [] identifiers = .error e ∨
      resolveFrom projects [] identifiers = .ok [] ∧ e = .noMatchingProjects := by
  rw [resolve, bind_error_iff]
  refine or_congr_right ?_
  constructor
  · rintro ⟨found, hfound, h⟩
    cases found with
    | nil =>
      cases h
      exact ⟨hfound, rfl⟩
    | cons p ps => cases h
  · rintro ⟨hfound, rfl⟩
    exact ⟨[], hfound, rfl⟩

section Ordered
variable (hp : projects.Pairwise fun p q => p.id < q.id)
include hp

theorem nodup_of_increasing : (projects.map ProjectRecord.id).Nodup := by
  rw [List.Nodup, List.pairwise_map]
  exact hp.imp fun h => Int.ne_of_lt h

/-- The first project that passes is the lowest one, as the projects stand in the order of ids. -/
theorem find?_eq_some_iff_lowest {test : ProjectRecord → Bool} :
    projects.find? test = some p ↔ Lowest projects (fun q => test q = true) p := by
  rw [List.find?_eq_some_iff_append]
  constructor
  · rintro ⟨htest, before, after, rfl, hbefore⟩
    refine ⟨by simp, htest, ?_⟩
    intro q hq hqtest
    obtain ⟨-, hafter, -⟩ := List.pairwise_append.1 hp
    rcases List.mem_append.1 hq with hq | hq
    · exact absurd hqtest (by simpa using hbefore q hq)
    rcases List.mem_cons.1 hq with rfl | hq
    · exact Int.le_refl _
    · exact Int.le_of_lt ((List.pairwise_cons.1 hafter).1 q hq)
  · rintro ⟨hmem, htest, hlowest⟩
    obtain ⟨before, after, rfl⟩ := List.append_of_mem hmem
    refine ⟨htest, before, after, rfl, ?_⟩
    intro q hq
    have hlt : q.id < p.id := (List.pairwise_append.1 hp).2.2 q hq p (by simp)
    have hnot : ¬ test q = true := by
      intro hqtest
      have := hlowest q (by simp [hq]) hqtest
      omega
    simpa using hnot

theorem pick?_eq_some_iff_picks :
    pick? projects (lookupKey identifier) = some p ↔ Picks projects identifier p := by
  rw [pick?, Option.orElse_eq_orElse, Option.orElse_eq_or, Option.or_eq_some_iff,
    find?_eq_some_iff_lowest hp, find?_eq_some_iff_lowest hp, List.find?_eq_none]
  simp [Picks]

theorem pick?_eq_none_iff_picks :
    pick? projects (lookupKey identifier) = none ↔ ∀ p, ¬ Picks projects identifier p := by
  simp only [Option.eq_none_iff_forall_ne_some, ne_eq, pick?_eq_some_iff_picks hp]

/-- An identifier picks one project at most. -/
theorem Picks.unique (h : Picks projects identifier p) (hq : Picks projects identifier q) :
    p = q := by
  rw [← pick?_eq_some_iff_picks hp] at h hq
  exact Option.some.inj (h.symm.trans hq)

omit hp in
theorem resolveFrom_of_blank (hi : Blank identifier) :
    resolveFrom projects found (identifier :: rest) = resolveFrom projects found rest := by
  simp only [resolveFrom, if_pos (isEmpty_lookupKey_iff.2 hi)]

theorem resolveFrom_of_picks (hi : ¬ Blank identifier) (hpick : Picks projects identifier p) :
    resolveFrom projects found (identifier :: rest) =
      resolveFrom projects (addOnce found p) rest := by
  have hkey := mt isEmpty_lookupKey_iff.1 hi
  simp only [resolveFrom, if_neg hkey, (pick?_eq_some_iff_picks hp).2 hpick]

theorem resolveFrom_of_unknown (hi : Unknown projects identifier) :
    resolveFrom projects found (identifier :: rest) = .error (.identifierNotFound identifier) := by
  have hkey := mt isEmpty_lookupKey_iff.1 hi.1
  simp only [resolveFrom, if_neg hkey, (pick?_eq_none_iff_picks hp).2 hi.2]

/-- One more identifier lists the project that it picks, unless that one is listed already. -/
theorem Listed.addOnce (h : Listed projects seen found) (hi : ¬ Blank identifier)
    (hpick : Picks projects identifier p) :
    Listed projects (seen ++ [identifier]) (addOnce found p) where
  nodup := nodup_addOnce h.nodup
  mem_iff := by
    intro q
    rw [mem_addOnce_iff (nodup_of_increasing hp) h.subset hpick.mem, h.mem_iff, named_append_iff,
      named_singleton_iff]
    refine or_congr_right ?_
    constructor
    · rintro rfl
      exact ⟨hi, hpick⟩
    · rintro ⟨-, hq⟩
      exact hq.unique hp hpick
  inOrder := by
    have hfound : found.Pairwise (NamedBefore projects (seen ++ [identifier])) :=
      h.inOrder.imp NamedBefore.append
    unfold Scope.addOnce
    split
    · exact hfound
    · rename_i hnew
      refine List.pairwise_append.2 ⟨hfound, List.pairwise_singleton _ _, ?_⟩
      intro q hq r hr
      obtain rfl := List.mem_singleton.1 hr
      refine ⟨seen, List.prefix_append _ _, (h.mem_iff q).1 hq, ?_⟩
      intro hnamed
      exact hnew (keeps_iff.2 ⟨r, (h.mem_iff r).2 hnamed, rfl⟩)

/-- A run over the other identifiers lists what all of them name. -/
theorem Listed.resolveFrom (h : Listed projects seen found)
    (hrun : resolveFrom projects found rest = .ok kept) : Listed projects (seen ++ rest) kept := by
  induction rest generalizing seen found with
  | nil =>
    cases hrun
    rwa [List.append_nil]
  | cons identifier rest ih =>
    rw [List.append_cons]
    rcases blank_or_picks_or_unknown projects identifier with hi | ⟨hi, p, hpick⟩ | hi
    · rw [resolveFrom_of_blank hi] at hrun
      exact ih (h.pass hi) hrun
    · rw [resolveFrom_of_picks hp hi hpick] at hrun
      exact ih (h.addOnce hp hi hpick) hrun
    · rw [resolveFrom_of_unknown hp hi] at hrun
      cases hrun

theorem exists_resolveFrom_iff : (∃ kept, resolveFrom projects found identifiers = .ok kept) ↔
    ∀ identifier ∈ identifiers, ¬ Unknown projects identifier := by
  induction identifiers generalizing found with
  | nil => simp [Scope.resolveFrom]
  | cons identifier rest ih =>
    rw [List.forall_mem_cons]
    rcases blank_or_picks_or_unknown projects identifier with hi | ⟨hi, p, hpick⟩ | hi
    · rw [resolveFrom_of_blank hi, ih, and_iff_right hi.not_unknown]
    · rw [resolveFrom_of_picks hp hi hpick, ih, and_iff_right hpick.not_unknown]
    · rw [resolveFrom_of_unknown hp hi]
      simp [hi]

/-- A run stops at the first identifier that should pick a project and picks none. -/
theorem resolveFrom_eq_error_iff : resolveFrom projects found identifiers = .error e ↔
    ∃ identifier, FirstUnknown projects identifiers identifier ∧
      e = .identifierNotFound identifier := by
  induction identifiers generalizing found with
  | nil => simp [Scope.resolveFrom, FirstUnknown]
  | cons identifier rest ih =>
    simp only [firstUnknown_cons_iff]
    rcases blank_or_picks_or_unknown projects identifier with hi | ⟨hi, p, hpick⟩ | hi
    · simp [resolveFrom_of_blank hi, ih, hi.not_unknown]
    · simp [resolveFrom_of_picks hp hi hpick, ih, hpick.not_unknown]
    · simp [resolveFrom_of_unknown hp hi, hi, eq_comm]

theorem listed_of_resolveFrom (h : resolveFrom projects [] identifiers = .ok kept) :
    Listed projects identifiers kept :=
  listed_nil.resolveFrom hp h

theorem exists_resolve_iff : (∃ kept, resolve projects identifiers = .ok kept) ↔
    (∃ identifier ∈ identifiers, ¬ Blank identifier) ∧
      ∀ identifier ∈ identifiers, ¬ Unknown projects identifier := by
  constructor
  · rintro ⟨kept, h⟩
    obtain ⟨hfrom, hne⟩ := resolve_eq_ok_iff.1 h
    have hknown := (exists_resolveFrom_iff hp).1 ⟨kept, hfrom⟩
    rw [ne_eq, (listed_of_resolveFrom hp hfrom).eq_nil_iff hknown] at hne
    exact ⟨by simpa using hne, hknown⟩
  · rintro ⟨hsome, hknown⟩
    obtain ⟨kept, hfrom⟩ : ∃ kept, resolveFrom projects [] identifiers = .ok kept :=
      (exists_resolveFrom_iff hp).2 hknown
    refine ⟨kept, resolve_eq_ok_iff.2 ⟨hfrom, ?_⟩⟩
    rw [ne_eq, (listed_of_resolveFrom hp hfrom).eq_nil_iff hknown]
    simpa using hsome

theorem resolve_eq_noMatchingProjects_iff :
    resolve projects identifiers = .error .noMatchingProjects ↔
      ∀ identifier ∈ identifiers, Blank identifier := by
  rw [resolve_eq_error_iff, resolveFrom_eq_error_iff hp]
  constructor
  · rintro (⟨_, -, h⟩ | ⟨hfrom, -⟩)
    · cases h
    · have hknown := (exists_resolveFrom_iff hp).1 ⟨[], hfrom⟩
      exact ((listed_of_resolveFrom hp hfrom).eq_nil_iff hknown).1 rfl
  · intro hall
    have hknown : ∀ identifier ∈ identifiers, ¬ Unknown projects identifier :=
      fun identifier hi => (hall identifier hi).not_unknown
    obtain ⟨kept, hfrom⟩ : ∃ kept, resolveFrom projects [] identifiers = .ok kept :=
      (exists_resolveFrom_iff hp).2 hknown
    obtain rfl := ((listed_of_resolveFrom hp hfrom).eq_nil_iff hknown).2 hall
    exact .inr ⟨hfrom, rfl⟩

omit hp in
/-- A project whose slug is like no other one is picked by its slug. -/
theorem picks_slug (hmem : p ∈ projects)
    (halone : ∀ q ∈ projects, lookupKey q.slug = lookupKey p.slug → q = p) :
    Picks projects p.slug p := by
  refine .inl ⟨hmem, rfl, ?_⟩
  intro q hq hlike
  exact Int.le_of_eq (congrArg ProjectRecord.id (halone q hq hlike).symm)

section Slugs
variable (hblank : ∀ p ∈ projects, ¬ Blank p.slug)
  (halone : ∀ p ∈ projects, ∀ q ∈ projects, lookupKey q.slug = lookupKey p.slug → q = p)
include hblank halone

theorem resolveFrom_slugs (hsub : kept ⊆ projects)
    (hnew : ((found ++ kept).map ProjectRecord.id).Nodup) :
    resolveFrom projects found (kept.map ProjectRecord.slug) = .ok (found ++ kept) := by
  induction kept generalizing found with
  | nil => simp [resolveFrom]
  | cons p rest ih =>
    have hmem : p ∈ projects := hsub (List.mem_cons_self ..)
    have hadd : Scope.addOnce found p = found ++ [p] := by
      rw [Scope.addOnce, if_neg]
      intro hany
      obtain ⟨q, hq, hid⟩ := List.any_eq_true.1 hany
      rw [List.map_append, List.nodup_append] at hnew
      exact hnew.2.2 q.id (List.mem_map_of_mem hq) p.id (by simp) (by simpa using hid)
    rw [List.append_cons] at hnew ⊢
    rw [List.map_cons, resolveFrom_of_picks hp (hblank p hmem) (picks_slug hmem (halone p hmem)),
      hadd]
    exact ih (List.subset_of_cons_subset hsub) hnew

/-- Where no slug is like another one, projects named by their slugs are selected as they are
named. -/
theorem resolve_slugs (hsub : kept ⊆ projects) (hnew : (kept.map ProjectRecord.id).Nodup)
    (hne : kept ≠ []) : resolve projects (kept.map ProjectRecord.slug) = .ok kept :=
  resolve_eq_ok_iff.2 ⟨resolveFrom_slugs hp hblank halone hsub hnew, hne⟩

end Slugs
end Ordered

/-- Resolution goes through exactly when some identifier is not blank and each such identifier picks
a project. It then lists the picked projects, each once, as they are first picked. It fails with the
first identifier that should pick a project and picks none, as it was given, and for want of
identifiers exactly when all of them are blank. -/
theorem resolve_follows_picks (hp : projects.Pairwise fun p q => p.id < q.id) :
    ((∃ kept, resolve projects identifiers = .ok kept) ↔
      (∃ identifier ∈ identifiers, ¬ Blank identifier) ∧
        ∀ identifier ∈ identifiers, ¬ Blank identifier → ∃ p, Picks projects identifier p) ∧
    (∀ kept, resolve projects identifiers = .ok kept →
      (kept.map ProjectRecord.id).Nodup ∧
      (∀ p, p ∈ kept ↔
        ∃ identifier ∈ identifiers, ¬ Blank identifier ∧ Picks projects identifier p) ∧
      kept.Pairwise (NamedBefore projects identifiers)) ∧
    (∀ identifier, resolve projects identifiers = .error (.identifierNotFound identifier) ↔
      FirstUnknown projects identifiers identifier) ∧
    (resolve projects identifiers = .error .noMatchingProjects ↔
      ∀ identifier ∈ identifiers, Blank identifier) := by
  refine ⟨?_, ?_, ?_, resolve_eq_noMatchingProjects_iff hp⟩
  · simp only [exists_resolve_iff hp, not_unknown_iff]
  · intro kept h
    have hkept := listed_of_resolveFrom hp (resolve_eq_ok_iff.1 h).1
    exact ⟨hkept.nodup, hkept.mem_iff, hkept.inOrder⟩
  · intro identifier
    rw [resolve_eq_error_iff, resolveFrom_eq_error_iff hp]
    simp

/-- Projects with slugs that are alike and with a human key that is another's slug. -/
def crossingSample : List ProjectRecord :=
  [⟨2, " Shared", "/one"⟩, ⟨3, "other", "SHARED"⟩, ⟨7, "shared ", "Other"⟩, ⟨9, "", "/nine"⟩]

example : (resolve crossingSample ["/NINE ", "shared", "/one"]).map (List.map ProjectRecord.id) =
    .ok [9, 2] := by
  decide +kernel

theorem resolve_crossingSample :
    crossingSample.Pairwise (fun p q => p.id < q.id) ∧
    (∃ kept, resolve crossingSample ["\t", "/NINE ", "shared", "", "/one"] = .ok kept) ∧
    resolve crossingSample ["other", " ", "gone ", "lost"] = .error (.identifierNotFound "gone ") ∧
    resolve crossingSample ["", " \t"] = .error .noMatchingProjects := by
  have hp : crossingSample.Pairwise fun p q => p.id < q.id := by decide
  refine ⟨hp, (resolve_follows_picks hp).1.2 ⟨by decide, by decide +kernel⟩,
    ((resolve_follows_picks hp).2.2.1 _).2 ?_, (resolve_follows_picks hp).2.2.2.2 (by decide)⟩
  exact ⟨["other", " "], ["lost"], rfl, by decide +kernel, by decide +kernel⟩

end Scope
end MailSnapshot
