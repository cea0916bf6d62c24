import MailSnapshot.Json.Canonical
import MailSnapshot.Json.Reader
import Mathlib.Algebra.Group.Int.Defs
import Mathlib.Data.List.Induction

/-! Values inside a JSON value, and the values that a reader returns. -/

namespace MailSnapshot.Json
variable {v w : Json} {items : List Json} {entries : List (String × Json)} {k : String} {d : Nat}

/-- Induction over a value and the items and entries in it. -/
@[elab_as_elim]
theorem induction {motive : Json → Prop} (null : motive .null) (bool : ∀ b, motive (.bool b))
    (int : ∀ n, motive (.int n)) (double : ∀ x, motive (.double x)) (str : ∀ s, motive (.str s))
    (arr : ∀ items, (∀ v ∈ items, motive v) → motive (.arr items))
    (obj : ∀ entries, (∀ e ∈ entries, motive e.2) → motive (.obj entries)) (v : Json) :
    motive v :=
  @Json.rec motive (fun items => ∀ v ∈ items, motive v) (fun entries => ∀ e ∈ entries, motive e.2)
    (fun e => motive e.2) null bool int double str arr obj (by simp)
    (fun _ _ hv hvs => List.forall_mem_cons.2 ⟨hv, hvs⟩) (by simp)
    (fun _ _ he hes => List.forall_mem_cons.2 ⟨he, hes⟩) (fun _ _ hv => hv) v

/-- A value is `v` or stands somewhere inside `v`. -/
inductive Within (w : Json) : Json → Prop
  | self : Within w w
  | item {items : List Json} {v : Json} (hv : v ∈ items) (h : Within w v) : Within w (.arr items)
  | entry {entries : List (String × Json)} {e : String × Json} (he : e ∈ entries)
      (h : Within w e.2) : Within w (.obj entries)

/-- The values that a reader returns where at most `d` lists and objects may be inside each
other. -/
inductive Readable : Nat → Json → Prop
  | null {d : Nat} : Readable d .null
  | bool {d : Nat} (b : Bool) : Readable d (.bool b)
  | int {d : Nat} {n : Int} (hlow : -2 ^ 63 ≤ n) (hhigh : n < 2 ^ 64) : Readable d (.int n)
  | double {d : Nat} (x : Binary64) : Readable d (.double x)
  | str {d : Nat} (s : String) : Readable d (.str s)
  | arr {d : Nat} {items : List Json} (h : ∀ v ∈ items, Readable d v) :
    Readable (d + 1) (.arr items)
  | obj {d : Nat} {entries : List (String × Json)} (hkeys : (entries.map Prod.fst).Nodup)
      (h : ∀ e ∈ entries, Readable d e.2) : Readable (d + 1) (.obj entries)

@[simp] theorem sortedItems_eq (items : List Json) : sortedItems items = items.map sorted := by
  induction items with
  | nil => rfl
  | cons v vs ih => rw [sortedItems, ih, List.map_cons]

theorem sortedEntries_cons (e : String × Json) (es : List (String × Json)) :
    sortedEntries (e :: es) = insertEntry e.1 e.2.sorted (sortedEntries es) := rfl

theorem insertEntry_perm (k : String) (v : Json) (es : List (String × Json)) :
    (insertEntry k v es).Perm ((k, v) :: es) := by
  induction es with
  | nil => exact .refl _
  | cons e es ih =>
    rw [insertEntry]
    split
    · exact .refl _
    · exact (ih.cons e).trans (.swap (k, v) e es)

/-- Sorting loses and adds no entry. -/
theorem sortedEntries_perm (es : List (String × Json)) :
    (sortedEntries es).Perm (es.map fun e => (e.1, e.2.sorted)) := by
  induction es with
  | nil => exact .refl _
  | cons e es ih =>
    rw [sortedEntries_cons, List.map_cons]
    exact (insertEntry_perm ..).trans (ih.cons _)

theorem mem_sortedEntries {e : String × Json} :
    e ∈ sortedEntries entries ↔ ∃ f ∈ entries, (f.1, f.2.sorted) = e := by
  rw [(sortedEntries_perm entries).mem_iff, List.mem_map]

theorem Readable.sorted (h : Readable d v) : Readable d v.sorted := by
  induction h with
  | null => exact .null
  | bool b => exact .bool b
  | int hlow hhigh => exact .int hlow hhigh
  | double x => exact .double x
  | str s => exact .str s
  | arr _ ih =>
    rw [Json.sorted, sortedItems_eq]
    refine .arr ?_
    intro w hw
    obtain ⟨v, hv, rfl⟩ := List.mem_map.1 hw
    exact ih v hv
  | obj hkeys _ ih =>
    rw [Json.sorted]
    refine .obj ?_ ?_
    · rw [((sortedEntries_perm _).map Prod.fst).nodup_iff, List.map_map]
      exact hkeys
    · intro e he
      obtain ⟨f, hf, rfl⟩ := mem_sortedEntries.1 he
      exact ih f hf

/-- What is inside a sorted value is the sorting of something inside the value. -/
theorem exists_within_of_sorted (h : Within w v.sorted) : ∃ u, Within u v ∧ w = u.sorted := by
  induction v using induction with
  | null | bool | int | double | str =>
    cases h
    exact ⟨_, .self, rfl⟩
  | arr items ih =>
    rw [sorted, sortedItems_eq] at h
    cases h with
    | self => exact ⟨.arr items, .self, by rw [sorted, sortedItems_eq]⟩
    | item hv h =>
      obtain ⟨x, hx, rfl⟩ := List.mem_map.1 hv
      obtain ⟨u, hu, rfl⟩ := ih x hx h
      exact ⟨u, .item hx hu, rfl⟩
  | obj entries ih =>
    rw [sorted] at h
    cases h with
    | self => exact ⟨.obj entries, .self, rfl⟩
    | entry he h =>
      obtain ⟨f, hf, rfl⟩ := mem_sortedEntries.1 he
      obtain ⟨u, hu, rfl⟩ := ih f hf h
      exact ⟨u, .entry hf hu, rfl⟩

section Reader
variable {α : Type} {item : List Char → Option (α × List Char)} {close : Char} {bound n : Nat}
  {s r : List Char} {xs : List α} {holds : α → Prop}

theorem forall_of_readItems (hitem : ∀ s x r, item s = some (x, r) → holds x)
    (h : readItems item close n s = some (xs, r)) : ∀ x ∈ xs, holds x := by
  induction n generalizing s xs r with
  | zero => cases h
  | succ n ih =>
    rw [readItems] at h
    split at h
    · cases h
    · rename_i x r' hx
      split at h
      · cases h
      · split at h
        · obtain ⟨⟨ys, _⟩, hys, heq⟩ := Option.map_eq_some_iff.1 h
          cases heq
          exact List.forall_mem_cons.2 ⟨hitem _ _ _ hx, ih hys⟩
        · split at h
          · cases h
            exact List.forall_mem_cons.2 ⟨hitem _ _ _ hx, by simp⟩
          · cases h

theorem forall_of_readBlock (hitem : ∀ s x r, item s = some (x, r) → holds x)
    (h : readBlock item close bound s = some (xs, r)) : ∀ x ∈ xs, holds x := by
  unfold readBlock at h
  split at h
  · cases h
  · split at h
    · cases h
      simp
    · exact forall_of_readItems hitem h

theorem holds_of_readEntry {value : List Char → Option (Json × List Char)} {e : String × Json}
    {holds : Json → Prop} (hvalue : ∀ s v r, value s = some (v, r) → holds v)
    (h : readEntry value s = some (e, r)) : holds e.2 := by
  unfold readEntry at h
  split at h
  · obtain ⟨⟨key, s₁⟩, _, h⟩ := Option.bind_eq_some_iff.1 h
    dsimp only at h
    split at h
    · obtain ⟨⟨v, s₂⟩, hv, h⟩ := Option.bind_eq_some_iff.1 h
      cases h
      exact hvalue _ _ _ hv
    · cases h
  · cases h

theorem keys_put (k : String) (v : Json) (es : List (String × Json)) :
    (put k v es).map Prod.fst =
      if k ∈ es.map Prod.fst then es.map Prod.fst else es.map Prod.fst ++ [k] := by
  induction es with
  | nil => rfl
  | cons e es ih =>
    rw [put]
    by_cases hk : k = e.1
    · simp [hk]
    · rw [if_neg hk, List.map_cons, ih]
      by_cases hmem : k ∈ es.map Prod.fst <;> simp_all

theorem snd_mem_put {e : String × Json} {es : List (String × Json)} (h : e ∈ put k v es) :
    e.2 = v ∨ ∃ f ∈ es, f.2 = e.2 := by
  induction es with
  | nil =>
    obtain rfl := List.mem_singleton.1 h
    exact .inl rfl
  | cons f es ih =>
    rw [put] at h
    split at h
    · rcases List.mem_cons.1 h with rfl | h
      · exact .inl rfl
      · exact .inr ⟨e, List.mem_cons_of_mem _ h, rfl⟩
    · rcases List.mem_cons.1 h with rfl | h
      · exact .inr ⟨_, List.mem_cons_self .., rfl⟩
      · rcases ih h with heq | ⟨g, hg, heq⟩
        · exact .inl heq
        · exact .inr ⟨g, List.mem_cons_of_mem _ hg, heq⟩

theorem nodup_put {es : List (String × Json)} (h : (es.map Prod.fst).Nodup) :
    ((put k v es).map Prod.fst).Nodup := by
  rw [keys_put]
  split
  · exact h
  · rename_i hk
    rw [List.nodup_append]
    refine ⟨h, by simp, ?_⟩
    rintro a ha b hb rfl
    exact hk (List.mem_singleton.1 hb ▸ ha)

theorem ofEntries_concat (es : List (String × Json)) (e : String × Json) :
    ofEntries (es ++ [e]) = put e.1 e.2 (ofEntries es) := by
  simp [ofEntries]

theorem nodup_ofEntries (es : List (String × Json)) : ((ofEntries es).map Prod.fst).Nodup := by
  induction es using List.reverseRecOn with
  | nil => simp [ofEntries]
  | append_singleton es e ih =>
    rw [ofEntries_concat]
    exact nodup_put ih

theorem snd_mem_ofEntries {e : String × Json} {es : List (String × Json)}
    (h : e ∈ ofEntries es) : ∃ f ∈ es, f.2 = e.2 := by
  induction es using List.reverseRecOn generalizing e with
  | nil => simp [ofEntries] at h
  | append_singleton es f ih =>
    rw [ofEntries_concat] at h
    rcases snd_mem_put h with heq | ⟨g, hg, heq⟩
    · exact ⟨f, by simp, heq.symm⟩
    · obtain ⟨x, hx, hxg⟩ := ih hg
      exact ⟨x, List.mem_append_left _ hx, hxg.trans heq⟩

theorem put_of_notMem {es : List (String × Json)} (h : k ∉ es.map Prod.fst) :
    put k v es = es ++ [(k, v)] := by
  induction es with
  | nil => rfl
  | cons e es ih =>
    rw [List.map_cons, List.mem_cons, not_or] at h
    rw [put, if_neg h.1, ih h.2, List.cons_append]

/-- Entries with different keys stay as they are. -/
theorem ofEntries_eq {es : List (String × Json)} (h : (es.map Prod.fst).Nodup) :
    ofEntries es = es := by
  induction es using List.reverseRecOn with
  | nil => rfl
  | append_singleton es e ih =>
    rw [List.map_append, List.nodup_append] at h
    rw [ofEntries_concat, ih h.1, put_of_notMem]
    intro hmem
    exact h.2.2 _ hmem _ (by simp) rfl

theorem readable_of_value {t : NumberText} (h : t.value = some v) : Readable d v := by
  unfold NumberText.value at h
  dsimp only at h
  have hhigh : Nat.pow 2 64 = 18446744073709551616 := rfl
  have hlow : Nat.pow 2 63 = 9223372036854775808 := rfl
  split at h
  · rename_i hn
    cases h
    simp only [Bool.and_eq_true, decide_eq_true_eq] at hn
    exact .int (by omega) (by omega)
  · split at h
    · rename_i hn
      cases h
      simp only [Bool.and_eq_true, decide_eq_true_eq] at hn
      exact .int (by omega) (by omega)
    · obtain ⟨x, _, rfl⟩ := Option.map_eq_some_iff.1 h
      exact .double x

theorem readable_of_readNumber (h : readNumber s = some (v, r)) : Readable d v := by
  obtain ⟨⟨t, _⟩, _, h⟩ := Option.bind_eq_some_iff.1 h
  obtain ⟨w, hw, h⟩ := Option.bind_eq_some_iff.1 h
  cases h
  exact readable_of_value hw

theorem readable_of_readValue (h : readValue bound d s = some (v, r)) : Readable d v := by
  induction d using Nat.strongRecOn generalizing s v r with
  | _ d ih =>
    unfold readValue at h
    split at h
    · obtain ⟨⟨t, _⟩, _, heq⟩ := Option.map_eq_some_iff.1 h
      cases heq
      exact .str _
    · obtain ⟨⟨items, _⟩, hitems, heq⟩ := Option.map_eq_some_iff.1 h
      cases heq
      exact .arr (forall_of_readBlock (fun _ _ _ => ih _ (Nat.lt_succ_self _)) hitems)
    · obtain ⟨⟨es, _⟩, hes, heq⟩ := Option.map_eq_some_iff.1 h
      cases heq
      have hall : ∀ e ∈ es, Readable _ e.2 := forall_of_readBlock
        (fun _ _ _ => holds_of_readEntry fun _ _ _ => ih _ (Nat.lt_succ_self _)) hes
      refine .obj (nodup_ofEntries es) ?_
      intro e he
      obtain ⟨f, hf, heq⟩ := snd_mem_ofEntries he
      rw [← heq]
      exact hall f hf
    · cases h
      exact .null
    · cases h
      exact .bool true
    · cases h
      exact .bool false
    · exact readable_of_readNumber h

theorem readable_of_parse {text : String} (h : parse text = some v) : Readable maxDepth v := by
  unfold parse read at h
  split at h
  · rename_i hread
    split at h
    · cases h
      exact readable_of_readValue hread
    · cases h
  · cases h

end Reader
end MailSnapshot.Json
