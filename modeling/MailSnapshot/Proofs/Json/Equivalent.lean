import MailSnapshot.Proofs.Json.CanonicalForm
import MailSnapshot.Proofs.Json.Layout

/-! Values that have one canonical text: the entries of objects may stand in another order, and a
double may be another one that is written alike. -/

namespace MailSnapshot.Json
variable {u v w : Json} {items vs ws : List Json} {entries es fs : List (String × Json)}
  {k : String}

theorem keyed_of_leaf (h : v.form ≠ .arr ∧ v.form ≠ .obj) : v.Keyed := by
  intro entries hentries
  cases hentries with
  | self => exact absurd rfl h.2
  | item => exact absurd rfl h.1
  | entry => exact absurd rfl h.2

theorem keyed_arr : (arr items).Keyed ↔ ∀ v ∈ items, v.Keyed := by
  constructor
  · intro h v hv entries hentries
    exact h entries (.item hv hentries)
  · intro h entries hentries
    cases hentries with
    | item hv hentries => exact h _ hv entries hentries

theorem keyed_obj :
    (obj entries).Keyed ↔ (entries.map Prod.fst).Nodup ∧ ∀ e ∈ entries, e.2.Keyed := by
  constructor
  · intro h
    refine ⟨h entries .self, ?_⟩
    intro e he es hes
    exact h es (.entry he hes)
  · rintro ⟨hkeys, h⟩ es hes
    cases hes with
    | self => exact hkeys
    | entry he hes => exact h _ he es hes

section Sorted
variable {α : Type} (g : Json → α)

/-- Where an entry goes depends on the keys alone. -/
theorem map_insertEntry (hvw : g v = g w)
    (h : es.map (fun e => (e.1, g e.2)) = fs.map fun e => (e.1, g e.2)) :
    (insertEntry k v es).map (fun e => (e.1, g e.2)) =
      (insertEntry k w fs).map fun e => (e.1, g e.2) := by
  induction es generalizing fs with
  | nil =>
    obtain rfl := List.map_eq_nil_iff.1 h.symm
    simp [insertEntry, hvw]
  | cons e es ih =>
    cases fs with
    | nil => cases h
    | cons f fs =>
      obtain ⟨hfirst, hrest⟩ := List.cons_eq_cons.1 h
      obtain ⟨hkey, hvalue⟩ := Prod.mk.inj hfirst
      rw [insertEntry, insertEntry, ← hkey]
      split
      · simp [hvw, hkey, hvalue, hrest]
      · simp [hkey, hvalue, ih hrest]

theorem map_sortedEntries
    (h : es.map (fun e => (e.1, g e.2.sorted)) = fs.map fun e => (e.1, g e.2.sorted)) :
    (sortedEntries es).map (fun e => (e.1, g e.2)) =
      (sortedEntries fs).map fun e => (e.1, g e.2) := by
  induction es generalizing fs with
  | nil =>
    obtain rfl := List.map_eq_nil_iff.1 h.symm
    rfl
  | cons e es ih =>
    cases fs with
    | nil => cases h
    | cons f fs =>
      obtain ⟨hfirst, hrest⟩ := List.cons_eq_cons.1 h
      obtain ⟨hkey, hvalue⟩ := Prod.mk.inj hfirst
      rw [sortedEntries_cons, sortedEntries_cons, hkey]
      exact map_insertEntry g hvalue (ih hrest)

theorem map_sortedEntries_exchange (front back : List (String × Json)) (k : String)
    (hvw : g v.sorted = g w.sorted) :
    (sortedEntries (front ++ (k, v) :: back)).map (fun e => (e.1, g e.2)) =
      (sortedEntries (front ++ (k, w) :: back)).map fun e => (e.1, g e.2) := by
  apply map_sortedEntries
  simp [hvw]

/-- Entries in another order come to the same order. -/
theorem sortedEntries_eq_of_perm (hkeys : (es.map Prod.fst).Nodup) (h : es.Perm fs) :
    sortedEntries es = sortedEntries fs := by
  have horder {xs : List (String × Json)} (hxs : (xs.map Prod.fst).Nodup) :
      (sortedEntries xs).Pairwise fun e f => e.1 < f.1 :=
    List.pairwise_map.1 (pairwise_sortedEntries hxs)
  have hperm : (sortedEntries es).Perm (sortedEntries fs) :=
    (sortedEntries_perm es).trans ((h.map _).trans (sortedEntries_perm fs).symm)
  refine hperm.eq_of_pairwise ?_ (horder hkeys) (horder ((h.map Prod.fst).nodup_iff.1 hkeys))
  intro e f _ _ hef hfe
  exact absurd hef (String.lt_asymm hfe)

end Sorted

theorem Rearranged.symm (h : Rearranged v w) : Rearranged w v := by
  induction h with
  | refl v => exact .refl v
  | entries h => exact .entries h.symm
  | item _ ih => exact .item ih
  | entry _ ih => exact .entry ih
  | trans _ _ ih ih' => exact ih'.trans ih

section Exchange
variable {before after : List Json} {front back : List (String × Json)}

/-- Another item in the place of one leaves a list as good as it was. -/
theorem forall_mem_exchange {α : Type} {holds : α → Prop} {before after : List α} {x y : α}
    (h : ∀ z ∈ before ++ x :: after, holds z) (hxy : holds x → holds y) :
    ∀ z ∈ before ++ y :: after, holds z := by
  intro z hz
  rcases List.mem_append.1 hz with hz | hz
  · exact h z (by simp [hz])
  · rcases List.mem_cons.1 hz with rfl | hz
    · exact hxy (h x (by simp))
    · exact h z (by simp [hz])

theorem keyed_item (hvw : v.Keyed → w.Keyed) (h : (arr (before ++ v :: after)).Keyed) :
    (arr (before ++ w :: after)).Keyed :=
  keyed_arr.2 (forall_mem_exchange (keyed_arr.1 h) hvw)

theorem keyed_entry (hvw : v.Keyed → w.Keyed) (h : (obj (front ++ (k, v) :: back)).Keyed) :
    (obj (front ++ (k, w) :: back)).Keyed := by
  obtain ⟨hkeys, hvalues⟩ := keyed_obj.1 h
  refine keyed_obj.2 ⟨?_, forall_mem_exchange hvalues hvw⟩
  rw [List.map_append, List.map_cons] at hkeys ⊢
  exact hkeys

theorem keyed_of_item (h : (arr (before ++ v :: after)).Keyed) : v.Keyed :=
  keyed_arr.1 h v (by simp)

theorem keyed_of_entry (h : (obj (front ++ (k, v) :: back)).Keyed) : v.Keyed :=
  (keyed_obj.1 h).2 (k, v) (by simp)

end Exchange

theorem Rearranged.keyed (h : Rearranged v w) (hv : v.Keyed) : w.Keyed := by
  induction h with
  | refl => exact hv
  | entries h =>
    obtain ⟨hkeys, hvalues⟩ := keyed_obj.1 hv
    exact keyed_obj.2 ⟨(h.map Prod.fst).nodup_iff.1 hkeys, fun e he => hvalues e (h.mem_iff.2 he)⟩
  | item _ ih => exact keyed_item ih hv
  | entry _ ih => exact keyed_entry ih hv
  | trans _ _ ih ih' => exact ih' (ih hv)

/-- Sorting does away with every difference in the order of entries. -/
theorem Rearranged.sorted_eq (h : Rearranged v w) (hv : v.Keyed) : v.sorted = w.sorted := by
  induction h with
  | refl => rfl
  | entries h =>
    rw [sorted, sorted, sortedEntries_eq_of_perm (keyed_obj.1 hv).1 h]
  | item _ ih => simp [sorted, ih (keyed_of_item hv)]
  | @entry front back k _ _ _ ih =>
    have hsame := map_sortedEntries_exchange id front back k (ih (keyed_of_entry hv))
    simpa [sorted] using hsame
  | trans h _ ih ih' => exact (ih hv).trans (ih' (h.keyed hv))

/-- The values differ at most in the order of entries and in doubles that are written alike, at any
depth. -/
inductive Equivalent : Json → Json → Prop
  | rearranged {v w : Json} (h : Rearranged v w) : Equivalent v w
  | double {x y : Binary64} (h : scalarText (.double x) = scalarText (.double y)) :
    Equivalent (.double x) (.double y)
  | item {before after : List Json} {v w : Json} (h : Equivalent v w) :
    Equivalent (.arr (before ++ v :: after)) (.arr (before ++ w :: after))
  | entry {before after : List (String × Json)} {k : String} {v w : Json} (h : Equivalent v w) :
    Equivalent (.obj (before ++ (k, v) :: after)) (.obj (before ++ (k, w) :: after))
  | trans {u v w : Json} (h : Equivalent u v) (h' : Equivalent v w) : Equivalent u w

namespace Equivalent

theorem keyed (h : Equivalent v w) (hv : v.Keyed) : w.Keyed := by
  induction h with
  | rearranged h => exact h.keyed hv
  | double => exact keyed_of_leaf (by simp [form])
  | item _ ih => exact keyed_item ih hv
  | entry _ ih => exact keyed_entry ih hv
  | trans _ _ ih ih' => exact ih' (ih hv)

/-- Equivalent values are written alike once they are sorted. -/
theorem write_sorted_eq (h : Equivalent v w) (hv : v.Keyed) :
    write v.sorted = write w.sorted := by
  induction h with
  | rearranged h => rw [h.sorted_eq hv]
  | double h => exact h
  | item _ ih => simp [sorted, write_arr, ih (keyed_of_item hv)]
  | @entry front back k _ _ _ ih =>
    have hsame := map_sortedEntries_exchange write front back k (ih (keyed_of_entry hv))
    rw [sorted, sorted, write_obj, write_obj, map_writeEntry_congr hsame]
  | trans h _ ih ih' => exact (ih hv).trans (ih' (h.keyed hv))

theorem of_items (before : List Json) (h : vs.map write = ws.map write)
    (hitem : ∀ v ∈ vs, ∀ w, write v = write w → Equivalent v w) :
    Equivalent (.arr (before ++ vs)) (.arr (before ++ ws)) := by
  induction vs generalizing before ws with
  | nil =>
    obtain rfl := List.map_eq_nil_iff.1 h.symm
    exact .rearranged (.refl _)
  | cons v vs ih =>
    cases ws with
    | nil => cases h
    | cons w ws =>
      obtain ⟨hfirst, hrest⟩ := List.cons_eq_cons.1 h
      obtain ⟨hv, hvs⟩ := List.forall_mem_cons.1 hitem
      have htail := ih (before ++ [w]) hrest hvs
      simp only [List.append_assoc, List.singleton_append] at htail
      exact (item (hv w hfirst)).trans htail

theorem of_entries (front : List (String × Json)) (h : es.map writeEntry = fs.map writeEntry)
    (hvalue : ∀ e ∈ es, ∀ w, write e.2 = write w → Equivalent e.2 w) :
    Equivalent (.obj (front ++ es)) (.obj (front ++ fs)) := by
  induction es generalizing front fs with
  | nil =>
    obtain rfl := List.map_eq_nil_iff.1 h.symm
    exact .rearranged (.refl _)
  | cons e es ih =>
    cases fs with
    | nil => cases h
    | cons f fs =>
      obtain ⟨hfirst, hrest⟩ := List.cons_eq_cons.1 h
      obtain ⟨he, hes⟩ := List.forall_mem_cons.1 hvalue
      have htail := ih (front ++ [f]) hrest hes
      simp only [List.append_assoc, List.singleton_append] at htail
      obtain ⟨k, v⟩ := e
      obtain ⟨l, w⟩ := f
      obtain ⟨hkey, hsame⟩ := writeEntry_eq_iff.1 hfirst
      obtain rfl : k = l := hkey
      exact (entry (he w hsame)).trans htail

end Equivalent

/-- Values that are written alike are one value but for their doubles. -/
theorem equivalent_of_write (h : write v = write w) : Equivalent v w := by
  have hform := form_eq_of_write h
  induction v using induction generalizing w with
  | int n =>
    obtain rfl := int_of_write h
    exact .rearranged (.refl _)
  | double x =>
    cases w with
    | double y => exact .double h
    | int m => cases int_of_write h.symm
    | null | bool | str | arr | obj => cases hform
  | null =>
    cases w with
    | null => exact .rearranged (.refl _)
    | bool | int | double | str | arr | obj => cases hform
  | bool b =>
    cases w with
    | bool b' =>
      cases b <;> cases b' <;> first | exact .rearranged (.refl _) | cases h
    | null | int | double | str | arr | obj => cases hform
  | str s =>
    cases w with
    | str t =>
      obtain ⟨rfl, -⟩ := quoted_inj (congrArg (· ++ []) h)
      exact .rearranged (.refl _)
    | null | bool | int | double | arr | obj => cases hform
  | arr items ih =>
    cases w with
    | arr items' =>
      refine .of_items [] (map_write_eq_of_write h) ?_
      intro v hv w hvw
      exact ih v hv hvw (form_eq_of_write hvw)
    | null | bool | int | double | str | obj => cases hform
  | obj entries ih =>
    cases w with
    | obj entries' =>
      refine .of_entries [] (map_writeEntry_eq_of_write h) ?_
      intro e he w hvw
      exact ih e he hvw (form_eq_of_write hvw)
    | null | bool | int | double | str | arr => cases hform

/-- Values have one canonical text exactly when they are equivalent. -/
theorem canonical_eq_iff_equivalent (hv : v.Keyed) :
    v.canonical = w.canonical ↔ Equivalent v w := by
  have htext : v.canonical = w.canonical ↔ write v.sorted = write w.sorted := String.ofList_inj
  rw [htext]
  constructor
  · intro h
    have hv := Equivalent.rearranged (rearranged_sorted v)
    have hw := Equivalent.rearranged (rearranged_sorted w).symm
    exact hv.trans ((equivalent_of_write h).trans hw)
  · intro h
    exact h.write_sorted_eq hv

theorem within_sorted (h : Within u v) : Within u.sorted v.sorted := by
  induction h with
  | self => exact .self
  | item hv _ ih =>
    rw [sorted, sortedItems_eq]
    exact .item (List.mem_map_of_mem hv) ih
  | entry he _ ih =>
    rw [sorted]
    exact .entry (mem_sortedEntries.2 ⟨_, he, rfl⟩) ih

/-- The canonical text decides on a value up to the order of entries and to doubles that are written
alike. It shows the keys of every object in increasing order and has no blanks outside of quotes. -/
theorem canonical_decides (hv : v.Keyed) :
    (v.canonical = w.canonical ↔ Equivalent v w) ∧
    (∀ keys ∈ writtenKeys v.canonical, keys.Pairwise (· < ·)) ∧
    (∀ entries, Within (.obj entries) v →
      ∃ keys ∈ writtenKeys v.canonical, keys.Perm (entries.map Prod.fst)) ∧
    ∀ c, .bare c ∈ marks v.canonical.toList → Text.isBlank c = false := by
  have hshown : writtenKeys v.canonical = v.sorted.objectKeys := writtenKeys_text v.sorted
  refine ⟨canonical_eq_iff_equivalent hv, ?_, ?_, fun c hc => isBlank_of_bare hc⟩
  · intro keys hkeys
    rw [hshown] at hkeys
    obtain ⟨entries, hentries, rfl⟩ := mem_objectKeys_iff.1 hkeys
    exact hv.ordered_sorted entries hentries
  · intro entries hentries
    refine ⟨_, ?_, keys_sortedEntries_perm entries⟩
    rw [hshown]
    exact mem_objectKeys_iff.2 ⟨_, within_sorted hentries, rfl⟩

/-- The tangled sample with other orders of entries in it. -/
def shuffledSample : Json :=
  .obj [("é😀", .str "\t\"\\"),
    ("a", .arr [.double ⟨false, 6755399441055744, -52⟩, .int (-9223372036854775808),
      .int 18446744073709551615]),
    ("b", .obj [("x", .bool true), ("y", .arr [])])]

theorem canonical_shuffledSample : tangledSample.Keyed ∧
    tangledSample.canonical = shuffledSample.canonical ∧
      Equivalent tangledSample shuffledSample := by
  have hkeyed : tangledSample.Keyed := by
    simp [tangledSample, keyed_obj, keyed_arr, keyed_of_leaf, form]
  have htext : tangledSample.canonical = shuffledSample.canonical := by decide +kernel
  exact ⟨hkeyed, htext, (canonical_decides hkeyed).1.1 htext⟩

end MailSnapshot.Json
