import MailSnapshot.Proofs.Json.Path
import MailSnapshot.Proofs.Json.Rearranged
import MailSnapshot.Proofs.Json.RoundTrip

/-! The canonical text of a value: read back, it gives the value with the keys of every object in
order, and that value has the same canonical text. -/

namespace MailSnapshot.Json
variable {v : Json} {entries : List (String × Json)} {k raw : String} {d : Nat} {x : Binary64}

section Order

/-- The keys of every object stand in increasing order. -/
def Ordered (v : Json) : Prop :=
  ∀ entries, Within (.obj entries) v → (entries.map Prod.fst).Pairwise (· < ·)

/-- Every object has each of its keys once. -/
def Keyed (v : Json) : Prop :=
  ∀ entries, Within (.obj entries) v → (entries.map Prod.fst).Nodup

theorem mem_keys_insertEntry {l : String} :
    l ∈ (insertEntry k v entries).map Prod.fst ↔ l = k ∨ l ∈ entries.map Prod.fst := by
  rw [((insertEntry_perm k v entries).map Prod.fst).mem_iff, List.map_cons, List.mem_cons]

/-- A key that is not there yet goes to its place between the others. -/
theorem pairwise_insertEntry (hk : k ∉ entries.map Prod.fst)
    (h : (entries.map Prod.fst).Pairwise (· < ·)) :
    ((insertEntry k v entries).map Prod.fst).Pairwise (· < ·) := by
  induction entries with
  | nil => exact List.pairwise_singleton _ _
  | cons e es ih =>
    obtain ⟨hfirst, hrest⟩ := List.pairwise_cons.1 h
    obtain ⟨hne, hkes⟩ := not_or.1 (List.mem_cons.not.1 hk)
    rw [insertEntry]
    split
    · rename_i hlt
      refine List.pairwise_cons.2 ⟨?_, h⟩
      intro l hl
      rcases List.mem_cons.1 hl with rfl | hl
      · exact hlt
      · exact String.lt_trans hlt (hfirst l hl)
    · rename_i hle
      refine List.pairwise_cons.2 ⟨?_, ih hkes hrest⟩
      intro l hl
      rcases mem_keys_insertEntry.1 hl with rfl | hl
      · exact Std.lt_of_le_of_ne (String.not_lt.1 hle) (Ne.symm hne)
      · exact hfirst l hl

theorem keys_sortedEntries_perm (entries : List (String × Json)) :
    ((sortedEntries entries).map Prod.fst).Perm (entries.map Prod.fst) := by
  have hperm := (sortedEntries_perm entries).map Prod.fst
  rw [List.map_map] at hperm
  exact hperm

theorem pairwise_sortedEntries (h : (entries.map Prod.fst).Nodup) :
    ((sortedEntries entries).map Prod.fst).Pairwise (· < ·) := by
  induction entries with
  | nil => exact .nil
  | cons e es ih =>
    obtain ⟨hfirst, hrest⟩ := List.nodup_cons.1 h
    have hnew : e.1 ∉ (sortedEntries es).map Prod.fst := by
      rw [(keys_sortedEntries_perm es).mem_iff]
      exact hfirst
    exact pairwise_insertEntry hnew (ih hrest)

theorem Readable.keyed (h : Readable d v) : v.Keyed := by
  intro entries hentries
  induction hentries generalizing d with
  | self =>
    cases h with
    | obj hkeys _ => exact hkeys
  | item hv _ ih =>
    cases h with
    | arr h => exact ih (h _ hv)
  | entry he _ ih =>
    cases h with
    | obj _ h => exact ih (h _ he)

theorem Keyed.ordered_sorted (h : v.Keyed) : v.sorted.Ordered := by
  intro entries hentries
  obtain ⟨u, hu, heq⟩ := exists_within_of_sorted hentries
  cases u with
  | obj es =>
    cases heq
    exact pairwise_sortedEntries (h es hu)
  | null | bool | int | double | str | arr => cases heq

theorem Readable.ordered_sorted (h : Readable d v) : v.sorted.Ordered := h.keyed.ordered_sorted

theorem insertEntry_eq (h : ∀ l ∈ entries.map Prod.fst, k < l) :
    insertEntry k v entries = (k, v) :: entries := by
  cases entries with
  | nil => rfl
  | cons e es => exact if_pos (h e.1 List.mem_cons_self)

theorem sortedEntries_eq (h : (entries.map Prod.fst).Pairwise (· < ·))
    (hvalues : ∀ e ∈ entries, e.2.sorted = e.2) : sortedEntries entries = entries := by
  induction entries with
  | nil => rfl
  | cons e es ih =>
    obtain ⟨hfirst, hrest⟩ := List.pairwise_cons.1 h
    obtain ⟨he, hes⟩ := List.forall_mem_cons.1 hvalues
    rw [sortedEntries_cons, he, ih hrest hes]
    exact insertEntry_eq hfirst

/-- Sorting leaves a value in which all keys are in order as it is. -/
theorem Ordered.sorted_eq (h : v.Ordered) : v.sorted = v := by
  induction v using Json.induction with
  | null | bool | int | double | str => rfl
  | arr items ih =>
    have hsame : ∀ w ∈ items, w.sorted = id w := by
      intro w hw
      exact ih w hw fun es hes => h es (.item hw hes)
    rw [sorted, sortedItems_eq, List.map_congr_left hsame, List.map_id]
  | obj entries ih =>
    rw [sorted, sortedEntries_eq (h entries .self)]
    intro e he
    exact ih e he fun es hes => h es (.entry he hes)

end Order

/-- A value is read back as it is if each of its doubles is. -/
theorem reread_eq (h : ∀ x, Within (.double x) v → rereadDouble x = x) : v.reread = v := by
  induction v using Json.induction with
  | null | bool | int | str => rfl
  | double x => rw [reread, h x .self]
  | arr items ih =>
    have hsame : ∀ w ∈ items, w.reread = id w := by
      intro w hw
      exact ih w hw fun x hx => h x (.item hw hx)
    rw [reread, rereadItems_eq, List.map_congr_left hsame, List.map_id]
  | obj entries ih =>
    have hsame : ∀ e ∈ entries, (e.1, e.2.reread) = id e := by
      intro e he
      rw [ih e he fun x hx => h x (.entry he hx)]
      rfl
    rw [reread, rereadEntries_eq, List.map_congr_left hsame, List.map_id]

theorem within_of_double_sorted (h : Within (.double x) v.sorted) : Within (.double x) v := by
  obtain ⟨u, hu, heq⟩ := exists_within_of_sorted h
  cases u with
  | double y =>
    cases heq
    exact hu
  | null | bool | int | str | arr | obj => cases heq

theorem parse_double (x : Binary64) :
    parse (text (.double x)) = some (.double (rereadDouble x)) := by
  have hparse := parse_canonical (.double x)
  rw [canonical, sorted, reread] at hparse
  exact hparse

/-- The canonical text of a value that was read can be read again, as long as every double in it is
read from its own text as that double. What comes back is the value with other orders of entries
alone, the keys of every object in increasing order, and its canonical text is the one that was
read. -/
theorem canonical_round_trip (h : parse raw = some v)
    (hdoubles : ∀ x, Within (.double x) v → parse (text (.double x)) = some (.double x)) :
    ∃ w, parse v.canonical = some w ∧ w = v.sorted ∧ Rearranged v w ∧ w.Ordered ∧
      w.canonical = v.canonical := by
  have hreadable := readable_of_parse h
  have hreread : v.sorted.reread = v.sorted := by
    apply reread_eq
    intro x hx
    have hparse := hdoubles x (within_of_double_sorted hx)
    rw [parse_double] at hparse
    exact double.inj (Option.some.inj hparse)
  have hordered := hreadable.ordered_sorted
  refine ⟨v.sorted, ?_, rfl, rearranged_sorted v, hordered, ?_⟩
  · rw [parse_canonical hreadable, hreread]
  · rw [canonical, hordered.sorted_eq, canonical]

/-- A key that comes twice, escapes, a character outside the basic plane, the least and the greatest
integer, a double and empty lists. -/
def tangledText : String :=
  "\x7b\"b\":0,\"a\":[1.5,-9223372036854775808,18446744073709551615]," ++
    "\"\\u00e9\\ud83d\\ude00\":\"\\t\\\"\\\\\",\"b\":\x7b\"y\":[],\"x\":true\x7d\x7d"

def tangledSample : Json :=
  .obj [("b", .obj [("y", .arr []), ("x", .bool true)]),
    ("a", .arr [.double ⟨false, 6755399441055744, -52⟩, .int (-9223372036854775808),
      .int 18446744073709551615]),
    ("é😀", .str "\t\"\\")]

theorem canonical_round_trip_tangledSample :
    parse tangledText = some tangledSample ∧
    (∀ x, Within (.double x) tangledSample → parse (text (.double x)) = some (.double x)) ∧
    ∃ w, parse tangledSample.canonical = some w ∧ w = tangledSample.sorted ∧
      Rearranged tangledSample w ∧ w.Ordered ∧ w.canonical = tangledSample.canonical := by
  have hread : parse tangledText = some tangledSample := by decide +kernel
  have hplaces : ∀ place ∈ tangledSample.places, ∀ x, place.2 = .double x →
      x = ⟨false, 6755399441055744, -52⟩ := by
    simp [tangledSample, places, inside, insideEntries, insideItems, beneath, eq_comm]
  have hdoubles (x : Binary64) (hx : Within (.double x) tangledSample) :
      parse (text (.double x)) = some (.double x) := by
    obtain ⟨path, hpath⟩ := exists_mem_places hx
    rw [hplaces _ hpath x rfl]
    decide +kernel
  exact ⟨hread, hdoubles, canonical_round_trip hread hdoubles⟩

end MailSnapshot.Json
