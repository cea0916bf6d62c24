import MailSnapshot.Proofs.Attachment.Clean
import MailSnapshot.Proofs.Secret.Substance

/-! The progress that scrubbing makes on attachments. A scrubbing that counts something changes the
value, and a value that it changes is never printed as the text it was read from. -/

namespace MailSnapshot.Attachment
open Json Secret
variable {v : Json} {items : List Json} {entries fs : List (String × Json)} {raw : String}

mutual
/-- The characters in the strings of a value that no placeholder holds. Keys do not count. -/
def substance : Json → Nat
  | .str s => Secret.substance s.toList
  | .arr items => substanceItems items
  | .obj entries => substanceEntries entries
  | .null | .bool _ | .int _ | .double _ => 0

def substanceItems : List Json → Nat
  | [] => 0
  | v :: vs => substance v + substanceItems vs

def substanceEntries : List (String × Json) → Nat
  | [] => 0
  | (_, v) :: es => substance v + substanceEntries es
end

theorem substanceItems_map {f : Json → Json} (h : ∀ v ∈ items, substance (f v) = substance v) :
    substanceItems (items.map f) = substanceItems items := by
  induction items with
  | nil => rfl
  | cons v vs ih =>
    rw [List.map_cons, substanceItems, substanceItems, h v (by simp),
      ih fun w hw => h w (by simp [hw])]

theorem substanceEntries_map {f : Json → Json}
    (h : ∀ e ∈ entries, substance (f e.2) = substance e.2) :
    substanceEntries (entries.map fun e => (e.1, f e.2)) = substanceEntries entries := by
  induction entries with
  | nil => rfl
  | cons e es ih =>
    rw [List.map_cons, substanceEntries, substanceEntries, h e (by simp),
      ih fun e' he' => h e' (by simp [he'])]

theorem substanceItems_append (items others : List Json) :
    substanceItems (items ++ others) = substanceItems items + substanceItems others := by
  induction items with
  | nil => exact (Nat.zero_add _).symm
  | cons v vs ih => rw [List.cons_append, substanceItems, substanceItems, ih, Nat.add_assoc]

theorem substanceEntries_append (entries others : List (String × Json)) :
    substanceEntries (entries ++ others) =
      substanceEntries entries + substanceEntries others := by
  induction entries with
  | nil => exact (Nat.zero_add _).symm
  | cons e es ih => rw [List.cons_append, substanceEntries, substanceEntries, ih, Nat.add_assoc]

theorem substanceEntries_perm (h : entries.Perm fs) :
    substanceEntries entries = substanceEntries fs := by
  induction h with
  | nil => rfl
  | cons e _ ih => rw [substanceEntries, substanceEntries, ih]
  | swap e e' es => simp only [substanceEntries, Nat.add_left_comm]
  | trans _ _ ih ih' => exact ih.trans ih'

theorem substance_sorted (v : Json) : substance v.sorted = substance v := by
  induction v using Json.induction with
  | null | bool | int | double | str => rfl
  | arr items ih =>
    rw [Json.sorted, sortedItems_eq, substance, substance, substanceItems_map ih]
  | obj entries ih =>
    rw [Json.sorted, substance, substance, substanceEntries_perm (sortedEntries_perm entries),
      substanceEntries_map ih]

theorem substance_reread (v : Json) : substance v.reread = substance v := by
  induction v using Json.induction with
  | null | bool | int | double | str => rfl
  | arr items ih =>
    rw [Json.reread, rereadItems_eq, substance, substance, substanceItems_map ih]
  | obj entries ih =>
    rw [Json.reread, rereadEntries_eq, substance, substance, substanceEntries_map ih]

theorem substance_scrubItems_le
    (h : ∀ v ∈ items, substance (scrub v).value + (scrub v).replacements ≤ substance v) :
    substanceItems (scrubItems items).value + (scrubItems items).replacements ≤
      substanceItems items := by
  induction items with
  | nil => exact Nat.le_refl _
  | cons v vs ih =>
    have hfirst := h v (by simp)
    have hothers := ih fun w hw => h w (by simp [hw])
    change substance (scrub v).value + substanceItems (scrubItems vs).value +
      ((scrub v).replacements + (scrubItems vs).replacements) ≤ substance v + substanceItems vs
    omega

theorem substance_scrubEntries_le
    (h : ∀ e ∈ entries, substance (scrub e.2).value + (scrub e.2).replacements ≤ substance e.2) :
    substanceEntries (scrubEntries entries).value + (scrubEntries entries).replacements ≤
      substanceEntries entries := by
  induction entries with
  | nil => exact Nat.le_refl _
  | cons e es ih =>
    have hfirst := h e (by simp)
    have hothers := ih fun e' he' => h e' (by simp [he'])
    rw [scrubEntries, substanceEntries]
    split
    · exact hothers.trans (Nat.le_add_left ..)
    · change substance (scrub e.2).value + substanceEntries (scrubEntries es).value +
        ((scrub e.2).replacements + (scrubEntries es).replacements) ≤ _
      omega

theorem substance_scrub_le (v : Json) :
    substance (scrub v).value + (scrub v).replacements ≤ substance v := by
  induction v using Json.induction with
  | null | bool | int | double => exact Nat.le_refl _
  | str s =>
    change Secret.substance (String.ofList (scan s.toList).text).toList +
      (scan s.toList).replacements ≤ Secret.substance s.toList
    rw [String.toList_ofList]
    exact substance_scan_le
  | arr items ih => exact substance_scrubItems_le ih
  | obj entries ih => exact substance_scrubEntries_le ih

/-- A value without credentials in which the scrubbing replaces nothing stays as it is. -/
theorem scrub_eq_of_replacements (hk : NoCredentials v) (h : (scrub v).replacements = 0) :
    scrub v = .unchanged v := by
  apply scrub_eq hk
  intro s hs
  have hle := replacements_le_scrub hk hs
  omega

/-- A scrubbing that gives the value back counts nothing. -/
theorem scrub_eq_of_value (h : (scrub v).value = v) : scrub v = .unchanged v := by
  have hk : NoCredentials v := h ▸ noCredentials_scrub v
  have hle := substance_scrub_le v
  rw [h] at hle
  exact scrub_eq_of_replacements hk (by omega)

/-- What the scrubbing changes is printed as another text than the one that was read. Sorted and
read back, the scrubbed value would be the value itself: then no entry can have gone, and for want
of progress no secret. -/
theorem canonical_scrub_ne (hraw : parse raw = some v) (h : (scrub v).value ≠ v) :
    (scrub v).value.canonical ≠ raw := by
  intro heq
  have hread := parse_canonical (readable_scrub (readable_of_parse hraw))
  rw [heq, hraw] at hread
  have hsame : v = (scrub v).value.sorted.reread := Option.some.inj hread
  have hk : NoCredentials v := by
    rw [hsame]
    exact faithful_reread.noCredentials (faithful_sorted.noCredentials (noCredentials_scrub v))
  have hsubstance : substance v = substance (scrub v).value := by
    conv_lhs => rw [hsame]
    rw [substance_reread, substance_sorted]
  have hle := substance_scrub_le v
  have hunchanged := scrub_eq_of_replacements hk (by omega)
  exact h (congrArg Scrubbed.value hunchanged)

end MailSnapshot.Attachment
