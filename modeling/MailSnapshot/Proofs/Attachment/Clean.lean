import MailSnapshot.Attachment.Scrub
import MailSnapshot.Proofs.Json.RoundTrip
import MailSnapshot.Proofs.Secret.Leftover

/-! Scrubbed attachments hold no credential and no secret but those of addresses, and neither
sorting nor printing brings one back. -/

namespace MailSnapshot.Attachment
open Json Secret
variable {v w : Json} {items : List Json} {entries : List (String × Json)} {s : String} {d : Nat}

theorem value_scrubItems (items : List Json) :
    (scrubItems items).value = items.map fun v => (scrub v).value := by
  induction items with
  | nil => rfl
  | cons v vs ih =>
    rw [List.map_cons, ← ih]
    rfl

/-- The entries that stay, each with its value scrubbed. -/
theorem value_scrubEntries (entries : List (String × Json)) :
    (scrubEntries entries).value =
      (entries.filter fun e => !isCredential e.1).map fun e => (e.1, (scrub e.2).value) := by
  induction entries with
  | nil => rfl
  | cons e es ih =>
    rw [scrubEntries]
    cases hk : isCredential e.1 with
    | true => simpa [hk] using ih
    | false => simp [hk, Scrubbed.join, ih]

theorem value_scrub_arr (items : List Json) :
    (scrub (.arr items)).value = .arr (items.map fun v => (scrub v).value) := by
  rw [← value_scrubItems]
  rfl

theorem value_scrub_obj (entries : List (String × Json)) :
    (scrub (.obj entries)).value =
      .obj ((entries.filter fun e => !isCredential e.1).map fun e => (e.1, (scrub e.2).value)) := by
  rw [← value_scrubEntries]
  rfl

theorem readable_scrub (h : Readable d v) : Readable d (scrub v).value := by
  induction h with
  | null => exact .null
  | bool b => exact .bool b
  | int hlow hhigh => exact .int hlow hhigh
  | double x => exact .double x
  | str s => exact .str _
  | arr _ ih =>
    rw [value_scrub_arr]
    refine .arr ?_
    intro w hw
    obtain ⟨v, hv, rfl⟩ := List.mem_map.1 hw
    exact ih v hv
  | @obj d entries hkeys _ ih =>
    rw [value_scrub_obj]
    refine .obj ?_ ?_
    · rw [List.map_map]
      exact (List.filter_sublist.map Prod.fst).nodup hkeys
    · intro e he
      obtain ⟨f, hf, rfl⟩ := List.mem_map.1 he
      exact ih f (List.mem_filter.1 hf).1

/-- What is inside a scrubbed value is the scrubbing of something inside the value. -/
theorem exists_within_of_scrub (h : Within w (scrub v).value) :
    ∃ u, Within u v ∧ w = (scrub u).value := by
  induction v using Json.induction with
  | null | bool | int | double | str =>
    cases h
    exact ⟨_, .self, rfl⟩
  | arr items ih =>
    rw [value_scrub_arr] at h
    cases h with
    | self => exact ⟨.arr items, .self, (value_scrub_arr items).symm⟩
    | item hv h =>
      obtain ⟨x, hx, rfl⟩ := List.mem_map.1 hv
      obtain ⟨u, hu, rfl⟩ := ih x hx h
      exact ⟨u, .item hx hu, rfl⟩
  | obj entries ih =>
    rw [value_scrub_obj] at h
    cases h with
    | self => exact ⟨.obj entries, .self, (value_scrub_obj entries).symm⟩
    | entry he h =>
      obtain ⟨f, hf, rfl⟩ := List.mem_map.1 he
      have hf := (List.mem_filter.1 hf).1
      obtain ⟨u, hu, rfl⟩ := ih f hf h
      exact ⟨u, .entry hf hu, rfl⟩

/-- No object holds an entry for a credential. -/
def NoCredentials (v : Json) : Prop :=
  ∀ entries, Within (.obj entries) v → ∀ e ∈ entries, isCredential e.1 = false

theorem noCredentials_arr : NoCredentials (.arr items) ↔ ∀ v ∈ items, NoCredentials v := by
  constructor
  · intro h v hv es hes
    exact h es (.item hv hes)
  · intro h es hes
    cases hes with
    | item hv hes => exact h _ hv es hes

theorem noCredentials_obj : NoCredentials (.obj entries) ↔
    ∀ e ∈ entries, isCredential e.1 = false ∧ NoCredentials e.2 := by
  constructor
  · intro h e he
    exact ⟨h entries .self e he, fun es hes => h es (.entry he hes)⟩
  · intro h es hes
    cases hes with
    | self => exact fun e he => (h e he).1
    | entry he hes => exact (h _ he).2 es hes

/-- No string holds a secret, except perhaps a user and a password in an address. -/
def StringsRedacted (v : Json) : Prop :=
  ∀ s, Within (.str s) v → Redacted s.toList

theorem noCredentials_scrub (v : Json) : NoCredentials (scrub v).value := by
  intro entries h e he
  obtain ⟨u, _, hu⟩ := exists_within_of_scrub h
  cases u with
  | obj es =>
    rw [value_scrub_obj] at hu
    cases hu
    obtain ⟨f, hf, rfl⟩ := List.mem_map.1 he
    simpa using (List.mem_filter.1 hf).2
  | arr items =>
    rw [value_scrub_arr] at hu
    cases hu
  | null | bool | int | double | str => cases hu

theorem redacted_scanString (s : String) : Redacted (scanString s).string.toList := by
  rw [Scan.string, String.toList_ofList]
  exact redacted_scan

theorem stringsRedacted_scrub (v : Json) : StringsRedacted (scrub v).value := by
  intro s h
  obtain ⟨u, _, hu⟩ := exists_within_of_scrub h
  cases u with
  | str t =>
    cases hu
    exact redacted_scanString t
  | obj es =>
    rw [value_scrub_obj] at hu
    cases hu
  | arr items =>
    rw [value_scrub_arr] at hu
    cases hu
  | null | bool | int | double => cases hu

/-- Strings stay as they are and objects get no new keys, wherever they stand in a value. -/
structure Faithful (f : Json → Json) : Prop where
  within : ∀ v w, Within w (f v) → ∃ u, Within u v ∧ w = f u
  string : ∀ u s, f u = .str s → u = .str s
  keys : ∀ u entries, f u = .obj entries →
    ∃ es, u = .obj es ∧ ∀ e ∈ entries, ∃ e' ∈ es, e'.1 = e.1

theorem Faithful.noCredentials {f : Json → Json} (hf : Faithful f) (h : NoCredentials v) :
    NoCredentials (f v) := by
  intro entries hw e he
  obtain ⟨u, hu, heq⟩ := hf.within v _ hw
  obtain ⟨es, rfl, hkeys⟩ := hf.keys u entries heq.symm
  obtain ⟨e', he', hkey⟩ := hkeys e he
  rw [← hkey]
  exact h es hu e' he'

theorem Faithful.stringsRedacted {f : Json → Json} (hf : Faithful f) (h : StringsRedacted v) :
    StringsRedacted (f v) := by
  intro s hw
  obtain ⟨u, hu, heq⟩ := hf.within v _ hw
  rw [hf.string u s heq.symm] at hu
  exact h s hu

theorem faithful_sorted : Faithful Json.sorted where
  within _ _ := exists_within_of_sorted
  string u s h := by
    cases u with
    | str t => exact h
    | null | bool | int | double | arr | obj => cases h
  keys u entries h := by
    cases u with
    | obj es =>
      cases h
      refine ⟨es, rfl, ?_⟩
      intro e he
      obtain ⟨e', he', rfl⟩ := mem_sortedEntries.1 he
      exact ⟨e', he', rfl⟩
    | null | bool | int | double | str | arr => cases h

theorem faithful_reread : Faithful Json.reread where
  within _ _ := exists_within_of_reread
  string u s h := by
    cases u with
    | str t => exact h
    | null | bool | int | double | arr | obj => cases h
  keys u entries h := by
    cases u with
    | obj es =>
      rw [Json.reread, rereadEntries_eq] at h
      cases h
      refine ⟨es, rfl, ?_⟩
      intro e he
      obtain ⟨e', he', rfl⟩ := List.mem_map.1 he
      exact ⟨e', he', rfl⟩
    | null | bool | int | double | str | arr => cases h

theorem scrubItems_eq (h : ∀ v ∈ items, scrub v = .unchanged v) :
    scrubItems items = .unchanged items := by
  induction items with
  | nil => rfl
  | cons v vs ih =>
    rw [scrubItems, h v (by simp), ih fun w hw => h w (by simp [hw])]
    rfl

theorem scrubEntries_eq (hk : ∀ e ∈ entries, isCredential e.1 = false)
    (h : ∀ e ∈ entries, scrub e.2 = .unchanged e.2) :
    scrubEntries entries = .unchanged entries := by
  induction entries with
  | nil => rfl
  | cons e es ih =>
    have hrest := ih (fun f hf => hk f (by simp [hf])) fun f hf => h f (by simp [hf])
    rw [scrubEntries, hk e (by simp), h e (by simp), hrest]
    rfl

theorem scanString_eq (h : (scanString s).replacements = 0) : (scanString s).string = s := by
  rw [scanString, scan_eq_of_replacements h]
  exact String.ofList_toList

/-- A value without credentials in which no string holds a secret stays as it is. -/
theorem scrub_eq (hk : NoCredentials v)
    (hs : ∀ s, Within (.str s) v → (scanString s).replacements = 0) : scrub v = .unchanged v := by
  induction v using Json.induction with
  | null | bool | int | double => rfl
  | str s =>
    have hzero := hs s .self
    change Scrubbed.mk (Json.str (scanString s).string) (scanString s).replacements 0 = _
    rw [scanString_eq hzero, hzero]
    rfl
  | arr items ih =>
    have hitems := scrubItems_eq fun v hv =>
      ih v hv (fun es h => hk es (.item hv h)) fun s h => hs s (.item hv h)
    rw [scrub, hitems]
    rfl
  | obj entries ih =>
    have hentries := scrubEntries_eq (hk entries .self) fun e he =>
      ih e he (fun es h => hk es (.entry he h)) fun s h => hs s (.entry he h)
    rw [scrub, hentries]
    rfl

theorem replacements_le_scrubItems (hv : v ∈ items) :
    (scrub v).replacements ≤ (scrubItems items).replacements := by
  induction items with
  | nil => cases hv
  | cons w ws ih =>
    change _ ≤ (scrub w).replacements + (scrubItems ws).replacements
    rcases List.mem_cons.1 hv with rfl | hv
    · exact Nat.le_add_right ..
    · exact (ih hv).trans (Nat.le_add_left ..)

theorem replacements_le_scrubEntries {e : String × Json} (he : e ∈ entries)
    (hk : isCredential e.1 = false) :
    (scrub e.2).replacements ≤ (scrubEntries entries).replacements := by
  induction entries with
  | nil => cases he
  | cons f fs ih =>
    rw [scrubEntries]
    rcases List.mem_cons.1 he with rfl | he
    · rw [hk]
      exact Nat.le_add_right ..
    · split
      · exact ih he
      · exact (ih he).trans (Nat.le_add_left ..)

/-- Where no entry is dropped, every replacement in a string counts. -/
theorem replacements_le_scrub (hk : NoCredentials v) (h : Within (.str s) v) :
    (scanString s).replacements ≤ (scrub v).replacements := by
  induction h with
  | self => exact Nat.le_refl _
  | item hv _ ih =>
    have hle := ih fun es h => hk es (.item hv h)
    exact hle.trans (replacements_le_scrubItems hv)
  | @entry entries e he _ ih =>
    have hle := ih fun es h => hk es (.entry he h)
    exact hle.trans (replacements_le_scrubEntries he (hk entries .self e he))

end MailSnapshot.Attachment
