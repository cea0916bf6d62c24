import MailSnapshot.Proofs.Attachment.Pruning
import MailSnapshot.Proofs.Attachment.Substance
import MailSnapshot.Proofs.Json.Rearranged
import MailSnapshot.Scrub.Message

/-! What the counters of a scrubbing count: the secrets in the strings that stay, and the entries
that are cut out with something in them. They are at zero where the value stays as it is. -/

namespace MailSnapshot.Attachment
open Json Secret
variable {v w : Json}

section Open

def string? : Json → Option String
  | .str s => some s
  | _ => none

/-- The strings in a value that do not stand under the key of a credential. -/
def openStrings (v : Json) : List String := (picked isOpen v).filterMap string?

theorem openStrings_arr (items : List Json) :
    openStrings (.arr items) = items.flatMap openStrings := by
  have hitems : picked isOpen (.arr items) = .arr items :: items.flatMap (picked isOpen) := by
    rw [picked_eq, inside, pickedIn_insideItems fun _ _ => rfl]
    rfl
  rw [openStrings, hitems, List.filterMap_cons, List.filterMap_flatMap]
  rfl

theorem openStrings_obj (entries : List (String × Json)) : openStrings (.obj entries) =
    entries.flatMap fun e => if isCredential e.1 then [] else openStrings e.2 := by
  have hentry (e : String × Json) : (picked (fun path => isOpen (.key e.1 :: path)) e.2).filterMap
      string? = if isCredential e.1 then [] else openStrings e.2 := by
    cases he : isCredential e.1 with
    | true => simp [isOpen_cons, namesCredential, he, picked_false]
    | false => simp [isOpen_cons, namesCredential, he, openStrings]
  have hentries : picked isOpen (.obj entries) = .obj entries ::
      entries.flatMap fun e => picked (fun path => isOpen (.key e.1 :: path)) e.2 := by
    rw [picked_eq, inside, pickedIn_insideEntries]
    rfl
  rw [openStrings, hentries, List.filterMap_cons, List.filterMap_flatMap]
  exact congrArg (List.flatMap · entries) (funext hentry)

/-- The secrets found in strings, each string scanned by itself. -/
def secretsIn (strings : List String) : Nat :=
  (strings.map fun s => (scanString s).replacements).sum

theorem secretsIn_append (strings others : List String) :
    secretsIn (strings ++ others) = secretsIn strings + secretsIn others := by
  simp [secretsIn]

theorem replacements_scrub (v : Json) : (scrub v).replacements = secretsIn (openStrings v) := by
  induction v using Json.induction with
  | null | bool | int | double => rfl
  | str s => exact (Nat.add_zero _).symm
  | arr items ih =>
    rw [openStrings_arr]
    change (scrubItems items).replacements = _
    induction items with
    | nil => rfl
    | cons v vs hrest =>
      obtain ⟨hv, hvs⟩ := List.forall_mem_cons.1 ih
      rw [List.flatMap_cons, secretsIn_append, ← hv, ← hrest hvs]
      rfl
  | obj entries ih =>
    rw [openStrings_obj]
    change (scrubEntries entries).replacements = _
    induction entries with
    | nil => rfl
    | cons e es hrest =>
      obtain ⟨he, hes⟩ := List.forall_mem_cons.1 ih
      rw [List.flatMap_cons, secretsIn_append, ← hrest hes, scrubEntries]
      cases isCredential e.1 with
      | true => exact (Nat.zero_add _).symm
      | false =>
        rw [if_neg Bool.false_ne_true, if_neg Bool.false_ne_true, ← he]
        rfl

end Open

section Cut

/-- The last step of the path goes to the value of a credential, and no step before it does. -/
def isCut (path : List Segment) : Bool :=
  path.getLast?.any namesCredential && isOpen path.dropLast

theorem isCut_cons (s : Segment) (path : List Segment) :
    isCut (s :: path) = if namesCredential s then path.isEmpty else isCut path := by
  cases path with
  | nil => cases hs : namesCredential s <;> simp [isCut, isOpen, hs]
  | cons t path => cases hs : namesCredential s <;> simp [isCut, isOpen_cons, hs]

/-- The values in a value that stand right under the key of a credential, and under no other such
key. -/
def cutValues (v : Json) : List Json := picked isCut v

theorem cutValues_arr (items : List Json) : cutValues (.arr items) = items.flatMap cutValues := by
  rw [cutValues, picked_eq, inside, pickedIn_insideItems fun i path => isCut_cons (.item i) path]
  rfl

theorem cutValues_obj (entries : List (String × Json)) : cutValues (.obj entries) =
    entries.flatMap fun e => if isCredential e.1 then [e.2] else cutValues e.2 := by
  rw [cutValues, picked_eq, inside, pickedIn_insideEntries]
  change entries.flatMap _ = _
  congr 1
  funext e
  cases he : isCredential e.1 with
  | true => simp [isCut_cons, namesCredential, he, picked_isEmpty]
  | false => simp [isCut_cons, namesCredential, he, cutValues]

/-- The values with nothing in them. -/
def emptyValues : List Json := [.null, .str "", .arr [], .obj []]

theorem carriesValue_iff : carriesValue v = true ↔ v ∉ emptyValues := by
  cases v <;> simp [carriesValue, emptyValues]

theorem keysRemoved_scrub (v : Json) :
    (scrub v).keysRemoved = (cutValues v).countP fun w => w ∉ emptyValues := by
  induction v using Json.induction with
  | null | bool | int | double | str => rfl
  | arr items ih =>
    change (scrubItems items).keysRemoved = _
    rw [keysRemoved_scrubItems, cutValues_arr, List.countP_flatMap]
    exact congrArg List.sum (List.map_congr_left ih)
  | obj entries ih =>
    change (scrubEntries entries).keysRemoved = _
    rw [keysRemoved_scrubEntries, cutValues_obj, List.countP_flatMap]
    refine congrArg List.sum (List.map_congr_left ?_)
    intro e he
    cases hc : isCredential e.1 with
    | true => simp [hc, carriesValue_iff]
    | false => simpa [hc] using ih e he

end Cut

section Order

theorem noCredentials_iff_of_rearranged (h : Rearranged v w) :
    NoCredentials v ↔ NoCredentials w := by
  induction h with
  | refl v => rfl
  | entries h => simp only [noCredentials_obj, h.mem_iff]
  | item _ ih => simp only [noCredentials_arr, List.forall_mem_append, List.forall_mem_cons, ih]
  | entry _ ih => simp only [noCredentials_obj, List.forall_mem_append, List.forall_mem_cons, ih]
  | trans _ _ ih ih' => exact ih.trans ih'

theorem substance_eq_of_rearranged (h : Rearranged v w) : substance v = substance w := by
  induction h with
  | refl v => rfl
  | entries h => exact substanceEntries_perm h
  | item _ ih => simp only [substance, substanceItems_append, substanceItems, ih]
  | entry _ ih => simp only [substance, substanceEntries_append, substanceEntries, ih]
  | trans _ _ ih ih' => exact ih.trans ih'

/-- Scrubbing gives the same value up to the order of entries only where it finds nothing at all. A
credential would be gone, and a replaced secret leaves fewer characters outside placeholders. -/
theorem rearranged_scrub_iff (v : Json) :
    Rearranged (scrub v).value v ↔ (scrub v).replacements = 0 ∧ NoCredentials v := by
  constructor
  · intro h
    have hclean := (noCredentials_iff_of_rearranged h).1 (noCredentials_scrub v)
    have hsubstance := substance_eq_of_rearranged h
    have hle := substance_scrub_le v
    exact ⟨by omega, hclean⟩
  · rintro ⟨hzero, hclean⟩
    rw [scrub_eq_of_replacements hclean hzero]
    exact .refl v

theorem not_rearranged_of_counts (h : 0 < (scrub v).replacements + (scrub v).keysRemoved) :
    ¬ Rearranged (scrub v).value v := by
  intro hsame
  obtain ⟨hzero, hclean⟩ := (rearranged_scrub_iff v).1 hsame
  have hkeys := keysRemoved_of_noCredentials hclean
  omega

end Order

/-- Attachments count as sanitized exactly where they are written anew. -/
theorem sanitized_editAttachments (o : ScrubOptions) (c : Cell) :
    (Scrub.editAttachments o c).sanitized = (Scrub.editAttachments o c).text.isSome := by
  unfold Scrub.editAttachments
  split
  · extract_lets stored items cleared kept done updated
    have hcounts (hsame : done.value = kept) : done.replacements + done.keysRemoved = 0 := by
      cases ho : o.scrubSecrets with
      | true =>
        simp only [done, ho, if_true] at hsame ⊢
        rw [scrub_eq_of_value hsame]
        rfl
      | false =>
        simp only [done, ho]
        rfl
    cases hupdated : updated with
    | true => rfl
    | false =>
      have hsame : done.value = kept := by
        simp only [updated, Bool.or_eq_false_iff] at hupdated
        simpa using hupdated.2
      simp [hcounts hsame]
  · rfl

/-- The counters of a scrubbing are true. It counts the secrets in exactly the strings that stand
under no credential, and the outermost entries of credentials that have something in them. It gives
the same value, be it in another order, exactly where no secret and no credential is found, so that
what counts is never left as it is: no message has its attachments counted as sanitized that does
not get new ones. -/
theorem counters_tell_truth :
    (∀ v : Json,
      (scrub v).replacements = ((openStrings v).map fun s => (scanString s).replacements).sum ∧
      (scrub v).keysRemoved = (cutValues v).countP (fun w => w ∉ emptyValues) ∧
      (Rearranged (scrub v).value v ↔ (scrub v).replacements = 0 ∧ NoCredentials v) ∧
      ((scrub v).value = v ↔ Rearranged (scrub v).value v) ∧
      (0 < (scrub v).replacements + (scrub v).keysRemoved → ¬ Rearranged (scrub v).value v)) ∧
    ∀ (o : ScrubOptions) (m : Message),
      (m.edit o).sanitized = (m.edit o).attachments.isSome := by
  constructor
  · intro v
    refine ⟨replacements_scrub v, keysRemoved_scrub v, rearranged_scrub_iff v, ?_,
      not_rearranged_of_counts⟩
    constructor
    · intro hsame
      rw [hsame]
      exact .refl v
    · intro hsame
      obtain ⟨hzero, hclean⟩ := (rearranged_scrub_iff v).1 hsame
      rw [scrub_eq_of_replacements hclean hzero]
      rfl
  · intro o m
    exact sanitized_editAttachments o m.attachments

example : openStrings nestedSample = ["set $API_KEY"] ∧
    cutValues nestedSample = [.obj [("headers", .int 1), ("note", .str "$TOKEN")], .null] ∧
    (scrub nestedSample).replacements = 1 ∧ (scrub nestedSample).keysRemoved = 1 := by
  decide +kernel

end MailSnapshot.Attachment
