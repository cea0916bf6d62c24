import MailSnapshot.Proofs.Attachment.Clean
import MailSnapshot.Proofs.Json.Path

/-! Scrubbing cuts the entries that name a credential out of a value and leaves everything else
where it stands: a path leads into the scrubbed value exactly where it led into the value past no
such entry. -/

namespace MailSnapshot.Attachment
open Json Secret
variable {v w : Json} {items : List Json} {entries : List (String × Json)} {k : String}
  {s : Segment} {path : List Segment}

/-- The step goes to the value of a credential. -/
def namesCredential : Segment → Bool
  | .item _ => false
  | .key k => isCredential k

/-- No step of the path goes to the value of a credential. -/
def isOpen (path : List Segment) : Bool := path.all fun s => !namesCredential s

theorem isOpen_cons : isOpen (s :: path) = (!namesCredential s && isOpen path) := rfl

theorem isOpen_iff : isOpen path = true ↔ ∀ k, .key k ∈ path → isCredential k = false := by
  simp only [isOpen, List.all_eq_true, Bool.not_eq_true']
  constructor
  · intro h k hk
    exact h _ hk
  · intro h s hs
    cases s with
    | item i => rfl
    | key k => exact h k hs

/-- What scrubbing makes of a value, seen one level deep: strings without their secrets, lists of
the same length, objects without their credentials. -/
inductive Pruned : Json → Json → Prop
  | null : Pruned .null .null
  | bool (b : Bool) : Pruned (.bool b) (.bool b)
  | int (n : Int) : Pruned (.int n) (.int n)
  | double (x : Binary64) : Pruned (.double x) (.double x)
  | str (s : String) : Pruned (.str s) (.str (scanString s).string)
  | arr {items left : List Json} (h : left.length = items.length) : Pruned (.arr items) (.arr left)
  | obj {entries left : List (String × Json)}
      (h : left.map Prod.fst = (entries.map Prod.fst).filter fun k => !isCredential k) :
    Pruned (.obj entries) (.obj left)

theorem pruned_scrub (v : Json) : Pruned v (scrub v).value := by
  cases v with
  | null => exact .null
  | bool b => exact .bool b
  | int n => exact .int n
  | double x => exact .double x
  | str s => exact .str s
  | arr items =>
    rw [value_scrub_arr]
    exact .arr (List.length_map _)
  | obj entries =>
    rw [value_scrub_obj]
    refine .obj ?_
    rw [List.map_map, List.filter_map]
    rfl

theorem lookup_scrubEntries (entries : List (String × Json)) (k : String) :
    (scrubEntries entries).value.lookup k =
      if isCredential k then none else (entries.lookup k).map fun v => (scrub v).value := by
  rw [value_scrubEntries]
  induction entries with
  | nil => simp
  | cons e es ih =>
    obtain ⟨l, v⟩ := e
    by_cases hk : k = l
    · subst hk
      cases hc : isCredential k with
      | true => simpa [hc] using ih
      | false => simp [hc]
    · have hne : (k == l) = false := by simpa using hk
      cases hc : isCredential l <;> simp [hc, List.lookup_cons, hne, ih]

/-- One step into a scrubbed value. -/
theorem child?_scrub (v : Json) (s : Segment) : (scrub v).value.child? s =
    if namesCredential s then none else (v.child? s).map fun w => (scrub w).value := by
  cases v with
  | arr items =>
    rw [value_scrub_arr]
    cases s with
    | item i => exact List.getElem?_map
    | key k => simp [child?]
  | obj entries =>
    cases s with
    | item i => rfl
    | key k => exact lookup_scrubEntries entries k
  | null | bool | int | double | str => simp [scrub, child?, Scrubbed.unchanged]

/-- Where a path leads in a scrubbed value there stands the scrubbing of what stood there. -/
theorem at?_scrub (v : Json) (path : List Segment) : (scrub v).value.at? path =
    if isOpen path then (v.at? path).map fun w => (scrub w).value else none := by
  induction path generalizing v with
  | nil => rfl
  | cons s path ih =>
    rw [at?, child?_scrub, isOpen_cons]
    cases hs : namesCredential s with
    | true => rfl
    | false =>
      cases hchild : v.child? s with
      | none => simp [at?, hchild]
      | some w => simp [at?, hchild, ih]

theorem isSome_at?_scrub (v : Json) (path : List Segment) :
    ((scrub v).value.at? path).isSome = true ↔
      (v.at? path).isSome = true ∧ ∀ k, .key k ∈ path → isCredential k = false := by
  rw [at?_scrub, ← isOpen_iff]
  cases isOpen path <;> simp

theorem exists_pruned_of_at? (h : (scrub v).value.at? path = some w) :
    ∃ u, v.at? path = some u ∧ Pruned u w := by
  rw [at?_scrub] at h
  split at h
  · obtain ⟨u, hu, rfl⟩ := Option.map_eq_some_iff.1 h
    exact ⟨u, hu, pruned_scrub u⟩
  · cases h

theorem keysRemoved_scrubItems (items : List Json) :
    (scrubItems items).keysRemoved = (items.map fun v => (scrub v).keysRemoved).sum := by
  induction items with
  | nil => rfl
  | cons v vs ih =>
    rw [List.map_cons, List.sum_cons, ← ih]
    rfl

theorem keysRemoved_scrubEntries (entries : List (String × Json)) :
    (scrubEntries entries).keysRemoved = (entries.map fun e =>
      if isCredential e.1 then if carriesValue e.2 then 1 else 0
      else (scrub e.2).keysRemoved).sum := by
  induction entries with
  | nil => rfl
  | cons e es ih =>
    rw [List.map_cons, List.sum_cons, ← ih, scrubEntries]
    cases isCredential e.1 with
    | true => exact Nat.add_comm ..
    | false => rfl

/-- Where nothing names a credential no key is removed. -/
theorem keysRemoved_of_noCredentials (h : NoCredentials v) : (scrub v).keysRemoved = 0 := by
  induction v using Json.induction with
  | null | bool | int | double | str => rfl
  | arr items ih =>
    change (scrubItems items).keysRemoved = 0
    rw [keysRemoved_scrubItems, List.sum_eq_zero_iff_forall_eq_nat, List.forall_mem_map]
    intro w hw
    exact ih w hw (noCredentials_arr.1 h w hw)
  | obj entries ih =>
    change (scrubEntries entries).keysRemoved = 0
    rw [keysRemoved_scrubEntries, List.sum_eq_zero_iff_forall_eq_nat, List.forall_mem_map]
    intro e he
    obtain ⟨hkey, hvalue⟩ := noCredentials_obj.1 h e he
    rw [hkey]
    exact ih e he hvalue

/-- A path leads to something in a scrubbed value exactly where it leads to something in the value
and no key on it names a credential. What stands there is what stood there, one level deep: the kind
of value, the order of items and of the keys that are left, and every string but for its secrets.
So no credential is left at any depth, and scrubbing once more removes nothing. -/
theorem scrub_prunes_credentials (v : Json) :
    (∀ path, ((scrub v).value.at? path).isSome = true ↔
      (v.at? path).isSome = true ∧ ∀ k, .key k ∈ path → isCredential k = false) ∧
    (∀ path w, (scrub v).value.at? path = some w → ∃ u, v.at? path = some u ∧ Pruned u w) ∧
    NoCredentials (scrub v).value ∧
    (scrub (scrub v).value).keysRemoved = 0 ∧
    ∀ path, ((scrub (scrub v).value).value.at? path).isSome =
      ((scrub v).value.at? path).isSome := by
  have hclean := noCredentials_scrub v
  refine ⟨isSome_at?_scrub v, fun _ _ => exists_pruned_of_at?, hclean,
    keysRemoved_of_noCredentials hclean, ?_⟩
  intro path
  rw [Bool.eq_iff_iff, isSome_at?_scrub]
  constructor
  · intro h
    exact h.1
  · intro h
    exact ⟨h, ((isSome_at?_scrub v path).1 h).2⟩

/-- Credentials in other spellings, one of them inside another and one with nothing in it, and a
secret in what stays. -/
def nestedSample : Json :=
  .arr [.obj [(" Head\x00ers", .obj [("headers", .int 1), ("note", .str "$TOKEN")]),
    ("name", .str "set $API_KEY"), ("AUTHORIZATION", .null), ("size", .int 7)]]

example : (scrub nestedSample).value =
    .arr [.obj [("name", .str "set [REDACTED]"), ("size", .int 7)]] := by
  decide +kernel

end MailSnapshot.Attachment
