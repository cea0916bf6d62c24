import MailSnapshot.Proofs.Json.Readable

/-! Paths into a value: the value to which a path leads, and all places of a value in the order in
which they are written. -/

namespace MailSnapshot.Json
variable {v w : Json} {items : List Json} {entries : List (String × Json)}

/-- One step of a path: to an item of a list, or to the value of a key. -/
inductive Segment where
  | item (index : Nat)
  | key (k : String)
  deriving DecidableEq

/-- The value that stands one step inside a value. -/
def child? : Json → Segment → Option Json
  | .arr items, .item i => items[i]?
  | .obj entries, .key k => entries.lookup k
  | _, _ => none

/-- The value to which a path leads. -/
def at? (v : Json) : List Segment → Option Json
  | [] => some v
  | s :: path => (v.child? s).bind fun w => w.at? path

/-- The places of a value that stands one step inside another. -/
def beneath (s : Segment) (v : Json) (places : List (List Segment × Json)) :
    List (List Segment × Json) :=
  ([s], v) :: places.map fun place => (s :: place.1, place.2)

mutual
/-- Every value inside a value but the value itself, with the path to it. -/
def inside : Json → List (List Segment × Json)
  | .arr items => insideItems 0 items
  | .obj entries => insideEntries entries
  | .null | .bool _ | .int _ | .double _ | .str _ => []

def insideItems (first : Nat) : List Json → List (List Segment × Json)
  | [] => []
  | v :: vs => beneath (.item first) v (inside v) ++ insideItems (first + 1) vs

def insideEntries : List (String × Json) → List (List Segment × Json)
  | [] => []
  | (k, v) :: es => beneath (.key k) v (inside v) ++ insideEntries es
end

/-- Every place of a value: the path to it, and what stands there. -/
def places (v : Json) : List (List Segment × Json) := ([], v) :: v.inside

theorem insideEntries_cons (e : String × Json) (es : List (String × Json)) :
    insideEntries (e :: es) = beneath (.key e.1) e.2 e.2.inside ++ insideEntries es := rfl

theorem beneath_inside (s : Segment) (v : Json) :
    beneath s v v.inside = v.places.map fun place => (s :: place.1, place.2) := rfl

theorem ne_nil_of_mem_inside {place : List Segment × Json} (h : place ∈ v.inside) :
    place.1 ≠ [] := by
  have hbeneath {s : Segment} {w : Json} (hw : place ∈ beneath s w w.inside) : place.1 ≠ [] := by
    rw [beneath_inside] at hw
    obtain ⟨_, _, rfl⟩ := List.mem_map.1 hw
    exact List.cons_ne_nil _ _
  have hitems (i : Nat) (items : List Json) (hw : place ∈ insideItems i items) :
      place.1 ≠ [] := by
    induction items generalizing i with
    | nil => cases hw
    | cons w ws ih =>
      rcases List.mem_append.1 hw with hw | hw
      · exact hbeneath hw
      · exact ih _ hw
  have hentries (entries : List (String × Json)) (hw : place ∈ insideEntries entries) :
      place.1 ≠ [] := by
    induction entries with
    | nil => cases hw
    | cons e es ih =>
      rcases List.mem_append.1 hw with hw | hw
      · exact hbeneath hw
      · exact ih hw
  cases v with
  | arr items => exact hitems 0 items h
  | obj entries => exact hentries entries h
  | null | bool | int | double | str => cases h

section Picked
variable {pick : List Segment → Bool}

/-- The values at those places to which a path of the chosen kind leads. -/
def pickedIn (pick : List Segment → Bool) (places : List (List Segment × Json)) : List Json :=
  (places.filter fun place => pick place.1).map Prod.snd

/-- The values in a value to which a path of the chosen kind leads, in the order in which they are
written. -/
def picked (pick : List Segment → Bool) (v : Json) : List Json := pickedIn pick v.places

theorem picked_eq (pick : List Segment → Bool) (v : Json) :
    picked pick v = (if pick [] then [v] else []) ++ pickedIn pick v.inside := by
  rw [picked, places, pickedIn, List.filter_cons]
  split <;> rfl

theorem pickedIn_append (places others : List (List Segment × Json)) :
    pickedIn pick (places ++ others) = pickedIn pick places ++ pickedIn pick others := by
  simp [pickedIn]

/-- What stands one step further inside is chosen by the rest of its path. -/
theorem pickedIn_beneath (s : Segment) (v : Json) :
    pickedIn pick (beneath s v v.inside) = picked (fun path => pick (s :: path)) v := by
  rw [beneath_inside, pickedIn, List.filter_map, List.map_map]
  rfl

theorem pickedIn_insideItems (h : ∀ i path, pick (.item i :: path) = pick path) (first : Nat)
    (items : List Json) :
    pickedIn pick (insideItems first items) = items.flatMap (picked pick) := by
  induction items generalizing first with
  | nil => rfl
  | cons v vs ih =>
    have hsame : (fun path => pick (.item first :: path)) = pick := funext (h first)
    rw [insideItems, pickedIn_append, pickedIn_beneath, ih, hsame, List.flatMap_cons]

theorem pickedIn_insideEntries (entries : List (String × Json)) :
    pickedIn pick (insideEntries entries) =
      entries.flatMap fun e => picked (fun path => pick (.key e.1 :: path)) e.2 := by
  induction entries with
  | nil => rfl
  | cons e es ih =>
    rw [insideEntries_cons, pickedIn_append, pickedIn_beneath, ih, List.flatMap_cons]

theorem picked_false (v : Json) : picked (fun _ => false) v = [] := by
  simp [picked, pickedIn]

/-- Only the value itself has the empty path. -/
theorem picked_isEmpty (v : Json) : picked List.isEmpty v = [v] := by
  have hinside : v.inside.filter (fun place => place.1.isEmpty) = [] := by
    rw [List.filter_eq_nil_iff]
    intro place hplace
    simpa using ne_nil_of_mem_inside hplace
  rw [picked_eq, pickedIn, hinside]
  rfl

end Picked

theorem mem_insideItems {i j : Nat} (hv : items[j]? = some v) {place : List Segment × Json}
    (h : place ∈ v.places) : (.item (i + j) :: place.1, place.2) ∈ insideItems i items := by
  induction items generalizing i j with
  | nil => cases hv
  | cons w ws ih =>
    rw [insideItems, beneath_inside]
    cases j with
    | zero =>
      cases hv
      exact List.mem_append_left _ (List.mem_map_of_mem h)
    | succ j =>
      have hrest := ih hv (i := i + 1)
      rw [Nat.add_assoc, Nat.add_comm 1 j] at hrest
      exact List.mem_append_right _ hrest

theorem mem_insideEntries {e : String × Json} (he : e ∈ entries) {place : List Segment × Json}
    (h : place ∈ e.2.places) : (.key e.1 :: place.1, place.2) ∈ insideEntries entries := by
  induction entries with
  | nil => cases he
  | cons f fs ih =>
    rw [insideEntries_cons, beneath_inside]
    rcases List.mem_cons.1 he with rfl | he
    · exact List.mem_append_left _ (List.mem_map_of_mem h)
    · exact List.mem_append_right _ (ih he)

/-- Whatever is inside a value has a place there. -/
theorem exists_mem_places (h : Within w v) : ∃ path, (path, w) ∈ v.places := by
  induction h with
  | self => exact ⟨[], List.mem_cons_self⟩
  | @item items v hv _ ih =>
    obtain ⟨path, hpath⟩ := ih
    obtain ⟨j, hj⟩ := List.mem_iff_getElem?.1 hv
    exact ⟨_, List.mem_cons_of_mem _ (mem_insideItems hj hpath)⟩
  | @entry entries e he _ ih =>
    obtain ⟨path, hpath⟩ := ih
    exact ⟨_, List.mem_cons_of_mem _ (mem_insideEntries he hpath)⟩

end MailSnapshot.Json
