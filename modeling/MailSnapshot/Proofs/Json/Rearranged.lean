import MailSnapshot.Proofs.Json.Readable

/-! Values that differ in the order of entries alone. -/

namespace MailSnapshot.Json
variable {items : List Json} {entries : List (String × Json)} {f : Json → Json}

/-- The entries of some objects stand in another order, at any depth. Lists keep theirs. -/
inductive Rearranged : Json → Json → Prop
  | refl (v : Json) : Rearranged v v
  | entries {es fs : List (String × Json)} (h : es.Perm fs) : Rearranged (.obj es) (.obj fs)
  | item {before after : List Json} {v w : Json} (h : Rearranged v w) :
    Rearranged (.arr (before ++ v :: after)) (.arr (before ++ w :: after))
  | entry {before after : List (String × Json)} {k : String} {v w : Json} (h : Rearranged v w) :
    Rearranged (.obj (before ++ (k, v) :: after)) (.obj (before ++ (k, w) :: after))
  | trans {u v w : Json} (h : Rearranged u v) (h' : Rearranged v w) : Rearranged u w

namespace Rearranged

theorem items_map (before : List Json) (h : ∀ v ∈ items, Rearranged v (f v)) :
    Rearranged (.arr (before ++ items)) (.arr (before ++ items.map f)) := by
  induction items generalizing before with
  | nil => exact .refl _
  | cons v vs ih =>
    obtain ⟨hv, hvs⟩ := List.forall_mem_cons.1 h
    have hrest := ih (before ++ [f v]) hvs
    simp only [List.append_assoc, List.singleton_append] at hrest
    exact (item hv).trans hrest

theorem entries_map (before : List (String × Json)) (h : ∀ e ∈ entries, Rearranged e.2 (f e.2)) :
    Rearranged (.obj (before ++ entries)) (.obj (before ++ entries.map fun e => (e.1, f e.2))) := by
  induction entries generalizing before with
  | nil => exact .refl _
  | cons e es ih =>
    obtain ⟨he, hes⟩ := List.forall_mem_cons.1 h
    have hrest := ih (before ++ [(e.1, f e.2)]) hes
    simp only [List.append_assoc, List.singleton_append] at hrest
    exact (entry he).trans hrest

end Rearranged

theorem rearranged_sorted (v : Json) : Rearranged v v.sorted := by
  induction v using Json.induction with
  | null | bool | int | double | str => exact .refl _
  | arr items ih =>
    rw [sorted, sortedItems_eq]
    exact .items_map [] ih
  | obj entries ih =>
    exact (Rearranged.entries_map [] ih).trans (.entries (sortedEntries_perm entries).symm)

end MailSnapshot.Json
