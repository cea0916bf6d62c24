import MailSnapshot.Proofs.Secret.Recut

/-! What masking does to the matches of a pattern. In a masked text a match should be made of whole
pieces, a match of the first text that is kept should still be the preferred one where it starts,
and nothing new should run into it from before. Patterns whose matches hold no bracket are like
that. -/

namespace MailSnapshot.Secret
open Pattern
variable {p : Pattern} {a b m n r s : List Char} {c : Char}
  {ps us xs ys zs : List Piece}

/-- A preferred match stays preferred when the text behind it is masked. -/
def Persistent (p : Pattern) : Prop :=
  ∀ m zs, p.matchLength? (m ++ zs.flatMap Piece.text) = some m.length →
    p.matchLength? (m ++ masked zs) = some m.length

/-- Where a match in a masked text runs into a match that is kept, one starts in the first text. -/
def Grounded (p : Pattern) : Prop :=
  ∀ xs us zs m ys, xs ≠ [] → us ≠ [] → p.Matches (masked (xs ++ us)) → p.Matches m →
    us ++ zs = m.map .kept ++ ys →
      ∃ n r, p.Matches n ∧ (xs ++ us ++ zs).flatMap Piece.text = n ++ r

/-- A character that no placeholder holds is one that was kept. -/
theorem kept_of_not_mem (hc : c ∉ placeholder) (h : masked ps = a ++ c :: b) :
    ∃ us ws, ps = us ++ .kept c :: ws ∧ masked us = a ∧ masked ws = b := by
  induction ps generalizing a with
  | nil => simp at h
  | cons x ps ih =>
    cases x with
    | kept d =>
      cases a with
      | nil =>
        obtain ⟨rfl, htail⟩ := List.cons.inj h
        exact ⟨[], ps, rfl, rfl, htail⟩
      | cons e a =>
        obtain ⟨rfl, htail⟩ := List.cons.inj h
        obtain ⟨us, ws, rfl, rfl, hws⟩ := ih htail
        exact ⟨.kept d :: us, ws, rfl, rfl, hws⟩
    | hit t =>
      rw [masked_hit] at h
      obtain ⟨d, rfl, htail⟩ | ⟨d, hd, htail⟩ := List.append_eq_append_iff.1 h
      · obtain ⟨us, ws, rfl, rfl, hws⟩ := ih htail
        exact ⟨.hit t :: us, ws, rfl, rfl, hws⟩
      · cases d with
        | nil =>
          obtain ⟨us, ws, rfl, hus, hws⟩ := ih (a := []) htail.symm
          refine ⟨.hit t :: us, ws, rfl, ?_, hws⟩
          rw [masked_hit, hus, hd, List.append_nil, List.append_nil]
        | cons e d =>
          obtain ⟨rfl, _⟩ := List.cons.inj htail
          exact absurd (hd ▸ by simp) hc

section Solid
variable (h : ∀ m, p.Matches m → Solid m)
include h

theorem aligned_of_solid : Aligned p := by
  intro ps a m b hm hmask
  obtain ⟨us, ws, rfl, hws⟩ := kept_of_solid hmask (h m hm)
  obtain ⟨_, _, d, hd, _⟩ := h m hm
  rw [masked_append, masked_append, masked_map_kept, hws] at hmask
  have hus : masked us = a := by simpa using hmask
  cases m with
  | nil => cases hd
  | cons c m => exact ⟨us, c, m.map .kept, ws, by simp, hus, by simp [masked_map_kept], hws⟩

theorem grounded_of_solid : Grounded p := by
  intro xs us zs m ys _ _ hm _ _
  obtain ⟨vs, hvs, _⟩ := kept_of_prefix (masked_append : masked (xs ++ us ++ zs) = _) (h _ hm).1
  refine ⟨_, vs.flatMap Piece.text, hm, ?_⟩
  rw [hvs, List.flatMap_append, flatMap_text_map_kept]

end Solid

/-- The kept match is one of the masked text too, so the preferred one only has to be as short. -/
theorem persistent_of_length_le (hd : p.demands placeholder = true)
    (h : ∀ m zs n, p.Matches m → p.matchLength? (m ++ zs.flatMap Piece.text) = some m.length →
      p.matchLength? (m ++ masked zs) = some n → n ≤ m.length) : Persistent p := by
  intro m zs hm
  have hmatch := matches_of_matchLength hm
  rw [List.take_left] at hmatch
  obtain ⟨n, hn⟩ := exists_matchLength (r := masked zs) hd hmatch
  have hle := h m zs _ hmatch hm hn
  have hsame : some (n + 1) = some m.length :=
    (matchLength_of_append hn hle).symm.trans (matchLength_of_append hm (Nat.le_refl _))
  rw [hn, hsame]

theorem exists_append_of_matchLength {n : Nat} (h : p.matchLength? (m ++ r) = some n)
    (hn : m.length ≤ n) : ∃ e b, r = e ++ b ∧ n = (m ++ e).length ∧ p.Matches (m ++ e) := by
  have hle := matchLength_le h
  have hlength : n = (m ++ r.take (n - m.length)).length := by
    rw [List.length_append] at hle ⊢
    rw [List.length_take]
    omega
  refine ⟨r.take (n - m.length), r.drop (n - m.length), by simp, hlength, ?_⟩
  have hmatch := matches_of_matchLength h
  rwa [List.take_append, List.take_of_length_le hn] at hmatch

theorem persistent_of_solid (hd : p.demands placeholder = true)
    (h : ∀ m, p.Matches m → Solid m) : Persistent p := by
  refine persistent_of_length_le hd fun m zs n _ hm hn => ?_
  by_contra hlt
  -- A longer match would be kept as a whole, so the first text has it as well.
  obtain ⟨e, b, hmask, hlength, hmatch⟩ := exists_append_of_matchLength hn (by omega)
  have hsolid := h _ hmatch
  obtain ⟨ys, rfl, hys⟩ := kept_of_prefix hmask fun he => hsolid.1 (by simp [he])
  have htext : (e.map Piece.kept ++ ys).flatMap Piece.text = e ++ ys.flatMap Piece.text := by
    rw [List.flatMap_append, flatMap_text_map_kept]
  rw [htext, ← List.append_assoc] at hm
  rw [hmask, ← List.append_assoc] at hn
  have hfirst := matchLength_of_append hm (by simp)
  have hsecond := matchLength_of_append hn (Nat.le_of_eq hlength)
  have := Option.some.inj (hfirst.symm.trans hsecond)
  omega

/-- A match between two characters that no placeholder holds is made of whole pieces. -/
theorem aligned_of_ends
    (h : ∀ m, p.Matches m → ∃ c n d, m = c :: (n ++ [d]) ∧ c ∉ placeholder ∧ d ∉ placeholder) :
    Aligned p := by
  intro ps a m b hm hmask
  obtain ⟨c, n, d, rfl, hc, hd⟩ := h m hm
  rw [List.append_assoc] at hmask
  obtain ⟨us, rest, rfl, hus, hrest⟩ := kept_of_not_mem hc hmask
  rw [show (n ++ [d]).append b = n ++ d :: b by simp] at hrest
  obtain ⟨vs, ws, rfl, hvs, hws⟩ := kept_of_not_mem hd hrest
  exact ⟨us, c, vs ++ [.kept d], ws, by simp, hus, by simp [masked_append, hvs], hws⟩

end MailSnapshot.Secret
