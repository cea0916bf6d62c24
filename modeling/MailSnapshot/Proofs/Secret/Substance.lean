import MailSnapshot.Proofs.Secret.Leftover

/-! The progress a scan makes. Every replacement takes away a character that no placeholder holds,
and none ever comes in, so a scan that replaces something changes the text. -/

namespace MailSnapshot.Secret
open Pattern
variable {f : Family} {fs : List Family} {p : Pattern} {m s : List Char} {ps : List Piece}

/-- The number of characters in a text that the placeholder does not hold. -/
def substance (s : List Char) : Nat := s.countP (· ∉ placeholder)

theorem substance_append (s t : List Char) : substance (s ++ t) = substance s + substance t :=
  List.countP_append

theorem substance_placeholder : substance placeholder = 0 := by decide

theorem substance_pos (h : ∃ c ∈ m, c ∉ placeholder) : 0 < substance m := by
  obtain ⟨c, hc, hout⟩ := h
  exact List.countP_pos_iff.2 ⟨c, hc, decide_eq_true hout⟩

/-- Each piece that is masked counts for a character at least. -/
theorem substance_masked_le (h : ∀ t, Piece.hit t ∈ ps → 0 < substance t) :
    substance (masked ps) + ps.countP Piece.isHit ≤ substance (ps.flatMap Piece.text) := by
  induction ps with
  | nil => exact Nat.le_refl _
  | cons x ps ih =>
    have hrest := ih fun t ht => h t (List.mem_cons_of_mem _ ht)
    cases x with
    | kept c =>
      have htext : (Piece.kept c :: ps).flatMap Piece.text = [c] ++ ps.flatMap Piece.text := rfl
      have hmask : masked (.kept c :: ps) = [c] ++ masked ps := rfl
      rw [htext, hmask, substance_append, substance_append,
        List.countP_cons_of_neg (by simp [Piece.isHit])]
      omega
    | hit t =>
      have ht := h t (List.mem_cons_self ..)
      have htext : (Piece.hit t :: ps).flatMap Piece.text = t ++ ps.flatMap Piece.text := rfl
      rw [htext, masked_hit, substance_append, substance_append, substance_placeholder,
        List.countP_cons_of_pos rfl]
      omega

theorem substance_scan_family_le (hd : f.pattern.demands placeholder = true) :
    substance (f.scan s).text + (f.scan s).replacements ≤ substance s := by
  have hhits : ∀ t, Piece.hit t ∈ f.pattern.pieces s → 0 < substance t := fun t ht =>
    substance_pos (exists_not_mem_of_demands (matches_of_hit ht) hd)
  have hle := substance_masked_le hhits
  rwa [flatMap_text_pieces] at hle

theorem substance_scanWith_le (hd : ∀ f ∈ fs, f.pattern.demands placeholder = true) :
    substance (scanWith fs s).text + (scanWith fs s).replacements ≤ substance s := by
  induction fs generalizing s with
  | nil => exact Nat.le_refl _
  | cons f fs ih =>
    have hfirst := substance_scan_family_le (s := s) (hd f (by simp))
    have hothers := ih (s := (f.scan s).text) fun g hg => hd g (by simp [hg])
    change substance (scanWith fs (f.scan s).text).text +
      ((f.scan s).replacements + (scanWith fs (f.scan s).text).replacements) ≤ _
    omega

theorem substance_scan_le : substance (scan s).text + (scan s).replacements ≤ substance s :=
  substance_scanWith_le fun _ => demands_of_mem

/-- A scan that replaces something never gives the text back. -/
theorem text_scan_eq_iff : (scan s).text = s ↔ (scan s).replacements = 0 := by
  constructor
  · intro h
    have hle := substance_scan_le (s := s)
    rw [h] at hle
    omega
  · intro h
    rw [scan_eq_of_replacements h]

theorem string_scanString_eq_iff {s : String} :
    (scanString s).string = s ↔ (scanString s).replacements = 0 := by
  unfold scanString
  rw [← text_scan_eq_iff, Scan.string]
  constructor
  · intro h
    have hlist := congrArg String.toList h
    rwa [String.toList_ofList] at hlist
  · intro h
    rw [h, String.ofList_toList]

end MailSnapshot.Secret
