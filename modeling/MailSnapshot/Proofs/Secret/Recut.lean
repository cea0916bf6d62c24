import MailSnapshot.Proofs.Pattern.Position
import MailSnapshot.Proofs.Pattern.Preference
import MailSnapshot.Proofs.Secret.Leftover

/-! Where the placeholders of a scan come from. The text between two families of a scan is a cut of
the first text: the characters that are still there, and behind each placeholder the part it stands
for. One more family joins the pieces under each of its matches. -/

namespace MailSnapshot.Secret
open Pattern Text
variable {f : Family} {fs gs : List Family} {p : Pattern} {a b m s t : List Char} {c : Char}
  {x : Piece} {ps qs us xs ys zs : List Piece}

/-- The first pieces, as long as `n` characters of masked text last, and the others. -/
def splitMasked : Nat → List Piece → List Piece × List Piece
  | _, [] => ([], [])
  | 0, ps => ([], ps)
  | n, x :: ps =>
    let cut := splitMasked (n - (x.masked placeholder).length) ps
    (x :: cut.1, cut.2)

theorem splitMasked_append (n : Nat) (ps : List Piece) :
    (splitMasked n ps).1 ++ (splitMasked n ps).2 = ps := by
  fun_induction splitMasked n ps with
  | case1 => rfl
  | case2 => rfl
  | case3 n x ps _ _ ih => exact congrArg (x :: ·) ih

/-- The cut after one more search, which sees the masked text. -/
def recut (p : Pattern) : List Piece → List Piece
  | [] => []
  | x :: ps =>
    match p.matchLength? (masked (x :: ps)) with
    | some (n + 1) =>
      let cut := splitMasked (n + 1 - (x.masked placeholder).length) ps
      .hit (x.text ++ cut.1.flatMap Piece.text) :: recut p cut.2
    | _ => x :: recut p ps
termination_by ps => ps.length
decreasing_by
  · have := congrArg List.length
      (splitMasked_append (n + 1 - (x.masked placeholder).length) ps)
    simp only [List.length_append, List.length_cons] at this ⊢
    omega
  · simp

/-- The text cut by some families in order: masked it is what their scans leave (`masked_cutBy`),
and unmasked it is the text (`flatMap_text_cutBy`). -/
def cutBy (fs : List Family) (s : List Char) : List Piece :=
  fs.foldl (fun ps f => recut f.pattern ps) (s.map .kept)

theorem cutBy_append_singleton : cutBy (fs ++ [f]) s = recut f.pattern (cutBy fs s) := by
  simp [cutBy]

theorem masked_append : masked (xs ++ ys) = masked xs ++ masked ys := List.flatMap_append

theorem masked_map_kept : masked (s.map .kept) = s := by
  rw [masked, List.flatMap_map]
  exact List.flatMap_singleton' s

theorem flatMap_text_map_kept : (s.map Piece.kept).flatMap Piece.text = s := by
  rw [List.flatMap_map]
  exact List.flatMap_singleton' s

theorem length_masked_pos (x : Piece) : 0 < (x.masked placeholder).length := by
  cases x with
  | kept c => exact Nat.one_pos
  | hit t => exact (by decide : 0 < placeholder.length)

theorem length_masked_cons :
    (masked (x :: xs)).length = (x.masked placeholder).length + (masked xs).length := by
  simp [masked]

theorem exists_length_masked_cons (x : Piece) (xs : List Piece) :
    ∃ n, (masked (x :: xs)).length = n + 1 ∧
      n + 1 - (x.masked placeholder).length = (masked xs).length := by
  have hpos := length_masked_pos x
  have hlength : (masked (x :: xs)).length = _ := length_masked_cons
  exact ⟨(masked (x :: xs)).length - 1, by omega, by omega⟩

theorem eq_nil_of_masked (h : masked xs = []) : xs = [] := by
  cases xs with
  | nil => rfl
  | cons x xs =>
    obtain ⟨n, hn, _⟩ := exists_length_masked_cons x xs
    rw [h] at hn
    cases hn

theorem splitMasked_masked : splitMasked (masked xs).length (xs ++ ys) = (xs, ys) := by
  induction xs with
  | nil => cases ys <;> rfl
  | cons x xs ih =>
    obtain ⟨n, hn, hrest⟩ := exists_length_masked_cons x xs
    rw [hn, List.cons_append, splitMasked, hrest, ih]
    simp

section Equations

theorem recut_of_none (h : p.matchLength? (masked (x :: ps)) = none) :
    recut p (x :: ps) = x :: recut p ps := by
  rw [recut, h]

theorem recut_of_matchLength (hxs : xs ≠ [])
    (h : p.matchLength? (masked (xs ++ ys)) = some (masked xs).length) :
    recut p (xs ++ ys) = .hit (xs.flatMap Piece.text) :: recut p ys := by
  cases xs with
  | nil => exact absurd rfl hxs
  | cons x xs =>
    obtain ⟨n, hn, hrest⟩ := exists_length_masked_cons x xs
    rw [List.cons_append] at h ⊢
    rw [recut, h, hn]
    simp only [hrest, splitMasked_masked, List.flatMap_cons]

/-- A search cuts the text again. -/
theorem flatMap_text_recut : (recut p ps).flatMap Piece.text = ps.flatMap Piece.text := by
  fun_induction recut p ps with
  | case1 => rfl
  | case2 x ps n _ cut ih =>
    rw [List.flatMap_cons, List.flatMap_cons, ih, Piece.text, List.append_assoc,
      ← List.flatMap_append, splitMasked_append]
  | case3 x ps _ ih => rw [List.flatMap_cons, List.flatMap_cons, ih]

/-- The places of the new cut are places of the old one. -/
theorem stands_of_stands_recut (h : Stands (recut p ps) a ys) :
    ∃ zs, Stands ps a zs ∧ recut p zs = ys := by
  obtain ⟨xs, hcut, rfl⟩ := h
  induction ps using recut.induct p generalizing xs with
  | case1 =>
    rw [recut] at hcut
    obtain ⟨rfl, rfl⟩ := List.append_eq_nil_iff.1 hcut.symm
    exact ⟨[], ⟨[], rfl, rfl⟩, by rw [recut]⟩
  | case2 x ps n hn cut ih =>
    cases xs with
    | nil => exact ⟨x :: ps, ⟨[], rfl, rfl⟩, hcut⟩
    | cons x' xs =>
      rw [recut, hn] at hcut
      obtain ⟨rfl, htail⟩ := List.cons.inj hcut
      obtain ⟨zs, ⟨us, hcut2, hus⟩, hzs⟩ := ih xs htail
      refine ⟨zs, ⟨x :: (cut.1 ++ us), ?_, ?_⟩, hzs⟩
      · rw [List.cons_append, List.append_assoc, ← hcut2, splitMasked_append]
      · rw [List.flatMap_cons, List.flatMap_append, hus, List.flatMap_cons, Piece.text,
          List.append_assoc]
  | case3 x ps hn ih =>
    cases xs with
    | nil => exact ⟨x :: ps, ⟨[], rfl, rfl⟩, hcut⟩
    | cons x' xs =>
      have hrecut : recut p (x :: ps) = x :: recut p ps := by
        rw [recut]
        split
        · exact absurd ‹_› (hn _)
        · rfl
      rw [hrecut] at hcut
      obtain ⟨rfl, htail⟩ := List.cons.inj hcut
      obtain ⟨zs, hzs, hrest⟩ := ih xs htail
      exact ⟨zs, by simpa using hzs.cons, hrest⟩

theorem kept_of_kept_recut (h : Stands (recut p ps) a (.kept c :: ys)) :
    ∃ zs, Stands ps a (.kept c :: zs) := by
  obtain ⟨zs, hzs, hcut⟩ := stands_of_stands_recut h
  cases zs with
  | nil =>
    rw [recut] at hcut
    cases hcut
  | cons x zs =>
    rw [recut] at hcut
    split at hcut
    · cases hcut
    · obtain ⟨rfl, _⟩ := List.cons.inj hcut
      exact ⟨zs, hzs⟩

theorem full_recut (h : Full ps) : Full (recut p ps) := by
  fun_induction recut p ps with
  | case1 => exact h
  | case2 x ps n _ cut ih =>
    have hcut : ∀ y ∈ cut.2, y ∈ ps := by
      intro y hy
      rw [← splitMasked_append (n + 1 - (x.masked placeholder).length) ps]
      exact List.mem_append_right _ hy
    intro y hy
    rcases List.mem_cons.1 hy with rfl | hy
    · exact List.append_ne_nil_of_left_ne_nil (h x (by simp)) _
    · exact ih (fun y hy => h y (by simp [hcut y hy])) y hy
  | case3 x ps _ ih =>
    intro y hy
    rcases List.mem_cons.1 hy with rfl | hy
    · exact h y (by simp)
    · exact ih (fun y hy => h y (by simp [hy])) y hy

end Equations

/-- A match in a masked text is what whole pieces are masked as, and the first of them is kept. -/
def Aligned (p : Pattern) : Prop :=
  ∀ ps a m b, p.Matches m → masked ps = a ++ m ++ b →
    ∃ us c vs ws, ps = us ++ .kept c :: vs ++ ws ∧ masked us = a ∧
      masked (.kept c :: vs) = m ∧ masked ws = b

section Aligned
variable (hp : Aligned p)
include hp

/-- A search keeps the first piece, or it joins the first pieces, whose masked text is a match. -/
theorem recut_cases (x : Piece) (ps : List Piece) :
    (p.matchLength? (masked (x :: ps)) = none ∧ recut p (x :: ps) = x :: recut p ps) ∨
      ∃ c us zs, x :: ps = .kept c :: us ++ zs ∧ p.Matches (masked (.kept c :: us)) ∧
        p.matchLength? (masked (x :: ps)) = some (masked (.kept c :: us)).length ∧
        recut p (x :: ps) = .hit ((Piece.kept c :: us).flatMap Piece.text) :: recut p zs := by
  cases hn : p.matchLength? (masked (x :: ps)) with
  | none => exact .inl ⟨rfl, recut_of_none hn⟩
  | some n =>
    right
    have hm := matches_of_matchLength hn
    obtain ⟨us, c, vs, ws, heq, hus, hvs, _⟩ := hp _ [] _ _ hm (List.take_append_drop n _).symm
    obtain rfl := eq_nil_of_masked hus
    have hlength : n = (masked (.kept c :: vs)).length := by
      rw [hvs, List.length_take, Nat.min_eq_left (matchLength_le hn)]
    rw [List.nil_append] at heq
    rw [heq] at hn ⊢
    rw [← hvs] at hm
    exact ⟨c, vs, ws, rfl, hm, congrArg some hlength,
      recut_of_matchLength (by simp) (hlength ▸ hn)⟩

/-- A search does not find anything in a placeholder. -/
theorem pieces_masked_hit :
    p.pieces (masked (.hit t :: ps)) = placeholder.map .kept ++ p.pieces (masked ps) := by
  rw [masked_hit]
  apply pieces_append_of_not_matches
  rintro a b hab hb m hm ⟨r, hr⟩
  have hmask : masked (.hit t :: ps) = a ++ m ++ r := by
    rw [masked_hit, hab, List.append_assoc, hr, List.append_assoc]
  obtain ⟨us, c, vs, ws, heq, hus, _⟩ := hp _ _ _ _ hm hmask
  cases us with
  | nil => cases (List.cons.inj heq).1
  | cons u us =>
    obtain ⟨rfl, _⟩ := List.cons.inj heq
    have hlength := congrArg List.length hab
    have := List.length_pos_iff.2 hb
    rw [← hus, masked_hit] at hlength
    simp only [List.length_append] at hlength
    omega

/-- Masking the new cut is what a search of the masked text masks. -/
theorem masked_recut : masked (recut p ps) = masked (p.pieces (masked ps)) := by
  induction hlength : ps.length using Nat.strongRecOn generalizing ps with
  | ind n ih =>
    subst hlength
    cases ps with
    | nil => simp [recut, pieces]
    | cons x ps =>
      obtain ⟨hnone, hcut⟩ | ⟨c, us, zs, heq, hm, hn, hcut⟩ := recut_cases hp x ps
      · have hrest := ih ps.length (by simp) rfl
        cases x with
        | kept c =>
          rw [masked_kept] at hnone ⊢
          rw [hcut, pieces, hnone, masked_kept, masked_kept, hrest]
        | hit t =>
          rw [hcut, pieces_masked_hit hp, masked_append, masked_hit, hrest, masked_map_kept]
      · have hlength := congrArg List.length heq
        simp only [List.length_append, List.length_cons] at hlength
        have hrest := ih zs.length (by rw [List.length_cons]; omega) rfl
        rw [hcut, heq, masked_append, pieces_of_matchLength (by simp), masked_hit, masked_hit,
          hrest]
        rw [← masked_append, ← heq, hn]

end Aligned

/-- The cut by some families shows the text that their scans leave. -/
theorem masked_cutBy (h : ∀ f ∈ fs, Aligned f.pattern) :
    masked (cutBy fs s) = (scanWith fs s).text := by
  suffices hfold : ∀ ps, masked (fs.foldl (fun ps f => recut f.pattern ps) ps) =
      (scanWith fs (masked ps)).text by
    rw [cutBy, hfold, masked_map_kept]
  induction fs with
  | nil => exact fun _ => rfl
  | cons f fs ih =>
    intro ps
    rw [List.foldl_cons, ih fun g hg => h g (by simp [hg]), masked_recut (h f (by simp))]
    rfl

theorem flatMap_text_cutBy : (cutBy fs s).flatMap Piece.text = s := by
  suffices hfold : ∀ ps, (fs.foldl (fun ps f => recut f.pattern ps) ps).flatMap Piece.text =
      ps.flatMap Piece.text by
    rw [cutBy, hfold, flatMap_text_map_kept]
  induction fs with
  | nil => exact fun _ => rfl
  | cons f fs ih =>
    intro ps
    rw [List.foldl_cons, ih, flatMap_text_recut]

theorem full_cutBy : Full (cutBy fs s) := by
  suffices hfold : ∀ ps, Full ps → Full (fs.foldl (fun ps f => recut f.pattern ps) ps) by
    exact hfold _ fun x hx => by
      obtain ⟨c, _, rfl⟩ := List.mem_map.1 hx
      simp [Piece.text]
  induction fs with
  | nil => exact fun _ h => h
  | cons f fs ih =>
    intro ps h
    exact ih _ (full_recut h)

/-- What is kept to the end was kept by each family on the way. -/
theorem kept_of_kept_cutBy (h : Stands (cutBy (fs ++ gs) s) a (.kept c :: ys)) :
    ∃ zs, Stands (cutBy fs s) a (.kept c :: zs) := by
  rw [cutBy, List.foldl_append] at h
  change Stands (gs.foldl _ (cutBy fs s)) a _ at h
  induction gs generalizing fs with
  | nil => exact ⟨ys, h⟩
  | cons g gs ih =>
    rw [List.foldl_cons, ← cutBy_append_singleton] at h
    obtain ⟨zs, hzs⟩ := ih h
    rw [cutBy_append_singleton] at hzs
    exact kept_of_kept_recut hzs

end MailSnapshot.Secret
