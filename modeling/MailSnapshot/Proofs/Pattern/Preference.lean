import MailSnapshot.Proofs.Pattern.Occurrence
import Mathlib.Data.List.Forall2

/-! Which of its matches a search prefers. The text behind a match can only make the search prefer a
match that reaches into it, so a preferred match is also that of any shorter text that holds it. -/

namespace MailSnapshot.Pattern
variable {p q : Pattern} {k : CharClass} {ks : List CharClass} {c : Char} {m r s : List Char}
  {n : Nat}

theorem flatMap_filter_of_nil {α β : Type} {f : α → List β} {keep : α → Bool}
    (h : ∀ a, keep a = false → f a = []) (as : List α) :
    (as.filter keep).flatMap f = as.flatMap f := by
  induction as with
  | nil => rfl
  | cons a as ih =>
    cases ha : keep a with
    | true => rw [List.filter_cons_of_pos ha, List.flatMap_cons, List.flatMap_cons, ih]
    | false =>
      rw [List.filter_cons_of_neg (by simp [ha]), List.flatMap_cons, h a ha, List.nil_append, ih]

theorem length_le_of_mem_rests {t : List Char} (h : t ∈ p.rests s) : t.length ≤ s.length := by
  obtain ⟨m, _, rfl⟩ := mem_rests_iff.1 h
  simp

theorem length_le_of_mem_afterRuns {t : List Char} (h : t ∈ afterRuns k s) :
    t.length ≤ s.length := by
  obtain ⟨m, _, rfl⟩ := mem_afterRuns_iff.1 h
  simp

theorem afterRuns_cons :
    afterRuns k (c :: s) = (c :: s) :: if k c then afterRuns k s else [] := rfl

theorem rests_one_cons : (one k).rests (c :: s) = if k c then [s] else [] := rfl

theorem filter_afterRuns :
    (afterRuns k (m ++ r)).filter (fun t => decide (r.length ≤ t.length)) =
      (afterRuns k m).map (· ++ r) := by
  induction m with
  | nil =>
    cases r with
    | nil => rfl
    | cons c r =>
      have hshort : ∀ t ∈ afterRuns k r, ¬ (c :: r).length ≤ t.length := by
        intro t ht
        have := length_le_of_mem_afterRuns ht
        simp only [List.length_cons]
        omega
      have hnone : (afterRuns k r).filter (fun t => decide ((c :: r).length ≤ t.length)) = [] :=
        List.filter_eq_nil_iff.2 fun t ht => by simpa using hshort t ht
      rw [List.nil_append, afterRuns_cons, List.filter_cons_of_pos (by simp)]
      split
      · rw [hnone]
        rfl
      · rfl
  | cons c m ih =>
    rw [List.cons_append, afterRuns, afterRuns, List.filter_cons_of_pos (by simp; omega)]
    split
    · rw [ih]
      rfl
    · rfl

/-- The ways to match that leave an end of the text alone are the ways to match what is before. -/
theorem filter_rests :
    (p.rests (m ++ r)).filter (fun t => decide (r.length ≤ t.length)) =
      (p.rests m).map (· ++ r) := by
  induction p generalizing m with
  | empty => simp [rests]
  | one k =>
    cases m with
    | nil =>
      cases r with
      | nil => rfl
      | cons c r =>
        rw [List.nil_append, rests_one_cons]
        split <;> simp [rests]
    | cons c m =>
      rw [List.cons_append, rests_one_cons, rests_one_cons]
      split <;> simp
  | seq p q hp hq =>
    let keep : List Char → Bool := fun t => decide (r.length ≤ t.length)
    have hnone : ∀ t, keep t = false → (q.rests t).filter keep = [] := by
      intro t ht
      refine List.filter_eq_nil_iff.2 fun u hu => ?_
      have hlength := length_le_of_mem_rests hu
      simp only [keep, decide_eq_true_eq, decide_eq_false_iff_not] at ht ⊢
      omega
    calc ((p.rests (m ++ r)).flatMap q.rests).filter keep
        = (p.rests (m ++ r)).flatMap fun t => (q.rests t).filter keep := List.filter_flatMap ..
      _ = ((p.rests (m ++ r)).filter keep).flatMap fun t => (q.rests t).filter keep :=
          (flatMap_filter_of_nil hnone _).symm
      _ = (p.rests m).flatMap fun t => (q.rests (t ++ r)).filter keep := by
          rw [hp, List.flatMap_map]
      _ = (p.rests m).flatMap fun t => (q.rests t).map (· ++ r) := by simp only [keep, hq]
      _ = ((p.rests m).flatMap q.rests).map (· ++ r) := List.map_flatMap.symm
  | alt p q hp hq => rw [rests, rests, List.filter_append, List.map_append, hp, hq]
  | run k => rw [rests, rests, List.filter_reverse, List.map_reverse, filter_afterRuns]
  | shortRun k => exact filter_afterRuns

/-- A preferred match is preferred in every shorter text that holds it. -/
theorem matchLength_of_append (h : p.matchLength? (m ++ r) = some n) (hn : n ≤ m.length) :
    p.matchLength? m = some n := by
  obtain ⟨t, ht, hlength⟩ := Option.map_eq_some_iff.1 h
  obtain ⟨ts, hrests⟩ := List.head?_eq_some_iff.1 ht
  have hle : t.length ≤ (m ++ r).length := length_le_of_mem_rests (List.mem_of_head? ht)
  rw [List.length_append] at hlength hle
  have hfilter := filter_rests (p := p) (m := m) (r := r)
  rw [hrests, List.filter_cons_of_pos (by simp; omega)] at hfilter
  cases hm : p.rests m with
  | nil =>
    rw [hm] at hfilter
    cases hfilter
  | cons u us =>
    rw [hm, List.map_cons] at hfilter
    obtain ⟨rfl, _⟩ := List.cons.inj hfilter
    rw [List.length_append] at hlength hle
    rw [matchLength?, hm, List.head?_cons, Option.map_some]
    congr 1
    omega

theorem matchLength_le (h : p.matchLength? s = some n) : n ≤ s.length := by
  obtain ⟨t, _, rfl⟩ := Option.map_eq_some_iff.1 h
  omega

theorem rests_chain_append (ps qs : List Pattern) :
    (chain (ps ++ qs)).rests s = ((chain ps).rests s).flatMap (chain qs).rests := by
  induction ps generalizing s with
  | nil => simp [chain, rests]
  | cons p ps ih =>
    cases ps with
    | nil =>
      cases qs with
      | nil => simp [chain, rests]
      | cons q qs => rfl
    | cons p' ps =>
      change (p.rests s).flatMap (chain (p' :: ps ++ qs)).rests = _
      have hrests : (chain (p :: p' :: ps)).rests s =
          (p.rests s).flatMap (chain (p' :: ps)).rests := rfl
      rw [hrests, List.flatMap_assoc]
      exact congrArg (List.flatMap · _) (funext fun _ => ih)

/-- The shortest run leaves the most. -/
theorem pairwise_afterRuns : (afterRuns k s).Pairwise fun t u => ∃ d, d ≠ [] ∧ t = d ++ u := by
  induction s with
  | nil => simp [afterRuns]
  | cons c s ih =>
    rw [afterRuns, List.pairwise_cons]
    split
    · refine ⟨fun u hu => ?_, ih⟩
      obtain ⟨m, _, rfl⟩ := mem_afterRuns_iff.1 hu
      exact ⟨c :: m, by simp, rfl⟩
    · simp

theorem matches_each_iff : (each ks).Matches m ↔ List.Forall₂ (fun k c => k c = true) ks m := by
  induction ks generalizing m with
  | nil =>
    constructor
    · rintro ⟨⟩
      exact .nil
    · rintro ⟨⟩
      exact .empty
  | cons k ks ih =>
    rw [show each (k :: ks) = seq (one k) (each ks) from rfl, matches_seq_iff]
    constructor
    · rintro ⟨_, t, hs, ht, rfl⟩
      cases hs with
      | one hc => exact .cons hc (ih.1 ht)
    · intro h
      cases h with
      | cons hc ht => exact ⟨[_], _, .one hc, ih.2 ht, rfl⟩

theorem matches_word_iff {w : String} : (word w).Matches m ↔ m = w.toList := by
  rw [word, matches_each_iff, List.forall₂_map_left_iff]
  constructor
  · intro h
    refine (List.forall₂_eq_eq_eq ▸ h.imp fun a b hab => ?_ : w.toList = m).symm
    simpa [CharClass.isOneOf, eq_comm] using hab
  · rintro rfl
    exact List.forall₂_same.2 fun c _ => by simp [CharClass.isOneOf]

section Pieces

theorem pieces_of_matchLength (hm : m ≠ []) (h : p.matchLength? (m ++ r) = some m.length) :
    p.pieces (m ++ r) = .hit m :: p.pieces r := by
  cases m with
  | nil => exact absurd rfl hm
  | cons c m =>
    rw [List.cons_append] at h ⊢
    rw [pieces, h, List.length_cons]
    simp

theorem matchLength_of_pieces {ys : List Piece} (h : p.pieces s = .hit m :: ys) :
    p.matchLength? s = some m.length := by
  cases s with
  | nil => simp [pieces] at h
  | cons c s =>
    rw [pieces] at h
    split at h
    · rename_i n hn
      have hle := matchLength_le hn
      obtain ⟨hm, _⟩ := List.cons.inj h
      rw [hn, ← Piece.hit.inj hm]
      rw [List.length_cons] at hle
      simp only [List.length_cons, List.length_take, Option.some.injEq]
      omega
    · cases (List.cons.inj h).1

/-- A search passes over the places at which no match starts. -/
theorem pieces_append_of_not_matches
    (h : ∀ a b, s = a ++ b → b ≠ [] → ∀ m, p.Matches m → ¬ ∃ t, b ++ r = m ++ t) :
    p.pieces (s ++ r) = s.map .kept ++ p.pieces r := by
  induction s with
  | nil => rfl
  | cons c s ih =>
    have hnone : p.matchLength? (c :: (s ++ r)) = none := by
      cases hn : p.matchLength? (c :: (s ++ r)) with
      | none => rfl
      | some n =>
        exact absurd ⟨_, (List.take_append_drop n _).symm⟩
          (h [] (c :: s) rfl (by simp) _ (matches_of_matchLength hn))
    rw [List.cons_append, pieces, hnone, List.map_cons, List.cons_append]
    refine congrArg _ (ih fun a b hs hb => ?_)
    exact h (c :: a) b (by rw [hs, List.cons_append]) hb

end Pieces
end MailSnapshot.Pattern
