import MailSnapshot.Pattern.Build
import MailSnapshot.Pattern.Pieces

/-! Occurrences of a pattern in a text. A search cuts a text into pieces, and it finds something
exactly when the pattern occurs. -/

namespace MailSnapshot.Pattern
variable {p q : Pattern} {c : Char} {cs s m r : List Char} {xs ys : List Piece}

/-- Some part of the text is a match. -/
def OccursIn (p : Pattern) (s : List Char) : Prop :=
  ∃ a m b, p.Matches m ∧ s = a ++ m ++ b

/-- No match holds the character. -/
def bars (c : Char) : Pattern → Bool
  | empty => true
  | one k | run k | shortRun k => !k c
  | seq p q | alt p q => p.bars c && q.bars c

/-- Every match holds a character that is not on the list. -/
def demands (cs : List Char) : Pattern → Bool
  | one k => cs.all fun c => !k c
  | seq p q => p.demands cs || q.demands cs
  | alt p q => p.demands cs && q.demands cs
  | empty | run _ | shortRun _ => false

theorem not_mem_of_bars (hm : p.Matches m) (h : p.bars c = true) : c ∉ m := by
  induction hm with
  | empty => simp
  | one hk =>
    intro hc
    obtain rfl := List.mem_singleton.1 hc
    simp [bars, hk] at h
  | seq _ _ ihp ihq =>
    obtain ⟨hp, hq⟩ := Bool.and_eq_true_iff.1 h
    simp [ihp hp, ihq hq]
  | left _ ih => exact ih (Bool.and_eq_true_iff.1 h).1
  | right _ ih => exact ih (Bool.and_eq_true_iff.1 h).2
  | run hk | shortRun hk =>
    intro hc
    simp [bars, hk c hc] at h

theorem exists_not_mem_of_demands (hm : p.Matches m) (h : p.demands cs = true) :
    ∃ c ∈ m, c ∉ cs := by
  induction hm with
  | empty | run | shortRun => simp [demands] at h
  | @one k c hk =>
    refine ⟨c, by simp, ?_⟩
    intro hc
    have := List.all_eq_true.1 h c hc
    simp [hk] at this
  | seq _ _ ihp ihq =>
    rcases Bool.or_eq_true_iff.1 h with hp | hq
    · obtain ⟨c, hc, hn⟩ := ihp hp
      exact ⟨c, List.mem_append_left _ hc, hn⟩
    · obtain ⟨c, hc, hn⟩ := ihq hq
      exact ⟨c, List.mem_append_right _ hc, hn⟩
  | left _ ih => exact ih (Bool.and_eq_true_iff.1 h).1
  | right _ ih => exact ih (Bool.and_eq_true_iff.1 h).2

theorem ne_nil_of_demands (hm : p.Matches m) (h : p.demands cs = true) : m ≠ [] := by
  obtain ⟨c, hc, _⟩ := exists_not_mem_of_demands hm h
  exact List.ne_nil_of_mem hc

theorem matches_seq_iff :
    (seq p q).Matches m ↔ ∃ s t, p.Matches s ∧ q.Matches t ∧ m = s ++ t := by
  constructor
  · rintro ⟨⟩
    exact ⟨_, _, ‹_›, ‹_›, rfl⟩
  · rintro ⟨s, t, hp, hq, rfl⟩
    exact .seq hp hq

theorem matches_chain_cons_iff {ps : List Pattern} :
    (chain (p :: ps)).Matches m ↔ ∃ s t, p.Matches s ∧ (chain ps).Matches t ∧ m = s ++ t := by
  cases ps with
  | cons q ps => exact matches_seq_iff
  | nil =>
    constructor
    · intro hp
      exact ⟨m, [], hp, .empty, (List.append_nil m).symm⟩
    · rintro ⟨s, t, hp, ⟨⟩, rfl⟩
      rwa [List.append_nil]

theorem matches_chain_append_iff {ps qs : List Pattern} :
    (chain (ps ++ qs)).Matches m ↔
      ∃ s t, (chain ps).Matches s ∧ (chain qs).Matches t ∧ m = s ++ t := by
  induction ps generalizing m with
  | nil =>
    constructor
    · intro h
      exact ⟨[], m, .empty, h, rfl⟩
    · rintro ⟨s, t, ⟨⟩, h, rfl⟩
      exact h
  | cons p ps ih =>
    rw [List.cons_append, matches_chain_cons_iff]
    constructor
    · rintro ⟨s, _, hp, h, rfl⟩
      obtain ⟨t, u, ht, hu, rfl⟩ := ih.1 h
      exact ⟨s ++ t, u, matches_chain_cons_iff.2 ⟨s, t, hp, ht, rfl⟩, hu, by simp⟩
    · rintro ⟨_, u, h, hu, rfl⟩
      obtain ⟨s, t, hp, ht, rfl⟩ := matches_chain_cons_iff.1 h
      exact ⟨s, t ++ u, hp, ih.2 ⟨t, u, ht, hu, rfl⟩, by simp⟩

/-- Where a match starts, the search finds one. -/
theorem exists_matchLength (hp : p.demands cs = true) (hm : p.Matches m) :
    ∃ n, p.matchLength? (m ++ r) = some (n + 1) := by
  have hr : r ∈ p.rests (m ++ r) := mem_rests_iff.2 ⟨m, hm, rfl⟩
  cases hrests : p.rests (m ++ r) with
  | nil =>
    rw [hrests] at hr
    cases hr
  | cons r' rs =>
    obtain ⟨m', hm', heq⟩ := mem_rests_iff.1 (show r' ∈ p.rests (m ++ r) by simp [hrests])
    have hlength : (m ++ r).length = m'.length + r'.length := by rw [heq, List.length_append]
    have hpos : 0 < m'.length := List.length_pos_iff.2 (ne_nil_of_demands hm' hp)
    refine ⟨(m ++ r).length - r'.length - 1, ?_⟩
    rw [matchLength?, hrests]
    simp only [List.head?_cons, Option.map_some, Option.some.injEq]
    omega

/-- What the search finds is a match. -/
theorem matches_of_matchLength {n : Nat} (h : p.matchLength? s = some n) :
    p.Matches (s.take n) := by
  obtain ⟨r, hr, hn⟩ := Option.map_eq_some_iff.1 h
  obtain ⟨m, hm, rfl⟩ := mem_rests_iff.1 (List.mem_of_head? hr)
  have : n = m.length := by simp at hn; omega
  rwa [this, List.take_left]

/-- A search does not look back: the pieces of a text's end are the last pieces of the text. -/
theorem pieces_of_pieces_append (h : p.pieces s = xs ++ ys) :
    p.pieces (ys.flatMap Piece.text) = ys := by
  induction xs generalizing s with
  | nil =>
    rw [List.nil_append] at h
    rw [← h, flatMap_text_pieces]
  | cons x xs ih =>
    match s with
    | [] => simp [pieces] at h
    | c :: s =>
      rw [pieces] at h
      split at h
      · exact ih (List.cons.inj h).2
      · exact ih (List.cons.inj h).2

/-- No match starts at a character that the search keeps. -/
theorem not_matches_of_kept (hp : p.demands cs = true) (h : p.pieces s = xs ++ .kept c :: ys)
    (hm : p.Matches m) : ¬ ∃ r, (Piece.kept c :: ys).flatMap Piece.text = m ++ r := by
  rintro ⟨r, heq⟩
  have hpieces := pieces_of_pieces_append h
  obtain ⟨n, hn⟩ := @exists_matchLength p cs m r hp hm
  rw [← heq] at hn
  rw [List.flatMap_cons] at hpieces hn
  rw [show (Piece.kept c).text = [c] from rfl, List.singleton_append] at hpieces hn
  rw [pieces, hn] at hpieces
  simp at hpieces

theorem matches_of_hit {t : List Char} (h : Piece.hit t ∈ p.pieces s) : p.Matches t := by
  fun_induction pieces p s with
  | case1 => simp at h
  | case2 c r n hn ih =>
    rcases List.mem_cons.1 h with heq | h
    · cases heq
      exact matches_of_matchLength hn
    · exact ih h
  | case3 c r _ ih =>
    rcases List.mem_cons.1 h with heq | h
    · cases heq
    · exact ih h

theorem occursIn_of_hit {t : List Char} (h : Piece.hit t ∈ p.pieces s) : p.OccursIn s := by
  obtain ⟨xs, ys, hps⟩ := List.append_of_mem h
  refine ⟨xs.flatMap Piece.text, t, ys.flatMap Piece.text, matches_of_hit h, ?_⟩
  rw [← flatMap_text_pieces p s, hps]
  simp [Piece.text]

theorem eq_map_kept (h : ∀ x ∈ xs, x.isHit = false) : xs = (xs.flatMap Piece.text).map .kept := by
  induction xs with
  | nil => rfl
  | cons x xs ih =>
    cases x with
    | hit t => exact absurd (h (.hit t) (by simp)) (by simp [Piece.isHit])
    | kept c =>
      have htail := ih fun x hx => h x (by simp [hx])
      simp only [List.flatMap_cons, Piece.text, List.singleton_append, List.map_cons, ← htail]

/-- A search without hits keeps the text. -/
theorem pieces_eq_map_kept (h : (p.pieces s).countP Piece.isHit = 0) :
    p.pieces s = s.map .kept := by
  have hkept := eq_map_kept fun x hx => Bool.eq_false_iff.2 (List.countP_eq_zero.1 h x hx)
  rwa [flatMap_text_pieces] at hkept

/-- A pattern without empty matches occurs in a text exactly when the search has a hit. -/
theorem occursIn_iff (hp : p.demands cs = true) :
    p.OccursIn s ↔ 0 < (p.pieces s).countP Piece.isHit := by
  constructor
  · rintro ⟨a, m, b, hm, rfl⟩
    rw [Nat.pos_iff_ne_zero]
    intro hzero
    have hpieces := pieces_eq_map_kept hzero
    cases m with
    | nil => exact ne_nil_of_demands hm hp rfl
    | cons c m =>
      rw [List.append_assoc, List.map_append, List.cons_append, List.map_cons] at hpieces
      refine not_matches_of_kept hp hpieces hm ⟨b, ?_⟩
      simp [List.flatMap_map, Piece.text]
  · intro h
    obtain ⟨x, hx, hhit⟩ := List.countP_pos_iff.1 h
    cases x with
    | kept c => cases hhit
    | hit t => exact occursIn_of_hit hx

theorem spansFrom_eq_nil {start : Nat} (h : xs.countP Piece.isHit = 0) :
    spansFrom start xs = [] := by
  induction xs generalizing start with
  | nil => rfl
  | cons x xs ih =>
    cases x with
    | hit t => simp [Piece.isHit] at h
    | kept c => exact ih (by simpa [Piece.isHit] using h)

theorem spans_eq_nil (hp : p.demands cs = true) (h : ¬ p.OccursIn s) : p.spans s = [] := by
  rw [occursIn_iff hp] at h
  exact spansFrom_eq_nil (by omega)

end MailSnapshot.Pattern
