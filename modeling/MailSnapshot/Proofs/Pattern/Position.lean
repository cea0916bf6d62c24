import MailSnapshot.Proofs.Pattern.Occurrence

/-! Places in a text that is cut into pieces. A place is known by the text before it; the places of
two cuts of one text are compared by how many bytes come before them. -/

namespace MailSnapshot.Pattern
open Text
variable {p : Pattern} {a b m s : List Char} {c : Char} {x y : Piece} {ps qs xs ys zs : List Piece}

theorem size_append : Utf8.size (a ++ b) = Utf8.size a + Utf8.size b := by
  induction a with
  | nil => simp [Utf8.size]
  | cons c a ih =>
    simp only [List.cons_append, Utf8.size, ih]
    omega

theorem size_pos (h : a ≠ []) : 0 < Utf8.size a := by
  cases a with
  | nil => exact absurd rfl h
  | cons c a =>
    have := c.utf8Size_pos
    simp only [Utf8.size]
    omega

theorem eq_nil_of_size (h : Utf8.size a = 0) : a = [] :=
  Decidable.byContradiction fun hne => absurd (size_pos hne) (by omega)

/-- Two beginnings of one text of the same size are the same. -/
theorem eq_of_size {r t : List Char} (h : a ++ r = b ++ t) (hsize : Utf8.size a = Utf8.size b) :
    a = b := by
  obtain ⟨d, rfl, _⟩ | ⟨d, rfl, _⟩ := List.append_eq_append_iff.1 h
  · rw [size_append] at hsize
    rw [eq_nil_of_size (by omega : Utf8.size d = 0), List.append_nil]
  · rw [size_append] at hsize
    rw [eq_nil_of_size (by omega : Utf8.size d = 0), List.append_nil]

/-- The pieces `ys` end the cut, and the text before them is `a`. -/
def Stands (qs : List Piece) (a : List Char) (ys : List Piece) : Prop :=
  ∃ xs, qs = xs ++ ys ∧ xs.flatMap Piece.text = a

/-- No piece is empty. -/
def Full (qs : List Piece) : Prop := ∀ x ∈ qs, x.text ≠ []

/-- The pieces with their places, in UTF-8 bytes, when the first piece starts at `start`. -/
def placesFrom (start : Nat) : List Piece → List (Nat × Piece)
  | [] => []
  | x :: ps => (start, x) :: placesFrom (start + Utf8.size x.text) ps

/-- The places of the characters outside every match. -/
def keptPlaces (qs : List Piece) : List Nat :=
  (placesFrom 0 qs).filterMap fun place => if place.2.isHit then none else some place.1

theorem stands_cons_iff :
    Stands (x :: qs) a (y :: ys) ↔
      (a = [] ∧ y = x ∧ ys = qs) ∨ ∃ b, a = x.text ++ b ∧ Stands qs b (y :: ys) := by
  constructor
  · rintro ⟨_ | ⟨x', xs⟩, heq, rfl⟩
    · obtain ⟨rfl, rfl⟩ := List.cons.inj heq
      exact .inl ⟨rfl, rfl, rfl⟩
    · obtain ⟨rfl, rfl⟩ := List.cons.inj heq
      exact .inr ⟨_, rfl, xs, rfl, rfl⟩
  · rintro (⟨rfl, rfl, rfl⟩ | ⟨b, rfl, xs, rfl, rfl⟩)
    · exact ⟨[], rfl, rfl⟩
    · exact ⟨x :: xs, rfl, rfl⟩

theorem mem_placesFrom_iff {start i : Nat} :
    (i, y) ∈ placesFrom start qs ↔ ∃ a ys, Stands qs a (y :: ys) ∧ i = start + Utf8.size a := by
  induction qs generalizing start with
  | nil => simp [placesFrom, Stands]
  | cons x qs ih =>
    simp only [placesFrom, List.mem_cons, ih, stands_cons_iff]
    constructor
    · rintro (heq | ⟨a, ys, h, rfl⟩)
      · cases heq
        exact ⟨[], qs, .inl ⟨rfl, rfl, rfl⟩, rfl⟩
      · exact ⟨x.text ++ a, ys, .inr ⟨a, rfl, h⟩, by rw [size_append, Nat.add_assoc]⟩
    · rintro ⟨_, ys, ⟨rfl, rfl, rfl⟩ | ⟨a, rfl, h⟩, rfl⟩
      · exact .inl rfl
      · exact .inr ⟨a, ys, h, by rw [size_append, Nat.add_assoc]⟩

theorem mem_keptPlaces_iff {i : Nat} :
    i ∈ keptPlaces qs ↔ ∃ a c ys, Stands qs a (.kept c :: ys) ∧ i = Utf8.size a := by
  rw [keptPlaces, List.mem_filterMap]
  constructor
  · rintro ⟨⟨j, x⟩, hmem, hx⟩
    obtain ⟨a, ys, h, rfl⟩ := mem_placesFrom_iff.1 hmem
    cases x with
    | hit t => cases hx
    | kept c => exact ⟨a, c, ys, h, by simpa [Piece.isHit] using hx.symm⟩
  · rintro ⟨a, c, ys, h, rfl⟩
    exact ⟨(Utf8.size a, .kept c), mem_placesFrom_iff.2 ⟨a, ys, h, (Nat.zero_add _).symm⟩, rfl⟩

theorem spansFrom_eq {start : Nat} :
    spansFrom start qs = (placesFrom start qs).filterMap fun place =>
      if place.2.isHit then some (place.1, place.1 + Utf8.size place.2.text) else none := by
  induction qs generalizing start with
  | nil => rfl
  | cons x qs ih =>
    cases x with
    | kept c => exact ih
    | hit t =>
      rw [spansFrom, ih]
      rfl

theorem mem_spansFrom_iff {span : Nat × Nat} :
    span ∈ spansFrom 0 qs ↔ ∃ a t ys, Stands qs a (.hit t :: ys) ∧
      span = (Utf8.size a, Utf8.size a + Utf8.size t) := by
  rw [spansFrom_eq, List.mem_filterMap]
  constructor
  · rintro ⟨⟨j, x⟩, hmem, hx⟩
    obtain ⟨a, ys, h, rfl⟩ := mem_placesFrom_iff.1 hmem
    cases x with
    | kept c => cases hx
    | hit t => exact ⟨a, t, ys, h, by simpa [Piece.isHit, Piece.text] using hx.symm⟩
  · rintro ⟨a, t, ys, h, rfl⟩
    exact ⟨(Utf8.size a, .hit t), mem_placesFrom_iff.2 ⟨a, ys, h, (Nat.zero_add _).symm⟩, rfl⟩

theorem mem_spans_iff {span : Nat × Nat} :
    span ∈ p.spans s ↔
      ∃ a t ys, Stands (p.pieces s) a (.hit t :: ys) ∧
        span = (Utf8.size a, Utf8.size a + Utf8.size t) :=
  mem_spansFrom_iff

namespace Stands

theorem mem (h : Stands qs a (x :: ys)) : x ∈ qs := by
  obtain ⟨xs, rfl, _⟩ := h
  simp

theorem flatMap_text (h : Stands qs a ys) : qs.flatMap Piece.text = a ++ ys.flatMap Piece.text := by
  obtain ⟨xs, rfl, rfl⟩ := h
  exact List.flatMap_append

theorem cons (h : Stands qs a ys) : Stands (x :: qs) (x.text ++ a) ys := by
  obtain ⟨xs, rfl, rfl⟩ := h
  exact ⟨x :: xs, rfl, rfl⟩

theorem append (h : Stands qs a (xs ++ ys)) : Stands qs (a ++ xs.flatMap Piece.text) ys := by
  obtain ⟨us, rfl, rfl⟩ := h
  exact ⟨us ++ xs, by simp, by simp⟩

theorem next (h : Stands qs a (x :: ys)) : Stands qs (a ++ x.text) ys := by
  simpa using append (show Stands qs a ([x] ++ ys) from h)

/-- No place is inside a piece. -/
theorem outside (h : Stands qs a (x :: ys)) (hb : Stands qs b zs) :
    Utf8.size b ≤ Utf8.size a ∨ Utf8.size a + Utf8.size x.text ≤ Utf8.size b := by
  obtain ⟨xs, rfl, rfl⟩ := h
  obtain ⟨us, heq, rfl⟩ := hb
  obtain ⟨ws, rfl, hw⟩ | ⟨ws, rfl, hw⟩ := List.append_eq_append_iff.1 heq
  · cases ws with
    | nil => simp
    | cons w ws =>
      obtain ⟨rfl, _⟩ := List.cons.inj hw
      right
      rw [List.flatMap_append, List.flatMap_cons, size_append, size_append]
      omega
  · left
    rw [List.flatMap_append, size_append]
    omega

/-- When no piece is empty there is one place for each size. -/
theorem unique (hfull : Full qs) (h : Stands qs a ys) (hb : Stands qs b zs)
    (hsize : Utf8.size a = Utf8.size b) : ys = zs := by
  obtain ⟨xs, rfl, rfl⟩ := h
  obtain ⟨us, heq, rfl⟩ := hb
  have hnil : ∀ ws : List Piece, (∀ w ∈ ws, w.text ≠ []) →
      Utf8.size (ws.flatMap Piece.text) = 0 → ws = [] := by
    intro ws hws hzero
    cases ws with
    | nil => rfl
    | cons w ws =>
      have := size_pos (hws w (by simp))
      rw [List.flatMap_cons, size_append] at hzero
      omega
  obtain ⟨ws, rfl, hw⟩ | ⟨ws, rfl, hw⟩ := List.append_eq_append_iff.1 heq
  · rw [List.flatMap_append, size_append] at hsize
    obtain rfl := hnil ws (fun w hmem => hfull w (by simp [hw, hmem])) (by omega)
    exact hw
  · rw [List.flatMap_append, size_append] at hsize
    obtain rfl := hnil ws (fun w hmem => hfull w (by simp [hmem])) (by omega)
    exact hw.symm

/-- A place that is neither before nor after some pieces cuts them in two. -/
theorem split (h : Stands qs a (xs ++ ys)) (hb : Stands qs b zs) (hlow : Utf8.size a < Utf8.size b)
    (hhigh : Utf8.size b < Utf8.size a + Utf8.size (xs.flatMap Piece.text)) :
    ∃ us vs, xs = us ++ vs ∧ us ≠ [] ∧ vs ≠ [] ∧ vs ++ ys = zs := by
  obtain ⟨ws, rfl, rfl⟩ := h
  obtain ⟨ws', heq, rfl⟩ := hb
  obtain ⟨us, rfl, htail⟩ | ⟨us, rfl, _⟩ := List.append_eq_append_iff.1 heq
  · rw [List.flatMap_append, size_append] at hlow hhigh
    have hus : us ≠ [] := by
      rintro rfl
      simp [Utf8.size] at hlow
    obtain ⟨vs, rfl, _⟩ | ⟨vs, rfl, rfl⟩ := List.append_eq_append_iff.1 htail
    · rw [List.flatMap_append, size_append] at hhigh
      omega
    · refine ⟨us, vs, rfl, hus, ?_, rfl⟩
      rintro rfl
      simp at hhigh
  · rw [List.flatMap_append, size_append] at hlow
    omega

/-- The piece at a place inside a run of pieces is one of the run. -/
theorem mem_of_inside (hfull : Full qs) (h : Stands qs a (xs ++ ys)) (hb : Stands qs b (x :: zs))
    (hlow : Utf8.size a ≤ Utf8.size b)
    (hhigh : Utf8.size b < Utf8.size a + Utf8.size (xs.flatMap Piece.text)) : x ∈ xs := by
  by_cases hsize : Utf8.size a = Utf8.size b
  · have hsame := h.unique hfull hb hsize
    cases xs with
    | nil =>
      simp only [List.flatMap_nil, Utf8.size] at hhigh
      omega
    | cons w ws =>
      obtain ⟨rfl, _⟩ := List.cons.inj hsame
      exact List.mem_cons_self
  · obtain ⟨us, vs, rfl, _, hne, hover⟩ := h.split hb (by omega) hhigh
    obtain ⟨v, vs, rfl⟩ := List.exists_cons_of_ne_nil hne
    obtain ⟨rfl, _⟩ := List.cons.inj hover
    simp

end Stands

/-- A place of the text is one of the cut, or it is inside a match. -/
theorem stands_or_inside (h : qs.flatMap Piece.text = a ++ b) :
    (∃ ys, Stands qs a ys) ∨ ∃ d t ys, Stands qs d (.hit t :: ys) ∧
      Utf8.size d < Utf8.size a ∧ Utf8.size a < Utf8.size d + Utf8.size t := by
  induction qs generalizing a with
  | nil =>
    obtain ⟨rfl, _⟩ := List.append_eq_nil_iff.1 h.symm
    exact .inl ⟨[], [], rfl, rfl⟩
  | cons x qs ih =>
    rw [List.flatMap_cons] at h
    obtain ⟨a', rfl, htail⟩ | ⟨d, hx, _⟩ := List.append_eq_append_iff.1 h
    · obtain ⟨ys, hys⟩ | ⟨d, t, ys, hys, hlow, hhigh⟩ := ih htail
      · exact .inl ⟨ys, hys.cons⟩
      · refine .inr ⟨x.text ++ d, t, ys, hys.cons, ?_⟩
        simp only [size_append]
        omega
    · by_cases ha : a = []
      · subst ha
        exact .inl ⟨x :: qs, [], rfl, rfl⟩
      by_cases hd : d = []
      · subst hd
        exact .inl ⟨qs, [x], rfl, by simp [hx]⟩
      -- The place is inside the first piece, which is more than a character then.
      have hapos := size_pos ha
      have hdpos := size_pos hd
      cases x with
      | kept c =>
        obtain ⟨c', a, rfl⟩ := List.exists_cons_of_ne_nil ha
        obtain ⟨_, hnil⟩ := List.cons.inj hx
        simp [hd] at hnil
      | hit t =>
        refine .inr ⟨[], t, qs, ⟨[], rfl, rfl⟩, hapos, ?_⟩
        rw [show t = a ++ d from hx, size_append]
        simp only [Utf8.size]
        omega

theorem full_pieces : Full (p.pieces s) := by
  intro x hx
  fun_induction pieces p s with
  | case1 => cases hx
  | case2 c r n _ ih =>
    rcases List.mem_cons.1 hx with rfl | hx
    · simp [Piece.text]
    · exact ih hx
  | case3 c r _ ih =>
    rcases List.mem_cons.1 hx with rfl | hx
    · simp [Piece.text]
    · exact ih hx

/-- Where a match starts, the search has found one that starts there or is not over yet. -/
theorem exists_hit_of_matches {cs n r : List Char} (hp : p.demands cs = true)
    (hn : p.Matches n) (hs : s = a ++ (n ++ r)) :
    ∃ d t ys, Stands (p.pieces s) d (.hit t :: ys) ∧
      Utf8.size d ≤ Utf8.size a ∧ Utf8.size a < Utf8.size d + Utf8.size t := by
  obtain ⟨ys, hys⟩ | ⟨d, t, ys, hys, hlow, hhigh⟩ :=
    stands_or_inside ((flatMap_text_pieces p s).trans hs)
  · have hrest : ys.flatMap Piece.text = n ++ r := by
      have htext := hys.flatMap_text
      rw [flatMap_text_pieces, hs] at htext
      exact (List.append_cancel_left htext).symm
    cases ys with
    | nil => exact absurd (List.append_eq_nil_iff.1 hrest.symm).1 (ne_nil_of_demands hn hp)
    | cons y ys =>
      have hy : y.text ≠ [] := full_pieces y hys.mem
      cases y with
      | kept c =>
        obtain ⟨xs, hxs, _⟩ := hys
        exact absurd ⟨r, hrest⟩ (not_matches_of_kept hp hxs hn)
      | hit t =>
        have := size_pos hy
        exact ⟨a, t, ys, hys, Nat.le_refl _, Nat.lt_add_of_pos_right this⟩
  · exact ⟨d, t, ys, hys, Nat.le_of_lt hlow, hhigh⟩

end MailSnapshot.Pattern
