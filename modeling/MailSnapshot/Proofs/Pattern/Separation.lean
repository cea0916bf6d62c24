import MailSnapshot.Proofs.Pattern.Preference

/-! Texts joined by a separator. When no match of a pattern reaches from one side to the other, or
into the separator, a search of the joined text finds what it finds on each side. -/

namespace MailSnapshot.Pattern
variable {p : Pattern} {a b m r s sep x y : List Char} {c : Char} {cs : List Char}

/-- Each match in two texts with a separator between them stands on one side. -/
def Parted (p : Pattern) (a sep b : List Char) : Prop :=
  ∀ x m y, p.Matches m → a ++ sep ++ b = x ++ m ++ y → x ++ m <+: a ∨ a ++ sep <+: x

/-- What does not hold a character stands before it or behind it. -/
theorem stands_beside (hc : c ∉ m) (h : a ++ c :: b = x ++ m ++ y) :
    x ++ m <+: a ∨ a ++ [c] <+: x := by
  obtain ⟨d, hd, hcb⟩ | ⟨d, rfl, _⟩ := List.append_eq_append_iff.1 h
  · cases d with
    | nil =>
      rw [List.append_nil] at hd
      exact .inl (hd ▸ List.prefix_refl _)
    | cons c' d =>
      obtain ⟨rfl, _⟩ := List.cons.inj hcb
      obtain ⟨e, _, rfl⟩ | ⟨e, rfl, he⟩ := List.append_eq_append_iff.1 hd
      · simp at hc
      · cases e with
        | nil =>
          rw [List.nil_append] at he
          simp [← he] at hc
        | cons c' e =>
          obtain ⟨rfl, _⟩ := List.cons.inj he
          exact .inr ⟨e, by simp⟩
  · exact .inl (List.prefix_append _ _)

section Behind
variable (h : ∀ m t, p.Matches m → s ++ r = m ++ t → m.length ≤ s.length)
include h

/-- Where no match reaches into the text behind, that text changes nothing. -/
theorem rests_append : p.rests (s ++ r) = (p.rests s).map (· ++ r) := by
  have hall : ∀ t ∈ p.rests (s ++ r), r.length ≤ t.length := by
    intro t ht
    obtain ⟨m, hm, heq⟩ := mem_rests_iff.1 ht
    have hlength := congrArg List.length heq
    have hle := h m t hm heq
    rw [List.length_append, List.length_append] at hlength
    omega
  rw [← filter_rests, List.filter_eq_self.2 fun t ht => decide_eq_true (hall t ht)]

theorem matchLength_append : p.matchLength? (s ++ r) = p.matchLength? s := by
  rw [matchLength?, matchLength?, rests_append h, List.head?_map, Option.map_map]
  congr 1
  funext t
  simp only [Function.comp_apply, List.length_append]
  omega

end Behind

theorem pieces_append (h : ∀ s m t, s ≠ [] → s <:+ a → p.Matches m → s ++ r = m ++ t →
    m.length ≤ s.length) : p.pieces (a ++ r) = p.pieces a ++ p.pieces r := by
  fun_induction pieces p a with
  | case1 => rfl
  | case2 c s n hn ih =>
    have hlength := matchLength_append (h (c :: s) · · (by simp) (List.suffix_refl _))
    have hle := matchLength_le hn
    rw [List.length_cons, Nat.succ_le_succ_iff] at hle
    rw [hn, List.cons_append] at hlength
    rw [List.cons_append, pieces, hlength]
    simp only [List.take_append_of_le_length hle, List.drop_append_of_le_length hle]
    rw [ih fun s' m t hs hsuffix => h s' m t hs
      (hsuffix.trans ((List.drop_suffix n s).trans (List.suffix_cons c s))), List.cons_append]
  | case3 c s hn ih =>
    have hlength := matchLength_append (h (c :: s) · · (by simp) (List.suffix_refl _))
    have hrest := ih fun s' m t hs hsuffix => h s' m t hs (hsuffix.trans (List.suffix_cons c s))
    rw [List.cons_append] at hlength ⊢
    rw [pieces]
    split
    · rename_i n hsome
      exact absurd (hlength.symm.trans hsome) (hn n)
    · rw [hrest, List.cons_append]

/-- A search of the joined text finds what a search of each side finds. -/
theorem pieces_parted (hd : p.demands cs = true) (h : Parted p a sep b) :
    p.pieces (a ++ sep ++ b) = p.pieces a ++ (sep.map .kept ++ p.pieces b) := by
  rw [List.append_assoc, pieces_append, pieces_append_of_not_matches]
  · rintro d e hde he m hm ⟨t, ht⟩
    have hpos := List.length_pos_iff.2 (ne_nil_of_demands hm hd)
    have hepos := List.length_pos_iff.2 he
    have hlength := congrArg List.length hde
    rw [List.length_append] at hlength
    rcases h (a ++ d) m t hm (by simp [hde, ht]) with hside | hside
    all_goals
      have := hside.length_le
      simp only [List.length_append] at this
      omega
  · rintro s m t hs ⟨d, rfl⟩ hm ht
    have hpos := List.length_pos_iff.2 hs
    rcases h d m t hm (by simp [ht]) with hside | hside
    all_goals
      have := hside.length_le
      simp only [List.length_append] at this
      omega

end MailSnapshot.Pattern
