import MailSnapshot.Store.Cell

/-! How cells compare: sameness is an equivalence, and what it means to be in a list of cells. -/

namespace MailSnapshot
variable {a b c : Cell} {bs : List Cell}

namespace Cell

theorem den_pos_of_number? {n : Int} {d : Nat} (h : a.number? = some (n, d)) : 0 < d := by
  cases a with
  | integer m =>
    cases h
    exact Nat.one_pos
  | real x =>
    cases h
    exact Nat.pow_pos (by decide)
  | null | text _ | rawText _ | blob _ => cases h

theorem same_of_number? {n m : Int} {d e : Nat} (ha : a.number? = some (n, d))
    (hb : b.number? = some (m, e)) : a.same b = true ↔ n * e = m * d := by
  simp [same, ha, hb]

theorem same_iff_eq_of_left (ha : a.number? = none) : a.same b = true ↔ a = b := by
  simp [same, ha]

theorem same_iff_eq_of_right (hb : b.number? = none) : a.same b = true ↔ a = b := by
  unfold same
  cases a.number? <;> simp [hb]

theorem same_refl (a : Cell) : a.same a = true := by
  cases ha : a.number? with
  | none => exact (same_iff_eq_of_left ha).2 rfl
  | some p => exact (same_of_number? (n := p.1) (d := p.2) ha ha).2 rfl

theorem same_symm (h : a.same b = true) : b.same a = true := by
  cases ha : a.number? with
  | none =>
    rw [(same_iff_eq_of_left ha).1 h]
    exact same_refl b
  | some p =>
    cases hb : b.number? with
    | none =>
      rw [(same_iff_eq_of_right hb).1 h]
      exact same_refl b
    | some q => exact (same_of_number? hb ha).2 ((same_of_number? ha hb).1 h).symm

theorem same_comm : a.same b = b.same a :=
  Bool.eq_iff_iff.2 ⟨same_symm, same_symm⟩

theorem same_trans (h : a.same b = true) (h' : b.same c = true) : a.same c = true := by
  cases hb : b.number? with
  | none =>
    rw [(same_iff_eq_of_right hb).1 h]
    exact h'
  | some q =>
    obtain ⟨m, e⟩ := q
    cases ha : a.number? with
    | none =>
      rw [(same_iff_eq_of_left ha).1 h]
      exact h'
    | some p =>
      cases hc : c.number? with
      | none =>
        rw [← (same_iff_eq_of_right hc).1 h']
        exact h
      | some r =>
        obtain ⟨n, d⟩ := p
        obtain ⟨l, f⟩ := r
        have hab := (same_of_number? ha hb).1 h
        have hbc := (same_of_number? hb hc).1 h'
        have he : (e : Int) ≠ 0 := by
          have := den_pos_of_number? hb
          omega
        -- The middle denominator cancels.
        apply (same_of_number? ha hc).2
        apply Int.eq_of_mul_eq_mul_right he
        calc n * f * e = n * e * f := by rw [Int.mul_right_comm]
          _ = m * f * d := by rw [hab, Int.mul_right_comm]
          _ = l * d * e := by rw [hbc, Int.mul_right_comm]

theorem same_integer {n m : Int} : (integer n).same (integer m) = true ↔ n = m := by
  simp [same, number?]

theorem eq_eq_yes_iff : a.eq b = .yes ↔ a ≠ null ∧ b ≠ null ∧ a.same b = true := by
  unfold eq
  split
  · rename_i h
    constructor
    · intro h'
      cases h'
    · rintro ⟨ha, hb, _⟩
      exact (h.elim ha hb).elim
  · rename_i h
    rw [not_or] at h
    rw [Truth.ofBool_eq_yes]
    exact ⟨fun hs => ⟨h.1, h.2, hs⟩, fun hs => hs.2.2⟩

theorem eq_ne_unknown (ha : a ≠ null) (hb : b ≠ null) : a.eq b ≠ .unknown := by
  unfold eq Truth.ofBool
  rw [if_neg (by simp [ha, hb])]
  split <;> simp

theorem isIn_eq_yes_iff : a.isIn bs = .yes ↔ ∃ b ∈ bs, a.eq b = .yes := by
  induction bs with
  | nil => simp [isIn]
  | cons b bs ih =>
    change (a.eq b).or (a.isIn bs) = .yes ↔ _
    rw [Truth.or_eq_yes, ih]
    simp

theorem isIn_eq_no_iff : a.isIn bs = .no ↔ ∀ b ∈ bs, a.eq b = .no := by
  induction bs with
  | nil => simp [isIn]
  | cons b bs ih =>
    change (a.eq b).or (a.isIn bs) = .no ↔ _
    rw [Truth.or_eq_no, ih, List.forall_mem_cons]

/-- Only what is in a list counts, not where or how often. -/
theorem isIn_congr {cs : List Cell} (h : ∀ b, b ∈ bs ↔ b ∈ cs) (a : Cell) :
    a.isIn bs = a.isIn cs := by
  have hyes : a.isIn bs = .yes ↔ a.isIn cs = .yes := by simp only [isIn_eq_yes_iff, h]
  have hno : a.isIn bs = .no ↔ a.isIn cs = .no := by simp only [isIn_eq_no_iff, h]
  cases hb : a.isIn bs <;> cases hc : a.isIn cs <;> simp_all

theorem isIn_ne_unknown (ha : a ≠ null) (hbs : ∀ b ∈ bs, b ≠ null) : a.isIn bs ≠ .unknown := by
  induction bs with
  | nil => simp [isIn]
  | cons b bs ih =>
    have hb := eq_ne_unknown ha (hbs b (by simp))
    have ht := ih fun c hc => hbs c (by simp [hc])
    change (a.eq b).or (a.isIn bs) ≠ .unknown
    cases hx : a.eq b <;> cases hy : a.isIn bs <;> simp_all [Truth.or]

/-- Without nulls a cell either is in a list or it is not. -/
theorem isIn_of_notIn_ne_yes (ha : a ≠ null) (hbs : ∀ b ∈ bs, b ≠ null)
    (h : a.notIn bs ≠ .yes) : a.isIn bs = .yes := by
  have hu := isIn_ne_unknown ha hbs
  unfold notIn at h
  cases hi : a.isIn bs <;> simp_all [Truth.not]

theorem notIn_ne_yes_of_isIn (h : a.isIn bs = .yes) : a.notIn bs ≠ .yes := by
  rw [notIn, h]
  decide

theorem notIn_eq_yes_iff (ha : a ≠ null) (hbs : ∀ b ∈ bs, b ≠ null) :
    a.notIn bs = .yes ↔ a.isIn bs ≠ .yes := by
  constructor
  · intro h hin
    exact notIn_ne_yes_of_isIn hin h
  · intro h
    exact Decidable.byContradiction fun hne => h (isIn_of_notIn_ne_yes ha hbs hne)

theorem isIn_of_mem (h : a ∈ bs) (ha : a ≠ null) : a.isIn bs = .yes :=
  isIn_eq_yes_iff.2 ⟨a, h, eq_eq_yes_iff.2 ⟨ha, ha, same_refl a⟩⟩

theorem isIn_of_same (h : a.same b = true) (hb : b ∈ bs) (ha : a ≠ null) (hn : b ≠ null) :
    a.isIn bs = .yes :=
  isIn_eq_yes_iff.2 ⟨b, hb, eq_eq_yes_iff.2 ⟨ha, hn, h⟩⟩

theorem exists_same_of_isIn (h : a.isIn bs = .yes) : ∃ b ∈ bs, a.same b = true := by
  obtain ⟨b, hb, he⟩ := isIn_eq_yes_iff.1 h
  exact ⟨b, hb, (eq_eq_yes_iff.1 he).2.2⟩

end Cell
end MailSnapshot
