import MailSnapshot.Proofs.Store.Sameness
import MailSnapshot.Store.Order
import Mathlib.Order.Basic

/-! The order in which rows are read: it is asymmetric, what comes after something that comes after
a third comes after the third, and the rows of a table are read along it. -/

namespace MailSnapshot
variable {a b c : Cell}

namespace Cell

theorem comesBefore_of_rank (h : rank a.kind ≠ rank b.kind) :
    a.comesBefore b = true ↔ rank a.kind < rank b.kind := by
  simp [comesBefore, h]

theorem comesBefore_of_number? {n m : Int} {d e : Nat} (ha : a.number? = some (n, d))
    (hb : b.number? = some (m, e)) : a.comesBefore b = true ↔ n * e < m * d := by
  have hrank {c : Cell} {p : Int × Nat} (h : c.number? = some p) : rank c.kind = 1 := by
    cases c <;> simp_all [number?, rank, kind]
  simp [comesBefore, hrank ha, hrank hb, ha, hb]

theorem comesBefore_of_bytes (h : rank a.kind = rank b.kind) (ha : a.number? = none) :
    a.comesBefore b = true ↔ a.bytes < b.bytes := by
  simp [comesBefore, h, ha]

/-- Cells of one rank either all are numbers or none of them is. -/
theorem number?_eq_none_iff (h : rank a.kind = rank b.kind) :
    a.number? = none ↔ b.number? = none := by
  cases a <;> cases b <;> simp_all [number?, rank, kind]

theorem rank_le_of_not_comesBefore (h : b.comesBefore a = false) : rank a.kind ≤ rank b.kind := by
  by_contra hlt
  have hbefore := (comesBefore_of_rank (a := b) (b := a) (by omega)).2 (by omega)
  rw [h] at hbefore
  cases hbefore

theorem comesBefore_asymm (h : a.comesBefore b = true) : b.comesBefore a = false := by
  by_contra hback
  rw [Bool.not_eq_false] at hback
  by_cases hrank : rank a.kind = rank b.kind
  · cases ha : a.number? with
    | none =>
      have hb := (number?_eq_none_iff hrank).1 ha
      have hlt := (comesBefore_of_bytes hrank ha).1 h
      exact List.lt_asymm hlt ((comesBefore_of_bytes hrank.symm hb).1 hback)
    | some p =>
      cases hb : b.number? with
      | none =>
        have hnone := (number?_eq_none_iff hrank).2 hb
        rw [ha] at hnone
        cases hnone
      | some q =>
        have hlt := (comesBefore_of_number? (n := p.1) (m := q.1) ha hb).1 h
        have hgt := (comesBefore_of_number? (n := q.1) (m := p.1) hb ha).1 hback
        omega
  · have hlt := (comesBefore_of_rank hrank).1 h
    have hgt := (comesBefore_of_rank (Ne.symm hrank)).1 hback
    omega

theorem not_comesBefore_self (a : Cell) : a.comesBefore a = false := by
  by_contra h
  rw [Bool.not_eq_false] at h
  rw [comesBefore_asymm h] at h
  cases h

/-- Of three cells that do not come before each other the last does not come before the first. -/
theorem not_comesBefore_trans (h : b.comesBefore a = false) (h' : c.comesBefore b = false) :
    c.comesBefore a = false := by
  have hab := rank_le_of_not_comesBefore h
  have hbc := rank_le_of_not_comesBefore h'
  rw [← Bool.not_eq_true] at h h' ⊢
  by_cases hac : rank a.kind = rank c.kind
  · have hba : rank b.kind = rank a.kind := by omega
    have hcb : rank c.kind = rank b.kind := by omega
    cases hb : b.number? with
    | none =>
      have hc := (number?_eq_none_iff hcb).2 hb
      rw [comesBefore_of_bytes hba hb, List.not_lt] at h
      rw [comesBefore_of_bytes hcb hc, List.not_lt] at h'
      rw [comesBefore_of_bytes hac.symm hc, List.not_lt]
      exact List.le_trans h h'
    | some q =>
      obtain ⟨p, ha⟩ : ∃ p, a.number? = some p := by
        rw [← Option.ne_none_iff_exists', ne_eq, ← number?_eq_none_iff hba, hb]
        simp
      obtain ⟨r, hc⟩ : ∃ r, c.number? = some r := by
        rw [← Option.ne_none_iff_exists', ne_eq, number?_eq_none_iff hcb, hb]
        simp
      obtain ⟨n, d⟩ := p
      obtain ⟨m, e⟩ := q
      obtain ⟨l, f⟩ := r
      rw [comesBefore_of_number? hb ha, Int.not_lt] at h
      rw [comesBefore_of_number? hc hb, Int.not_lt] at h'
      rw [comesBefore_of_number? hc ha, Int.not_lt]
      have he : (0 : Int) < e := by exact_mod_cast den_pos_of_number? hb
      -- The middle denominator cancels.
      apply Int.le_of_mul_le_mul_right _ he
      calc n * f * e = n * e * f := Int.mul_right_comm ..
        _ ≤ m * d * f := Int.mul_le_mul_of_nonneg_right h (Int.natCast_nonneg f)
        _ = m * f * d := Int.mul_right_comm ..
        _ ≤ l * e * d := Int.mul_le_mul_of_nonneg_right h' (Int.natCast_nonneg d)
        _ = l * d * e := Int.mul_right_comm ..
  · rw [comesBefore_of_rank (Ne.symm hac)]
    omega

end Cell

section Rows
variable {α : Type} {id : α → Cell} {row : α} {rows : List α}

/-- Putting a row in its place keeps the others in order. -/
theorem pairwise_insertById
    (h : rows.Pairwise fun r r' => (id r').comesBefore (id r) = false) :
    (insertById id row rows).Pairwise fun r r' => (id r').comesBefore (id r) = false := by
  induction rows with
  | nil => simp [insertById]
  | cons r rs ih =>
    obtain ⟨hr, hrs⟩ := List.pairwise_cons.1 h
    rw [insertById]
    split
    · rename_i hbefore
      refine List.pairwise_cons.2 ⟨?_, ih hrs⟩
      intro x hx
      rcases List.mem_cons.1 ((insertById_perm row rs).mem_iff.1 hx) with rfl | hx
      · exact Cell.comesBefore_asymm hbefore
      · exact hr x hx
    · rename_i hafter
      rw [Bool.not_eq_true] at hafter
      refine List.pairwise_cons.2 ⟨?_, h⟩
      intro x hx
      rcases List.mem_cons.1 hx with rfl | hx
      · exact hafter
      · exact Cell.not_comesBefore_trans hafter (hr x hx)

theorem pairwise_orderById (id : α → Cell) (rows : List α) :
    (orderById id rows).Pairwise fun r r' => (id r').comesBefore (id r) = false := by
  induction rows with
  | nil => exact .nil
  | cons r rs ih => exact pairwise_insertById ih

end Rows
end MailSnapshot
