import MailSnapshot.Number.Decimal
import MailSnapshot.Proofs.Number.Rounding

/-! The shortest decimal of a binary64 number has at most seventeen digits, and it is not above the
shortest decimal of the largest number. -/

namespace MailSnapshot.Decimal
variable {num den n : Nat} {x : Binary64} {d : Decimal}

/-- The magnitude as a rational number. -/
def amount (d : Decimal) : ℚ := d.digits * 10 ^ d.exponent

def largest (negative : Bool) : Binary64 := ⟨negative, 2 ^ 53 - 1, 971⟩

def largestAmount : ℚ := 17976931348623157 * 10 ^ (292 : ℤ)

theorem lt_pow_width (n : Nat) : n < 10 ^ width n :=
  (Nat.length_toDigits_le_iff (by decide) Nat.length_toDigits_pos).1 (Nat.le_refl _)

theorem lt_zpow_width (num : Nat) (hd : 0 < den) {k p : Nat} (hp : p = Nat.pow 10 k) :
    (num / den : ℚ) < 10 ^ ((width (num * p / den) : ℤ) - k) := by
  subst hp
  have hlt := (Nat.div_lt_iff_lt_mul hd).1 (lt_pow_width (num * 10 ^ k / den))
  have hltq : (num * 10 ^ k : ℚ) < 10 ^ width (num * 10 ^ k / den) * den := by exact_mod_cast hlt
  rw [zpow_sub₀ (by norm_num), zpow_natCast, zpow_natCast,
    div_lt_div_iff₀ (by exact_mod_cast hd) (by positivity)]
  exact hltq

theorem lt_magnitude (num : Nat) (hd : 0 < den) :
    (num / den : ℚ) < 10 ^ (magnitude num den + 1) := by
  have shift (p : Nat) (hp : p = Nat.pow 10 330) :
      (num / den : ℚ) < 10 ^ ((width (num * p / den) : ℤ) - 331 + 1) := by
    have hlt := lt_zpow_width num hd hp
    rwa [show (width (num * p / den) : ℤ) - 331 + 1 = width (num * p / den) - (330 : ℕ) by omega]
  exact shift _ rfl

theorem digits_le_of_mem_neighbours (hd : d ∈ neighbours x n) : d.digits ≤ 10 ^ n := by
  have hlt :
      (x.ratio.1 / x.ratio.2 : ℚ) < 10 ^ n * 10 ^ (magnitude x.ratio.1 x.ratio.2 - n + 1) := by
    rw [← zpow_natCast, ← zpow_add₀ (by norm_num)]
    convert lt_magnitude x.ratio.1 x.ratio_snd_pos using 2
    ring
  have hsnd := Binary64.scaled_snd_pos (show 0 < 10 by decide) x.ratio_snd_pos x.ratio.1
    (magnitude x.ratio.1 x.ratio.2 - n + 1)
  have hscaled := Binary64.scaled_eq (show 0 < 10 by decide) x.ratio.1 x.ratio.2
    (magnitude x.ratio.1 x.ratio.2 - n + 1)
  have hfloor : (Binary64.scaled 10 x.ratio.1 x.ratio.2 (magnitude x.ratio.1 x.ratio.2 - n + 1)).1 /
      (Binary64.scaled 10 x.ratio.1 x.ratio.2 (magnitude x.ratio.1 x.ratio.2 - n + 1)).2 <
        10 ^ n := by
    rw [← div_lt_iff₀ (by positivity)] at hlt
    rw [Nat.cast_ofNat] at hscaled
    rw [← hscaled, div_lt_iff₀ (by exact_mod_cast hsnd)] at hlt
    rw [Nat.div_lt_iff_lt_mul hsnd]
    exact_mod_cast hlt
  unfold neighbours at hd
  dsimp only at hd
  split at hd <;>
  · rcases List.mem_pair.1 hd with rfl | rfl
    · dsimp only
      omega
    · dsimp only
      omega

theorem eq_zero_or_mem_neighbours (x : Binary64) :
    (shortest x).digits = 0 ∨
      ∃ n < 17, shortest x ∈ neighbours x (n + 1) ∧ (shortest x).toBinary64 = some x := by
  unfold shortest
  split
  · exact .inl rfl
  · cases hfind : (List.range 17).findSome? fun n =>
      (neighbours x (n + 1)).find? fun d => d.toBinary64 = some x with
    | none => exact .inl rfl
    | some d =>
      obtain ⟨n, hn, hd⟩ := List.exists_of_findSome?_eq_some hfind
      have hread := List.find?_some hd
      exact .inr ⟨n, List.mem_range.1 hn, List.mem_of_find?_eq_some hd, by simpa using hread⟩

theorem digits_shortest_le (x : Binary64) : (shortest x).digits ≤ 10 ^ 17 := by
  rcases eq_zero_or_mem_neighbours x with hzero | ⟨n, hn, hmem, _⟩
  · rw [hzero]
    exact Nat.zero_le _
  · exact (digits_le_of_mem_neighbours hmem).trans (Nat.pow_le_pow_right (by decide) hn)

theorem eq_largest (h : x.Finite) (hle : ((2 ^ 53 - 1 : ℕ) : ℚ) * 2 ^ (971 : ℤ) ≤ x.magnitude) :
    x = largest x.negative := by
  obtain ⟨negative, m, e⟩ := x
  obtain ⟨hm, he⟩ := h
  have hmq : (m : ℚ) ≤ (2 ^ 53 - 1 : ℕ) := by
    have : m ≤ 2 ^ 53 - 1 := by dsimp only at hm; omega
    exact_mod_cast this
  have he' : 971 ≤ e := by
    by_contra hlt
    have hpow : (2 : ℚ) ^ e ≤ 2 ^ (970 : ℤ) := zpow_le_zpow_right₀ one_le_two (by omega)
    have hmag : (m : ℚ) * 2 ^ e ≤ (2 ^ 53 - 1 : ℕ) * 2 ^ (970 : ℤ) := by gcongr
    have hstep : (2 : ℚ) ^ (971 : ℤ) = 2 * 2 ^ (970 : ℤ) := by
      rw [← zpow_one_add₀ two_ne_zero]
      norm_num
    have hpos : (0 : ℚ) < (2 ^ 53 - 1 : ℕ) * 2 ^ (970 : ℤ) := by positivity
    have := hle.trans hmag
    rw [hstep] at this
    linarith
  obtain rfl : e = 971 := Int.le_antisymm he he'
  have hm' : ((2 ^ 53 - 1 : ℕ) : ℚ) ≤ m := le_of_mul_le_mul_right hle (by positivity)
  have : m = 2 ^ 53 - 1 := by
    have : 2 ^ 53 - 1 ≤ m := by exact_mod_cast hm'
    dsimp only at hm
    omega
  rw [this]
  rfl

theorem ofRatio_largest :
    Binary64.ofRatio false (17976931348623157 * 10 ^ 292) 1 = some (largest false) := by
  decide +kernel

theorem shortest_largest (negative : Bool) :
    shortest (largest negative) = ⟨negative, 17976931348623157, 292⟩ := by
  revert negative
  decide +kernel

theorem amount_lt (d : Decimal) : d.amount < 10 ^ (d.exponent + width d.digits) := by
  have hlt : (d.digits : ℚ) < 10 ^ width d.digits := by exact_mod_cast lt_pow_width d.digits
  rw [amount, add_comm, zpow_add₀ (by norm_num), zpow_natCast]
  gcongr

theorem amount_eq (d : Decimal) :
    d.amount = (Binary64.scaled 10 d.digits 1 (-d.exponent)).1 /
      (Binary64.scaled 10 d.digits 1 (-d.exponent)).2 := by
  rw [Binary64.scaled_eq (by decide), Nat.cast_one, div_one, zpow_neg, div_inv_eq_mul]
  rfl

/-- A decimal above that of the largest number reads as no smaller number. -/
theorem amount_le_of_toBinary64 (h : d.toBinary64 = some x) (hx : x ≠ largest x.negative) :
    d.amount ≤ largestAmount := by
  have hone : 1 ≤ largestAmount := by
    have hpow : (1 : ℚ) ≤ 10 ^ (292 : ℤ) := one_le_zpow₀ (by norm_num) (by norm_num)
    exact one_le_mul_of_one_le_of_one_le (by norm_num) hpow
  unfold toBinary64 at h
  split at h
  · rename_i hsmall
    rcases hsmall with hzero | hsmall
    · rw [amount, hzero, Nat.cast_zero, zero_mul]
      exact zero_le_one.trans hone
    · refine (d.amount_lt.trans_le ?_).le.trans hone
      exact zpow_le_one_of_nonpos₀ (by norm_num) (by omega)
  · split at h
    · cases h
    · by_contra hlt
      have hsnd :=
        Binary64.scaled_snd_pos (show 0 < 10 by decide) Nat.one_pos d.digits (-d.exponent)
      have hle : (((17976931348623157 * 10 ^ 292 : ℕ) : ℚ) / (1 : ℕ)) ≤
          (Binary64.scaled 10 d.digits 1 (-d.exponent)).1 /
            (Binary64.scaled 10 d.digits 1 (-d.exponent)).2 := by
        rw [← amount_eq]
        have := (not_le.1 hlt).le
        unfold largestAmount at this
        rw [Nat.cast_one, div_one]
        exact_mod_cast this
      obtain ⟨y, hy, _, hmag⟩ := Binary64.exists_ofRatio_of_le Nat.one_pos hsnd hle h false
      obtain rfl := Option.some.inj (ofRatio_largest.symm.trans hy)
      exact hx (eq_largest (Binary64.of_ofRatio hsnd h).1 hmag)

theorem amount_shortest_le (x : Binary64) : (shortest x).amount ≤ largestAmount := by
  by_cases hx : x = largest x.negative
  · rw [hx, shortest_largest]
    exact le_rfl
  · rcases eq_zero_or_mem_neighbours x with hzero | ⟨n, _, _, hread⟩
    · rw [amount, hzero, Nat.cast_zero, zero_mul]
      unfold largestAmount
      positivity
    · exact amount_le_of_toBinary64 hread hx

end MailSnapshot.Decimal
