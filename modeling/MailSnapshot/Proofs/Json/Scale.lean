import MailSnapshot.Json.Number
import MailSnapshot.Proofs.Number.Shortest

/-! Reading a number scales its leading digits by rounded powers of ten. That never leaves the range
for a number of at most seventeen digits that is not above the shortest decimal of the largest
one. -/

namespace MailSnapshot.Json.NumberText
open Decimal Numeral
variable {x y p : Binary64} {m n : Nat} {e : Int} {ds : List Char} {t : NumberText}

theorem ofRatio_max :
    Binary64.ofRatio false ((2 ^ 53 - 1) * 2 ^ 971) 1 = some (largest false) := by
  decide +kernel

theorem exists_powerOfTen (hn : n ≤ 308) : ∃ p, powerOfTen n = some p ∧ 1 ≤ p.magnitude := by
  have hle : (((10 ^ n : ℕ) : ℚ) / (1 : ℕ)) ≤
      ((17976931348623157 * 10 ^ 292 : ℕ) : ℚ) / (1 : ℕ) := by
    have step (k : Nat) (hk : n ≤ 16 + k) : 10 ^ n ≤ 17976931348623157 * 10 ^ k := by
      calc 10 ^ n ≤ 10 ^ (16 + k) := Nat.pow_le_pow_right (by decide) hk
        _ = 10 ^ 16 * 10 ^ k := Nat.pow_add ..
        _ ≤ 17976931348623157 * 10 ^ k := Nat.mul_le_mul_right _ (by decide)
    gcongr
    exact step 292 hn
  obtain ⟨p, hp, _, _⟩ :=
    Binary64.exists_ofRatio_of_le Nat.one_pos Nat.one_pos hle ofRatio_largest false
  refine ⟨p, hp, ?_⟩
  have hone : ((1 : ℕ) : ℚ) / (1 : ℕ) ≤ ((10 ^ n : ℕ) : ℚ) / (1 : ℕ) := by
    gcongr
    exact Nat.one_le_pow _ _ (by decide)
  obtain ⟨x, hx, _, hxp⟩ := Binary64.exists_ofRatio_of_le Nat.one_pos Nat.one_pos hone hp false
  have hexact : Binary64.ofRatio false 1 1 = some ⟨false, 2 ^ 52, -52⟩ := by decide +kernel
  obtain rfl := Option.some.inj (hexact.symm.trans hx)
  refine le_trans (le_of_eq ?_) hxp
  norm_num [Binary64.magnitude]

/-- Dividing by a number that is not below one stays in range. -/
theorem exists_div (hx : x.Finite) (hp : 1 ≤ p.magnitude) :
    ∃ y, x.div p = some y ∧ y.Finite := by
  have hpos : 0 < p.ratio.1 := by
    rw [Nat.pos_iff_ne_zero]
    intro hzero
    rw [← p.ratio_eq, hzero, Nat.cast_zero, zero_div] at hp
    exact absurd hp (by norm_num)
  have hle : ((x.ratio.1 * p.ratio.2 : ℕ) : ℚ) / (x.ratio.2 * p.ratio.1 : ℕ) ≤
      (((2 ^ 53 - 1) * 2 ^ 971 : ℕ) : ℚ) / (1 : ℕ) := by
    have heq : ((x.ratio.1 * p.ratio.2 : ℕ) : ℚ) / (x.ratio.2 * p.ratio.1 : ℕ) =
        x.magnitude / p.magnitude := by
      rw [← x.ratio_eq, ← p.ratio_eq, div_div_div_eq]
      push_cast
      rfl
    rw [heq, Nat.cast_one, div_one]
    calc x.magnitude / p.magnitude ≤ x.magnitude := div_le_self Binary64.magnitude_nonneg hp
      _ ≤ ((2 ^ 53 - 1 : ℕ) : ℚ) * 2 ^ (971 : ℤ) := hx.magnitude_le
      _ = (((2 ^ 53 - 1) * 2 ^ 971 : ℕ) : ℚ) := by
        rw [Nat.cast_mul, Nat.cast_pow]
        rfl
  obtain ⟨y, hy, hfinite, _⟩ := Binary64.exists_ofRatio_of_le
    (Nat.mul_pos x.ratio_snd_pos hpos) Nat.one_pos hle ofRatio_max (x.negative != p.negative)
  exact ⟨y, hy, hfinite⟩

theorem exists_divideSteps (n : Nat) (hx : x.Finite) :
    ∃ y, divideSteps n x = some y ∧ y.Finite := by
  induction n generalizing x with
  | zero => exact ⟨x, rfl, hx⟩
  | succ n ih =>
    rw [divideSteps]
    split
    · exact ⟨x, rfl, hx⟩
    · obtain ⟨p, hp, hone⟩ := exists_powerOfTen (Nat.le_refl 308)
      obtain ⟨y, hy, hfinite⟩ := exists_div hx hone
      obtain ⟨z, hz, hzfinite⟩ := ih hfinite
      refine ⟨z, ?_, hzfinite⟩
      rw [show powerOfTen maxStep = some p from hp]
      simp [hy, hz]

theorem exists_scale_of_neg (he : e < 0) (hx : x.Finite) :
    ∃ y, scale x e = some y ∧ y.Finite := by
  obtain ⟨y, hy, hfinite⟩ := exists_divideSteps ((e.natAbs - 1) / maxStep) hx
  have hlast : e.natAbs - maxStep * ((e.natAbs - 1) / maxStep) ≤ 308 := by
    unfold maxStep
    omega
  obtain ⟨p, hp, hone⟩ := exists_powerOfTen hlast
  obtain ⟨z, hz, hzfinite⟩ := exists_div hfinite hone
  refine ⟨z, ?_, hzfinite⟩
  rw [scale, if_neg (by omega)]
  simp [hy, hp, hz]

/-- The most that a number of seventeen digits may be when it is scaled by `10 ^ e`. -/
def most (e : Nat) : Nat := min (10 ^ 17) (17976931348623157 * 10 ^ 292 / 10 ^ e)

theorem most_scales {e : Nat} (he : e ≤ 308) :
    ((Binary64.ofRatio false (most e) 1).bind fun x => scale x e).isSome = true := by
  have h : ∀ e < 309,
      ((Binary64.ofRatio false (most e) 1).bind fun x => scale x e).isSome = true := by
    decide +kernel
  exact h e (by omega)

theorem scale_natCast {e : Nat} (he : e ≤ 308) : scale x e = (powerOfTen e).bind x.mul := by
  rw [scale, if_pos (by omega), if_pos (by unfold maxStep; omega)]
  rfl

theorem exists_mul (hxy : x.magnitude ≤ y.magnitude) (hy : (y.mul p).isSome) :
    ∃ z, x.mul p = some z ∧ z.Finite := by
  obtain ⟨w, hw⟩ := Option.isSome_iff_exists.1 hy
  have heq (x : Binary64) : ((x.ratio.1 * p.ratio.1 : ℕ) : ℚ) / (x.ratio.2 * p.ratio.2 : ℕ) =
      x.magnitude * p.magnitude := by
    rw [← x.ratio_eq, ← p.ratio_eq, div_mul_div_comm]
    push_cast
    rfl
  have hle : ((x.ratio.1 * p.ratio.1 : ℕ) : ℚ) / (x.ratio.2 * p.ratio.2 : ℕ) ≤
      ((y.ratio.1 * p.ratio.1 : ℕ) : ℚ) / (y.ratio.2 * p.ratio.2 : ℕ) := by
    rw [heq, heq]
    exact mul_le_mul_of_nonneg_right hxy Binary64.magnitude_nonneg
  obtain ⟨z, hz, hfinite, _⟩ := Binary64.exists_ofRatio_of_le
    (Nat.mul_pos x.ratio_snd_pos p.ratio_snd_pos) (Nat.mul_pos y.ratio_snd_pos p.ratio_snd_pos)
    hle hw (x.negative != p.negative)
  exact ⟨z, hz, hfinite⟩

theorem exists_scale_of_nonneg {e : Nat} (he : e ≤ 308) (hm : m ≤ most e)
    (hx : Binary64.ofRatio false m 1 = some x) : ∃ y, scale x e = some y ∧ y.Finite := by
  obtain ⟨z, hz⟩ := Option.isSome_iff_exists.1 (most_scales he)
  obtain ⟨y, hy, hscale⟩ := Option.bind_eq_some_iff.1 hz
  rw [scale_natCast he] at hscale
  obtain ⟨p, hp, hmul⟩ := Option.bind_eq_some_iff.1 hscale
  have hle : ((m : ℕ) : ℚ) / (1 : ℕ) ≤ ((most e : ℕ) : ℚ) / (1 : ℕ) := by gcongr
  obtain ⟨x', hx', _, hxy⟩ := Binary64.exists_ofRatio_of_le Nat.one_pos Nat.one_pos hle hy false
  obtain rfl := Option.some.inj (hx.symm.trans hx')
  obtain ⟨w, hw, hfinite⟩ := exists_mul hxy (Option.isSome_of_eq_some hmul)
  refine ⟨w, ?_, hfinite⟩
  rw [scale_natCast he, hp]
  exact hw

theorem natOf_append (ds es : List Char) :
    natOf (ds ++ es) = 10 ^ es.length * natOf ds + natOf es :=
  (Nat.ofDigitChars_append 0).trans Nat.ofDigitChars_eq_ofDigitChars_zero

theorem le_ofDigitChars (n : Nat) (ds : List Char) : n ≤ Nat.ofDigitChars 10 ds n := by
  rw [Nat.ofDigitChars_eq_ofDigitChars_zero]
  have := Nat.le_mul_of_pos_left n (Nat.pow_pos (show 0 < 10 by decide) (n := ds.length))
  omega

theorem appendDigits_eq (h : Nat.ofDigitChars 10 ds n < 2 ^ 64) :
    appendDigits n ds = (Nat.ofDigitChars 10 ds n, 0) := by
  induction ds generalizing n with
  | nil => rfl
  | cons d ds ih =>
    rw [Nat.ofDigitChars_cons] at h ⊢
    have hnext : 10 * n + digitValue d < Nat.pow 2 64 := (le_ofDigitChars ..).trans_lt h
    rw [appendDigits, if_pos hnext]
    exact ih h

/-- The number as a rational number, without its sign. -/
def amount (t : NumberText) : ℚ :=
  natOf (t.whole ++ t.fraction) * 10 ^ (t.exponent.getD 0 - t.fraction.length)

theorem double_eq (h : natOf (t.whole ++ t.fraction) < 2 ^ 64) :
    t.double = (Binary64.ofRatio false (natOf (t.whole ++ t.fraction)) 1).bind fun x =>
      (scale x (t.exponent.getD 0 - t.fraction.length)).map fun y =>
        if t.negative then y.neg else y := by
  have happend : Nat.ofDigitChars 10 t.fraction (natOf t.whole) = natOf (t.whole ++ t.fraction) :=
    (Nat.ofDigitChars_append 0).symm
  have hwhole : appendDigits 0 t.whole = (natOf t.whole, 0) := by
    refine appendDigits_eq ((le_ofDigitChars (natOf t.whole) t.fraction).trans_lt ?_)
    rw [happend]
    exact h
  have hfraction :
      appendDigits (natOf t.whole) t.fraction = (natOf (t.whole ++ t.fraction), 0) := by
    rw [← happend] at h ⊢
    exact appendDigits_eq h
  have hexponent : ((0 : ℕ) : ℤ) - ((t.fraction.length - 0 : ℕ) : ℤ) + t.exponent.getD 0 =
      t.exponent.getD 0 - t.fraction.length := by
    omega
  rw [double, hwhole]
  dsimp only
  rw [hfraction]
  dsimp only
  rw [hexponent]

theorem exists_ofRatio_of_le_most {e : Nat} (he : e ≤ 308) (hm : m ≤ most e) :
    ∃ x, Binary64.ofRatio false m 1 = some x ∧ x.Finite := by
  obtain ⟨z, hz⟩ := Option.isSome_iff_exists.1 (most_scales he)
  obtain ⟨y, hy, _⟩ := Option.bind_eq_some_iff.1 hz
  have hle : ((m : ℕ) : ℚ) / (1 : ℕ) ≤ ((most e : ℕ) : ℚ) / (1 : ℕ) := by gcongr
  obtain ⟨x, hx, hfinite, _⟩ :=
    Binary64.exists_ofRatio_of_le Nat.one_pos Nat.one_pos hle hy false
  exact ⟨x, hx, hfinite⟩

theorem le_most {e : Nat} (hm : m ≤ 10 ^ 17) (h : (m : ℚ) * 10 ^ (e : ℤ) ≤ largestAmount) :
    m ≤ most e := by
  refine le_min hm ((Nat.le_div_iff_mul_le (Nat.pow_pos (by decide))).2 ?_)
  unfold largestAmount at h
  rw [zpow_natCast] at h
  exact_mod_cast h

theorem le_308 {e : Nat} (hm : 0 < m) (h : (m : ℚ) * 10 ^ (e : ℤ) ≤ largestAmount) : e ≤ 308 := by
  by_contra hlt
  have hone : (1 : ℚ) ≤ m := by exact_mod_cast hm
  have hpow : (10 : ℚ) ^ (309 : ℤ) ≤ 10 ^ (e : ℤ) := zpow_le_zpow_right₀ (by norm_num) (by omega)
  have hsplit : (10 : ℚ) ^ (309 : ℤ) = 10 ^ (17 : ℤ) * 10 ^ (292 : ℤ) := by
    rw [← zpow_add₀ (by norm_num)]
    rfl
  have hle : (10 : ℚ) ^ (17 : ℤ) * 10 ^ (292 : ℤ) ≤ 17976931348623157 * 10 ^ (292 : ℤ) := by
    calc (10 : ℚ) ^ (17 : ℤ) * 10 ^ (292 : ℤ) = 10 ^ (309 : ℤ) := hsplit.symm
      _ ≤ 10 ^ (e : ℤ) := hpow
      _ ≤ m * 10 ^ (e : ℤ) := le_mul_of_one_le_left (by positivity) hone
      _ ≤ 17976931348623157 * 10 ^ (292 : ℤ) := h
  have := le_of_mul_le_mul_right hle (by positivity)
  norm_num at this

theorem exists_scale (hm : m ≤ 10 ^ 17) (h : (m : ℚ) * 10 ^ e ≤ largestAmount) :
    ∃ x, Binary64.ofRatio false m 1 = some x ∧ ∃ y, scale x e = some y := by
  rcases Int.lt_or_le e 0 with hneg | hnonneg
  · have hmost : m ≤ most 0 := hm.trans (by decide +kernel)
    obtain ⟨x, hx, hfinite⟩ := exists_ofRatio_of_le_most (Nat.zero_le _) hmost
    obtain ⟨y, hy, _⟩ := exists_scale_of_neg hneg hfinite
    exact ⟨x, hx, y, hy⟩
  · obtain ⟨k, rfl⟩ := Int.eq_ofNat_of_zero_le hnonneg
    rcases Nat.eq_zero_or_pos m with rfl | hpos
    · refine ⟨.zero false, by simp [Binary64.ofRatio], ?_⟩
      rcases Nat.lt_or_ge 308 k with hk | hk
      · rw [scale, if_pos hnonneg, if_neg (by unfold maxStep; omega)]
        exact ⟨_, rfl⟩
      · obtain ⟨y, hy, _⟩ := exists_scale_of_nonneg hk (Nat.zero_le _)
          (show Binary64.ofRatio false 0 1 = some (.zero false) by simp [Binary64.ofRatio])
        exact ⟨y, hy⟩
    · have hk := le_308 hpos h
      obtain ⟨x, hx, _⟩ := exists_ofRatio_of_le_most hk (le_most hm h)
      obtain ⟨y, hy, _⟩ := exists_scale_of_nonneg hk (le_most hm h) hx
      exact ⟨x, hx, y, hy⟩

theorem exists_double (hm : natOf (t.whole ++ t.fraction) ≤ 10 ^ 17)
    (h : t.amount ≤ largestAmount) : ∃ x, t.double = some x := by
  obtain ⟨x, hx, y, hy⟩ := exists_scale hm h
  refine ⟨if t.negative then y.neg else y, ?_⟩
  rw [double_eq (lt_of_le_of_lt hm (by norm_num)), hx]
  simp [hy]

end MailSnapshot.Json.NumberText
