import MailSnapshot.Number.Binary64
import Mathlib.Algebra.Order.Field.Power
import Mathlib.Data.Rat.Cast.Order
import Mathlib.Tactic.FieldSimp
import Mathlib.Tactic.Linarith
import Mathlib.Tactic.NormNum
import Mathlib.Tactic.Positivity
import Mathlib.Tactic.Ring

/-! Rounding to a binary64 number never changes the order of two ratios, so a ratio below one that
can be rounded can be rounded as well. -/

namespace MailSnapshot.Binary64
variable {num den num' den' m n : Nat} {e : Int} {x y : Binary64} {negative negative' : Bool}

/-- The magnitude as a rational number. -/
def magnitude (x : Binary64) : ℚ := x.mantissa * 2 ^ x.exponent

/-- A mantissa of at most 53 digits, and an exponent below that of infinity. -/
structure Finite (x : Binary64) : Prop where
  mantissa_lt : x.mantissa < 2 ^ 53
  exponent_le : x.exponent ≤ maxExponent

/-- The ratio `num / den` after rounding, where every exponent is allowed. -/
def nearest (num den : Nat) : ℚ :=
  let e := exponentFor num den
  divRound (scaled 2 num den e).1 (scaled 2 num den e).2 * 2 ^ e

theorem magnitude_nonneg : 0 ≤ x.magnitude := by
  unfold magnitude
  positivity

theorem scaled_eq {b : Nat} (hb : 0 < b) (num den : Nat) (e : Int) :
    ((scaled b num den e).1 / (scaled b num den e).2 : ℚ) = num / den / b ^ e := by
  have hb' : (b : ℚ) ≠ 0 := by exact_mod_cast hb.ne'
  rcases Int.eq_nat_or_neg e with ⟨k, rfl | rfl⟩
  · simp [scaled, div_div]
  · simp [scaled]
    ring

theorem scaled_snd_pos {b : Nat} (hb : 0 < b) (hd : 0 < den) (num : Nat) (e : Int) :
    0 < (scaled b num den e).2 :=
  Nat.mul_pos hd (Nat.pow_pos hb)

theorem ratio_eq (x : Binary64) : (x.ratio.1 / x.ratio.2 : ℚ) = x.magnitude := by
  obtain ⟨negative, m, e⟩ := x
  rcases Int.eq_nat_or_neg e with ⟨k, rfl | rfl⟩
  · simp [ratio, magnitude]
  · simp [ratio, magnitude, div_eq_mul_inv]

theorem ratio_snd_pos (x : Binary64) : 0 < x.ratio.2 := Nat.pow_pos (by decide)

/-- When the nearest integer is not below `m`. A half is rounded up to an even `m` alone. -/
theorem le_divRound_iff (hd : 0 < den) :
    m ≤ divRound num den ↔
      2 * m * den < 2 * num + den ∨ 2 * m * den = 2 * num + den ∧ m % 2 = 0 := by
  have hnum := Nat.div_add_mod num den
  have hr := Nat.mod_lt num hd
  unfold divRound
  generalize num / den = q at *
  generalize num % den = r at *
  subst hnum
  rcases Nat.lt_trichotomy m (q + 1) with hm | rfl | hm
  · have hle : 2 * m * den ≤ 2 * (den * q) := by
      calc 2 * m * den ≤ 2 * q * den := by gcongr; omega
        _ = 2 * (den * q) := by ring
    constructor
    · omega
    · intro _
      dsimp only
      split_ifs <;> omega
  · have heq : 2 * (q + 1) * den = 2 * (den * q) + 2 * den := by ring
    rw [heq]
    dsimp only
    split_ifs <;> omega
  · have hle : 2 * (den * q) + 4 * den ≤ 2 * m * den := by
      calc 2 * (den * q) + 4 * den = 2 * (q + 2) * den := by ring
        _ ≤ 2 * m * den := by gcongr; omega
    dsimp only
    constructor
    · intro hlt
      split_ifs at hlt <;> omega
    · omega

theorem divRound_mono (hd : 0 < den) (hd' : 0 < den') (h : (num / den : ℚ) ≤ num' / den') :
    divRound num den ≤ divRound num' den' := by
  have hcross : num * den' ≤ num' * den := by
    rw [div_le_div_iff₀ (by exact_mod_cast hd) (by exact_mod_cast hd')] at h
    exact_mod_cast h
  rw [le_divRound_iff hd']
  rcases (le_divRound_iff hd).1 (Nat.le_refl (divRound num den)) with hlt | ⟨heq, heven⟩
  · left
    generalize divRound num den = m at *
    nlinarith
  · generalize divRound num den = m at *
    have hle : 2 * m * den' ≤ 2 * num' + den' := by nlinarith
    rcases Nat.lt_or_eq_of_le hle with hlt | heq
    · exact .inl hlt
    · exact .inr ⟨heq, heven⟩

theorem le_divRound (hd : 0 < den) (h : (m : ℚ) ≤ num / den) : m ≤ divRound num den := by
  rw [le_div_iff₀ (by exact_mod_cast hd)] at h
  have : m * den ≤ num := by exact_mod_cast h
  exact (le_divRound_iff hd).2 (.inl (by nlinarith))

theorem divRound_le (hd : 0 < den) (h : (num / den : ℚ) ≤ m) : divRound num den ≤ m := by
  rw [div_le_iff₀ (by exact_mod_cast hd)] at h
  have hle : num ≤ m * den := by exact_mod_cast h
  by_contra hlt
  rcases (le_divRound_iff hd).1 (show m + 1 ≤ divRound num den by omega) with h | ⟨h, _⟩ <;>
    nlinarith

/-- The logarithms leave two exponents to choose from. -/
theorem ratio_bounds (hn : 0 < num) (hd : 0 < den) :
    (2 : ℚ) ^ ((num.log2 : ℤ) - den.log2 - 53 + 52) ≤ num / den ∧
      (num / den : ℚ) < 2 ^ ((num.log2 : ℤ) - den.log2 - 53 + 54) := by
  have hdq : (0 : ℚ) < den := by exact_mod_cast hd
  have hnum : (2 : ℚ) ^ num.log2 ≤ num := by exact_mod_cast Nat.log2_self_le hn.ne'
  have hnum' : (num : ℚ) < 2 ^ (num.log2 + 1) := by exact_mod_cast Nat.lt_log2_self
  have hden : (2 : ℚ) ^ den.log2 ≤ den := by exact_mod_cast Nat.log2_self_le hd.ne'
  have hden' : (den : ℚ) < 2 ^ (den.log2 + 1) := by exact_mod_cast Nat.lt_log2_self
  have hlow : (2 : ℚ) ^ ((num.log2 : ℤ) - den.log2 - 53 + 52) =
      2 ^ num.log2 / 2 ^ (den.log2 + 1) := by
    rw [← zpow_natCast, ← zpow_natCast, ← zpow_sub₀ two_ne_zero]
    congr 1
    push_cast
    ring
  have hhigh : (2 : ℚ) ^ ((num.log2 : ℤ) - den.log2 - 53 + 54) =
      2 ^ (num.log2 + 1) / 2 ^ den.log2 := by
    rw [← zpow_natCast, ← zpow_natCast, ← zpow_sub₀ two_ne_zero]
    congr 1
    push_cast
    ring
  constructor
  · rw [hlow]
    exact div_le_div₀ (by positivity) hnum hdq hden'.le
  · rw [hhigh]
    exact div_lt_div₀ hnum' hden (by positivity) (by positivity)

/-- The exponent is the least one, or the ratio has a mantissa of 53 digits with it. -/
theorem exponentFor_spec (hn : 0 < num) (hd : 0 < den) :
    -1074 ≤ exponentFor num den ∧ (num / den : ℚ) < 2 ^ (exponentFor num den + 53) ∧
      (exponentFor num den = -1074 ∨ (2 : ℚ) ^ (exponentFor num den + 52) ≤ num / den) := by
  obtain ⟨hlow, hhigh⟩ := ratio_bounds hn hd
  unfold exponentFor
  generalize ((num.log2 : ℤ) - den.log2 - 53) = low at *
  have hsnd : 0 < (scaled 2 num den low).2 := scaled_snd_pos Nat.two_pos hd num low
  have htest : (scaled 2 num den low).1 / (scaled 2 num den low).2 < Nat.pow 2 53 ↔
      (num / den : ℚ) < 2 ^ (low + 53) := by
    rw [Nat.div_lt_iff_lt_mul hsnd, zpow_add₀ two_ne_zero, ← div_lt_iff₀' (by positivity)]
    have hscaled : (num / den / 2 ^ low : ℚ) = _ := (scaled_eq Nat.two_pos num den low).symm
    rw [hscaled, div_lt_iff₀ (by exact_mod_cast hsnd)]
    exact_mod_cast Iff.rfl
  -- A bound that holds at some exponent holds at a greater one.
  have mono {a b : ℤ} (hab : a ≤ b) (h : (num / den : ℚ) < 2 ^ a) : (num / den : ℚ) < 2 ^ b :=
    h.trans_le (zpow_le_zpow_right₀ one_le_two hab)
  dsimp only
  by_cases hlt : (num / den : ℚ) < 2 ^ (low + 53)
  · rw [if_pos (htest.2 hlt)]
    refine ⟨le_max_left .., mono (by omega) hlt, ?_⟩
    rcases le_total low (-1074) with h | h
    · exact .inl (max_eq_left h)
    · exact .inr (by rwa [max_eq_right h])
  · rw [if_neg (mt htest.1 hlt)]
    refine ⟨le_max_left .., mono (by omega) hhigh, ?_⟩
    rcases le_total (low + 1) (-1074) with h | h
    · exact .inl (max_eq_left h)
    · refine .inr ?_
      rw [max_eq_right h, show low + 1 + 52 = low + 53 by ring]
      exact not_lt.1 hlt

theorem exponentFor_mono (hn : 0 < num) (hn' : 0 < num') (hd : 0 < den) (hd' : 0 < den')
    (h : (num / den : ℚ) ≤ num' / den') : exponentFor num den ≤ exponentFor num' den' := by
  obtain ⟨hlow, _, hnormal⟩ := exponentFor_spec hn hd
  obtain ⟨hlow', hhigh', _⟩ := exponentFor_spec hn' hd'
  rcases hnormal with heq | hnormal
  · omega
  · have := (zpow_lt_zpow_iff_right₀ (one_lt_two : (1 : ℚ) < 2)).1
      ((hnormal.trans h).trans_lt hhigh')
    omega

theorem scaled_exponentFor_lt (hn : 0 < num) (hd : 0 < den) :
    (num / den / 2 ^ exponentFor num den : ℚ) ≤ (2 ^ 53 : ℕ) := by
  rw [div_le_iff₀ (by positivity)]
  have h := (exponentFor_spec hn hd).2.1
  rw [zpow_add₀ two_ne_zero] at h
  push_cast
  linarith

theorem nearest_le (hn : 0 < num) (hd : 0 < den) :
    nearest num den ≤ 2 ^ (exponentFor num den + 53) := by
  have hround := @divRound_le _ _ _ (scaled_snd_pos Nat.two_pos hd num _)
    ((scaled_eq Nat.two_pos num den (exponentFor num den)).trans_le (scaled_exponentFor_lt hn hd))
  rw [zpow_add₀ two_ne_zero, mul_comm, nearest]
  gcongr
  exact_mod_cast hround

theorem le_nearest (hn : 0 < num) (hd : 0 < den) (hnormal : exponentFor num den ≠ -1074) :
    2 ^ (exponentFor num den + 52) ≤ nearest num den := by
  have hle := (exponentFor_spec hn hd).2.2.resolve_left hnormal
  rw [zpow_add₀ two_ne_zero, mul_comm, ← le_div_iff₀ (by positivity)] at hle
  have hround : 2 ^ 52 ≤ _ := @le_divRound _ _ _ (scaled_snd_pos Nat.two_pos hd num _)
    (((Nat.cast_pow 2 52).trans_le hle).trans_eq
      (scaled_eq Nat.two_pos num den (exponentFor num den)).symm)
  rw [zpow_add₀ two_ne_zero, mul_comm, nearest]
  gcongr
  exact_mod_cast hround

theorem nearest_nonneg : 0 ≤ nearest num den := by
  unfold nearest
  positivity

theorem nearest_zero (hd : 0 < den) : nearest 0 den = 0 := by
  have hround : divRound (scaled 2 0 den (exponentFor 0 den)).1
      (scaled 2 0 den (exponentFor 0 den)).2 ≤ 0 :=
    divRound_le (scaled_snd_pos Nat.two_pos hd 0 _) (by simp [scaled])
  rw [nearest, Nat.le_zero.1 hround]
  simp

theorem nearest_mono (hd : 0 < den) (hd' : 0 < den') (h : (num / den : ℚ) ≤ num' / den') :
    nearest num den ≤ nearest num' den' := by
  rcases Nat.eq_zero_or_pos num with rfl | hn
  · rw [nearest_zero hd]
    exact nearest_nonneg
  have hn' : 0 < num' := by
    rw [div_le_div_iff₀ (by exact_mod_cast hd) (by exact_mod_cast hd')] at h
    by_contra hzero
    rw [Nat.eq_zero_of_not_pos hzero, Nat.cast_zero, zero_mul] at h
    exact absurd h (not_le.2 (by positivity))
  rcases (exponentFor_mono hn hn' hd hd' h).lt_or_eq with hlt | heq
  · -- Rounding at the smaller exponent goes up to the first normal number of the greater one.
    have hnormal : exponentFor num' den' ≠ -1074 := by
      have := (exponentFor_spec hn hd).1
      omega
    calc nearest num den ≤ 2 ^ (exponentFor num den + 53) := nearest_le hn hd
      _ ≤ 2 ^ (exponentFor num' den' + 52) := zpow_le_zpow_right₀ one_le_two (by omega)
      _ ≤ nearest num' den' := le_nearest hn' hd' hnormal
  · have hround := @divRound_mono _ _ _ _
      (scaled_snd_pos Nat.two_pos hd num (exponentFor num den))
      (scaled_snd_pos Nat.two_pos hd' num' (exponentFor num den)) (by
        rw [scaled_eq Nat.two_pos, scaled_eq Nat.two_pos]
        gcongr)
    rw [nearest, nearest, ← heq]
    gcongr

theorem finite_zero : (zero negative).Finite :=
  ⟨by norm_num [zero], by norm_num [zero, maxExponent]⟩

theorem magnitude_zero : (zero negative).magnitude = 0 := by simp [zero, magnitude]

theorem Finite.magnitude_le (h : x.Finite) :
    x.magnitude ≤ ((2 ^ 53 - 1 : ℕ) : ℚ) * 2 ^ (971 : ℤ) := by
  have hm : (x.mantissa : ℚ) ≤ (2 ^ 53 - 1 : ℕ) := by
    have hlt := h.mantissa_lt
    have hle : x.mantissa ≤ 2 ^ 53 - 1 := by omega
    exact_mod_cast hle
  have he : (2 : ℚ) ^ x.exponent ≤ 2 ^ (971 : ℤ) := zpow_le_zpow_right₀ one_le_two h.exponent_le
  unfold magnitude
  gcongr

theorem Finite.magnitude_lt (h : x.Finite) : x.magnitude < 2 ^ (1024 : ℤ) := by
  calc x.magnitude ≤ ((2 ^ 53 - 1 : ℕ) : ℚ) * 2 ^ (971 : ℤ) := h.magnitude_le
    _ < 2 ^ (53 : ℤ) * 2 ^ (971 : ℤ) := by
      gcongr
      norm_num
    _ = 2 ^ (1024 : ℤ) := (zpow_add₀ two_ne_zero ..).symm

/-- The rounded ratio, be it in range or not. -/
def rounded (negative : Bool) (num den : Nat) : Binary64 :=
  let e := exponentFor num den
  let m := divRound (scaled 2 num den e).1 (scaled 2 num den e).2
  if m = Nat.pow 2 53 then ⟨negative, Nat.pow 2 52, e + 1⟩ else ⟨negative, m, e⟩

theorem ofRatio_eq (hn : 0 < num) :
    ofRatio negative num den =
      if (rounded negative num den).isInfinite then none else some (rounded negative num den) := by
  rw [ofRatio, if_neg hn.ne']
  rfl

theorem magnitude_rounded : (rounded negative num den).magnitude = nearest num den := by
  unfold rounded nearest
  dsimp only
  split
  · rename_i hm
    rw [hm, magnitude]
    simp only [zpow_add₀ (two_ne_zero : (2 : ℚ) ≠ 0)]
    norm_num
    ring
  · rfl

theorem mantissa_rounded_lt (hn : 0 < num) (hd : 0 < den) :
    (rounded negative num den).mantissa < 2 ^ 53 := by
  have hround := @divRound_le _ _ _ (scaled_snd_pos Nat.two_pos hd num _)
    ((scaled_eq Nat.two_pos num den (exponentFor num den)).trans_le (scaled_exponentFor_lt hn hd))
  unfold rounded
  dsimp only
  split
  · norm_num
  · rename_i hm
    exact lt_of_le_of_ne hround hm

theorem le_magnitude_of_infinite (hn : 0 < num) (hd : 0 < den)
    (h : (rounded negative num den).isInfinite = true) : 2 ^ (1024 : ℤ) ≤ nearest num den := by
  unfold rounded at h
  dsimp only at h
  split at h
  · rename_i hm
    have he : (971 : ℤ) < exponentFor num den + 1 := of_decide_eq_true h
    calc (2 : ℚ) ^ (1024 : ℤ) ≤ 2 ^ (53 + exponentFor num den) :=
          zpow_le_zpow_right₀ one_le_two (by omega)
      _ = nearest num den := by
        rw [nearest, hm, zpow_add₀ two_ne_zero]
        norm_num
  · have he : (971 : ℤ) < exponentFor num den := of_decide_eq_true h
    calc (2 : ℚ) ^ (1024 : ℤ) ≤ 2 ^ (exponentFor num den + 52) :=
          zpow_le_zpow_right₀ one_le_two (by omega)
      _ ≤ nearest num den := le_nearest hn hd (by omega)

theorem of_ofRatio (hd : 0 < den) (h : ofRatio negative num den = some x) :
    x.Finite ∧ x.magnitude = nearest num den := by
  rcases Nat.eq_zero_or_pos num with rfl | hn
  · obtain rfl : zero negative = x := by simpa [ofRatio] using h
    rw [nearest_zero hd, magnitude_zero]
    exact ⟨finite_zero, rfl⟩
  · rw [ofRatio_eq hn] at h
    split at h
    · cases h
    · rename_i hinfinite
      cases h
      refine ⟨⟨mantissa_rounded_lt hn hd, ?_⟩, magnitude_rounded⟩
      simpa [isInfinite] using hinfinite

theorem exists_ofRatio (hd : 0 < den) (h : nearest num den < 2 ^ (1024 : ℤ)) (negative : Bool) :
    ∃ x, ofRatio negative num den = some x := by
  rcases Nat.eq_zero_or_pos num with rfl | hn
  · exact ⟨zero negative, by simp [ofRatio]⟩
  · rw [ofRatio_eq hn]
    split
    · rename_i hinfinite
      exact absurd h (not_lt.2 (le_magnitude_of_infinite hn hd hinfinite))
    · exact ⟨_, rfl⟩

/-- A ratio below one that is in range is in range, and rounding keeps their order. -/
theorem exists_ofRatio_of_le (hd : 0 < den) (hd' : 0 < den') (h : (num / den : ℚ) ≤ num' / den')
    (hy : ofRatio negative' num' den' = some y) (negative : Bool) :
    ∃ x, ofRatio negative num den = some x ∧ x.Finite ∧ x.magnitude ≤ y.magnitude := by
  obtain ⟨hfinite, hmagnitude⟩ := of_ofRatio hd' hy
  have hle : nearest num den ≤ y.magnitude := hmagnitude ▸ nearest_mono hd hd' h
  obtain ⟨x, hx⟩ := exists_ofRatio hd (hle.trans_lt hfinite.magnitude_lt) negative
  refine ⟨x, hx, (of_ofRatio hd hx).1, ?_⟩
  rw [(of_ofRatio hd hx).2]
  exact hle

end MailSnapshot.Binary64
