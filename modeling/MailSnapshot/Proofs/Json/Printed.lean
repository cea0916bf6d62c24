import MailSnapshot.Proofs.Json.Numerals
import MailSnapshot.Proofs.Json.Scale
import Mathlib.Data.List.Induction

/-! The text of a number as signs and digits, and what it is read as. Whole numbers that fit 64 bits
come back as they are, and no other number leaves the range. -/

namespace MailSnapshot.Json
open Numeral
variable {n : Nat} {d : Decimal} {ds r : List Char} {t : NumberText}

theorem head_toDigits_ne_zero (hn : 0 < n) : (Nat.toDigits 10 n).head? ≠ some '0' := by
  induction n using Nat.strongRecOn with
  | _ n ih =>
    rcases Nat.lt_or_ge n 10 with h | h
    · rw [Nat.toDigits_of_lt_base h]
      simp only [List.head?_cons, ne_eq, Option.some.injEq, Nat.digitChar_eq_zero]
      omega
    · rw [Nat.toDigits_of_base_le (by decide) h, List.head?_append_of_ne_nil _ Nat.toDigits_ne_nil]
      exact ih (n / 10) (by omega) (by omega)

theorem toDigits_eq_zero_or_head (n : Nat) :
    Nat.toDigits 10 n = ['0'] ∨ (Nat.toDigits 10 n).head? ≠ some '0' := by
  rcases Nat.eq_zero_or_pos n with rfl | hn
  · exact .inl (Nat.toDigits_zero 10)
  · exact .inr (head_toDigits_ne_zero hn)

theorem isDigit_toDigits {c : Char} (hc : c ∈ Nat.toDigits 10 n) : c.isDigit = true :=
  Nat.isDigit_of_mem_toDigits (by decide) (by decide) hc

namespace NumberText

def ofInt (n : Int) : NumberText := ⟨decide (n < 0), Nat.toDigits 10 n.natAbs, [], none⟩

theorem proper_ofInt (n : Int) : (ofInt n).Proper where
  whole_ne_nil := Nat.toDigits_ne_nil
  whole_isDigit := fun _ => isDigit_toDigits
  whole_head := toDigits_eq_zero_or_head _
  fraction_isDigit := by simp [ofInt]

theorem chars_ofInt (n : Int) : (toString n).toList = (ofInt n).chars := by
  cases n with
  | ofNat m =>
    change (Nat.repr m).toList = _
    simp [ofInt, chars, signChars, pointChars, exponentChars]
  | negSucc m =>
    change ("-" ++ Nat.repr (m + 1)).toList = _
    simp [ofInt, chars, signChars, pointChars, exponentChars]

theorem value_ofInt {n : Int} (hlow : -2 ^ 63 ≤ n) (hhigh : n < 2 ^ 64) :
    (ofInt n).value = some (.int n) := by
  have hvalue : natOf (ofInt n).whole = n.natAbs := Nat.ofDigitChars_ten_toDigits
  have hwhole : (ofInt n).isWhole = true := rfl
  by_cases hneg : n < 0
  · have hsign : (ofInt n).negative = true := decide_eq_true hneg
    have hrange : 0 < n.natAbs ∧ n.natAbs ≤ Nat.pow 2 63 := by
      have : Nat.pow 2 63 = 9223372036854775808 := rfl
      omega
    have hback : -(n.natAbs : Int) = n := by omega
    rw [value, hvalue, hwhole, hsign, if_neg (by simp), if_pos (by simpa using hrange), hback]
  · have hsign : (ofInt n).negative = false := decide_eq_false hneg
    have hrange : n.natAbs < Nat.pow 2 64 := by
      have : Nat.pow 2 64 = 18446744073709551616 := rfl
      omega
    have hback : (n.natAbs : Int) = n := by omega
    rw [value, hvalue, hwhole, hsign, if_pos (by simpa using hrange), hback]

/-- The digits of a decimal without the zeros at their end. -/
def significant (d : Decimal) : List Char :=
  ((Nat.toDigits 10 d.digits).reverse.dropWhile (· = '0')).reverse

/-- The power of ten of the leading digit. -/
def leading (d : Decimal) : Int := d.exponent + (Nat.toDigits 10 d.digits).length - 1

def ofDecimal (d : Decimal) : NumberText :=
  let ds := significant d
  if d.digits = 0 then ⟨d.negative, ['0'], ['0'], none⟩
  else if leading d < -5 ∨ 15 < leading d then
    ⟨d.negative, ds.take 1, ds.drop 1, some (leading d)⟩
  else if leading d < 0 then
    ⟨d.negative, ['0'], Decimal.zeros (-leading d - 1).toNat ++ ds, none⟩
  else
    let whole := (leading d).toNat + 1
    ⟨d.negative, ds.take whole ++ Decimal.zeros (whole - ds.length),
      if ds.length ≤ whole then ['0'] else ds.drop whole, none⟩

theorem exists_zeros_of_list (s : List Char) :
    ∃ k, s = (s.reverse.dropWhile (· = '0')).reverse ++ Decimal.zeros k := by
  induction s using List.reverseRecOn with
  | nil => exact ⟨0, rfl⟩
  | append_singleton s c ih =>
    by_cases hc : c = '0'
    · subst hc
      obtain ⟨k, hk⟩ := ih
      refine ⟨k + 1, ?_⟩
      have hdrop : ((s ++ ['0']).reverse.dropWhile (· = '0')) = s.reverse.dropWhile (· = '0') := by
        simp
      rw [hdrop, Decimal.zeros, List.replicate_succ', ← List.append_assoc]
      exact congrArg (· ++ ['0']) hk
    · exact ⟨0, by simp [hc, Decimal.zeros]⟩

theorem exists_zeros (d : Decimal) :
    ∃ k, Nat.toDigits 10 d.digits = significant d ++ Decimal.zeros k :=
  exists_zeros_of_list _

theorem significant_ne_nil (hd : d.digits ≠ 0) : significant d ≠ [] := by
  obtain ⟨k, hk⟩ := exists_zeros d
  intro hnil
  have hvalue : natOf (Nat.toDigits 10 d.digits) = d.digits := Nat.ofDigitChars_ten_toDigits
  have hzeros : natOf (Decimal.zeros k) = 10 ^ k * 0 := Nat.ofDigitChars_replicate_zero
  rw [hk, hnil, List.nil_append, hzeros] at hvalue
  exact hd hvalue.symm

theorem isDigit_significant {c : Char} (hc : c ∈ significant d) : c.isDigit = true := by
  obtain ⟨k, hk⟩ := exists_zeros d
  refine isDigit_toDigits (n := d.digits) ?_
  rw [hk]
  exact List.mem_append_left _ hc

theorem head_significant (hd : d.digits ≠ 0) : (significant d).head? ≠ some '0' := by
  obtain ⟨k, hk⟩ := exists_zeros d
  have hhead := head_toDigits_ne_zero (Nat.pos_of_ne_zero hd)
  rwa [hk, List.head?_append_of_ne_nil _ (significant_ne_nil hd)] at hhead

theorem zeros_isDigit {c : Char} {k : Nat} (hc : c ∈ Decimal.zeros k) : c.isDigit = true := by
  rw [List.eq_of_mem_replicate hc]
  rfl

theorem text_numberStyle (d : Decimal) :
    d.text numberStyle = (if d.negative then ['-'] else []) ++
      if d.digits = 0 then ['0', '.', '0']
      else if leading d < -5 ∨ 15 < leading d then
        Decimal.scientific numberStyle (significant d) (leading d)
      else Decimal.positional (significant d) (leading d) := by
  have hstyle :
      numberStyle.isPositional (leading d) = !decide (leading d < -5 ∨ 15 < leading d) := by
    rw [← decide_not]
    apply decide_eq_decide.2
    change -5 ≤ leading d ∧ leading d ≤ 15 ↔ _
    omega
  unfold Decimal.text
  dsimp only
  change (if d.negative = true then '-' :: (if d.digits = 0 then ['0', '.', '0']
    else if numberStyle.isPositional (leading d) = true then
      Decimal.positional (significant d) (leading d)
    else Decimal.scientific numberStyle (significant d) (leading d)) else
      (if d.digits = 0 then ['0', '.', '0']
    else if numberStyle.isPositional (leading d) = true then
      Decimal.positional (significant d) (leading d)
    else Decimal.scientific numberStyle (significant d) (leading d))) = _
  rw [hstyle]
  by_cases hout : leading d < -5 ∨ 15 < leading d <;> cases d.negative <;> simp [hout]

theorem pointChars_of_ne_nil (h : ds ≠ []) : pointChars ds = '.' :: ds := by
  cases ds with
  | nil => exact absurd rfl h
  | cons => rfl

theorem scientific_numberStyle (ds : List Char) (e : Int) :
    Decimal.scientific numberStyle ds e =
      ds.take 1 ++ (pointChars (ds.drop 1) ++ exponentChars (some e)) := by
  have hexponent : 1 - (Nat.toDigits 10 e.natAbs).length = 0 := by
    have := @Nat.length_toDigits_pos 10 e.natAbs
    omega
  have hpoint : (if !(ds.drop 1).isEmpty then '.' :: ds.drop 1
      else if numberStyle.keepsPoint then ['.', '0'] else []) = pointChars (ds.drop 1) := by
    cases ds.drop 1 <;> rfl
  have hplus : numberStyle.plus = true := rfl
  have hwidth : numberStyle.exponentWidth = 1 := rfl
  unfold Decimal.scientific
  dsimp only
  rw [hpoint, hplus, hwidth, hexponent, exponentChars]
  split <;> simp [Decimal.zeros]

theorem negative_ofDecimal (d : Decimal) : (ofDecimal d).negative = d.negative := by
  unfold ofDecimal
  dsimp only
  split_ifs <;> rfl

theorem chars_ofDecimal (d : Decimal) : d.text numberStyle = (ofDecimal d).chars := by
  rw [text_numberStyle, chars, signChars, negative_ofDecimal]
  congr 1
  unfold ofDecimal
  dsimp only
  by_cases hzero : d.digits = 0
  · simp [hzero, pointChars, exponentChars]
  rw [if_neg hzero, if_neg hzero]
  by_cases hout : leading d < -5 ∨ 15 < leading d
  · rw [if_pos hout, if_pos hout, scientific_numberStyle]
  rw [if_neg hout, if_neg hout, Decimal.positional]
  by_cases hneg : leading d < 0
  · rw [if_pos hneg, if_pos hneg]
    simp [pointChars_of_ne_nil, significant_ne_nil hzero, exponentChars]
  · rw [if_neg hneg, if_neg hneg]
    dsimp only
    by_cases hshort : (significant d).length ≤ (leading d).toNat + 1
    · simp [hshort, pointChars, exponentChars]
    · have hdrop : (significant d).drop ((leading d).toNat + 1) ≠ [] :=
        mt List.drop_eq_nil_iff.1 hshort
      simp [hshort, pointChars_of_ne_nil hdrop, exponentChars]

theorem proper_ofDecimal (d : Decimal) : (ofDecimal d).Proper := by
  unfold ofDecimal
  split
  · exact ⟨by simp, by simp, .inl rfl, by simp⟩
  · rename_i hd
    have hnil := significant_ne_nil hd
    split
    · refine ⟨?_, ?_, .inr ?_, ?_⟩
      · simpa using hnil
      · exact fun c hc => isDigit_significant (List.mem_of_mem_take hc)
      · rw [List.head?_take]
        simpa using head_significant hd
      · exact fun c hc => isDigit_significant (List.mem_of_mem_drop hc)
    · split
      · refine ⟨by simp, by simp, .inl rfl, ?_⟩
        intro c hc
        rcases List.mem_append.1 hc with hc | hc
        · exact zeros_isDigit hc
        · exact isDigit_significant hc
      · refine ⟨?_, ?_, .inr ?_, ?_⟩
        · simp [hnil]
        · intro c hc
          rcases List.mem_append.1 hc with hc | hc
          · exact isDigit_significant (List.mem_of_mem_take hc)
          · exact zeros_isDigit hc
        · rw [List.head?_append_of_ne_nil _ (by simp [hnil]), List.head?_take]
          simpa using head_significant hd
        · intro c hc
          dsimp only at hc
          split at hc
          · simp_all
          · exact isDigit_significant (List.mem_of_mem_drop hc)

/-- The digits are those of the decimal, cut at its zeros. -/
theorem digits_eq (d : Decimal) : ∃ k : ℕ, d.digits = 10 ^ k * natOf (significant d) ∧
    leading d = d.exponent + (significant d).length + k - 1 := by
  obtain ⟨k, hk⟩ := exists_zeros d
  refine ⟨k, ?_, ?_⟩
  · have hvalue : natOf (Nat.toDigits 10 d.digits) = d.digits := Nat.ofDigitChars_ten_toDigits
    have hzeros : natOf (Decimal.zeros k) = 10 ^ k * 0 := Nat.ofDigitChars_replicate_zero
    rw [hk, natOf_append, hzeros] at hvalue
    simpa [Decimal.zeros] using hvalue.symm
  · rw [leading, hk, List.length_append, Decimal.zeros, List.length_replicate]
    push_cast
    ring

theorem amount_eq (d : Decimal) :
    d.amount = natOf (significant d) * 10 ^ (leading d + 1 - (significant d).length) := by
  obtain ⟨k, hdigits, hleading⟩ := digits_eq d
  have hexponent : leading d + 1 - (significant d).length = k + d.exponent := by
    rw [hleading]
    ring
  rw [Decimal.amount, hdigits, hexponent, zpow_add₀ (by norm_num), zpow_natCast]
  push_cast
  ring

theorem natOf_lt (h : ∀ c ∈ ds, c.isDigit = true) : natOf ds < 10 ^ ds.length := by
  induction ds with
  | nil => exact Nat.one_pos
  | cons c ds ih =>
    have hc : digitValue c ≤ 9 := by
      have hdigit := h c (by simp)
      simp only [Char.isDigit, Bool.and_eq_true, decide_eq_true_eq] at hdigit
      have : c.toNat ≤ 57 := hdigit.2
      change c.toNat - 48 ≤ 9
      omega
    have hrest := ih fun c hc => h c (by simp [hc])
    have hcons : natOf (c :: ds) = 10 ^ ds.length * digitValue c + natOf ds := by
      rw [← List.singleton_append, natOf_append]
      simp [natOf]
    rw [hcons, List.length_cons, Nat.pow_succ]
    nlinarith

theorem natOf_zeros_append (k : Nat) (ds : List Char) :
    natOf (Decimal.zeros k ++ ds) = natOf ds := by
  have hzeros : natOf (Decimal.zeros k) = 10 ^ k * 0 := Nat.ofDigitChars_replicate_zero
  rw [natOf_append, hzeros]
  simp

theorem natOf_append_zeros (ds : List Char) (k : Nat) :
    natOf (ds ++ Decimal.zeros k) = 10 ^ k * natOf ds := by
  have hzeros : natOf (Decimal.zeros k) = 10 ^ k * 0 := Nat.ofDigitChars_replicate_zero
  rw [natOf_append, hzeros]
  simp [Decimal.zeros]

/-- All digits together are the significant ones and, for a whole number, some zeros. -/
theorem digits_ofDecimal (hd : d.digits ≠ 0) :
    ∃ j : ℕ, natOf ((ofDecimal d).whole ++ (ofDecimal d).fraction) =
        10 ^ j * natOf (significant d) ∧
      (ofDecimal d).exponent.getD 0 - (ofDecimal d).fraction.length =
        leading d + 1 - (significant d).length - j ∧
      (j = 0 ∨ j + (significant d).length ≤ 17) := by
  have hlength := List.length_pos_iff.2 (significant_ne_nil hd)
  unfold ofDecimal
  dsimp only
  rw [if_neg hd]
  by_cases hout : leading d < -5 ∨ 15 < leading d
  · rw [if_pos hout]
    refine ⟨0, by rw [List.take_append_drop, pow_zero, one_mul], ?_, .inl rfl⟩
    simp only [Option.getD_some, List.length_drop]
    omega
  rw [if_neg hout]
  by_cases hneg : leading d < 0
  · rw [if_pos hneg]
    refine ⟨0, ?_, ?_, .inl rfl⟩
    · rw [← List.append_assoc, show ['0'] = Decimal.zeros 1 from rfl, Decimal.zeros, Decimal.zeros,
        ← List.replicate_add, ← Decimal.zeros, natOf_zeros_append]
      simp
    · simp only [Option.getD_none, List.length_append, Decimal.zeros, List.length_replicate]
      omega
  rw [if_neg hneg]
  dsimp only
  by_cases hshort : (significant d).length ≤ (leading d).toNat + 1
  · rw [if_pos hshort, List.take_of_length_le hshort]
    refine ⟨(leading d).toNat + 1 - (significant d).length + 1, ?_, ?_, .inr (by omega)⟩
    · rw [List.append_assoc, Decimal.zeros, ← List.replicate_succ', ← Decimal.zeros,
        natOf_append_zeros]
    · simp only [Option.getD_none, List.length_singleton]
      omega
  · rw [if_neg hshort]
    have hzero : (leading d).toNat + 1 - (significant d).length = 0 := by omega
    refine ⟨0, by simp [hzero, Decimal.zeros], ?_, .inl rfl⟩
    simp only [Option.getD_none, List.length_drop]
    omega

theorem amount_ofDecimal (d : Decimal) : (ofDecimal d).amount = d.amount := by
  by_cases hzero : d.digits = 0
  · have hdigits : natOf ((ofDecimal d).whole ++ (ofDecimal d).fraction) = 0 := by
      rw [ofDecimal, if_pos hzero]
      rfl
    rw [Decimal.amount, amount, hdigits, hzero, Nat.cast_zero, zero_mul, zero_mul]
  · obtain ⟨j, hdigits, hexponent, _⟩ := digits_ofDecimal hzero
    rw [amount_eq, amount, hdigits, hexponent, zpow_sub₀ (by norm_num), zpow_natCast]
    push_cast
    field_simp

theorem digits_ofDecimal_le (h : d.digits ≤ 10 ^ 17) :
    natOf ((ofDecimal d).whole ++ (ofDecimal d).fraction) ≤ 10 ^ 17 := by
  by_cases hzero : d.digits = 0
  · rw [ofDecimal, if_pos hzero]
    exact Nat.zero_le _
  · obtain ⟨j, hdigits, _, hj⟩ := digits_ofDecimal hzero
    rw [hdigits]
    rcases hj with rfl | hj
    · obtain ⟨k, hk, _⟩ := digits_eq d
      have hpos : 0 < 10 ^ k := Nat.pow_pos (by decide)
      have := Nat.le_mul_of_pos_left (natOf (significant d)) hpos
      omega
    · calc 10 ^ j * natOf (significant d) ≤ 10 ^ j * 10 ^ (significant d).length :=
            Nat.mul_le_mul_left _ (natOf_lt fun _ => isDigit_significant).le
        _ = 10 ^ (j + (significant d).length) := (Nat.pow_add ..).symm
        _ ≤ 10 ^ 17 := Nat.pow_le_pow_right (by decide) hj

theorem isWhole_ofDecimal (d : Decimal) : (ofDecimal d).isWhole = false := by
  unfold ofDecimal isWhole
  dsimp only
  split_ifs with hzero hout hneg hshort
  · rfl
  · simp
  · simp [significant_ne_nil hzero]
  · simp
  · simpa using hshort

/-- The text of a binary64 number never leaves the range of such numbers. -/
theorem exists_double_ofDecimal (x : Binary64) :
    ∃ y, (ofDecimal (Decimal.shortest x)).double = some y :=
  exists_double (digits_ofDecimal_le (Decimal.digits_shortest_le x))
    ((amount_ofDecimal _).trans_le (Decimal.amount_shortest_le x))

end NumberText

/-- What is read of a binary64 number that was written. -/
def rereadDouble (x : Binary64) : Binary64 :=
  ((NumberText.ofDecimal (Decimal.shortest x)).double).getD x

theorem readNumber_int {n : Int} (hlow : -2 ^ 63 ≤ n) (hhigh : n < 2 ^ 64) (hr : EndsNumber r) :
    readNumber (scalarText (.int n) ++ r) = some (.int n, r) := by
  rw [readNumber, scalarText, NumberText.chars_ofInt,
    readNumberText_append (NumberText.proper_ofInt n) hr]
  simp [NumberText.value_ofInt hlow hhigh]

theorem readNumber_double (x : Binary64) (hr : EndsNumber r) :
    readNumber (scalarText (.double x) ++ r) = some (.double (rereadDouble x), r) := by
  obtain ⟨y, hy⟩ := NumberText.exists_double_ofDecimal x
  have hvalue :
      (NumberText.ofDecimal (Decimal.shortest x)).value = some (.double (rereadDouble x)) := by
    rw [NumberText.value, NumberText.isWhole_ofDecimal, rereadDouble, hy]
    rfl
  rw [readNumber, scalarText, NumberText.chars_ofDecimal,
    readNumberText_append (NumberText.proper_ofDecimal _) hr]
  simp [hvalue]

end MailSnapshot.Json
