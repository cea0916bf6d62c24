import MailSnapshot.Json.Number
import MailSnapshot.Json.Text
import Mathlib.Data.List.TakeDrop

/-! Reading back a written number: its sign, its digits, and its exponent. -/

namespace MailSnapshot.Json
open Numeral
variable {ds r : List Char} {t : NumberText} {c : Char}

/-- A text that does not go on with a number. -/
def EndsNumber (r : List Char) : Prop :=
  ∀ c ∈ r.head?, c.isDigit = false ∧ c ≠ '.' ∧ c ≠ 'e' ∧ c ≠ 'E'

namespace NumberText

def signChars (t : NumberText) : List Char := if t.negative then ['-'] else []

def pointChars : List Char → List Char
  | [] => []
  | ds => '.' :: ds

def exponentChars : Option Int → List Char
  | none => []
  | some e => 'e' :: (if e < 0 then '-' else '+') :: Nat.toDigits 10 e.natAbs

/-- The number as a text. -/
def chars (t : NumberText) : List Char :=
  t.signChars ++ (t.whole ++ (pointChars t.fraction ++ exponentChars t.exponent))

/-- Digits where they belong, and no zero in front. -/
structure Proper (t : NumberText) : Prop where
  whole_ne_nil : t.whole ≠ []
  whole_isDigit : ∀ c ∈ t.whole, c.isDigit = true
  whole_head : t.whole = ['0'] ∨ t.whole.head? ≠ some '0'
  fraction_isDigit : ∀ c ∈ t.fraction, c.isDigit = true

end NumberText

theorem takeDigits_append (hds : ∀ c ∈ ds, c.isDigit = true)
    (hr : ∀ c ∈ r.head?, c.isDigit = false) : takeDigits (ds ++ r) = (ds, r) := by
  rw [takeDigits, List.span_eq_takeWhile_dropWhile, List.takeWhile_append_of_pos hds,
    List.dropWhile_append_of_pos hds]
  cases r with
  | nil => simp
  | cons c r => simp [hr c rfl]

theorem readWhole_append (hne : ds ≠ []) (hds : ∀ c ∈ ds, c.isDigit = true)
    (hhead : ds = ['0'] ∨ ds.head? ≠ some '0') (hr : ∀ c ∈ r.head?, c.isDigit = false) :
    readWhole (ds ++ r) = some (ds, r) := by
  rw [readWhole, takeDigits_append hds hr]
  rcases hhead with rfl | hhead
  · rfl
  · split
    · simp_all
    · simp_all
    · simp_all
    · simp_all

theorem readFraction_append (hds : ∀ c ∈ ds, c.isDigit = true)
    (hr : ∀ c ∈ r.head?, c.isDigit = false ∧ c ≠ '.') :
    readFraction (NumberText.pointChars ds ++ r) = some (ds, r) := by
  cases ds with
  | nil =>
    cases r with
    | nil => rfl
    | cons c r =>
      have hpoint := (hr c rfl).2
      simp only [NumberText.pointChars, List.nil_append]
      unfold readFraction
      split
      · simp_all
      · rfl
  | cons d ds =>
    simp only [NumberText.pointChars, List.cons_append, readFraction]
    rw [← List.cons_append, takeDigits_append hds fun c hc => (hr c hc).1]
    rfl

theorem readExponent_append (e : Option Int) (hr : EndsNumber r) :
    readExponent (NumberText.exponentChars e ++ r) = some (e, r) := by
  cases e with
  | none =>
    cases r with
    | nil => rfl
    | cons c r =>
      obtain ⟨_, _, he, hE⟩ := hr c rfl
      simp [NumberText.exponentChars, readExponent, he, hE]
  | some e =>
    have hdigits : takeDigits (Nat.toDigits 10 e.natAbs ++ r) = (Nat.toDigits 10 e.natAbs, r) :=
      takeDigits_append (fun c hc => Nat.isDigit_of_mem_toDigits (by decide) (by decide) hc)
        fun c hc => (hr c hc).1
    have hvalue : natOf (Nat.toDigits 10 e.natAbs) = e.natAbs := Nat.ofDigitChars_ten_toDigits
    have hne : (Nat.toDigits 10 e.natAbs).isEmpty = false := by simp
    simp only [NumberText.exponentChars, List.cons_append, readExponent, true_or, if_true]
    split
    · rename_i hneg
      simp only [readSign, hdigits, hvalue, hne]
      simp only [Bool.false_eq_true, if_false, if_true, Option.some.injEq, Prod.mk.injEq, and_true]
      omega
    · rename_i hneg
      simp only [readSign, hdigits, hvalue, hne]
      simp only [Bool.false_eq_true, if_false, Option.some.injEq, Prod.mk.injEq, and_true]
      omega

/-- What is read after the sign. -/
def readParts (negative : Bool) (s : List Char) : Option (NumberText × List Char) := do
  let (whole, s) ← readWhole s
  let (fraction, s) ← readFraction s
  let (exponent, s) ← readExponent s
  return (⟨negative, whole, fraction, exponent⟩, s)

theorem readNumberText_minus : readNumberText ('-' :: r) = readParts true r := rfl

theorem readNumberText_of_ne (hc : c ≠ '-') :
    readNumberText (c :: r) = readParts false (c :: r) := by
  unfold readNumberText
  split
  rename_i heq
  split at heq
  · simp_all
  · cases heq
    rfl

theorem readParts_append (h : t.Proper) (hr : EndsNumber r) :
    readParts t.negative (t.whole ++ (NumberText.pointChars t.fraction ++
      (NumberText.exponentChars t.exponent ++ r))) = some (t, r) := by
  have hexponent : ∀ c ∈ (NumberText.exponentChars t.exponent ++ r).head?,
      c.isDigit = false ∧ c ≠ '.' := by
    cases t.exponent with
    | none => exact fun c hc => ⟨(hr c hc).1, (hr c hc).2.1⟩
    | some e => simp [NumberText.exponentChars]
  have hpoint : ∀ c ∈ (NumberText.pointChars t.fraction ++
      (NumberText.exponentChars t.exponent ++ r)).head?, c.isDigit = false := by
    cases t.fraction with
    | nil => exact fun c hc => (hexponent c hc).1
    | cons => simp [NumberText.pointChars]
  simp [readParts, readWhole_append h.whole_ne_nil h.whole_isDigit h.whole_head hpoint,
    readFraction_append h.fraction_isDigit hexponent, readExponent_append t.exponent hr]

/-- A written number is read back in front of any text that does not go on with it. -/
theorem readNumberText_append (h : t.Proper) (hr : EndsNumber r) :
    readNumberText (t.chars ++ r) = some (t, r) := by
  have hparts := readParts_append h hr
  simp only [NumberText.chars, NumberText.signChars, List.append_assoc]
  cases hsign : t.negative with
  | true =>
    rw [hsign] at hparts
    exact readNumberText_minus.trans hparts
  | false =>
    rw [hsign] at hparts
    cases hwhole : t.whole with
    | nil => exact absurd hwhole h.whole_ne_nil
    | cons c whole =>
      have hminus : c ≠ '-' := by
        rintro rfl
        have := h.whole_isDigit '-' (by simp [hwhole])
        cases this
      rw [hwhole] at hparts
      exact (readNumberText_of_ne hminus).trans hparts

end MailSnapshot.Json
