import MailSnapshot.Proofs.Pattern.Spans
import MailSnapshot.Proofs.Secret.Leftover
import Mathlib

/-! The spans of the families. What a family reports is all that it could: nothing of its shape is
outside its spans, and no span stops short of the end of a token. -/

namespace MailSnapshot.Secret
open Pattern CharClass Text
variable {f : Family} {c : Char} {m s : List Char} {span : Nat × Nat}

section Names

theorem between_a_z (c : Char) : between 'a' 'z' c = c.isLower := by
  simp [between, Char.isLower, Char.le_def]

theorem digit_eq_isDigit (c : Char) : digit c = c.isDigit := by
  simp [digit, between, Char.isDigit, Char.le_def]

theorem isDigit_toLower (c : Char) : c.toLower.isDigit = c.isDigit := by
  simp only [Char.isDigit, Char.toLower]
  split <;> grind [UInt32.toNat_add, Char.toNat_val]

theorem letterOrDigit_of_ne (hs : c ≠ 'ſ') (hk : c ≠ '\u212A') :
    letterOrDigit c = c.isAlphanum := by
  have hfold : fold c = c.toLower := by simp only [fold, if_neg hs, if_neg hk]
  calc letterOrDigit c
    _ = (c.toLower.isLower || c.toLower.isDigit) := by
      rw [letterOrDigit, anyCase, hfold, either, between_a_z, digit_eq_isDigit]
    _ = c.isAlphanum := by
      rw [Char.isLower_toLower_eq_isAlpha, isDigit_toLower, Char.isAlphanum]

/-- A letter, a digit or an underscore of ASCII, or one of the two other characters that fold to a
letter. -/
def nameChar : CharClass := either Char.isAlphanum (isOneOf ['_', 'ſ', '\u212A'])

theorem anyCaseOr_underscore (c : Char) : anyCaseOr ['_'] c = nameChar c := by
  by_cases hs : c = 'ſ'
  · subst hs
    decide
  by_cases hk : c = '\u212A'
  · subst hk
    decide
  simp [anyCaseOr, either, letterOrDigit_of_ne hs hk, nameChar, isOneOf, hs, hk]

theorem bars_each {ks : List CharClass} : (each ks).bars c = ks.all fun k => !k c := by
  induction ks with
  | nil => rfl
  | cons k ks ih => simp [each, bars, ← ih]

theorem bars_wordAnyCase {w : String} (h : fold c ∉ w.toList) : (wordAnyCase w).bars c = true := by
  rw [wordAnyCase, bars_each, List.all_map, List.all_eq_true]
  intro d hd
  have hne : fold c ≠ d := fun he => h (he ▸ hd)
  simpa [anyCase, isOneOf] using hne

/-- A variable is a dollar sign and a name, the keyword in it included. -/
theorem exists_name_of_matches (h : secretEnvReference.pattern.Matches m) :
    ∃ w, m = '$' :: w ∧ ∀ c ∈ w, nameChar c = true := by
  obtain ⟨x, w, hx, hw, rfl⟩ := matches_chain_cons_iff.1 h
  obtain rfl := matches_word_iff.1 hx
  refine ⟨w, rfl, ?_⟩
  intro c hc
  by_contra hname
  have hany : anyCaseOr ['_'] c = false := by simpa [anyCaseOr_underscore] using hname
  have hfirst : either letter (isOneOf ['_']) c = false := by
    simp_all [anyCaseOr, either, letterOrDigit, letter, anyCase]
  have hword : ∀ w : String, w.toList.all (between 'a' 'z') = true →
      (wordAnyCase w).bars c = true := by
    intro w hw
    refine bars_wordAnyCase fun hmem => ?_
    have := List.all_eq_true.1 hw _ hmem
    simp_all [either, letter, anyCase]
  refine not_mem_of_bars hw ?_ hc
  simp [chain, oneOf, bars, hany, hfirst, hword "secret" (by decide), hword "token" (by decide),
    hword "key" (by decide), hword "password" (by decide)]

/-- The span of a variable is a dollar sign and the whole name behind it. -/
theorem exists_of_mem_spans_secretEnvReference (h : span ∈ secretEnvReference.pattern.spans s) :
    ∃ a r, s = a ++ '$' :: r ∧
      span = (Utf8.size a, Utf8.size (a ++ '$' :: r.takeWhile nameChar)) := by
  obtain ⟨a, m, r, rfl, rfl, _, hm, hstop⟩ := exists_of_mem_spans h
  obtain ⟨w, rfl, hw⟩ := exists_name_of_matches hm
  have hend : r.takeWhile nameChar = [] := by
    cases r with
    | nil => rfl
    | cons c r =>
      have hc := hstop _ rfl c rfl
      rw [anyCaseOr_underscore] at hc
      simp [hc]
  refine ⟨a, w ++ r, by simp, ?_⟩
  rw [List.takeWhile_append_of_pos hw, hend, List.append_nil]

end Names

theorem finalRun?_eq_none_iff (hf : f ∈ families) :
    f.pattern.finalRun? = none ↔
      f = urlCredentials ∨ f = awsAccessKeyId ∨ f = pemPrivateKey := by
  have hnames : ∀ f ∈ families, f.pattern.finalRun?.isNone = true ↔
      f.name = urlCredentials.name ∨ f.name = awsAccessKeyId.name ∨
        f.name = pemPrivateKey.name := by decide
  rw [← Option.isNone_iff_eq_none, hnames f hf]
  constructor
  · rintro (h | h | h)
    · exact .inl (eq_of_name hf (by simp [families]) h)
    · exact .inr (.inl (eq_of_name hf (by simp [families]) h))
    · exact .inr (.inr (eq_of_name hf (by simp [families]) h))
  · rintro (rfl | rfl | rfl) <;> simp

/-- The spans of a family hold at least a character each, stand apart and in order, and begin and
end between characters of the text. Each holds a match, and a match anywhere begins inside a span,
so that none stands between two of them. All families but three end with a run of a class, and then
no character of the class stands behind a span. For a variable the span is a dollar sign and all of
the name behind it. -/
theorem spans_hold_all_matches (hf : f ∈ families) (s : List Char) :
    (∀ span ∈ f.pattern.spans s, span.1 < span.2) ∧
    (f.pattern.spans s).Pairwise (fun x y => x.2 ≤ y.1) ∧
    (∀ span ∈ f.pattern.spans s, ∃ a m r, s = a ++ m ++ r ∧
      span = (Utf8.size a, Utf8.size (a ++ m)) ∧ f.pattern.Matches m ∧
      ∀ k, f.pattern.finalRun? = some k → ∀ c, r.head? = some c → k c = false) ∧
    (∀ a m r, s = a ++ m ++ r → f.pattern.Matches m →
      ∃ span ∈ f.pattern.spans s, span.1 ≤ Utf8.size a ∧ Utf8.size a < span.2) ∧
    (f.pattern.finalRun? = none ↔
      f = urlCredentials ∨ f = awsAccessKeyId ∨ f = pemPrivateKey) ∧
    (∀ span ∈ secretEnvReference.pattern.spans s, ∃ a r, s = a ++ '$' :: r ∧
      span = (Utf8.size a, Utf8.size (a ++ '$' :: r.takeWhile nameChar))) := by
  refine ⟨?_, pairwise_spansFrom, ?_, ?_, finalRun?_eq_none_iff hf, ?_⟩
  · intro span hspan
    obtain ⟨a, m, r, _, rfl, hm, _⟩ := exists_of_mem_spans hspan
    have := size_pos hm
    simp only [size_append]
    omega
  · intro span hspan
    obtain ⟨a, m, r, hs, hplace, _, hm, hstop⟩ := exists_of_mem_spans hspan
    exact ⟨a, m, r, hs, hplace, hm, hstop⟩
  · intro a m r hs hm
    exact exists_span_of_matches (demands_of_mem hf) hm hs
  · intro span
    exact exists_of_mem_spans_secretEnvReference

/-- A variable with a long s in its keyword, between characters of two bytes. -/
def foldedSample : List Char := "é $my_ſecretZ9é".toList

theorem spans_foldedSample :
    secretEnvReference ∈ families ∧ secretEnvReference.pattern.spans foldedSample = [(3, 16)] ∧
    (∃ a m r, foldedSample = a ++ m ++ r ∧ (3, 16) = (Utf8.size a, Utf8.size (a ++ m)) ∧
      secretEnvReference.pattern.Matches m) ∧
    ∃ a r, foldedSample = a ++ '$' :: r ∧
      (3, 16) = (Utf8.size a, Utf8.size (a ++ '$' :: r.takeWhile nameChar)) := by
  have hf : secretEnvReference ∈ families := by simp [families]
  have hspans : secretEnvReference.pattern.spans foldedSample = [(3, 16)] := by decide +kernel
  have hspan : (3, 16) ∈ secretEnvReference.pattern.spans foldedSample := by simp [hspans]
  obtain ⟨_, _, hholds, _, _, hname⟩ := spans_hold_all_matches hf foldedSample
  obtain ⟨a, m, r, hs, hplace, hm, _⟩ := hholds _ hspan
  exact ⟨hf, hspans, ⟨a, m, r, hs, hplace, hm⟩, hname _ hspan⟩

end MailSnapshot.Secret
