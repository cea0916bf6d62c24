import MailSnapshot.Proofs.Secret.Substance
import Mathlib.Logic.Function.Iterate

/-! Scanning a scanned text. A second scan finds an address at most, and each scan that finds
something takes a character away for good, so that scanning over and over comes to a rest. -/

namespace MailSnapshot.Secret
open Pattern
variable {s : List Char} {n : Nat}

/-- What a scan leaves of a text. -/
def redact (s : List Char) : List Char := (scan s).text

theorem redact_eq_iff : redact s = s ↔ (scan s).replacements = 0 := text_scan_eq_iff

theorem changed_scan_eq_false_iff : (scan s).changed = false ↔ redact s = s := by
  rw [redact_eq_iff, Scan.changed, decide_eq_false_iff_not, Nat.not_lt, Nat.le_zero]

/-- Each scan that replaces something uses up a part of the substance. -/
theorem redact_iterate_settles (h : substance s ≤ n) :
    redact (redact^[n] s) = redact^[n] s := by
  induction n generalizing s with
  | zero =>
    have hle := substance_scan_le (s := s)
    have hzero : (scan s).replacements = 0 := by omega
    exact redact_eq_iff.2 hzero
  | succ n ih =>
    by_cases hzero : (scan s).replacements = 0
    · have hfixed := redact_eq_iff.2 hzero
      rw [Function.iterate_fixed hfixed, hfixed]
    · have hle := substance_scan_le (s := s)
      exact ih (s := (scan s).text) (by omega)

/-- A scan leaves no match of a family but those of addresses, and the next scan leaves the text as
it is exactly when there is none of these. -/
theorem rescan_finds_addresses (s : List Char) :
    (∀ f ∈ families, f ≠ urlCredentials →
      ¬ f.pattern.OccursIn (scan s).text ∧ f.pattern.spans (scan s).text = []) ∧
    (scan (scan s).text = ⟨(scan s).text, 0⟩ ↔
      ¬ urlCredentials.pattern.OccursIn (scan s).text) := by
  refine ⟨fun f hf hurl => ?_, ?_⟩
  · have hname : f.name ≠ urlCredentials.name := fun h =>
      hurl (eq_of_name hf (by simp [families]) h)
    have hnot := not_occursIn_scan (s := s) hf hname
    exact ⟨hnot, Pattern.spans_eq_nil (demands_of_mem hf) hnot⟩
  · rw [← redacted_scan.replacements_eq_zero_iff]
    constructor
    · intro h
      rw [h]
    · exact scan_eq_of_replacements

/-- Every replacement takes a character away that no placeholder holds. So a scan that replaces
something changes the text, and after as many scans as there are such characters the text stays as
it is. -/
theorem scan_makes_progress (s : List Char) :
    substance (scan s).text + (scan s).replacements ≤ substance s ∧
    ((scan s).changed = false ↔ (scan s).text = s) ∧
    ∀ n, substance s ≤ n → (scan (redact^[n] s)).replacements = 0 ∧
      redact^[n] s = redact^[substance s] s := by
  refine ⟨substance_scan_le, changed_scan_eq_false_iff, fun n hn => ?_⟩
  refine ⟨redact_eq_iff.1 (redact_iterate_settles hn), ?_⟩
  obtain ⟨k, rfl⟩ := Nat.exists_eq_add_of_le' hn
  rw [Function.iterate_add_apply,
    Function.iterate_fixed (redact_iterate_settles (Nat.le_refl (substance s)))]

end MailSnapshot.Secret
