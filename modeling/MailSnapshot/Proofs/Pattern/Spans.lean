import MailSnapshot.Proofs.Pattern.Position
import MailSnapshot.Proofs.Pattern.Preference

/-! The spans that a search reports. They stand one behind the other, each holds a match, and a
match anywhere in the text starts inside one of them. When a pattern ends with a run of a class, so
does each span, and the run goes on for as long as the text has characters of the class. -/

namespace MailSnapshot.Pattern
open Text
variable {p : Pattern} {k : CharClass} {a m r s : List Char} {cs : List Char} {ps : List Piece}
  {span : Nat × Nat} {start : Nat}

/-- The class of the run that a pattern ends with. -/
def finalRun? : Pattern → Option CharClass
  | run k => some k
  | seq _ q => q.finalRun?
  | empty | one _ | alt _ _ | shortRun _ => none

theorem getLast?_afterRuns : (afterRuns k s).getLast? = some (s.dropWhile k) := by
  induction s with
  | nil => rfl
  | cons c s ih =>
    rw [afterRuns_cons]
    cases hc : k c with
    | true => simp [List.getLast?_cons, ih, hc]
    | false => simp [hc]

/-- A preferred match leaves nothing of the run that it ends with. -/
theorem stops_of_finalRun (hk : p.finalRun? = some k) (hr : (p.rests s).head? = some r) :
    ∀ c, r.head? = some c → k c = false := by
  induction p generalizing s with
  | run l =>
    obtain rfl := Option.some.inj hk
    rw [rests, List.head?_reverse, getLast?_afterRuns] at hr
    obtain rfl := Option.some.inj hr
    intro c hc
    have hstop := List.head?_dropWhile_not l s
    rwa [hc] at hstop
  | seq p q _ ih =>
    -- The preferred way through both is the preferred way through `q` from some place behind `p`.
    rw [rests, List.head?_flatMap] at hr
    obtain ⟨t, _, ht⟩ := List.exists_of_findSome?_eq_some hr
    exact ih hk ht
  | empty | one | alt | shortRun => cases hk

theorem head?_rests_of_matchLength (h : p.matchLength? (m ++ r) = some m.length) :
    (p.rests (m ++ r)).head? = some r := by
  obtain ⟨t, ht, hlength⟩ := Option.map_eq_some_iff.1 h
  obtain ⟨n, _, heq⟩ := mem_rests_iff.1 (List.mem_of_head? ht)
  have hsame : r.length = t.length := by
    have := congrArg List.length heq
    simp only [List.length_append] at this hlength
    omega
  rw [ht, List.append_inj_right' heq hsame]

theorem le_of_mem_spansFrom (h : span ∈ spansFrom start ps) : start ≤ span.1 := by
  induction ps generalizing start with
  | nil => cases h
  | cons x ps ih =>
    cases x with
    | kept c =>
      have := ih h
      omega
    | hit t =>
      rcases List.mem_cons.1 h with rfl | h
      · exact Nat.le_refl _
      · have := ih h
        omega

/-- No span begins before the one in front of it has ended. -/
theorem pairwise_spansFrom : (spansFrom start ps).Pairwise fun x y => x.2 ≤ y.1 := by
  induction ps generalizing start with
  | nil => exact .nil
  | cons x ps ih =>
    cases x with
    | kept c => exact ih
    | hit t => exact .cons (fun _ h => le_of_mem_spansFrom h) ih

/-- What a span holds, and what stands behind it. -/
theorem exists_of_mem_spans (h : span ∈ p.spans s) :
    ∃ a m r, s = a ++ m ++ r ∧ span = (Utf8.size a, Utf8.size (a ++ m)) ∧ m ≠ [] ∧ p.Matches m ∧
      ∀ k, p.finalRun? = some k → ∀ c, r.head? = some c → k c = false := by
  obtain ⟨a, m, ys, hstands, rfl⟩ := mem_spans_iff.1 h
  have hs := hstands.flatMap_text
  rw [flatMap_text_pieces, List.flatMap_cons, ← List.append_assoc] at hs
  have hlength : p.matchLength? (m ++ ys.flatMap Piece.text) = some m.length := by
    obtain ⟨xs, hpieces, _⟩ := hstands
    exact matchLength_of_pieces (pieces_of_pieces_append hpieces)
  refine ⟨a, m, _, hs, by rw [size_append], full_pieces _ hstands.mem, matches_of_hit hstands.mem,
    ?_⟩
  intro k hk
  exact stops_of_finalRun hk (head?_rests_of_matchLength hlength)

/-- A match anywhere in the text starts inside a span. -/
theorem exists_span_of_matches (hp : p.demands cs = true) (hm : p.Matches m)
    (hs : s = a ++ m ++ r) : ∃ span ∈ p.spans s, span.1 ≤ Utf8.size a ∧ Utf8.size a < span.2 := by
  rw [List.append_assoc] at hs
  obtain ⟨d, t, ys, hstands, hlow, hhigh⟩ := exists_hit_of_matches hp hm hs
  exact ⟨_, mem_spans_iff.2 ⟨d, t, ys, hstands, rfl⟩, hlow, hhigh⟩

end MailSnapshot.Pattern
