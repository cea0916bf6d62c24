import MailSnapshot.Proofs.Secret.Masking

/-! Private keys under masking. A line of a private key has its dashes at its ends, so that no two
of its lines overlap, and the search ends a key at the nearest last line. -/

namespace MailSnapshot.Secret
open Pattern CharClass
variable {a b d m n r s : List Char} {c : Char} {w : String}

theorem eq_of_first {x y : List Char} (hx : c ∉ x) (hy : c ∉ y) (h : x ++ c :: a = y ++ c :: b) :
    x = y := by
  obtain ⟨d, rfl, hd⟩ | ⟨d, rfl, hd⟩ := List.append_eq_append_iff.1 h
  all_goals cases d with
  | nil => simp
  | cons e d =>
    obtain ⟨rfl, _⟩ := List.cons.inj hd
    simp at hx hy

theorem head?_flatMap_of_forall_eq {α β : Type} {f : α → List β} {u : α} {as : List α}
    (hu : u ∈ as) (h : ∀ v ∈ as, v = u) (hf : f u ≠ []) :
    (as.flatMap f).head? = (f u).head? := by
  cases as with
  | nil => cases hu
  | cons v as =>
    obtain rfl := h v (List.mem_cons_self ..)
    rw [List.flatMap_cons, List.head?_append_of_ne_nil _ hf]

/-- A line of a private key before and after the key. -/
def pemLine (w : String) : Pattern :=
  chain [word w, run (either capital (isOneOf [' '])), word " PRIVATE KEY-----"]

/-- A first or a last line holds its dashes at its two ends. -/
theorem exists_of_matches_pemLine (h : (pemLine w).Matches m) :
    ∃ k, '-' ∉ k ∧ m = w.toList ++ (k ++ "-----".toList) := by
  obtain ⟨x, y, hx, hy, rfl⟩ := matches_chain_cons_iff.1 h
  obtain ⟨k, z, hk, hz, rfl⟩ := matches_chain_cons_iff.1 hy
  obtain rfl := matches_word_iff.1 hx
  obtain rfl := matches_word_iff.1 hz
  refine ⟨k ++ " PRIVATE KEY".toList, ?_, by simp⟩
  have := not_mem_of_bars (c := '-') hk (by decide)
  simp [this]

theorem eq_of_matches_pemLine (hm : (pemLine w).Matches m) (hn : (pemLine w).Matches n)
    (h : m ++ a = n ++ b) : m = n := by
  obtain ⟨k, hk, rfl⟩ := exists_of_matches_pemLine hm
  obtain ⟨l, hl, rfl⟩ := exists_of_matches_pemLine hn
  simp only [List.append_assoc, List.append_cancel_left_eq] at h
  rw [eq_of_first hk hl h]

/-- All ways to match a line take the same characters. -/
theorem eq_of_mem_rests_pemLine (ha : a ∈ (pemLine w).rests s) (hb : b ∈ (pemLine w).rests s) :
    a = b := by
  obtain ⟨m, hm, rfl⟩ := mem_rests_iff.1 ha
  obtain ⟨n, hn, h⟩ := mem_rests_iff.1 hb
  obtain rfl := eq_of_matches_pemLine hm hn h
  exact List.append_cancel_left h

theorem count_of_matches_pemFooter (h : pemFooter.Matches m) : m.count '-' = 10 := by
  obtain ⟨k, hk, rfl⟩ := exists_of_matches_pemLine (w := "-----END") h
  rw [List.count_append, List.count_append, List.count_eq_zero.2 hk]
  rfl

/-- The earlier of two last lines ends first: with its ten dashes none is inside another. -/
theorem length_le_of_pemFooter (ha : a ∈ pemFooter.rests (d ++ s)) (hb : b ∈ pemFooter.rests s)
    (hd : d ≠ []) : b.length ≤ a.length := by
  obtain ⟨m, hm, hma⟩ := mem_rests_iff.1 ha
  obtain ⟨n, hn, rfl⟩ := mem_rests_iff.1 hb
  rw [← List.append_assoc] at hma
  obtain ⟨e, rfl, _⟩ | ⟨e, _, rfl⟩ := List.append_eq_append_iff.1 hma
  · have hmcount := count_of_matches_pemFooter hm
    have hncount := count_of_matches_pemFooter hn
    obtain ⟨k, _, hk⟩ := exists_of_matches_pemLine (w := "-----END") hm
    cases d with
    | nil => exact absurd rfl hd
    | cons c d =>
      have hc : c = '-' := by simpa using congrArg List.head? hk
      have hpos : 0 < (c :: d).count '-' := List.count_pos_iff.2 (by simp [hc])
      rw [List.count_append, List.count_append, hncount] at hmcount
      omega
  · simp

/-- After the first line the nearest last line comes first. -/
theorem pairwise_rests_pemBody :
    ((seq (shortRun CharClass.any) pemFooter).rests s).Pairwise fun a b => b.length ≤ a.length := by
  rw [rests, List.pairwise_flatMap]
  refine ⟨fun s _ => List.pairwise_of_forall_mem_list fun a ha b hb => ?_,
    pairwise_afterRuns.imp ?_⟩
  · obtain rfl := eq_of_mem_rests_pemLine (w := "-----END") ha hb
    exact Nat.le_refl _
  · rintro _ s ⟨d, hd, rfl⟩ a ha b hb
    exact length_le_of_pemFooter ha hb hd

/-- The search for a private key prefers the match that ends first. -/
theorem length_le_of_matchLength_pemPrivateKey {n : Nat} (hm : pemPrivateKey.pattern.Matches m)
    (hn : pemPrivateKey.pattern.matchLength? (m ++ r) = some n) : n ≤ m.length := by
  let body : Pattern := seq (shortRun CharClass.any) pemFooter
  have hrests : pemPrivateKey.pattern.rests (m ++ r) =
      (pemHeader.rests (m ++ r)).flatMap body.rests :=
    rests_chain_append [word "-----BEGIN", run (either capital (isOneOf [' '])),
      word " PRIVATE KEY-----"] _
  obtain ⟨t, ht, rfl⟩ := Option.map_eq_some_iff.1 hn
  have hr : r ∈ pemPrivateKey.pattern.rests (m ++ r) := mem_rests_iff.2 ⟨m, hm, rfl⟩
  rw [hrests] at ht hr
  obtain ⟨u, hu, hru⟩ := List.mem_flatMap.1 hr
  rw [head?_flatMap_of_forall_eq hu (fun v hv => eq_of_mem_rests_pemLine (w := "-----BEGIN") hv hu)
    (List.ne_nil_of_mem hru)] at ht
  obtain ⟨ts, hts⟩ := List.head?_eq_some_iff.1 ht
  have hsorted := pairwise_rests_pemBody (s := u)
  have hlength : r.length ≤ t.length := by
    rw [show (seq (shortRun CharClass.any) pemFooter).rests u = t :: ts from hts] at hsorted
    rw [hts] at hru
    rcases List.mem_cons.1 hru with rfl | hmem
    · exact Nat.le_refl _
    · exact (List.pairwise_cons.1 hsorted).1 r hmem
  rw [List.length_append]
  omega

theorem persistent_pemPrivateKey : Persistent pemPrivateKey.pattern := by
  refine persistent_of_length_le (demands_of_mem (by simp [families])) fun m zs n hmatch _ hn => ?_
  exact length_le_of_matchLength_pemPrivateKey hmatch hn

theorem aligned_pemPrivateKey : Aligned pemPrivateKey.pattern := by
  refine aligned_of_ends fun m hm => ?_
  obtain ⟨x, y, z, hx, hz, rfl⟩ := matches_pemPrivateKey_iff.1 hm
  obtain ⟨k, _, rfl⟩ := exists_of_matches_pemLine (w := "-----BEGIN") hx
  obtain ⟨l, _, rfl⟩ := exists_of_matches_pemLine (w := "-----END") hz
  refine ⟨'-', "----BEGIN".toList ++ (k ++ "-----".toList) ++ y ++
    ("-----END".toList ++ (l ++ "----".toList)), '-', by simp, by decide, by decide⟩

theorem grounded_pemPrivateKey : Grounded pemPrivateKey.pattern := by
  intro xs us zs m ys _ _ hm _ _
  obtain ⟨x, y, z, hx, hz, hmask⟩ := matches_pemPrivateKey_iff.1 hm
  rw [List.append_assoc] at hmask
  obtain ⟨vs, hvs, hrest⟩ := kept_of_prefix hmask (solid_pemHeader hx).1
  obtain ⟨as, bs, rfl, _⟩ := kept_of_solid (b := []) (by simpa using hrest) (solid_pemFooter hz)
  refine ⟨x ++ as.flatMap Piece.text ++ z, (bs ++ zs).flatMap Piece.text,
    matches_pemPrivateKey_iff.2 ⟨_, _, _, hx, hz, rfl⟩, ?_⟩
  rw [hvs]
  simp only [List.flatMap_append, flatMap_text_map_kept, List.append_assoc]

end MailSnapshot.Secret
