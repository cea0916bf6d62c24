import MailSnapshot.Proofs.Secret.Masking

/-! Addresses with a user and a password under masking. A placeholder may stand in the user and in
the password, but not in the scheme before them or at the end, and no two addresses overlap. -/

namespace MailSnapshot.Secret
open Pattern CharClass
variable {a b m v : List Char} {c : Char} {us ys zs : List Piece}

theorem eq_of_last {x y : List Char} (ha : c ∉ a) (hb : c ∉ b) (h : x ++ c :: a = y ++ c :: b) :
    x = y := by
  obtain ⟨d, rfl, hd⟩ | ⟨d, rfl, hd⟩ := List.append_eq_append_iff.1 h
  all_goals cases d with
  | nil => simp
  | cons e d =>
    obtain ⟨_, rfl⟩ := List.cons.inj hd
    simp at ha hb

theorem eq_nil_of_append_singleton {x y : List Char} (hx : c ∉ x) (h : x ++ [c] = y ++ c :: a) :
    a = [] := by
  obtain ⟨d, rfl, hd⟩ | ⟨d, rfl, hd⟩ := List.append_eq_append_iff.1 h
  all_goals cases d with
  | nil => simpa using hd
  | cons e d =>
    obtain ⟨rfl, _⟩ := List.cons.inj hd
    simp at hx hd

theorem matches_wordAnyCase_iff {w : String} :
    (wordAnyCase w).Matches m ↔ m.map fold = w.toList := by
  rw [wordAnyCase, matches_each_iff, List.forall₂_map_left_iff, eq_comm,
    ← List.forall₂_eq_eq_eq, List.forall₂_map_right_iff]
  simp [anyCase, isOneOf, eq_comm]

/-- Before its last character, which is the only one of its kind, an address has two slashes behind
the name of its scheme and no others. -/
theorem exists_of_matches_urlCredentials (h : urlCredentials.pattern.Matches m) :
    ∃ x y, (x.map fold = "http".toList ∨ x.map fold = "https".toList) ∧
      m = x ++ ([':', '/', '/'] ++ (y ++ ['@'])) ∧ '/' ∉ y ∧ '@' ∉ x ∧ '@' ∉ y := by
  let user : CharClass := outside (either Text.isBlank (isOneOf ['/', ':', '@']))
  let password : CharClass := outside (either Text.isBlank (isOneOf ['/', '@']))
  have hchain : urlCredentials.pattern =
      chain ([wordAnyCase "http", maybe (wordAnyCase "s")] ++ (word "://" ::
        ([atLeast 1 user, word ":", atLeast 1 password] ++ [word "@"]))) := rfl
  rw [hchain, matches_chain_append_iff] at h
  obtain ⟨x, _, hx, hrest, rfl⟩ := h
  obtain ⟨_, _, hslashes, htail, rfl⟩ := matches_chain_cons_iff.1 hrest
  obtain ⟨y, _, hy, hat, rfl⟩ := matches_chain_append_iff.1 htail
  obtain rfl := matches_word_iff.1 hslashes
  obtain rfl := matches_word_iff.1 hat
  refine ⟨x, y, ?_, rfl, ?_, ?_, ?_⟩
  · obtain ⟨a, b, ha, hb, rfl⟩ := matches_seq_iff.1 hx
    rw [List.map_append, matches_wordAnyCase_iff.1 ha]
    cases hb with
    | left hb =>
      right
      rw [matches_wordAnyCase_iff.1 hb]
      rfl
    | right hb =>
      cases hb
      exact .inl rfl
  · exact not_mem_of_bars hy (by decide)
  · exact not_mem_of_bars hx (by decide)
  · exact not_mem_of_bars hy (by decide)

/-- An address ends at its only at sign. -/
theorem exists_eq_append_at (h : urlCredentials.pattern.Matches m) :
    ∃ n, '@' ∉ n ∧ m = n ++ ['@'] := by
  obtain ⟨x, y, _, rfl, _, hx, hy⟩ := exists_of_matches_urlCredentials h
  exact ⟨x ++ [':', '/', '/'] ++ y, by simp [hx, hy], by simp⟩

theorem aligned_urlCredentials : Aligned urlCredentials.pattern := by
  refine aligned_of_ends fun m hm => ?_
  obtain ⟨x, y, hfold, rfl, _⟩ := exists_of_matches_urlCredentials hm
  cases x with
  | nil => simp at hfold
  | cons c x =>
    have hc : fold c = 'h' := by
      rcases hfold with h | h
      all_goals simpa using congrArg List.head? h
    refine ⟨c, x ++ ([':', '/', '/'] ++ y), '@', by simp only [List.cons_append, List.append_assoc],
      ?_, by decide⟩
    intro hmem
    have hout : placeholder.all (fun c => fold c != 'h') = true := by decide
    simpa [hc] using List.all_eq_true.1 hout c hmem

theorem persistent_urlCredentials : Persistent urlCredentials.pattern := by
  refine persistent_of_length_le (demands_of_mem (by simp [families])) fun m zs k hmatch _ hk => ?_
  by_contra hlt
  obtain ⟨e, _, _, hlength, hlong⟩ := exists_append_of_matchLength hk (by omega)
  obtain ⟨n, _, rfl⟩ := exists_eq_append_at hmatch
  obtain ⟨n', hn', heq⟩ := exists_eq_append_at hlong
  rw [List.append_assoc] at heq
  obtain rfl := eq_nil_of_append_singleton hn' heq.symm
  rw [List.append_nil] at hlength
  omega

/-- No address starts inside the scheme of another, which its last slashes tell the end of. -/
theorem eq_nil_of_matches_urlCredentials (hm : urlCredentials.pattern.Matches m)
    (hvm : urlCredentials.pattern.Matches (v ++ m)) : v = [] := by
  obtain ⟨x, y, hx, rfl, hy, _⟩ := exists_of_matches_urlCredentials hm
  obtain ⟨x', y', hx', heq, hy', _⟩ := exists_of_matches_urlCredentials hvm
  have hscheme : v ++ x ++ [':', '/'] = x' ++ [':', '/'] := by
    refine eq_of_last (c := '/') (a := y ++ ['@']) (b := y' ++ ['@']) (by simp [hy])
      (by simp [hy']) ?_
    simpa using heq
  rw [← List.append_cancel_right hscheme, List.map_append] at hx'
  rcases hx with h | h <;> rcases hx' with h' | h' <;> rw [h] at h'
  · simpa using h'
  · simpa using congrArg List.getLast? h'
  · simpa using congrArg List.getLast? h'
  · simpa using h'

/-- Two addresses that overlap end together, at their only at sign. -/
theorem masked_eq_of_overlap (hm : urlCredentials.pattern.Matches m)
    (hn : urlCredentials.pattern.Matches (v ++ masked us)) (hus : us ≠ [])
    (heq : us ++ zs = m.map .kept ++ ys) : masked us = m := by
  obtain ⟨k, hk, hkm⟩ := exists_eq_append_at hm
  obtain ⟨n, hnot, hnmask⟩ := exists_eq_append_at hn
  obtain ⟨ws, hws, _⟩ | ⟨ws, rfl, _⟩ := List.append_eq_append_iff.1 heq
  · obtain ⟨m₁, m₂, rfl, rfl, _⟩ := List.map_eq_append_iff.1 hws
    rw [masked_map_kept] at hnmask ⊢
    obtain rfl | ⟨i, c, rfl⟩ := List.eq_nil_or_concat m₁
    · exact absurd rfl hus
    · rw [List.concat_eq_append] at hkm hnmask ⊢
      rw [← List.append_assoc] at hnmask
      obtain ⟨_, hc⟩ := List.append_inj' hnmask rfl
      rw [hc, List.append_assoc] at hkm ⊢
      obtain rfl := eq_nil_of_append_singleton hk hkm.symm
      rfl
  · rw [masked_append, masked_map_kept, hkm, ← List.append_assoc, ← List.append_assoc,
      List.append_assoc] at hnmask
    have hnil : masked ws = [] := eq_nil_of_append_singleton hnot hnmask.symm
    rw [masked_append, masked_map_kept, hnil, List.append_nil]

theorem grounded_urlCredentials : Grounded urlCredentials.pattern := by
  intro xs us zs m ys hxs hus hn hm heq
  rw [masked_append] at hn
  rw [masked_eq_of_overlap hm hn hus heq] at hn
  exact absurd (eq_nil_of_masked (eq_nil_of_matches_urlCredentials hm hn)) hxs

end MailSnapshot.Secret
