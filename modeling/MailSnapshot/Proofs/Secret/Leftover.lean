import MailSnapshot.Proofs.Pattern.Occurrence
import MailSnapshot.Secret.Scan
import Mathlib.Data.List.Nodup

/-! What a scan can leave behind. A match of a family cannot hold a placeholder, with one exception:
the user and the password of an address may. So masking one family makes no match of another, and a
scanned text has no secrets but those of addresses. -/

namespace MailSnapshot.Secret
open Pattern
variable {f g : Family} {fs : List Family} {a b m s : List Char} {ps : List Piece}

/-- A text that no masked text holds unless it stood there before. -/
def Solid (m : List Char) : Prop :=
  '[' ∉ m ∧ ']' ∉ m ∧ ∃ c ∈ m, c ∉ placeholder

def masked (ps : List Piece) : List Char := ps.flatMap (Piece.masked placeholder)

/-- A match in a masked text starts at a character that was kept, and a match stood there before. -/
def Traceable (p : Pattern) : Prop :=
  ∀ ps a m b, p.Matches m → masked ps = a ++ m ++ b →
    ∃ xs c ys m' b', ps = xs ++ .kept c :: ys ∧ p.Matches m' ∧
      (Piece.kept c :: ys).flatMap Piece.text = m' ++ b'

@[simp] theorem masked_nil : masked [] = [] := rfl

@[simp] theorem masked_kept {c : Char} : masked (.kept c :: ps) = c :: masked ps := rfl

@[simp] theorem masked_hit {t : List Char} : masked (.hit t :: ps) = placeholder ++ masked ps := rfl

theorem kept_of_prefix (h : masked ps = m ++ b) (hm : '[' ∉ m) :
    ∃ ys, ps = m.map .kept ++ ys ∧ masked ys = b := by
  induction m generalizing ps with
  | nil => exact ⟨ps, rfl, h⟩
  | cons c m ih =>
    cases ps with
    | nil => simp at h
    | cons x ps =>
      cases x with
      | kept d =>
        obtain ⟨rfl, htail⟩ := List.cons.inj h
        obtain ⟨ys, rfl, hys⟩ := ih htail fun hc => hm (List.mem_cons_of_mem _ hc)
        exact ⟨ys, rfl, hys⟩
      | hit t =>
        obtain ⟨rfl, _⟩ := List.cons.inj h
        exact absurd (List.mem_cons_self ..) hm

theorem bracket_mem_of_suffix {t : List Char} (h : placeholder = a ++ t) (ht : t ≠ []) :
    ']' ∈ t := by
  have hlast : (a ++ t).getLast? = some ']' := h ▸ rfl
  rw [List.getLast?_append, List.getLast?_eq_some_getLast ht, Option.some_or] at hlast
  rw [← Option.some.inj hlast]
  exact List.getLast_mem ht

/-- No solid text overlaps a placeholder. -/
theorem kept_of_solid (h : masked ps = a ++ m ++ b) (hm : Solid m) :
    ∃ xs ys, ps = xs ++ m.map .kept ++ ys ∧ masked ys = b := by
  obtain ⟨hopen, hclose, d, hd, hout⟩ := hm
  induction ps generalizing a with
  | nil => simp_all
  | cons x ps ih =>
    cases x with
    | kept c =>
      cases a with
      | nil =>
        obtain ⟨ys, hps, hys⟩ := kept_of_prefix h hopen
        exact ⟨[], ys, hps, hys⟩
      | cons e a =>
        obtain ⟨xs, ys, rfl, hys⟩ := ih (List.cons.inj h).2
        exact ⟨.kept c :: xs, ys, rfl, hys⟩
    | hit t =>
      rw [masked_hit, List.append_assoc, List.append_eq_append_iff] at h
      rcases h with ⟨a', rfl, htail⟩ | ⟨e, hmask, htail⟩
      · obtain ⟨xs, ys, rfl, hys⟩ := ih (htail.trans (List.append_assoc ..).symm)
        exact ⟨.hit t :: xs, ys, rfl, hys⟩
      · by_cases he : e = []
        · subst he
          obtain ⟨xs, ys, rfl, hys⟩ := ih (a := []) htail.symm
          exact ⟨.hit t :: xs, ys, rfl, hys⟩
        · -- The text would start inside the placeholder, and it ends before or after its end.
          have hbracket := bracket_mem_of_suffix hmask he
          rcases List.append_eq_append_iff.1 htail with ⟨a', rfl, _⟩ | ⟨a', rfl, _⟩
          · refine absurd ?_ hout
            rw [hmask]
            exact List.mem_append_right _ (List.mem_append_left _ hd)
          · exact absurd (List.mem_append_left _ hbracket) hclose

theorem traceable_of_solid {p : Pattern} (h : ∀ m, p.Matches m → Solid m) : Traceable p := by
  intro ps a m b hm hmask
  have hsolid := h m hm
  obtain ⟨xs, ys, rfl, _⟩ := kept_of_solid hmask hsolid
  cases m with
  | nil =>
    obtain ⟨_, _, c, hc, _⟩ := hsolid
    cases hc
  | cons c m =>
    refine ⟨xs, c, m.map .kept ++ ys, c :: m, ys.flatMap Piece.text, by simp, hm, ?_⟩
    simp [Piece.text, List.flatMap_map]

/-- The first line of a private key. -/
def pemHeader : Pattern :=
  chain [word "-----BEGIN", run (CharClass.either capital (CharClass.isOneOf [' '])),
    word " PRIVATE KEY-----"]

/-- The last line of a private key. -/
def pemFooter : Pattern :=
  chain [word "-----END", run (CharClass.either capital (CharClass.isOneOf [' '])),
    word " PRIVATE KEY-----"]

theorem solid_of_matches {p : Pattern}
    (h : p.bars '[' = true ∧ p.bars ']' = true ∧ p.demands placeholder = true) (hm : p.Matches m) :
    Solid m :=
  ⟨not_mem_of_bars hm h.1, not_mem_of_bars hm h.2.1, exists_not_mem_of_demands hm h.2.2⟩

theorem solid_pemHeader (hm : pemHeader.Matches m) : Solid m :=
  solid_of_matches (by decide) hm

theorem solid_pemFooter (hm : pemFooter.Matches m) : Solid m :=
  solid_of_matches (by decide) hm

/-- A private key is anything from a first line to a last line. -/
theorem matches_pemPrivateKey_iff :
    pemPrivateKey.pattern.Matches m ↔
      ∃ x y z, pemHeader.Matches x ∧ pemFooter.Matches z ∧ m = x ++ y ++ z := by
  let kind : Pattern := run (CharClass.either capital (CharClass.isOneOf [' ']))
  have hchain : pemPrivateKey.pattern =
      chain ([word "-----BEGIN", kind, word " PRIVATE KEY-----"] ++
        (shortRun CharClass.any :: [word "-----END", kind, word " PRIVATE KEY-----"])) := rfl
  rw [hchain, matches_chain_append_iff]
  constructor
  · rintro ⟨x, _, hx, h, rfl⟩
    obtain ⟨y, z, _, hz, rfl⟩ := matches_chain_cons_iff.1 h
    exact ⟨x, y, z, hx, hz, (List.append_assoc ..).symm⟩
  · rintro ⟨x, y, z, hx, hz, rfl⟩
    have hany : (shortRun CharClass.any).Matches y := .shortRun fun _ _ => rfl
    exact ⟨x, y ++ z, hx, matches_chain_cons_iff.2 ⟨y, z, hany, hz, rfl⟩, List.append_assoc ..⟩

theorem traceable_pemPrivateKey : Traceable pemPrivateKey.pattern := by
  intro ps a m b hm hmask
  obtain ⟨x, y, z, hx, hz, rfl⟩ := matches_pemPrivateKey_iff.1 hm
  rw [show a ++ (x ++ y ++ z) ++ b = a ++ x ++ (y ++ z ++ b) by simp] at hmask
  obtain ⟨xs, ys, rfl, hrest⟩ := kept_of_solid hmask (solid_pemHeader hx)
  obtain ⟨us, vs, rfl, _⟩ := kept_of_solid hrest (solid_pemFooter hz)
  cases x with
  | nil =>
    obtain ⟨_, _, c, hc, _⟩ := solid_pemHeader hx
    cases hc
  | cons c x =>
    refine ⟨xs, c, x.map .kept ++ (us ++ z.map .kept ++ vs),
      c :: x ++ us.flatMap Piece.text ++ z, vs.flatMap Piece.text, by simp,
      matches_pemPrivateKey_iff.2 ⟨_, _, _, hx, hz, rfl⟩, ?_⟩
    simp [Piece.text, List.flatMap_map]

theorem demands_of_mem (hf : f ∈ families) : f.pattern.demands placeholder = true := by
  have h : ∀ f ∈ families, f.pattern.demands placeholder = true := by decide
  exact h f hf

/-- The matches of all families but two hold no bracket. -/
theorem bars_of_mem (hf : f ∈ families) (hurl : f.name ≠ urlCredentials.name)
    (hpem : f.name ≠ pemPrivateKey.name) :
    f.pattern.bars '[' = true ∧ f.pattern.bars ']' = true := by
  have h : ∀ f ∈ families, f.name ≠ urlCredentials.name → f.name ≠ pemPrivateKey.name →
      f.pattern.bars '[' = true ∧ f.pattern.bars ']' = true := by decide
  exact h f hf hurl hpem

theorem eq_of_name (hf : f ∈ families) (hg : g ∈ families) (h : f.name = g.name) : f = g :=
  List.inj_on_of_nodup_map (show (families.map Family.name).Nodup by decide) hf hg h

theorem traceable_of_mem (hf : f ∈ families) (hurl : f.name ≠ urlCredentials.name) :
    Traceable f.pattern := by
  by_cases hpem : f.name = pemPrivateKey.name
  · rw [eq_of_name hf (by simp [families]) hpem]
    exact traceable_pemPrivateKey
  · have hbars := bars_of_mem hf hurl hpem
    exact traceable_of_solid fun m hm => solid_of_matches ⟨hbars.1, hbars.2, demands_of_mem hf⟩ hm

section Scan

/-- A family does not occur in what its own scan leaves. -/
theorem not_occursIn_scan_self (hd : f.pattern.demands placeholder = true)
    (ht : Traceable f.pattern) : ¬ f.pattern.OccursIn (f.scan s).text := by
  rintro ⟨a, m, b, hm, heq⟩
  obtain ⟨xs, c, ys, m', b', hps, hm', htext⟩ := ht _ a m b hm heq
  exact not_matches_of_kept hd hps hm' ⟨b', htext⟩

/-- No scan makes a new occurrence of a pattern whose matches stood there before. -/
theorem occursIn_of_occursIn_scan {p : Pattern} (ht : Traceable p)
    (h : p.OccursIn (g.scan s).text) : p.OccursIn s := by
  obtain ⟨a, m, b, hm, heq⟩ := h
  obtain ⟨xs, c, ys, m', b', hps, hm', htext⟩ := ht _ a m b hm heq
  refine ⟨xs.flatMap Piece.text, m', b', hm', ?_⟩
  rw [← flatMap_text_pieces g.pattern s, hps, List.flatMap_append, htext, List.append_assoc]

theorem occursIn_of_occursIn_scanWith (ht : Traceable f.pattern)
    (h : f.pattern.OccursIn (scanWith fs s).text) : f.pattern.OccursIn s := by
  induction fs generalizing s with
  | nil => exact h
  | cons g fs ih => exact occursIn_of_occursIn_scan ht (ih h)

theorem not_occursIn_scanWith (hd : f.pattern.demands placeholder = true)
    (ht : Traceable f.pattern) (hf : f ∈ fs) : ¬ f.pattern.OccursIn (scanWith fs s).text := by
  induction fs generalizing s with
  | nil => cases hf
  | cons g fs ih =>
    rcases List.mem_cons.1 hf with rfl | hf
    · intro h
      exact not_occursIn_scan_self hd ht (occursIn_of_occursIn_scanWith ht h)
    · exact ih hf

/-- A scanned text holds no secret, except perhaps a user and a password in an address. -/
theorem not_occursIn_scan (hf : f ∈ families) (hurl : f.name ≠ urlCredentials.name) :
    ¬ f.pattern.OccursIn (scan s).text :=
  not_occursIn_scanWith (demands_of_mem hf) (traceable_of_mem hf hurl) hf

theorem replacements_scan_pos_iff (hd : f.pattern.demands placeholder = true) :
    0 < (f.scan s).replacements ↔ f.pattern.OccursIn s :=
  (occursIn_iff hd).symm

theorem scan_eq_of_not_occursIn (hd : f.pattern.demands placeholder = true)
    (h : ¬ f.pattern.OccursIn s) : f.scan s = ⟨s, 0⟩ := by
  have hzero : (f.pattern.pieces s).countP Piece.isHit = 0 := by
    rw [occursIn_iff hd] at h
    omega
  have htext : masked (s.map .kept) = s := by
    rw [masked, List.flatMap_map]
    exact List.flatMap_singleton' s
  change Scan.mk (masked (f.pattern.pieces s)) _ = _
  rw [hzero, pieces_eq_map_kept hzero, htext]

theorem scanWith_eq_of_not_occursIn (hd : ∀ f ∈ fs, f.pattern.demands placeholder = true)
    (h : ∀ f ∈ fs, ¬ f.pattern.OccursIn s) : scanWith fs s = ⟨s, 0⟩ := by
  induction fs with
  | nil => rfl
  | cons f fs ih =>
    have hfirst := scan_eq_of_not_occursIn (hd f (by simp)) (h f (by simp))
    have hrest := ih (fun g hg => hd g (by simp [hg])) fun g hg => h g (by simp [hg])
    simp only [scanWith, hfirst, hrest]

theorem not_occursIn_of_replacements (hd : ∀ f ∈ fs, f.pattern.demands placeholder = true)
    (h : (scanWith fs s).replacements = 0) : ∀ f ∈ fs, ¬ f.pattern.OccursIn s := by
  induction fs with
  | nil => simp
  | cons f fs ih =>
    obtain ⟨hfirst, hrest⟩ := Nat.add_eq_zero_iff.1 h
    have hf : ¬ f.pattern.OccursIn s := by
      rw [← replacements_scan_pos_iff (hd f (by simp))]
      omega
    rw [scan_eq_of_not_occursIn (hd f (by simp)) hf] at hrest
    intro g hg
    rcases List.mem_cons.1 hg with rfl | hg
    · exact hf
    · exact ih (fun g hg => hd g (by simp [hg])) hrest g hg

/-- A scan replaces nothing exactly when no family occurs. -/
theorem replacements_scan_eq_zero_iff :
    (scan s).replacements = 0 ↔ ∀ f ∈ families, ¬ f.pattern.OccursIn s := by
  constructor
  · exact not_occursIn_of_replacements fun _ => demands_of_mem
  · intro h
    rw [scan, scanWith_eq_of_not_occursIn (fun _ => demands_of_mem) h]

theorem scan_eq_of_replacements (h : (scan s).replacements = 0) : scan s = ⟨s, 0⟩ :=
  scanWith_eq_of_not_occursIn (fun _ => demands_of_mem) (replacements_scan_eq_zero_iff.1 h)

/-- A text in which a scan replaces nothing has no place to report. -/
theorem spans_eq_nil (h : (scan s).replacements = 0) : spans s = [] := by
  rw [spans, List.filterMap_eq_nil_iff]
  intro f hf
  rw [Pattern.spans_eq_nil (demands_of_mem hf) (replacements_scan_eq_zero_iff.1 h f hf)]

end Scan

/-- A text without secrets, except perhaps a user and a password in an address. -/
def Redacted (s : List Char) : Prop :=
  ∀ f ∈ families, f.name ≠ urlCredentials.name → ¬ f.pattern.OccursIn s

theorem redacted_scan : Redacted (scan s).text := fun _ => not_occursIn_scan

/-- Once a text is redacted only the addresses decide whether a scan replaces anything. -/
theorem Redacted.replacements_eq_zero_iff (h : Redacted s) :
    (scan s).replacements = 0 ↔ ¬ urlCredentials.pattern.OccursIn s := by
  rw [replacements_scan_eq_zero_iff]
  constructor
  · intro hall
    exact hall _ (by simp [families])
  · intro hurl f hf
    by_cases hname : f.name = urlCredentials.name
    · rwa [eq_of_name hf (by simp [families]) hname]
    · exact h f hf hname

end MailSnapshot.Secret
