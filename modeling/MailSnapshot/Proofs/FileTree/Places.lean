import MailSnapshot.FileTree.Opening

/-! Places: what is put where, and where a path leads. However a path is followed, by its
directories or by its text, it can only lead to the one place that its parts make up. -/

namespace MailSnapshot.FileTree
variable {t u : FileTree} {p q here : Place} {n m : Node} {path part : String}
  {ps rest : List String} {found : Option Node}

theorem node?_nil : t.node? [] = some .directory := rfl

theorem node?_of_ne_nil (hp : p ≠ []) : t.node? p = (t.nodes.find? (·.1 = p)).map (·.2) := if_neg hp

theorem node?_erase_self (hp : p ≠ []) : (t.erase p).node? p = none := by
  rw [node?_of_ne_nil hp, erase, List.find?_filter]
  simp

theorem node?_erase_of_ne (h : q ≠ p) : (t.erase p).node? q = t.node? q := by
  by_cases hq : q = []
  · rw [hq, node?_nil, node?_nil]
  · rw [node?_of_ne_nil hq, node?_of_ne_nil hq, erase, List.find?_filter]
    congr 2
    funext entry
    by_cases heq : entry.1 = q
    · simp [heq, h]
    · simp [heq]

theorem node?_put_self (hp : p ≠ []) : (t.put p n).node? p = some n := by
  have herased := node?_erase_self (t := t) hp
  rw [node?_of_ne_nil hp, Option.map_eq_none_iff] at herased
  rw [node?_of_ne_nil hp, put, List.find?_append, herased]
  simp

theorem node?_put_of_ne (h : q ≠ p) : (t.put p n).node? q = t.node? q := by
  by_cases hq : q = []
  · rw [hq, node?_nil, node?_nil]
  · rw [← node?_erase_of_ne (t := t) h, node?_of_ne_nil hq, node?_of_ne_nil hq, put,
      List.find?_append]
    simp [h.symm]

/-- What was put first is gone. -/
theorem put_put : (t.put p n).put p m = t.put p m := by
  simp only [put, erase, List.filter_append, List.filter_filter]
  simp

/-- One part of a path further. -/
def advance (here : Place) (part : String) : Place :=
  if part = "" ∨ part = "." then here
  else if part = ".." then here.dropLast
  else here ++ [part]

def start (t : FileTree) (path : String) : Place := if path.front = '/' then [] else t.working

/-- The place that a path makes up, whether or not it leads there. -/
def aim (t : FileTree) (path : String) : Place := (parts path).foldl advance (t.start path)

theorem advance_of_same (hsame : part = "" ∨ part = ".") : advance here part = here := if_pos hsame

theorem advance_up : advance here ".." = here.dropLast := rfl

theorem advance_of_name (hsame : ¬ (part = "" ∨ part = ".")) (hup : part ≠ "..") :
    advance here part = here ++ [part] := by
  rw [advance, if_neg hsame, if_neg hup]

/-- A part of a path leads somewhere: it stays, it leads up, or it names something. -/
def Leads (t : FileTree) (here : Place) (part : String) : Prop :=
  (part = "" ∨ part = ".") ∨ part = ".." ∨
    part.utf8ByteSize ≤ maxName ∧ (t.node? (advance here part)).isSome

theorem walk_of_leads (hdir : t.node? here = some .directory) (h : t.Leads here part) :
    t.walk here (part :: rest) = t.walk (advance here part) rest := by
  rw [walk, hdir]
  by_cases hsame : part = "" ∨ part = "."
  · rw [advance_of_same hsame]
    exact if_pos hsame
  · by_cases hup : part = ".."
    · subst hup
      rfl
    · obtain ⟨hsize, hsome⟩ := (h.resolve_left hsame).resolve_left hup
      rw [advance_of_name hsame hup] at hsome ⊢
      simp only [if_neg hsame, if_neg hup, if_neg (Nat.not_lt.2 hsize), if_pos hsome]

/-- A walk goes through directories. It follows the next part, or it ends at a name that stands for
nothing yet. -/
theorem walk_cases (h : t.walk here (part :: rest) = .ok (p, found)) :
    t.node? here = some .directory ∧
      (t.Leads here part ∧ t.walk (advance here part) rest = .ok (p, found) ∨
        p = advance here part ∧ (∀ x ∈ rest, x = "") ∧ t.node? p = none ∧ found = none) := by
  rw [walk] at h
  split at h
  · cases h
  · cases h
  · rename_i hdir
    refine ⟨hdir, ?_⟩
    by_cases hsame : part = "" ∨ part = "."
    · rw [if_pos hsame] at h
      rw [advance_of_same hsame]
      exact .inl ⟨.inl hsame, h⟩
    · rw [if_neg hsame] at h
      by_cases hup : part = ".."
      · rw [if_pos hup] at h
        rw [hup, advance_up]
        exact .inl ⟨.inr (.inl rfl), h⟩
      · rw [if_neg hup] at h
        rw [advance_of_name hsame hup]
        split at h
        · cases h
        · rename_i hsize
          split at h
          · rename_i hsome
            rw [← advance_of_name hsame hup] at hsome
            exact .inl ⟨.inr (.inr ⟨Nat.not_lt.1 hsize, hsome⟩), h⟩
          · rename_i hnone
            split at h
            · rename_i hblank
              cases h
              refine .inr ⟨rfl, ?_, by simpa using hnone, rfl⟩
              simpa using hblank
            · cases h

theorem foldl_advance_of_blank (h : ∀ x ∈ ps, x = "") : ps.foldl advance here = here := by
  induction ps with
  | nil => rfl
  | cons x xs ih =>
    rw [List.foldl_cons, advance_of_same (.inl (h x (by simp)))]
    exact ih fun y hy => h y (by simp [hy])

theorem eq_foldl_of_walk (h : t.walk here ps = .ok (p, found)) :
    p = ps.foldl advance here ∧ found = t.node? p := by
  induction ps generalizing here with
  | nil =>
    cases h
    exact ⟨rfl, rfl⟩
  | cons part rest ih =>
    rw [List.foldl_cons]
    obtain ⟨-, ⟨-, hwalk⟩ | ⟨rfl, hblank, hnone, rfl⟩⟩ := walk_cases h
    · exact ih hwalk
    · exact ⟨(foldl_advance_of_blank hblank).symm, hnone.symm⟩

theorem spell_cons_iff : t.spell here (part :: rest) = some p ↔
    ((part = "" ∨ part = ".") ∨ part = ".." ∨
      t.mayHold here part = true ∧ pathSize (here ++ [part]) ≤ maxPassed) ∧
    t.spell (advance here part) rest = some p := by
  rw [spell]
  by_cases hsame : part = "" ∨ part = "."
  · rw [if_pos hsame, advance_of_same hsame]
    simp [hsame]
  · rw [if_neg hsame]
    by_cases hup : part = ".."
    · rw [if_pos hup, hup, advance_up]
      simp
    · rw [if_neg hup, advance_of_name hsame hup]
      have hiff : (t.mayHold here part && decide (pathSize (here ++ [part]) ≤ maxPassed)) = true ↔
          t.mayHold here part = true ∧ pathSize (here ++ [part]) ≤ maxPassed := by simp
      simp only [hiff, hsame, hup, false_or]
      by_cases hroom : t.mayHold here part = true ∧ pathSize (here ++ [part]) ≤ maxPassed
      · simp [hroom]
      · simp [hroom]

theorem eq_foldl_of_spell (h : t.spell here ps = some p) : p = ps.foldl advance here := by
  induction ps generalizing here with
  | nil =>
    cases h
    rfl
  | cons part rest ih =>
    rw [List.foldl_cons]
    exact ih (spell_cons_iff.1 h).2

theorem start_of_walk (h : t.walk here ps = .ok (p, some n)) :
    t.node? here = some .directory ∨ here = p := by
  cases ps with
  | nil => exact .inr (eq_foldl_of_walk h).1.symm
  | cons part rest => exact .inl (walk_cases h).1

/-- A walk that ends at a node ends in its place as long as the directories stay and there is a node
in that place. -/
theorem walk_mono (hdirs : ∀ q, t.node? q = some .directory → u.node? q = some .directory)
    (hp : u.node? p = some m) (h : t.walk here ps = .ok (p, some n)) :
    u.walk here ps = .ok (p, some m) := by
  induction ps generalizing here with
  | nil =>
    obtain rfl : p = here := (eq_foldl_of_walk h).1
    rw [walk, hp]
  | cons part rest ih =>
    obtain ⟨hdir, ⟨hleads, hwalk⟩ | ⟨-, -, -, hfound⟩⟩ := walk_cases h
    · have hnext : (u.node? (advance here part)).isSome := by
        rcases start_of_walk hwalk with hdir | rfl
        · rw [hdirs _ hdir, Option.isSome_some]
        · rw [hp, Option.isSome_some]
      have hleads : u.Leads here part :=
        hleads.imp_right (Or.imp_right fun ⟨hsize, _⟩ => ⟨hsize, hnext⟩)
      rw [walk_of_leads (hdirs _ hdir) hleads]
      exact ih hwalk
    · cases hfound

/-- The text of a path spells a place that the directories lead to. -/
theorem spell_of_walk (hspell : t.spell here ps = some p) (h : u.walk here ps = .ok (p, some n)) :
    u.spell here ps = some p := by
  induction ps generalizing here with
  | nil => exact hspell
  | cons part rest ih =>
    obtain ⟨hroom, hspell⟩ := spell_cons_iff.1 hspell
    obtain ⟨hdir, ⟨hleads, hwalk⟩ | ⟨-, -, -, hfound⟩⟩ := walk_cases h
    · refine spell_cons_iff.2 ⟨?_, ih hspell hwalk⟩
      rcases hleads with hsame | hup | ⟨hsize, -⟩
      · exact .inl hsame
      · exact .inr (.inl hup)
      · refine hroom.imp_right (Or.imp_right fun ⟨_, hpassed⟩ => ⟨?_, hpassed⟩)
        rw [mayHold, hdir]
        exact decide_eq_true hsize
    · cases hfound

/-- The text of a path can lead somewhere. -/
def Sayable (path : String) : Prop :=
  '\x00' ∉ path.toList ∧ path ≠ "" ∧ path.utf8ByteSize < pathLimit

theorem locate_eq_ok_iff : t.locate path = .ok (p, found) ↔
    Sayable path ∧ t.walk (t.start path) (parts path) = .ok (p, found) := by
  rw [locate, Sayable, start]
  split
  · rename_i hnul
    have hnul : '\x00' ∈ path.toList := by simpa using hnul
    simp [hnul]
  · rename_i hnul
    have hnul : '\x00' ∉ path.toList := by simpa using hnul
    split
    · rename_i hempty
      have hempty : path = "" := by simpa using hempty
      simp [hempty]
    · rename_i hempty
      have hempty : path ≠ "" := by simpa using hempty
      split
      · rename_i hsize
        simp [Nat.not_lt.2 hsize]
      · rename_i hsize
        simp only [hnul, hempty, Nat.not_le.1 hsize, not_false_eq_true, ne_eq, and_self, true_and]

theorem find?_eq_some_iff : t.find? path = some (p, n) ↔ t.locate path = .ok (p, some n) := by
  rw [find?]
  split
  · rename_i h
    rw [h]
    simp
  · rename_i h
    constructor
    · intro hnone
      cases hnone
    · intro hok
      exact absurd hok (h p n)

theorem eq_aim_of_locate (h : t.locate path = .ok (p, found)) :
    p = t.aim path ∧ found = t.node? p :=
  eq_foldl_of_walk (locate_eq_ok_iff.1 h).2

theorem eq_aim_of_find? (h : t.find? path = some (p, n)) : p = t.aim path ∧ t.node? p = some n := by
  obtain ⟨hp, hn⟩ := eq_aim_of_locate (find?_eq_some_iff.1 h)
  exact ⟨hp, hn.symm⟩

theorem start_eq : t.start path = if path.startsWith "/" then [] else t.working := by
  have hfront : path.front = '/' ↔ path.startsWith "/" = true := by
    rw [String.startsWith_string_iff, String.front_eq, String.front?_eq]
    change _ ↔ ['/'] <+: path.toList
    cases path.toList with
    | nil => simp [default]
    | cons c cs => simp [List.cons_prefix_cons, eq_comm]
  rw [start]
  simp only [hfront]

theorem spelled?_eq_some_iff : t.spelled? path = some p ↔
    t.spell (t.start path) (parts path) = some p ∧ p ≠ [] ∧ pathSize p ≤ maxOpened := by
  rw [spelled?, start_eq]
  constructor
  · intro h
    obtain ⟨q, hq, h⟩ := Option.bind_eq_some_iff.1 h
    obtain ⟨_, hguard, h⟩ := Option.bind_eq_some_iff.1 h
    cases h
    change (if (!p.isEmpty && decide (pathSize p ≤ maxOpened)) = true then some () else none) = _
      at hguard
    split at hguard
    · rename_i hroom
      exact ⟨hq, by simpa using hroom⟩
    · cases hguard
  · rintro ⟨hq, hp, hsize⟩
    have hroom : (!p.isEmpty && decide (pathSize p ≤ maxOpened)) = true := by simp [hp, hsize]
    exact Option.bind_eq_some_iff.2 ⟨p, hq, Option.bind_eq_some_iff.2 ⟨(), if_pos hroom, rfl⟩⟩

theorem eq_aim_of_spelled? (h : t.spelled? path = some p) : p = t.aim path :=
  eq_foldl_of_spell (spelled?_eq_some_iff.1 h).1

section Mono
variable (hworking : u.working = t.working)
include hworking

theorem start_congr : u.start path = t.start path := by
  rw [start, start, hworking]

/-- A path leads to the same place as long as the directories stay and there is a node in it. -/
theorem find?_mono (hdirs : ∀ q, t.node? q = some .directory → u.node? q = some .directory)
    (hp : u.node? p = some m) (h : t.find? path = some (p, n)) : u.find? path = some (p, m) := by
  rw [find?_eq_some_iff, locate_eq_ok_iff] at h ⊢
  rw [start_congr hworking]
  exact ⟨h.1, walk_mono hdirs hp h.2⟩

/-- A path that spells a place still does when it leads there. -/
theorem spelled?_of_find? (hspelled : t.spelled? path = some p) (h : u.find? path = some (p, n)) :
    u.spelled? path = some p := by
  rw [find?_eq_some_iff, locate_eq_ok_iff] at h
  rw [spelled?_eq_some_iff] at hspelled ⊢
  rw [start_congr hworking] at h ⊢
  exact ⟨spell_of_walk hspelled.1 h.2, hspelled.2⟩

end Mono

theorem has_iff : t.has path = true ↔ ∃ p n, t.find? path = some (p, n) := by
  rw [has, Option.isSome_iff_exists]
  constructor
  · rintro ⟨⟨p, n⟩, h⟩
    exact ⟨p, n, h⟩
  · rintro ⟨p, n, h⟩
    exact ⟨(p, n), h⟩

/-- Nothing is found where nothing is. -/
theorem has_eq_false_of_node? (h : t.node? (t.aim path) = none) : t.has path = false := by
  rw [Bool.eq_false_iff, ne_eq, has_iff]
  rintro ⟨p, n, hfind⟩
  obtain ⟨rfl, hn⟩ := eq_aim_of_find? hfind
  rw [h] at hn
  cases hn

end MailSnapshot.FileTree
