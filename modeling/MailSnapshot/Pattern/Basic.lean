/-! Patterns of characters: the texts a pattern describes, and what a search for it leaves of a
text, in the order in which the possibilities are tried. -/

namespace MailSnapshot

abbrev CharClass := Char → Bool

inductive Pattern where
  | empty
  | one (k : CharClass)
  | seq (p q : Pattern)
  | alt (p q : Pattern)
  /-- Any number of characters of a class, many before few. -/
  | run (k : CharClass)
  /-- Any number of characters of a class, few before many. -/
  | shortRun (k : CharClass)

namespace Pattern

/-- The texts a pattern describes. -/
inductive Matches : Pattern → List Char → Prop
  | empty : Matches .empty []
  | one {k : CharClass} {c : Char} (h : k c = true) : Matches (.one k) [c]
  | seq {p q : Pattern} {s t : List Char} (hp : Matches p s) (hq : Matches q t) :
      Matches (.seq p q) (s ++ t)
  | left {p q : Pattern} {s : List Char} (h : Matches p s) : Matches (.alt p q) s
  | right {p q : Pattern} {s : List Char} (h : Matches q s) : Matches (.alt p q) s
  | run {k : CharClass} {s : List Char} (h : ∀ c ∈ s, k c = true) : Matches (.run k) s
  | shortRun {k : CharClass} {s : List Char} (h : ∀ c ∈ s, k c = true) : Matches (.shortRun k) s

variable {p q : Pattern} {k : CharClass} {c : Char} {s r m : List Char}

/-- The text after each possible run of a class at its start, the shortest run first. -/
def afterRuns (k : CharClass) : List Char → List (List Char)
  | [] => [[]]
  | c :: s => (c :: s) :: if k c then afterRuns k s else []

/-- What is left of a text after each way to match at its start, the preferred way first. -/
def rests : Pattern → List Char → List (List Char)
  | .empty, s => [s]
  | .one _, [] => []
  | .one k, c :: s => if k c then [s] else []
  | .seq p q, s => (p.rests s).flatMap q.rests
  | .alt p q, s => p.rests s ++ q.rests s
  | .run k, s => (afterRuns k s).reverse
  | .shortRun k, s => afterRuns k s

/-- How many characters the preferred match at the start of a text takes. -/
def matchLength? (p : Pattern) (s : List Char) : Option Nat :=
  (p.rests s).head?.map (s.length - ·.length)

theorem mem_afterRuns_iff : r ∈ afterRuns k s ↔ ∃ m, (∀ c ∈ m, k c = true) ∧ s = m ++ r := by
  induction s with
  | nil =>
    simp only [afterRuns, List.mem_singleton, List.nil_eq, List.append_eq_nil_iff]
    exact ⟨fun h => ⟨[], by simp, rfl, h⟩, fun ⟨_, _, _, h⟩ => h⟩
  | cons c s ih =>
    rw [afterRuns, List.mem_cons]
    constructor
    · rintro (rfl | h)
      · exact ⟨[], by simp, rfl⟩
      · split at h
        · obtain ⟨m, hm, rfl⟩ := ih.1 h
          exact ⟨c :: m, by simp_all, rfl⟩
        · simp at h
    · rintro ⟨m, hm, hs⟩
      cases m with
      | nil => exact Or.inl hs.symm
      | cons d m =>
        obtain ⟨rfl, rfl⟩ := List.cons.inj hs
        rw [if_pos (hm c (by simp))]
        exact Or.inr (ih.2 ⟨m, fun e he => hm e (by simp [he]), rfl⟩)

/-- The search finds exactly the matches at the start of a text. -/
theorem mem_rests_iff : r ∈ p.rests s ↔ ∃ m, p.Matches m ∧ s = m ++ r := by
  induction p generalizing s r with
  | empty =>
    constructor
    · intro h
      exact ⟨[], .empty, (List.mem_singleton.1 h).symm⟩
    · rintro ⟨m, hm, rfl⟩
      cases hm
      simp [rests]
  | one k =>
    constructor
    · intro h
      match s with
      | [] => simp [rests] at h
      | c :: s =>
        rw [rests] at h
        split at h
        · rw [List.mem_singleton.1 h]
          exact ⟨[c], .one ‹_›, rfl⟩
        · simp at h
    · rintro ⟨m, hm, rfl⟩
      cases hm with
      | one h => simp [rests, h]
  | seq p q hp hq =>
    rw [rests, List.mem_flatMap]
    constructor
    · rintro ⟨t, ht, hr⟩
      obtain ⟨m, hm, rfl⟩ := hp.1 ht
      obtain ⟨n, hn, rfl⟩ := hq.1 hr
      exact ⟨m ++ n, .seq hm hn, by simp⟩
    · rintro ⟨m, hm, rfl⟩
      cases hm with
      | @seq _ _ m n hm hn =>
        exact ⟨n ++ r, hp.2 ⟨m, hm, by simp⟩, hq.2 ⟨n, hn, rfl⟩⟩
  | alt p q hp hq =>
    rw [rests, List.mem_append, hp, hq]
    constructor
    · rintro (⟨m, hm, rfl⟩ | ⟨m, hm, rfl⟩)
      · exact ⟨m, .left hm, rfl⟩
      · exact ⟨m, .right hm, rfl⟩
    · rintro ⟨m, hm, rfl⟩
      cases hm with
      | left h => exact Or.inl ⟨m, h, rfl⟩
      | right h => exact Or.inr ⟨m, h, rfl⟩
  | run k =>
    rw [rests, List.mem_reverse, mem_afterRuns_iff]
    exact ⟨fun ⟨m, hm, h⟩ => ⟨m, .run hm, h⟩, fun ⟨m, hm, h⟩ => by cases hm with
      | run hm => exact ⟨m, hm, h⟩⟩
  | shortRun k =>
    rw [rests, mem_afterRuns_iff]
    exact ⟨fun ⟨m, hm, h⟩ => ⟨m, .shortRun hm, h⟩, fun ⟨m, hm, h⟩ => by cases hm with
      | shortRun hm => exact ⟨m, hm, h⟩⟩

end Pattern
end MailSnapshot
