import MailSnapshot.Proofs.Json.Unambiguous
import MailSnapshot.Text.Blank

/-! The layout of a written value, as the text alone shows it: what stands in quotes, what stands
outside them, and which keys belong to one object. -/

namespace MailSnapshot.Json
variable {v w : Json} {items : List Json} {entries : List (String × Json)} {k : String} {c : Char}
  {s r : List Char} {opened : List (List String)} {keys : List String}

theorem length_lt_of_withFirst {x : Option (List Char × List Char)} {t : List Char} {n : Nat}
    (hx : ∀ {t}, x = some (t, r) → r.length < n) (h : withFirst c x = some (t, r)) :
    r.length < n := by
  cases x with
  | none => cases h
  | some p =>
    cases h
    exact hx rfl

theorem length_lt_of_readChars {t : List Char} (h : readChars s = some (t, r)) :
    r.length < s.length := by
  fun_induction readChars s generalizing t with
  | case2 =>
    cases h
    simp
  | case6 _ _ _ _ _ _ _ _ _ _ _ _ _ _ _ _ _ ih =>
    have := length_lt_of_withFirst ih h
    simp only [List.length_cons]
    omega
  | case9 _ _ _ _ _ _ _ _ _ _ ih =>
    have := length_lt_of_withFirst ih h
    simp only [List.length_cons]
    omega
  | case11 _ _ _ _ _ _ ih =>
    have := length_lt_of_withFirst ih h
    simp only [List.length_cons]
    omega
  | case14 _ _ _ _ _ ih => exact Nat.lt_succ_of_lt (length_lt_of_withFirst ih h)
  | _ => cases h

/-- A text in quotes, or a character outside of them. -/
inductive Mark where
  | quoted (s : String)
  | bare (c : Char)
  deriving DecidableEq

/-- A text cut at its quotes. A quote that none follows stands for itself. -/
def marks : List Char → List Mark
  | [] => []
  | c :: s =>
    if c = '"' then
      match _h : readChars s with
      | some (t, r) => .quoted (String.ofList t) :: marks r
      | none => .bare c :: marks s
    else .bare c :: marks s
termination_by s => s.length
decreasing_by
  · exact Nat.lt_succ_of_lt (length_lt_of_readChars ‹_›)
  · exact Nat.lt_succ_self _
  · exact Nat.lt_succ_self _

/-- Adds a key to the innermost of the objects that are open. -/
def addKey (k : String) : List (List String) → List (List String)
  | [] => []
  | keys :: outer => (keys ++ [k]) :: outer

/-- The keys of each object, in the order in which the objects end, after some have been opened.
What stands in quotes is a key where a colon follows. -/
def keysFrom : List (List String) → List Mark → List (List String)
  | _, [] => []
  | opened, .quoted k :: ms =>
    keysFrom (if ms.head? = some (.bare ':') then addKey k opened else opened) ms
  | opened, .bare c :: ms =>
    if c = '{' then keysFrom ([] :: opened) ms
    else if c = '}' then opened.take 1 ++ keysFrom (opened.drop 1) ms
    else keysFrom opened ms

/-- The keys of each object in a text. -/
def writtenKeys (s : String) : List (List String) := keysFrom [] (marks s.toList)

mutual
/-- The keys of each object in a value, inner objects before outer ones. -/
def objectKeys : Json → List (List String)
  | .arr items => objectKeysItems items
  | .obj entries => objectKeysEntries entries ++ [entries.map Prod.fst]
  | .null | .bool _ | .int _ | .double _ | .str _ => []

def objectKeysItems : List Json → List (List String)
  | [] => []
  | v :: vs => objectKeys v ++ objectKeysItems vs

def objectKeysEntries : List (String × Json) → List (List String)
  | [] => []
  | (_, v) :: es => objectKeys v ++ objectKeysEntries es
end

theorem objectKeysItems_eq (items : List Json) :
    objectKeysItems items = items.flatMap objectKeys := by
  induction items with
  | nil => rfl
  | cons v vs ih => rw [objectKeysItems, ih, List.flatMap_cons]

theorem objectKeysEntries_eq (entries : List (String × Json)) :
    objectKeysEntries entries = entries.flatMap fun e => e.2.objectKeys := by
  induction entries with
  | nil => rfl
  | cons e es ih => rw [objectKeysEntries, ih, List.flatMap_cons]

theorem mem_objectKeys_iff :
    keys ∈ v.objectKeys ↔ ∃ entries, Within (.obj entries) v ∧ entries.map Prod.fst = keys := by
  induction v using induction with
  | null | bool | int | double | str =>
    constructor
    · intro h
      cases h
    · rintro ⟨_, h, -⟩
      cases h
  | arr items ih =>
    rw [objectKeys, objectKeysItems_eq, List.mem_flatMap]
    constructor
    · rintro ⟨v, hv, h⟩
      obtain ⟨entries, hentries, heq⟩ := (ih v hv).1 h
      exact ⟨entries, .item hv hentries, heq⟩
    · rintro ⟨entries, hentries, heq⟩
      cases hentries with
      | item hv hentries => exact ⟨_, hv, (ih _ hv).2 ⟨entries, hentries, heq⟩⟩
  | obj es ih =>
    rw [objectKeys, objectKeysEntries_eq, List.mem_append, List.mem_flatMap, List.mem_singleton]
    constructor
    · rintro (⟨e, he, h⟩ | rfl)
      · obtain ⟨entries, hentries, heq⟩ := (ih e he).1 h
        exact ⟨entries, .entry he hentries, heq⟩
      · exact ⟨es, .self, rfl⟩
    · rintro ⟨entries, hentries, heq⟩
      cases hentries with
      | self => exact .inr heq.symm
      | entry he hentries => exact .inl ⟨_, he, (ih _ he).2 ⟨entries, hentries, heq⟩⟩

theorem marks_quoted (k : String) (r : List Char) :
    marks (quoted k ++ r) = .quoted k :: marks r := by
  obtain ⟨s, hs, hread⟩ := readChars_quoted k r
  rw [hs, marks, if_pos rfl]
  split
  · rename_i h
    rw [hread] at h
    cases h
    rw [String.ofList_toList]
  · rename_i h
    rw [hread] at h
    cases h

theorem marks_cons (hc : c ≠ '"') (s : List Char) : marks (c :: s) = .bare c :: marks s := by
  rw [marks, if_neg hc]

theorem marks_append (hs : ∀ c ∈ s, c ≠ '"') (r : List Char) :
    marks (s ++ r) = s.map .bare ++ marks r := by
  induction s with
  | nil => rfl
  | cons c s ih =>
    obtain ⟨hc, hs⟩ := List.forall_mem_cons.1 hs
    rw [List.cons_append, marks_cons hc, ih hs]
    rfl

theorem head?_marks (h : (marks r).head? = some (.bare ':')) : r.head? = some ':' := by
  cases r with
  | nil =>
    rw [marks] at h
    cases h
  | cons c r =>
    rw [marks] at h
    split at h
    · split at h
      · cases h
      · simp_all
    · cases h
      rfl

/-- A character that means nothing for the layout. -/
def Plain (c : Char) : Prop := c ≠ '"' ∧ c ≠ '{' ∧ c ≠ '}' ∧ Text.isBlank c = false

instance : Decidable (Plain c) := inferInstanceAs (Decidable (_ ∧ _))

theorem plain_of_isDigit (h : c.isDigit = true) : Plain c := by
  have hblank : Text.isBlank c = false := by
    simp only [Char.isDigit, Bool.and_eq_true, decide_eq_true_eq] at h
    have hlow : 48 ≤ c.toNat := h.1
    have hhigh : c.toNat ≤ 57 := h.2
    rw [← Bool.not_eq_true]
    intro hin
    simp [Text.isBlank, Text.Ranges.contains, Text.blankRanges] at hin
    omega
  refine ⟨?_, ?_, ?_, hblank⟩ <;>
  · rintro rfl
    cases h

theorem plain_chars {t : NumberText} (ht : t.Proper) : ∀ c ∈ t.chars, Plain c := by
  have hsign : ∀ c ∈ t.signChars, Plain c := by
    unfold NumberText.signChars
    cases t.negative <;> simp [Plain, Text.isBlank, Text.Ranges.contains, Text.blankRanges]
  have hpoint : ∀ c ∈ NumberText.pointChars t.fraction, Plain c := by
    have hfraction := ht.fraction_isDigit
    cases hf : t.fraction with
    | nil => simp [NumberText.pointChars]
    | cons d ds =>
      rw [hf] at hfraction
      refine List.forall_mem_cons.2 ⟨by decide, ?_⟩
      intro c hc
      exact plain_of_isDigit (hfraction c hc)
  have hexponent : ∀ c ∈ NumberText.exponentChars t.exponent, Plain c := by
    cases t.exponent with
    | none => simp [NumberText.exponentChars]
    | some e =>
      refine List.forall_mem_cons.2 ⟨by decide, List.forall_mem_cons.2 ⟨?_, ?_⟩⟩
      · split <;> decide
      · intro c hc
        exact plain_of_isDigit (isDigit_toDigits hc)
  intro c hc
  simp only [NumberText.chars, List.mem_append] at hc
  rcases hc with hc | hc | hc | hc
  · exact hsign c hc
  · exact plain_of_isDigit (ht.whole_isDigit c hc)
  · exact hpoint c hc
  · exact hexponent c hc

theorem plain_of_all {s : List Char} (h : (s.all fun c => decide (Plain c)) = true) :
    ∀ c ∈ s, Plain c :=
  fun c hc => of_decide_eq_true (List.all_eq_true.1 h c hc)

/-- Only quotes and brackets have a meaning for the layout. -/
theorem plain_write (h : v.form ≠ .str ∧ v.form ≠ .arr ∧ v.form ≠ .obj) :
    ∀ c ∈ write v, Plain c := by
  have hnumber (hv : v.form = .number) : ∀ c ∈ write v, Plain c := by
    obtain ⟨t, ht, hchars⟩ := exists_chars_of_number hv
    rw [hchars]
    exact plain_chars ht
  cases v with
  | null => exact plain_of_all (by decide)
  | bool b => exact plain_of_all (by cases b <;> decide)
  | int | double => exact hnumber rfl
  | str => exact absurd rfl h.1
  | arr => exact absurd rfl h.2.1
  | obj => exact absurd rfl h.2.2

section Bare
variable {t : List Char}

/-- A part of a text puts nothing blank outside of quotes. -/
def AddsNoBlank (s : List Char) : Prop :=
  ∀ c r, .bare c ∈ marks (s ++ r) → Text.isBlank c = false ∨ .bare c ∈ marks r

theorem AddsNoBlank.append (hs : AddsNoBlank s) (ht : AddsNoBlank t) : AddsNoBlank (s ++ t) := by
  intro c r h
  rw [List.append_assoc] at h
  rcases hs c (t ++ r) h with hc | h
  · exact .inl hc
  · exact ht c r h

theorem addsNoBlank_quoted (k : String) : AddsNoBlank (quoted k) := by
  intro c r h
  rw [marks_quoted] at h
  exact .inr (by simpa using h)

theorem addsNoBlank_of_bare (hs : ∀ c ∈ s, c ≠ '"' ∧ Text.isBlank c = false) :
    AddsNoBlank s := by
  intro c r h
  rw [marks_append fun c hc => (hs c hc).1, List.mem_append, List.mem_map] at h
  rcases h with ⟨_, hc, ⟨⟩⟩ | h
  · exact .inl (hs c hc).2
  · exact .inr h

theorem addsNoBlank_single (hc : c ≠ '"' ∧ Text.isBlank c = false) : AddsNoBlank [c] :=
  addsNoBlank_of_bare (List.forall_mem_singleton.2 hc)

theorem AddsNoBlank.cons (hc : c ≠ '"' ∧ Text.isBlank c = false) (hs : AddsNoBlank s) :
    AddsNoBlank (c :: s) :=
  (addsNoBlank_single hc).append hs

theorem addsNoBlank_intercalate {xs : List (List Char)} (h : ∀ x ∈ xs, AddsNoBlank x) :
    AddsNoBlank ([','].intercalate xs) := by
  induction xs with
  | nil => exact addsNoBlank_of_bare (by simp)
  | cons x xs ih =>
    obtain ⟨hx, hxs⟩ := List.forall_mem_cons.1 h
    cases xs with
    | nil => simpa using hx
    | cons y ys =>
      rw [List.intercalate_cons_cons]
      have hcomma : AddsNoBlank [','] := addsNoBlank_single (by decide)
      exact (hx.append hcomma).append (ih hxs)

/-- Nothing blank stands outside of the quotes of a written value. -/
theorem addsNoBlank_write (v : Json) : AddsNoBlank (write v) := by
  induction v using induction with
  | null | bool | int | double =>
    apply addsNoBlank_of_bare
    intro c hc
    obtain ⟨hquote, -, -, hblank⟩ := plain_write (by simp [form]) c hc
    exact ⟨hquote, hblank⟩
  | str s => exact addsNoBlank_quoted s
  | arr items ih =>
    have hitems := addsNoBlank_intercalate (List.forall_mem_map.2 ih)
    have hend : AddsNoBlank [']'] := addsNoBlank_single (by decide)
    rw [write_arr]
    exact (hitems.cons (by decide)).append hend
  | obj entries ih =>
    have hentry : ∀ e ∈ entries, AddsNoBlank (writeEntry e) := by
      intro e he
      exact (addsNoBlank_quoted e.1).append ((ih e he).cons (by decide))
    have hentries := addsNoBlank_intercalate (List.forall_mem_map.2 hentry)
    have hend : AddsNoBlank ['}'] := addsNoBlank_single (by decide)
    rw [write_obj]
    exact (hentries.cons (by decide)).append hend

theorem isBlank_of_bare (h : .bare c ∈ marks v.text.toList) : Text.isBlank c = false := by
  rw [text, String.toList_ofList, ← List.append_nil (write v)] at h
  rcases addsNoBlank_write v c [] h with hc | h
  · exact hc
  · rw [marks] at h
    cases h

end Bare

section Keys

theorem keysFrom_bare (hcurly : c ≠ '{') (hend : c ≠ '}') (ms : List Mark) :
    keysFrom opened (.bare c :: ms) = keysFrom opened ms := by
  rw [keysFrom, if_neg hcurly, if_neg hend]

/-- A part of a text that is no key shows the keys of some objects and leaves the others alone. -/
def AddsKeys (s : List Char) (found : List (List String)) : Prop :=
  ∀ opened r, r.head? ≠ some ':' →
    keysFrom opened (marks (s ++ r)) = found ++ keysFrom opened (marks r)

theorem addsKeys_of_plain (hs : ∀ c ∈ s, Plain c) : AddsKeys s [] := by
  intro opened r hr
  induction s with
  | nil => rfl
  | cons c s ih =>
    obtain ⟨⟨hquote, hopen, hclose, -⟩, hs⟩ := List.forall_mem_cons.1 hs
    rw [List.cons_append, marks_cons hquote, keysFrom_bare hopen hclose, ih hs]

theorem addsKeys_quoted (k : String) : AddsKeys (quoted k) [] := by
  intro opened r hr
  rw [marks_quoted, keysFrom, if_neg fun h => hr (head?_marks h)]
  rfl

theorem head?_afterPart (hr : r.head? ≠ some ':') (xs : List (List Char)) :
    (afterPart r xs).head? ≠ some ':' := by
  cases xs with
  | nil => exact hr
  | cons => simp [afterPart]

theorem keysFrom_afterPart (r : List Char) (xs : List (List Char)) :
    keysFrom opened (marks (afterPart r xs)) =
      keysFrom opened (marks ([','].intercalate xs ++ r)) := by
  cases xs with
  | nil => rfl
  | cons x xs => rw [afterPart, marks_cons (by decide), keysFrom_bare (by decide) (by decide)]

theorem addsKeys_items (h : ∀ v ∈ items, AddsKeys (write v) v.objectKeys) :
    AddsKeys ([','].intercalate (items.map write)) (objectKeysItems items) := by
  intro opened r hr
  induction items with
  | nil => rfl
  | cons v vs ih =>
    obtain ⟨hv, hvs⟩ := List.forall_mem_cons.1 h
    rw [List.map_cons, intercalate_cons_append, hv _ _ (head?_afterPart hr _), keysFrom_afterPart,
      ih hvs, objectKeysItems, List.append_assoc]

/-- An entry shows its key to the object in which it stands. -/
theorem keysFrom_writeEntry {e : String × Json} (h : AddsKeys (write e.2) e.2.objectKeys)
    (hr : r.head? ≠ some ':') : keysFrom opened (marks (writeEntry e ++ r)) =
      e.2.objectKeys ++ keysFrom (addKey e.1 opened) (marks r) := by
  rw [writeEntry, List.append_assoc, marks_quoted, List.cons_append, marks_cons (by decide),
    keysFrom, List.head?_cons, if_pos rfl, keysFrom_bare (by decide) (by decide), h _ _ hr]

theorem keysFrom_entries (h : ∀ e ∈ entries, AddsKeys (write e.2) e.2.objectKeys)
    (keys : List String) (hr : r.head? ≠ some ':') :
    keysFrom (keys :: opened) (marks ([','].intercalate (entries.map writeEntry) ++ r)) =
      objectKeysEntries entries ++
        keysFrom ((keys ++ entries.map Prod.fst) :: opened) (marks r) := by
  induction entries generalizing keys with
  | nil => simp [objectKeysEntries]
  | cons e es ih =>
    obtain ⟨he, hes⟩ := List.forall_mem_cons.1 h
    rw [List.map_cons, intercalate_cons_append, keysFrom_writeEntry he (head?_afterPart hr _),
      keysFrom_afterPart, addKey, ih hes, objectKeysEntries]
    simp

theorem addsKeys_write (v : Json) : AddsKeys (write v) v.objectKeys := by
  induction v using induction with
  | null | bool | int | double =>
    exact addsKeys_of_plain (plain_write (by simp [form]))
  | str s => exact addsKeys_quoted s
  | arr items ih =>
    intro opened r hr
    rw [write_arr, List.cons_append, List.cons_append, marks_cons (by decide),
      keysFrom_bare (by decide) (by decide), List.append_assoc,
      addsKeys_items ih _ _ (by simp), List.singleton_append, marks_cons (by decide),
      keysFrom_bare (by decide) (by decide), objectKeys]
  | obj entries ih =>
    intro opened r hr
    rw [write_obj, List.cons_append, List.cons_append, marks_cons (by decide), keysFrom,
      if_pos rfl, List.append_assoc, keysFrom_entries ih _ (by simp), List.singleton_append,
      marks_cons (by decide), keysFrom, if_neg (by decide), if_pos rfl, objectKeys]
    simp

/-- The text of a value shows the keys of each object in the order in which they stand. -/
theorem writtenKeys_text (v : Json) : writtenKeys v.text = v.objectKeys := by
  have hkeys := addsKeys_write v [] [] (by simp)
  rw [List.append_nil, marks, keysFrom, List.append_nil] at hkeys
  rw [writtenKeys, text, String.toList_ofList, hkeys]

end Keys

end MailSnapshot.Json
