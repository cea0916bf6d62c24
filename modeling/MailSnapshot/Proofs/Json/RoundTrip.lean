import MailSnapshot.Proofs.Json.Printed
import MailSnapshot.Proofs.Json.Readable

/-! Reading back the text of a value. A value that a reader may return is read back as it is, with
the doubles as their text is read. -/

namespace MailSnapshot.Json
variable {v : Json} {items : List Json} {entries : List (String × Json)} {bound d n : Nat}
  {c : Char} {s r : List Char}

theorem unit_of_lt : ∀ n < 32, unit? '0' '0' (hexDigit (n / 16)) (hexDigit (n % 16)) = some n := by
  decide

theorem readChars_escaped (c : Char) (s : List Char) :
    readChars (escaped c ++ s) = withFirst c (readChars s) := by
  unfold escaped
  split
  · subst_vars
    rfl
  split
  · subst_vars
    rfl
  split
  · subst_vars
    rfl
  split
  · subst_vars
    rfl
  split
  · subst_vars
    rfl
  split
  · subst_vars
    rfl
  split
  · subst_vars
    rfl
  split
  · rename_i hlow
    have hunit := unit_of_lt c.toNat hlow
    have hhigh : isHighSurrogate c.toNat = false := by
      simp only [isHighSurrogate, decide_eq_false_iff_not]
      omega
    have hlowSurrogate : isLowSurrogate c.toNat = false := by
      simp only [isLowSurrogate, decide_eq_false_iff_not]
      omega
    simp only [List.cons_append, List.nil_append]
    rw [readChars]
    simp [hunit, hhigh, hlowSurrogate, Char.ofNat_toNat]
  · rename_i hquote hslash _ _ _ _ _ hlow
    rw [List.singleton_append, readChars.eq_def]
    simp [hquote, hslash, hlow]

theorem readChars_flatMap (s r : List Char) :
    readChars (s.flatMap escaped ++ '"' :: r) = some (s, r) := by
  induction s with
  | nil =>
    change readChars ('"' :: r) = _
    rw [readChars.eq_def]
    simp
  | cons c s ih =>
    rw [List.flatMap_cons, List.append_assoc, readChars_escaped, ih]
    rfl

theorem readChars_quoted (text : String) (r : List Char) :
    ∃ s, quoted text ++ r = '"' :: s ∧ readChars s = some (text.toList, r) := by
  refine ⟨text.toList.flatMap escaped ++ '"' :: r, ?_, readChars_flatMap ..⟩
  simp [quoted]

section Items
variable {α β : Type} {item : List Char → Option (α × List Char)} {shown : β → List Char}
  {back : β → α} {close : Char} {xs : List β}

/-- A text that is neither space nor the end of a list or an object. -/
def StartsValue (s : List Char) : Prop :=
  ∃ c t, s = c :: t ∧ isSpace c = false ∧ c ≠ ']' ∧ c ≠ '}'

theorem skipSpace_of_not {c : Char} {s : List Char} (h : isSpace c = false) :
    skipSpace (c :: s) = c :: s := by
  rw [skipSpace, List.dropWhile_cons, h]
  rfl

/-- Items that can each be read back are read back as a list. -/
theorem readItems_intercalate (hclose : close = ']' ∨ close = '}') (hne : xs ≠ [])
    (hitem : ∀ x ∈ xs, ∀ r, EndsNumber r → item (shown x ++ r) = some (back x, r))
    (hn : xs.length ≤ n) :
    readItems item close n ([','].intercalate (xs.map shown) ++ close :: r) =
      some (xs.map back, r) := by
  have hends : EndsNumber (close :: r) := by
    rcases hclose with rfl | rfl <;> simp [EndsNumber]
  have hspace : isSpace close = false := by
    rcases hclose with rfl | rfl <;> rfl
  have hcomma : close ≠ ',' := by
    rcases hclose with rfl | rfl <;> decide
  induction xs generalizing n with
  | nil => exact absurd rfl hne
  | cons x xs ih =>
    cases n with
    | zero => simp at hn
    | succ n =>
      rw [readItems]
      cases xs with
      | nil =>
        rw [List.map_singleton, List.intercalate_singleton, hitem x (by simp) _ hends]
        simp [skipSpace_of_not hspace, hcomma]
      | cons y ys =>
        have hrest := ih (by simp) (fun z hz => hitem z (by simp [hz])) (by simpa using hn)
        have hcommas :
            EndsNumber (',' :: ([','].intercalate ((y :: ys).map shown) ++ close :: r)) := by
          simp [EndsNumber]
        have hfirst := hitem x (by simp) _ hcommas
        have htext : [','].intercalate ((x :: y :: ys).map shown) ++ close :: r =
            shown x ++ ',' :: ([','].intercalate ((y :: ys).map shown) ++ close :: r) := by
          rw [List.map_cons, List.map_cons, List.intercalate_cons_cons]
          simp
        rw [htext, hfirst]
        dsimp only
        rw [skipSpace_of_not rfl]
        dsimp only
        rw [if_pos rfl, hrest]
        rfl

/-- A list or an object is read back from its items. -/
theorem readBlock_intercalate (hclose : close = ']' ∨ close = '}')
    (hstart : ∀ x ∈ xs, ∀ r, StartsValue (shown x ++ r))
    (hitem : ∀ x ∈ xs, ∀ r, EndsNumber r → item (shown x ++ r) = some (back x, r))
    (hbound : xs.length ≤ bound) :
    readBlock item close bound ([','].intercalate (xs.map shown) ++ close :: r) =
      some (xs.map back, r) := by
  cases xs with
  | nil =>
    have hspace : isSpace close = false := by
      rcases hclose with rfl | rfl <;> rfl
    simp [readBlock, skipSpace_of_not hspace]
  | cons x xs =>
    have hitems := readItems_intercalate (r := r) hclose (by simp) hitem hbound
    obtain ⟨c, t, htext, hspace, hne⟩ : StartsValue ([','].intercalate ((x :: xs).map shown) ++
        close :: r) := by
      cases xs with
      | nil => simpa using hstart x (by simp) (close :: r)
      | cons y ys =>
        rw [List.map_cons, List.map_cons, List.intercalate_cons_cons, List.append_assoc,
          List.append_assoc]
        exact hstart x (by simp) _
    rw [htext] at hitems ⊢
    have hc : c ≠ close := by
      rcases hclose with rfl | rfl
      · exact hne.1
      · exact hne.2
    rw [readBlock, skipSpace_of_not hspace]
    dsimp only
    rw [if_neg hc]
    exact hitems

end Items

theorem writeItems_eq (items : List Json) : writeItems items = items.map write := by
  induction items with
  | nil => rfl
  | cons v vs ih => rw [writeItems, ih, List.map_cons]

def writeEntry (e : String × Json) : List Char := quoted e.1 ++ ':' :: write e.2

theorem writeEntries_eq (entries : List (String × Json)) :
    writeEntries entries = entries.map writeEntry := by
  induction entries with
  | nil => rfl
  | cons e es ih => rw [writeEntries, ih, List.map_cons, writeEntry]

theorem write_arr (items : List Json) :
    write (.arr items) = '[' :: [','].intercalate (items.map write) ++ [']'] := by
  rw [write, writeItems_eq]

theorem write_obj (entries : List (String × Json)) :
    write (.obj entries) = '{' :: [','].intercalate (entries.map writeEntry) ++ ['}'] := by
  rw [write, writeEntries_eq]

mutual
/-- A value with its doubles as they are read back from their text. -/
def reread : Json → Json
  | .arr items => .arr (rereadItems items)
  | .obj entries => .obj (rereadEntries entries)
  | .double x => .double (rereadDouble x)
  | .null => .null
  | .bool b => .bool b
  | .int n => .int n
  | .str s => .str s

def rereadItems : List Json → List Json
  | [] => []
  | v :: vs => reread v :: rereadItems vs

def rereadEntries : List (String × Json) → List (String × Json)
  | [] => []
  | (k, v) :: es => (k, reread v) :: rereadEntries es
end

theorem rereadItems_eq (items : List Json) : rereadItems items = items.map reread := by
  induction items with
  | nil => rfl
  | cons v vs ih => rw [rereadItems, ih, List.map_cons]

theorem rereadEntries_eq (entries : List (String × Json)) :
    rereadEntries entries = entries.map fun e => (e.1, e.2.reread) := by
  induction entries with
  | nil => rfl
  | cons e es ih => rw [rereadEntries, ih, List.map_cons]

/-- What is inside a value that was read back is so read from something inside the value. -/
theorem exists_within_of_reread {w : Json} (h : Within w v.reread) :
    ∃ u, Within u v ∧ w = u.reread := by
  induction v using induction with
  | null | bool | int | double | str =>
    cases h
    exact ⟨_, .self, rfl⟩
  | arr items ih =>
    rw [reread, rereadItems_eq] at h
    cases h with
    | self => exact ⟨.arr items, .self, by rw [reread, rereadItems_eq]⟩
    | item hv h =>
      obtain ⟨x, hx, rfl⟩ := List.mem_map.1 hv
      obtain ⟨u, hu, rfl⟩ := ih x hx h
      exact ⟨u, .item hx hu, rfl⟩
  | obj entries ih =>
    rw [reread, rereadEntries_eq] at h
    cases h with
    | self => exact ⟨.obj entries, .self, by rw [reread, rereadEntries_eq]⟩
    | entry he h =>
      obtain ⟨f, hf, rfl⟩ := List.mem_map.1 he
      obtain ⟨u, hu, rfl⟩ := ih f hf h
      exact ⟨u, .entry hf hu, rfl⟩

/-- A text that starts as a number does. -/
def StartsNumber (s : List Char) : Prop := ∃ c t, s = c :: t ∧ (c = '-' ∨ c.isDigit = true)

theorem startsNumber_chars {t : NumberText} (h : t.Proper) (r : List Char) :
    StartsNumber (t.chars ++ r) := by
  rw [NumberText.chars, NumberText.signChars]
  cases hwhole : t.whole with
  | nil => exact absurd hwhole h.whole_ne_nil
  | cons c whole =>
    have hc : c.isDigit = true := h.whole_isDigit c (by simp [hwhole])
    cases t.negative with
    | true => exact ⟨'-', _, rfl, .inl rfl⟩
    | false => exact ⟨c, _, rfl, .inr hc⟩

theorem ne_of_number (hc : c = '-' ∨ c.isDigit = true) {b : Char} (hb : b.isDigit = false)
    (hne : b ≠ '-') : c ≠ b := by
  rintro rfl
  rcases hc with rfl | hc
  · exact hne rfl
  · rw [hb] at hc
    cases hc

theorem isSpace_of_number (hc : c = '-' ∨ c.isDigit = true) : isSpace c = false := by
  simp [isSpace, ne_of_number hc]

theorem StartsNumber.startsValue (h : StartsNumber s) : StartsValue s := by
  obtain ⟨c, t, rfl, hc⟩ := h
  exact ⟨c, t, rfl, isSpace_of_number hc, ne_of_number hc rfl (by decide),
    ne_of_number hc rfl (by decide)⟩

theorem readValue_number (h : StartsNumber s) : readValue bound d s = readNumber s := by
  obtain ⟨c, t, rfl, hc⟩ := h
  unfold readValue
  rw [skipSpace_of_not (isSpace_of_number hc)]
  split
  case h_7 => rfl
  all_goals simp_all

theorem startsNumber_int (n : Int) (r : List Char) :
    StartsNumber (scalarText (.int n) ++ r) := by
  rw [scalarText, NumberText.chars_ofInt]
  exact startsNumber_chars (NumberText.proper_ofInt n) r

theorem startsNumber_double (x : Binary64) (r : List Char) :
    StartsNumber (scalarText (.double x) ++ r) := by
  rw [scalarText, NumberText.chars_ofDecimal]
  exact startsNumber_chars (NumberText.proper_ofDecimal _) r

theorem startsValue_write (v : Json) (r : List Char) : StartsValue (write v ++ r) := by
  cases v with
  | null => exact ⟨'n', _, rfl, by decide⟩
  | bool b => cases b <;> exact ⟨_, _, rfl, by decide⟩
  | int n => exact (startsNumber_int n r).startsValue
  | double x => exact (startsNumber_double x r).startsValue
  | str s => exact ⟨'"', _, rfl, by decide⟩
  | arr items => exact ⟨'[', _, rfl, by decide⟩
  | obj entries => exact ⟨'{', _, rfl, by decide⟩

theorem startsValue_writeEntry (e : String × Json) (r : List Char) :
    StartsValue (writeEntry e ++ r) :=
  ⟨'"', _, rfl, by decide⟩

theorem length_le_intercalate {x : List Char} {xs : List (List Char)} (h : x ∈ xs) :
    x.length ≤ ([','].intercalate xs).length := by
  induction xs with
  | nil => cases h
  | cons y ys ih =>
    cases ys with
    | nil =>
      obtain rfl := List.mem_singleton.1 h
      simp
    | cons z zs =>
      rw [List.intercalate_cons_cons, List.length_append, List.length_append]
      rcases List.mem_cons.1 h with rfl | h
      · omega
      · have := ih h
        omega

theorem length_le_length_intercalate (xs : List (List Char)) :
    xs.length ≤ ([','].intercalate xs).length + 1 := by
  induction xs with
  | nil => simp
  | cons y ys ih =>
    cases ys with
    | nil => simp
    | cons z zs =>
      rw [List.intercalate_cons_cons, List.length_append, List.length_append, List.length_cons,
        List.length_singleton]
      omega

/-- The parts of a written list or object are no more and no longer than its text. -/
theorem lengths_le_of_block {opening close : Char} {xs : List (List Char)}
    (h : (opening :: [','].intercalate xs ++ [close]).length ≤ bound) :
    xs.length ≤ bound ∧ ∀ x ∈ xs, x.length ≤ bound := by
  rw [List.cons_append, List.length_cons, List.length_append, List.length_singleton] at h
  have hcommas := length_le_length_intercalate xs
  refine ⟨by omega, ?_⟩
  intro x hx
  have := length_le_intercalate hx
  omega

/-- A written entry is read back when its value is. -/
theorem readEntry_writeEntry {value : List Char → Option (Json × List Char)} {e : String × Json}
    {w : Json} (hvalue : value (write e.2 ++ r) = some (w, r)) :
    readEntry value (writeEntry e ++ r) = some ((e.1, w), r) := by
  obtain ⟨s, hs, hkey⟩ := readChars_quoted e.1 (':' :: (write e.2 ++ r))
  have htext : writeEntry e ++ r = '"' :: s := by
    rw [← hs, writeEntry]
    simp
  rw [readEntry, htext, skipSpace_of_not rfl]
  simp [hkey, skipSpace_of_not (show isSpace ':' = false from rfl), hvalue]

/-- A written value is read back, with its doubles as their texts read. -/
theorem readValue_write (h : Readable d v) (hlength : (write v).length ≤ bound)
    (hr : EndsNumber r) : readValue bound d (write v ++ r) = some (v.reread, r) := by
  induction h generalizing r with
  | @null d =>
    change readValue bound d ('n' :: 'u' :: 'l' :: 'l' :: r) = _
    unfold readValue
    rw [skipSpace_of_not rfl]
    rfl
  | @bool d b =>
    cases b with
    | true =>
      change readValue bound d ('t' :: 'r' :: 'u' :: 'e' :: r) = _
      unfold readValue
      rw [skipSpace_of_not rfl]
      rfl
    | false =>
      change readValue bound d ('f' :: 'a' :: 'l' :: 's' :: 'e' :: r) = _
      unfold readValue
      rw [skipSpace_of_not rfl]
      rfl
  | @int d n hlow hhigh =>
    change readValue bound d (scalarText (.int n) ++ r) = _
    rw [readValue_number (startsNumber_int n r), readNumber_int hlow hhigh hr]
    rfl
  | @double d x =>
    change readValue bound d (scalarText (.double x) ++ r) = _
    rw [readValue_number (startsNumber_double x r), readNumber_double x hr]
    rfl
  | @str d text =>
    obtain ⟨s, hs, htext⟩ := readChars_quoted text r
    change readValue bound d (quoted text ++ r) = _
    unfold readValue
    rw [hs, skipSpace_of_not rfl]
    simp [htext, reread]
  | @arr d items _ ih =>
    rw [write_arr] at hlength
    obtain ⟨hcount, hparts⟩ := lengths_le_of_block hlength
    rw [List.length_map] at hcount
    rw [List.forall_mem_map] at hparts
    have hblock := readBlock_intercalate (r := r) (show ']' = ']' ∨ ']' = '}' from .inl rfl)
      (fun v _ r => startsValue_write v r) (fun v hv r hr => ih v hv (hparts v hv) hr) hcount
    rw [write_arr, reread, rereadItems_eq]
    simp only [List.cons_append, List.append_assoc, List.nil_append]
    unfold readValue
    rw [skipSpace_of_not rfl]
    simp [hblock]
  | @obj d entries hkeys _ ih =>
    rw [write_obj] at hlength
    obtain ⟨hcount, hparts⟩ := lengths_le_of_block hlength
    rw [List.length_map] at hcount
    rw [List.forall_mem_map] at hparts
    have hvalues : ∀ e ∈ entries, (write e.2).length ≤ bound := by
      intro e he
      have := hparts e he
      rw [writeEntry, List.length_append, List.length_cons] at this
      omega
    have hblock := readBlock_intercalate (r := r) (show '}' = ']' ∨ '}' = '}' from .inr rfl)
      (fun e _ r => startsValue_writeEntry e r)
      (fun e he r hr => readEntry_writeEntry (ih e he (hvalues e he) hr)) hcount
    have hsame : ofEntries (entries.map fun e => (e.1, e.2.reread)) =
        entries.map fun e => (e.1, e.2.reread) := by
      apply ofEntries_eq
      rw [List.map_map]
      exact hkeys
    rw [write_obj, reread, rereadEntries_eq]
    simp only [List.cons_append, List.append_assoc, List.nil_append]
    unfold readValue
    rw [skipSpace_of_not rfl]
    simp [hblock, hsame]

/-- The canonical text of a value reads as its sorting. -/
theorem parse_canonical (h : Readable maxDepth v) :
    parse v.canonical = some v.sorted.reread := by
  have hread := readValue_write (r := []) h.sorted (Nat.le_refl _) (by simp [EndsNumber])
  rw [List.append_nil] at hread
  rw [canonical, text, parse, String.toList_ofList, read, hread]
  simp [skipSpace]

end MailSnapshot.Json
