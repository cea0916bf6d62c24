import MailSnapshot.Proofs.Json.RoundTrip

/-! Written values are told apart. Where two texts go on with values and then agree, the values are
written alike, and values that are written alike have parts that are written alike. -/

namespace MailSnapshot.Json
open Numeral
variable {v w : Json} {vs ws : List Json} {es fs : List (String × Json)} {e f : String × Json}
  {r r' : List Char} {close : Char}

/-- What the first character of a text says about the value. -/
inductive Form where
  | null
  | bool
  | number
  | str
  | arr
  | obj
  deriving DecidableEq

def Form.ofChar (c : Char) : Form :=
  if c = 'n' then .null
  else if c = 't' ∨ c = 'f' then .bool
  else if c = '"' then .str
  else if c = '[' then .arr
  else if c = '{' then .obj
  else .number

def form : Json → Form
  | .null => .null
  | .bool _ => .bool
  | .int _ | .double _ => .number
  | .str _ => .str
  | .arr _ => .arr
  | .obj _ => .obj

theorem ofChar_of_number {c : Char} (hc : c = '-' ∨ c.isDigit = true) :
    Form.ofChar c = .number := by
  simp [Form.ofChar, ne_of_number hc]

theorem form_of_write {c : Char} {s : List Char} (h : write v ++ r = c :: s) :
    v.form = .ofChar c := by
  have hnumber (hstart : StartsNumber (write v ++ r)) : .number = Form.ofChar c := by
    obtain ⟨c', t, heq, hc⟩ := hstart
    cases heq.symm.trans h
    exact (ofChar_of_number hc).symm
  cases v with
  | int n => exact hnumber (startsNumber_int n r)
  | double x => exact hnumber (startsNumber_double x r)
  | bool b =>
    cases b
    all_goals
      cases h
      rfl
  | null | str | arr | obj =>
    cases h
    rfl

theorem form_eq_of_append (h : write v ++ r = write w ++ r') : v.form = w.form := by
  obtain ⟨c, s, hc, -⟩ := startsValue_write v r
  rw [form_of_write hc, form_of_write (h.symm.trans hc)]

theorem form_eq_of_write (h : write v = write w) : v.form = w.form :=
  form_eq_of_append (congrArg (· ++ []) h)

theorem endsNumber_nil : EndsNumber [] := by
  simp [EndsNumber]

/-- The number that a text starts with, and what follows it. -/
theorem chars_inj {t t' : NumberText} (ht : t.Proper) (ht' : t'.Proper) (hr : EndsNumber r)
    (hr' : EndsNumber r') (h : t.chars ++ r = t'.chars ++ r') : t = t' ∧ r = r' := by
  have hread := readNumberText_append ht hr
  rw [h, readNumberText_append ht' hr'] at hread
  cases hread
  exact ⟨rfl, rfl⟩

theorem exists_chars_of_number (h : v.form = .number) : ∃ t : NumberText, t.Proper ∧
    write v = t.chars := by
  cases v with
  | int n => exact ⟨_, NumberText.proper_ofInt n, NumberText.chars_ofInt n⟩
  | double x => exact ⟨_, NumberText.proper_ofDecimal _, NumberText.chars_ofDecimal _⟩
  | null | bool | str | arr | obj => cases h

theorem quoted_inj {s t : String} (h : quoted s ++ r = quoted t ++ r') : s = t ∧ r = r' := by
  obtain ⟨a, ha, hread⟩ := readChars_quoted s r
  obtain ⟨b, hb, hread'⟩ := readChars_quoted t r'
  rw [ha, hb] at h
  rw [List.tail_eq_of_cons_eq h, hread', Option.some.injEq, Prod.mk.injEq] at hread
  exact ⟨(String.toList_inj.1 hread.1).symm, hread.2.symm⟩

section Parts

/-- What stands between the first part and the end of a list of parts. -/
def afterPart (s : List Char) : List (List Char) → List Char
  | [] => s
  | x :: xs => ',' :: ([','].intercalate (x :: xs) ++ s)

theorem intercalate_cons_append (x : List Char) (xs : List (List Char)) (s : List Char) :
    [','].intercalate (x :: xs) ++ s = x ++ afterPart s xs := by
  cases xs with
  | nil => simp [afterPart]
  | cons y ys =>
    rw [List.intercalate_cons_cons, afterPart]
    simp

theorem endsNumber_afterPart (hclose : close = ']' ∨ close = '}') (r : List Char)
    (xs : List (List Char)) : EndsNumber (afterPart (close :: r) xs) := by
  cases xs with
  | nil => rcases hclose with rfl | rfl <;> simp [afterPart, EndsNumber]
  | cons x xs => simp [afterPart, EndsNumber]

/-- Parts that each can be told from what follows them can be told apart when they are joined. -/
theorem intercalate_inj {xs ys : List (List Char)} (hclose : close = ']' ∨ close = '}')
    (hxs : ∀ x ∈ xs, ∀ s, StartsValue (x ++ s)) (hys : ∀ y ∈ ys, ∀ s, StartsValue (y ++ s))
    (hpart : ∀ x ∈ xs, ∀ y ∈ ys, ∀ s s', EndsNumber s → EndsNumber s' → x ++ s = y ++ s' →
      x = y ∧ s = s')
    (h : [','].intercalate xs ++ close :: r = [','].intercalate ys ++ close :: r') :
    xs = ys ∧ r = r' := by
  have hstart {x : List Char} (hx : ∀ s, StartsValue (x ++ s)) (s s' : List Char) :
      close :: s ≠ x ++ s' := by
    obtain ⟨c, t, heq, -, hsquare, hcurly⟩ := hx s'
    rw [heq]
    rintro ⟨⟩
    rcases hclose with h | h
    · exact hsquare h
    · exact hcurly h
  have hcomma : close ≠ ',' := by rcases hclose with rfl | rfl <;> decide
  induction xs generalizing ys with
  | nil =>
    cases ys with
    | nil =>
      cases h
      exact ⟨rfl, rfl⟩
    | cons y ys =>
      rw [intercalate_cons_append] at h
      exact absurd h (hstart (hys y (by simp)) _ _)
  | cons x xs ih =>
    cases ys with
    | nil =>
      rw [intercalate_cons_append] at h
      exact absurd h.symm (hstart (hxs x (by simp)) _ _)
    | cons y ys =>
      rw [intercalate_cons_append, intercalate_cons_append] at h
      obtain ⟨rfl, hrest⟩ := hpart x (by simp) y (by simp) _ _ (endsNumber_afterPart hclose _ _)
        (endsNumber_afterPart hclose _ _) h
      cases xs with
      | nil =>
        cases ys with
        | nil =>
          cases hrest
          exact ⟨rfl, rfl⟩
        | cons => exact absurd (List.head_eq_of_cons_eq hrest) hcomma
      | cons z zs =>
        cases ys with
        | nil => exact absurd (List.head_eq_of_cons_eq hrest).symm hcomma
        | cons z' zs' =>
          obtain ⟨heq, hr⟩ := ih (fun x hx => hxs x (by simp [hx]))
            (fun y hy => hys y (by simp [hy]))
            (fun x hx y hy => hpart x (by simp [hx]) y (by simp [hy]))
            (List.tail_eq_of_cons_eq hrest)
          rw [heq]
          exact ⟨rfl, hr⟩

end Parts

theorem map_writeEntry_congr
    (h : es.map (fun e => (e.1, write e.2)) = fs.map fun e => (e.1, write e.2)) :
    es.map writeEntry = fs.map writeEntry := by
  have hsame := congrArg (List.map fun p => quoted p.1 ++ ':' :: p.2) h
  rw [List.map_map, List.map_map] at hsame
  exact hsame

/-- A written entry is told from what follows it when its value is. -/
theorem writeEntry_inj
    (hvalue : ∀ s s', EndsNumber s → EndsNumber s' → write e.2 ++ s = write f.2 ++ s' →
      write e.2 = write f.2 ∧ s = s')
    (hr : EndsNumber r) (hr' : EndsNumber r') (h : writeEntry e ++ r = writeEntry f ++ r') :
    (e.1 = f.1 ∧ write e.2 = write f.2) ∧ r = r' := by
  rw [writeEntry, writeEntry, List.append_assoc, List.append_assoc] at h
  obtain ⟨hkey, hrest⟩ := quoted_inj h
  obtain ⟨hsame, htail⟩ := hvalue _ _ hr hr' (List.tail_eq_of_cons_eq hrest)
  exact ⟨⟨hkey, hsame⟩, htail⟩

theorem startsValue_of_mem_map_write {x : List Char} (hx : x ∈ vs.map write) (s : List Char) :
    StartsValue (x ++ s) := by
  obtain ⟨v, -, rfl⟩ := List.mem_map.1 hx
  exact startsValue_write v s

theorem startsValue_of_mem_map_writeEntry {x : List Char} (hx : x ∈ es.map writeEntry)
    (s : List Char) : StartsValue (x ++ s) := by
  obtain ⟨e, -, rfl⟩ := List.mem_map.1 hx
  exact startsValue_writeEntry e s

/-- Lists are told apart when their items are. -/
theorem write_arr_inj
    (hitem : ∀ v ∈ vs, ∀ w ∈ ws, ∀ s s', EndsNumber s → EndsNumber s' →
      write v ++ s = write w ++ s' → write v = write w ∧ s = s')
    (h : write (.arr vs) ++ r = write (.arr ws) ++ r') : vs.map write = ws.map write ∧ r = r' := by
  rw [write_arr, write_arr] at h
  simp only [List.cons_append, List.append_assoc, List.nil_append, List.cons.injEq, true_and] at h
  refine intercalate_inj (.inl rfl) (fun _ => startsValue_of_mem_map_write)
    (fun _ => startsValue_of_mem_map_write) ?_ h
  intro x hx y hy
  obtain ⟨v, hv, rfl⟩ := List.mem_map.1 hx
  obtain ⟨w, hw, rfl⟩ := List.mem_map.1 hy
  exact hitem v hv w hw

/-- Objects are told apart when the values of their entries are. -/
theorem write_obj_inj
    (hvalue : ∀ e ∈ es, ∀ f ∈ fs, ∀ s s', EndsNumber s → EndsNumber s' →
      write e.2 ++ s = write f.2 ++ s' → write e.2 = write f.2 ∧ s = s')
    (h : write (.obj es) ++ r = write (.obj fs) ++ r') :
    es.map writeEntry = fs.map writeEntry ∧ r = r' := by
  rw [write_obj, write_obj] at h
  simp only [List.cons_append, List.append_assoc, List.nil_append, List.cons.injEq, true_and] at h
  refine intercalate_inj (.inr rfl) (fun _ => startsValue_of_mem_map_writeEntry)
    (fun _ => startsValue_of_mem_map_writeEntry) ?_ h
  intro x hx y hy s s' hs hs' heq
  obtain ⟨e, he, rfl⟩ := List.mem_map.1 hx
  obtain ⟨f, hf, rfl⟩ := List.mem_map.1 hy
  obtain ⟨⟨hkey, hsame⟩, hrest⟩ := writeEntry_inj (hvalue e he f hf) hs hs' heq
  exact ⟨by rw [writeEntry, writeEntry, hkey, hsame], hrest⟩

theorem write_inj_of_number (hv : v.form = .number) (hw : w.form = .number) (hr : EndsNumber r)
    (hr' : EndsNumber r') (h : write v ++ r = write w ++ r') : write v = write w ∧ r = r' := by
  obtain ⟨t, ht, hchars⟩ := exists_chars_of_number hv
  obtain ⟨t', ht', hchars'⟩ := exists_chars_of_number hw
  rw [hchars, hchars'] at h ⊢
  obtain ⟨rfl, hrest⟩ := chars_inj ht ht' hr hr' h
  exact ⟨rfl, hrest⟩

/-- Of two texts that agree and start with written values, the values are written alike. A number
must not go on in what follows it. -/
theorem write_inj (hr : EndsNumber r) (hr' : EndsNumber r') (h : write v ++ r = write w ++ r') :
    write v = write w ∧ r = r' := by
  have hform := form_eq_of_append h
  induction v using induction generalizing w r r' with
  | int | double => exact write_inj_of_number rfl hform.symm hr hr' h
  | null =>
    cases w with
    | null => exact ⟨rfl, List.append_cancel_left h⟩
    | bool | int | double | str | arr | obj => cases hform
  | bool b =>
    cases w with
    | bool b' =>
      cases b <;> cases b' <;> cases h <;> exact ⟨rfl, rfl⟩
    | null | int | double | str | arr | obj => cases hform
  | str s =>
    cases w with
    | str t =>
      obtain ⟨rfl, hrest⟩ := quoted_inj h
      exact ⟨rfl, hrest⟩
    | null | bool | int | double | arr | obj => cases hform
  | arr items ih =>
    cases w with
    | arr items' =>
      obtain ⟨hitems, hrest⟩ := write_arr_inj (fun v hv w _ s s' hs hs' heq =>
        ih v hv hs hs' heq (form_eq_of_append heq)) h
      rw [write_arr, write_arr, hitems]
      exact ⟨rfl, hrest⟩
    | null | bool | int | double | str | obj => cases hform
  | obj entries ih =>
    cases w with
    | obj entries' =>
      obtain ⟨hentries, hrest⟩ := write_obj_inj (fun e he f _ s s' hs hs' heq =>
        ih e he hs hs' heq (form_eq_of_append heq)) h
      rw [write_obj, write_obj, hentries]
      exact ⟨rfl, hrest⟩
    | null | bool | int | double | str | arr => cases hform

theorem map_write_eq_of_write (h : write (.arr vs) = write (.arr ws)) :
    vs.map write = ws.map write := by
  have happend : write (.arr vs) ++ [] = write (.arr ws) ++ [] := by rw [h]
  exact (write_arr_inj (fun _ _ _ _ _ _ => write_inj) happend).1

theorem map_writeEntry_eq_of_write (h : write (.obj es) = write (.obj fs)) :
    es.map writeEntry = fs.map writeEntry := by
  have happend : write (.obj es) ++ [] = write (.obj fs) ++ [] := by rw [h]
  exact (write_obj_inj (fun _ _ _ _ _ _ => write_inj) happend).1

theorem writeEntry_eq_iff : writeEntry e = writeEntry f ↔ e.1 = f.1 ∧ write e.2 = write f.2 := by
  constructor
  · intro h
    have happend : writeEntry e ++ [] = writeEntry f ++ [] := by rw [h]
    exact (writeEntry_inj (fun _ _ => write_inj) endsNumber_nil endsNumber_nil happend).1
  · rintro ⟨hkey, hvalue⟩
    rw [writeEntry, writeEntry, hkey, hvalue]

theorem ofInt_inj {n m : Int} (h : NumberText.ofInt n = NumberText.ofInt m) : n = m := by
  have hvalue (k : Int) : natOf (NumberText.ofInt k).whole = k.natAbs :=
    Nat.ofDigitChars_ten_toDigits
  have habs := hvalue n
  rw [h, hvalue m] at habs
  have hsign : (n < 0) ↔ m < 0 := decide_eq_decide.1 (congrArg NumberText.negative h)
  omega

/-- Whole numbers that are written alike are the same, and none is written like a double. -/
theorem int_of_write {n : Int} (h : write (.int n) = write w) : w = .int n := by
  have hform : w.form = .number := (form_eq_of_write h).symm
  have hsame {t : NumberText} (ht : t.Proper) (hw : write w = t.chars) :
      NumberText.ofInt n = t := by
    refine (chars_inj (NumberText.proper_ofInt n) ht endsNumber_nil endsNumber_nil ?_).1
    rw [← hw, ← h]
    exact congrArg (· ++ []) (NumberText.chars_ofInt n).symm
  cases w with
  | int m => rw [ofInt_inj (hsame (NumberText.proper_ofInt m) (NumberText.chars_ofInt m))]
  | double x =>
    have hwhole := congrArg NumberText.isWhole
      (hsame (NumberText.proper_ofDecimal _) (NumberText.chars_ofDecimal _))
    rw [NumberText.isWhole_ofDecimal] at hwhole
    cases hwhole
  | null | bool | str | arr | obj => cases hform

end MailSnapshot.Json
