/-! Cutting a text at every place where a character stands. -/

namespace MailSnapshot.Text
variable {mark : Char}

/-- The parts between the places where the character stands; there is always one. -/
def splitAt (mark : Char) : List Char → List (List Char)
  | [] => [[]]
  | c :: s =>
    match splitAt mark s with
    | p :: ps => if c = mark then [] :: p :: ps else (c :: p) :: ps
    | [] => [[c]]

theorem splitAt_ne_nil (s : List Char) : splitAt mark s ≠ [] := by
  cases s with
  | nil => simp [splitAt]
  | cons c s =>
    rw [splitAt]
    split
    · split <;> simp
    · simp

/-- The parts with the character between them are the text again. -/
theorem intercalate_splitAt (s : List Char) : [mark].intercalate (splitAt mark s) = s := by
  induction s with
  | nil => rfl
  | cons c s ih =>
    rw [splitAt]
    split
    · rename_i p ps h
      rw [h] at ih
      split
      · rename_i hc
        subst hc
        cases ps <;> simp_all [List.intercalate]
      · cases ps <;> simp_all [List.intercalate]
    · exact absurd ‹_› (splitAt_ne_nil s)

end MailSnapshot.Text
