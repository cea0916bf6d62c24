import MailSnapshot.Store.Cell

/-! Rows in the order of their ids. Ordering loses and adds no row. -/

namespace MailSnapshot
variable {α : Type} {id : α → Cell}

/-- Puts a row before the first one that must come after it. -/
def insertById (id : α → Cell) (row : α) : List α → List α
  | [] => [row]
  | r :: rs =>
    if (id r).comesBefore (id row) then r :: insertById id row rs else row :: r :: rs

/-- The rows in the order of their ids; rows with one id keep their order. -/
def orderById (id : α → Cell) (rows : List α) : List α :=
  rows.foldr (insertById id) []

theorem insertById_perm (row : α) (rs : List α) : (insertById id row rs).Perm (row :: rs) := by
  induction rs with
  | nil => exact .refl _
  | cons r rs ih =>
    rw [insertById]
    split
    · exact (ih.cons r).trans (.swap row r rs)
    · exact .refl _

theorem orderById_perm (rows : List α) : (orderById id rows).Perm rows := by
  induction rows with
  | nil => exact .refl _
  | cons r rs ih => exact (insertById_perm r _).trans (ih.cons r)

end MailSnapshot
