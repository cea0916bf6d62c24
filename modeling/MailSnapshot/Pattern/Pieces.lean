import MailSnapshot.Pattern.Basic
import MailSnapshot.Text.Utf8

/-! A text cut at the matches of a pattern, from left to right and without overlap. -/

namespace MailSnapshot

/-- A character outside every match, or the text of one match. -/
inductive Piece where
  | kept (c : Char)
  | hit (text : List Char)
  deriving DecidableEq

namespace Piece

def text : Piece → List Char
  | kept c => [c]
  | hit t => t

/-- The text with every match replaced by `mask`. -/
def masked (mask : List Char) : Piece → List Char
  | kept c => [c]
  | hit _ => mask

def isHit : Piece → Bool
  | kept _ => false
  | hit _ => true

end Piece

namespace Pattern

/-- A match of no characters is passed over. -/
def pieces (p : Pattern) : List Char → List Piece
  | [] => []
  | c :: r =>
    match p.matchLength? (c :: r) with
    | some (n + 1) => .hit (c :: r.take n) :: p.pieces (r.drop n)
    | _ => .kept c :: p.pieces r
termination_by s => s.length

/-- The pieces are a cut of the text. -/
theorem flatMap_text_pieces (p : Pattern) (s : List Char) :
    (p.pieces s).flatMap Piece.text = s := by
  fun_induction pieces p s with
  | case1 => rfl
  | case2 c r n _ ih => simp [Piece.text, ih]
  | case3 c r _ ih => simp [Piece.text, ih]

/-- The places of the matches in a text whose first piece starts at `start`, in UTF-8 bytes. -/
def spansFrom (start : Nat) : List Piece → List (Nat × Nat)
  | [] => []
  | .kept c :: ps => spansFrom (start + c.utf8Size) ps
  | .hit t :: ps =>
    let stop := start + Text.Utf8.size t
    (start, stop) :: spansFrom stop ps

def spans (p : Pattern) (s : List Char) : List (Nat × Nat) :=
  spansFrom 0 (p.pieces s)

end Pattern
end MailSnapshot
