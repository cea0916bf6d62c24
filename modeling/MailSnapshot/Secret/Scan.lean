import MailSnapshot.Pattern.Pieces
import MailSnapshot.Secret.Families

/-! Masking the secrets of a text, one family after the other. -/

namespace MailSnapshot.Secret

/-- What stands in a scanned text for each secret. -/
def placeholder : List Char := "[REDACTED]".toList

/-- A text without its secrets, and how many there were. -/
structure Scan where
  text : List Char
  replacements : Nat
  deriving DecidableEq

namespace Scan

def changed (s : Scan) : Bool := decide (0 < s.replacements)

def string (s : Scan) : String := String.ofList s.text

end Scan

def Family.scan (f : Family) (s : List Char) : Scan :=
  let ps := f.pattern.pieces s
  ⟨ps.flatMap (Piece.masked placeholder), ps.countP Piece.isHit⟩

/-- Each family looks at the text that the families before it leave. -/
def scanWith : List Family → List Char → Scan
  | [], s => ⟨s, 0⟩
  | f :: fs, s =>
    let first := f.scan s
    let others := scanWith fs first.text
    ⟨others.text, first.replacements + others.replacements⟩

def scan (s : List Char) : Scan := scanWith families s

def scanString (s : String) : Scan := scan s.toList

/-- The places of each family's matches in a text as it stands, for the families that match. -/
def spans (s : List Char) : List (String × List (Nat × Nat)) :=
  families.filterMap fun f =>
    match f.pattern.spans s with
    | [] => none
    | found => some (f.name, found)

end MailSnapshot.Secret
