import MailSnapshot.Text.CaseTable

/-! Lower case of characters and of whole texts. The two differ in the sigma, which has a form of
its own at the end of a word. -/

namespace MailSnapshot.Text

/-- The lower case form of one character on its own. Only the capital I with a dot has two
characters in its form. -/
def lowerChar (c : Char) : List Char :=
  if c = 'İ' then ['i', '\u0307']
  else match lowerRuns.findSome? (·.lower? c.toNat) with
    | some n => [Char.ofNat n]
    | none => [c]

/-- The first character that matters to case is a cased one. -/
def meetsCased (cs : List Char) : Bool :=
  match cs.dropWhile caseIgnorableRanges.contains with
  | c :: _ => casedRanges.contains c
  | [] => false

/-- Lower case after the characters of `before`, the nearest first. A capital sigma that ends a
word takes its final form. -/
def lowercaseAfter (before : List Char) : List Char → List Char
  | [] => []
  | c :: rest =>
    let form :=
      if c = 'Σ' then [if meetsCased before && !meetsCased rest then 'ς' else 'σ'] else lowerChar c
    form ++ lowercaseAfter (c :: before) rest

def lowercase (s : String) : String :=
  String.ofList (lowercaseAfter [] s.toList)

/-- Lower case of the ASCII letters; every other character stays. -/
def lowercaseAscii (s : String) : String :=
  String.ofList (s.toList.map Char.toLower)

end MailSnapshot.Text
