import MailSnapshot.Pattern.Basic

/-! Classes and patterns built from simpler ones. -/

namespace MailSnapshot

namespace CharClass

def isOneOf (cs : List Char) : CharClass := cs.contains

def between (a b : Char) : CharClass := fun c => decide (a ≤ c ∧ c ≤ b)

def either (k l : CharClass) : CharClass := fun c => k c || l c

def outside (k : CharClass) : CharClass := fun c => !k c

def any : CharClass := fun _ => true

/-- A letter without its case: the ASCII letters fold to the small ones, and so do the two other
characters whose simple folding is an ASCII letter, the long s and the Kelvin sign. -/
def fold (c : Char) : Char :=
  if c = 'ſ' then 's' else if c = '\u212A' then 'k' else c.toLower

/-- The class without regard to case, when it holds the small letter of each of its letters. -/
def anyCase (k : CharClass) : CharClass := fun c => k (fold c)

end CharClass

namespace Pattern

/-- The patterns one after the other. -/
def chain : List Pattern → Pattern
  | [] => empty
  | [p] => p
  | p :: ps => seq p (chain ps)

/-- One character of each class, in order. -/
def each (ks : List CharClass) : Pattern :=
  ks.foldr (fun k p => seq (one k) p) empty

def word (w : String) : Pattern :=
  each (w.toList.map fun c => CharClass.isOneOf [c])

/-- A word of small letters, without regard to case. -/
def wordAnyCase (w : String) : Pattern :=
  each (w.toList.map fun c => (CharClass.isOneOf [c]).anyCase)

def times (n : Nat) (k : CharClass) : Pattern :=
  each (List.replicate n k)

def atLeast (n : Nat) (k : CharClass) : Pattern :=
  seq (times n k) (run k)

/-- The pattern or nothing, the pattern first. -/
def maybe (p : Pattern) : Pattern := alt p empty

/-- One of the patterns, tried in order. -/
def oneOf : List Pattern → Pattern
  | [] => empty
  | [p] => p
  | p :: ps => alt p (oneOf ps)

end Pattern
end MailSnapshot
