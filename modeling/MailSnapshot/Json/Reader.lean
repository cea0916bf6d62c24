import MailSnapshot.Json.Number
import MailSnapshot.Text.Hex

/-! Reading JSON text. -/

namespace MailSnapshot.Json

def isSpace (c : Char) : Bool := c = ' ' || c = '\t' || c = '\n' || c = '\r'

def skipSpace (s : List Char) : List Char := s.dropWhile isSpace

def unit? (a b c d : Char) : Option Nat := do
  let a ← Text.Hex.digitValue? a
  let b ← Text.Hex.digitValue? b
  let c ← Text.Hex.digitValue? c
  let d ← Text.Hex.digitValue? d
  return 4096 * a + 256 * b + 16 * c + d

def isHighSurrogate (n : Nat) : Bool := decide (0xD800 ≤ n ∧ n < 0xDC00)

def isLowSurrogate (n : Nat) : Bool := decide (0xDC00 ≤ n ∧ n < 0xE000)

def pairValue (high low : Nat) : Nat := 0x10000 + 1024 * (high - 0xD800) + (low - 0xDC00)

/-- The character named by one letter after a backslash. -/
def named? (c : Char) : Option Char :=
  if c = '"' ∨ c = '\\' ∨ c = '/' then some c
  else if c = 'b' then some '\x08'
  else if c = 'f' then some '\x0c'
  else if c = 'n' then some '\n'
  else if c = 'r' then some '\r'
  else if c = 't' then some '\t'
  else none

def withFirst (c : Char) : Option (List Char × List Char) → Option (List Char × List Char) :=
  Option.map fun (t, r) => (c :: t, r)

/-- The rest of a string after its opening quote. -/
def readChars : List Char → Option (List Char × List Char)
  | [] => none
  | c :: s =>
    if c = '"' then some ([], s)
    else if c = '\\' then
      match s with
      | 'u' :: a :: b :: c :: d :: s =>
        match unit? a b c d with
        | none => none
        | some n =>
          if isLowSurrogate n then none
          else if isHighSurrogate n then
            match s with
            | '\\' :: 'u' :: a :: b :: c :: d :: s =>
              match unit? a b c d with
              | none => none
              | some m =>
                if isLowSurrogate m then withFirst (Char.ofNat (pairValue n m)) (readChars s)
                else none
            | _ => none
          else withFirst (Char.ofNat n) (readChars s)
      | e :: s =>
        match named? e with
        | none => none
        | some c => withFirst c (readChars s)
      | [] => none
    else if c.toNat < 0x20 then none
    else withFirst c (readChars s)

variable {α : Type}

/-- Items with commas between them, up to the closing bracket; at most as many as the bound. -/
def readItems (item : List Char → Option (α × List Char)) (close : Char) :
    Nat → List Char → Option (List α × List Char)
  | 0, _ => none
  | n + 1, s =>
    match item s with
    | none => none
    | some (v, r) =>
      match skipSpace r with
      | [] => none
      | c :: r =>
        if c = ',' then (readItems item close n r).map fun (vs, r) => (v :: vs, r)
        else if c = close then some ([v], r)
        else none

/-- The items after an opening bracket, at most as many as the bound. -/
def readBlock (item : List Char → Option (α × List Char)) (close : Char) (bound : Nat)
    (s : List Char) : Option (List α × List Char) :=
  match skipSpace s with
  | [] => none
  | c :: r => if c = close then some ([], r) else readItems item close bound (c :: r)

/-- An entry's key, its colon and its value. -/
def readEntry (value : List Char → Option (Json × List Char)) (s : List Char) :
    Option ((String × Json) × List Char) := do
  let '"' :: s := skipSpace s | none
  let (key, s) ← readChars s
  let ':' :: s := skipSpace s | none
  let (v, s) ← value s
  return ((String.ofList key, v), s)

/-- Sets the value of a key. A key that is already there keeps its place. -/
def put (k : String) (v : Json) : List (String × Json) → List (String × Json)
  | [] => [(k, v)]
  | (l, w) :: es => if k = l then (l, v) :: es else (l, w) :: put k v es

def ofEntries (es : List (String × Json)) : List (String × Json) :=
  es.foldl (fun done (k, v) => put k v done) []

/-- A value at the start of a text, with at most `depth` lists and objects inside each other. The
bound on the items of each of them is no limit when it is not below the length of the text. -/
def readValue (bound : Nat) : Nat → List Char → Option (Json × List Char)
  | depth, s =>
    match skipSpace s, depth with
    | '"' :: r, _ => (readChars r).map fun (t, r) => (.str (String.ofList t), r)
    | '[' :: r, d + 1 => (readBlock (readValue bound d) ']' bound r).map fun (vs, r) => (.arr vs, r)
    | '{' :: r, d + 1 =>
      (readBlock (readEntry (readValue bound d)) '}' bound r).map fun (es, r) =>
        (.obj (ofEntries es), r)
    | 'n' :: 'u' :: 'l' :: 'l' :: r, _ => some (.null, r)
    | 't' :: 'r' :: 'u' :: 'e' :: r, _ => some (.bool true, r)
    | 'f' :: 'a' :: 'l' :: 's' :: 'e' :: r, _ => some (.bool false, r)
    | r, _ => readNumber r

def maxDepth : Nat := 127

/-- The value that makes up a whole text. -/
def read (s : List Char) : Option Json :=
  match readValue s.length maxDepth s with
  | some (v, r) => if (skipSpace r).isEmpty then some v else none
  | none => none

def parse (s : String) : Option Json := read s.toList

end MailSnapshot.Json
