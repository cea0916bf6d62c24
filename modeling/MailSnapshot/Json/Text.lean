import MailSnapshot.Json.Basic

/-! The text of a JSON value: compact, or spread over lines. -/

namespace MailSnapshot.Json

def hexDigit (n : Nat) : Char := Nat.digitChar n

/-- One character inside quotes. -/
def escaped (c : Char) : List Char :=
  if c = '"' then ['\\', '"']
  else if c = '\\' then ['\\', '\\']
  else if c = '\x08' then ['\\', 'b']
  else if c = '\x0c' then ['\\', 'f']
  else if c = '\n' then ['\\', 'n']
  else if c = '\r' then ['\\', 'r']
  else if c = '\t' then ['\\', 't']
  else if c.toNat < 0x20 then
    ['\\', 'u', '0', '0', hexDigit (c.toNat / 16), hexDigit (c.toNat % 16)]
  else [c]

def quoted (s : String) : List Char :=
  '"' :: s.toList.flatMap escaped ++ ['"']

/-- Numbers are positional from 1e-5 and below 1e16. -/
def numberStyle : Decimal.Style := ⟨-5, 15, false, true, 1⟩

def scalarText : Json → List Char
  | .null => ['n', 'u', 'l', 'l']
  | .bool true => ['t', 'r', 'u', 'e']
  | .bool false => ['f', 'a', 'l', 's', 'e']
  | .int n => (toString n).toList
  | .double x => (Decimal.shortest x).text numberStyle
  | .str s => quoted s
  | .arr _ | .obj _ => []

mutual
/-- The text with no space outside strings. -/
def write : Json → List Char
  | .arr items => '[' :: [','].intercalate (writeItems items) ++ [']']
  | .obj entries => '{' :: [','].intercalate (writeEntries entries) ++ ['}']
  | .null => scalarText .null
  | .bool b => scalarText (.bool b)
  | .int n => scalarText (.int n)
  | .double x => scalarText (.double x)
  | .str s => scalarText (.str s)

def writeItems : List Json → List (List Char)
  | [] => []
  | v :: vs => write v :: writeItems vs

def writeEntries : List (String × Json) → List (List Char)
  | [] => []
  | (k, v) :: es => (quoted k ++ ':' :: write v) :: writeEntries es
end

/-- A line break and two spaces for each level. -/
def newLine (level : Nat) : List Char := '\n' :: List.replicate (2 * level) ' '

/-- Parts inside brackets, each on a line of its own. -/
def block (level : Nat) (first last : Char) (parts : List (List Char)) : List Char :=
  if parts.isEmpty then [first, last]
  else first :: newLine (level + 1) ++ (',' :: newLine (level + 1)).intercalate parts ++
    newLine level ++ [last]

mutual
/-- The text with each item and entry on its own line, indented by its level. -/
def pretty (level : Nat) : Json → List Char
  | .arr items => block level '[' ']' (prettyItems (level + 1) items)
  | .obj entries => block level '{' '}' (prettyEntries (level + 1) entries)
  | .null => scalarText .null
  | .bool b => scalarText (.bool b)
  | .int n => scalarText (.int n)
  | .double x => scalarText (.double x)
  | .str s => scalarText (.str s)

def prettyItems (level : Nat) : List Json → List (List Char)
  | [] => []
  | v :: vs => pretty level v :: prettyItems level vs

def prettyEntries (level : Nat) : List (String × Json) → List (List Char)
  | [] => []
  | (k, v) :: es => (quoted k ++ ':' :: ' ' :: pretty level v) :: prettyEntries level es
end

def text (v : Json) : String := String.ofList v.write

def prettyText (v : Json) : String := String.ofList (pretty 0 v)

end MailSnapshot.Json
