import MailSnapshot.Json.Text

/-! The canonical form of a JSON value: the keys of every object in order. -/

namespace MailSnapshot.Json

/-- Adds an entry to entries in the order of their keys. -/
def insertEntry (k : String) (v : Json) : List (String × Json) → List (String × Json)
  | [] => [(k, v)]
  | (l, w) :: es => if k < l then (k, v) :: (l, w) :: es else (l, w) :: insertEntry k v es

mutual
def sorted : Json → Json
  | .arr items => .arr (sortedItems items)
  | .obj entries => .obj (sortedEntries entries)
  | .null => .null
  | .bool b => .bool b
  | .int n => .int n
  | .double x => .double x
  | .str s => .str s

def sortedItems : List Json → List Json
  | [] => []
  | v :: vs => sorted v :: sortedItems vs

def sortedEntries : List (String × Json) → List (String × Json)
  | [] => []
  | (k, v) :: es => insertEntry k (sorted v) (sortedEntries es)
end

def canonical (v : Json) : String := v.sorted.text

end MailSnapshot.Json
