/-! Parameters of a statement. They are numbered from one, and a store takes no number above a limit
of its own. -/

namespace MailSnapshot.Parameter

/-- The largest number that a parameter may have. -/
def limit : Nat := 32766

def name (number : Nat) : String := s!"?{number}"

/-- The first parameters, as a statement lists them. -/
def listing (count : Nat) : String :=
  ", ".intercalate ((List.range count).map fun i => name (i + 1))

/-- Where the first parameter above the limit stands in a statement, in bytes. -/
def refusedAt (statement : String) : Nat :=
  ((statement.splitOn (name (limit + 1))).headD "").utf8ByteSize

end MailSnapshot.Parameter
