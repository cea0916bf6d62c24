import MailSnapshot.Json.Basic
import MailSnapshot.Secret.Scan
import MailSnapshot.Text.Lowercase

/-! Scrubbing attachment metadata: entries whose key names a credential go, every string is scanned
for secrets, and the rest stays in place. -/

namespace MailSnapshot.Attachment

/-- The keys of entries that hold a credential or lead to one. -/
def credentialKeys : List String :=
  ["download_url", "headers", "authorization", "signed_url", "bearer_token"]

/-- A key without its blanks and NULs, in lower case. -/
def foldKey (key : String) : String :=
  String.ofList ((key.toList.filter fun c => !Text.isBlank c && c ≠ '\x00').flatMap Text.lowerChar)

def isCredential (key : String) : Bool := credentialKeys.contains (foldKey key)

/-- Something other than null and the empty string, list and object. -/
def carriesValue : Json → Bool
  | .null => false
  | .str s => !s.isEmpty
  | .arr items => !items.isEmpty
  | .obj entries => !entries.isEmpty
  | .bool _ | .int _ | .double _ => true

/-- A scrubbed thing, the secrets replaced in it and the entries with a value that it lost. -/
structure Scrubbed (α : Type) where
  value : α
  replacements : Nat
  keysRemoved : Nat

namespace Scrubbed
variable {α β γ : Type}

def unchanged (value : α) : Scrubbed α := ⟨value, 0, 0⟩

def map (f : α → β) (s : Scrubbed α) : Scrubbed β := ⟨f s.value, s.replacements, s.keysRemoved⟩

/-- Two scrubbed things as one. -/
def join (f : α → β → γ) (s : Scrubbed α) (t : Scrubbed β) : Scrubbed γ :=
  ⟨f s.value t.value, s.replacements + t.replacements, s.keysRemoved + t.keysRemoved⟩

end Scrubbed

mutual
def scrub : Json → Scrubbed Json
  | .str s =>
    let scan := Secret.scanString s
    ⟨.str scan.string, scan.replacements, 0⟩
  | .arr items => (scrubItems items).map .arr
  | .obj entries => (scrubEntries entries).map .obj
  | .null => .unchanged .null
  | .bool b => .unchanged (.bool b)
  | .int n => .unchanged (.int n)
  | .double x => .unchanged (.double x)

def scrubItems : List Json → Scrubbed (List Json)
  | [] => .unchanged []
  | v :: vs => .join List.cons (scrub v) (scrubItems vs)

/-- An entry that is dropped counts when it carries a value; nothing inside it counts. -/
def scrubEntries : List (String × Json) → Scrubbed (List (String × Json))
  | [] => .unchanged []
  | (k, v) :: es =>
    let others := scrubEntries es
    if isCredential k then
      { others with keysRemoved := others.keysRemoved + if carriesValue v then 1 else 0 }
    else .join (fun w ws => (k, w) :: ws) (scrub v) others
end

end MailSnapshot.Attachment
