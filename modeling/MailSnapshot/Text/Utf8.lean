/-! UTF-8: reading bytes as characters, where and why that fails, and the size of a text. -/

namespace MailSnapshot.Text.Utf8

/-- Bytes that are not text: how many bytes before the bad place are good, and how long the bad
sequence is. There is no length when the bytes end inside a character. -/
structure Fault where
  start : Nat
  length : Option Nat
  deriving DecidableEq

namespace Fault

def message (f : Fault) : String :=
  match f.length with
  | some n => s!"invalid utf-8 sequence of {n} bytes from index {f.start}"
  | none => s!"incomplete utf-8 byte sequence from index {f.start}"

end Fault

def isContinuation (b : UInt8) : Bool := 0x80 ≤ b && b ≤ 0xBF

/-- How many bytes a character with this first byte has. -/
def width? (b : UInt8) : Option Nat :=
  if b < 0x80 then some 1
  else if 0xC2 ≤ b && b ≤ 0xDF then some 2
  else if 0xE0 ≤ b && b ≤ 0xEF then some 3
  else if 0xF0 ≤ b && b ≤ 0xF4 then some 4
  else none

/-- The second byte excludes the overlong forms, the surrogates and what lies above the last
character. -/
def mayFollow (first second : UInt8) : Bool :=
  if first = 0xE0 then 0xA0 ≤ second && second ≤ 0xBF
  else if first = 0xED then 0x80 ≤ second && second ≤ 0x9F
  else if first = 0xF0 then 0x90 ≤ second && second ≤ 0xBF
  else if first = 0xF4 then 0x80 ≤ second && second ≤ 0x8F
  else isContinuation second

def low (b : UInt8) : Nat := b.toNat % 64

/-- The characters of the bytes; `start` bytes were read before. -/
def decodeFrom (start : Nat) : List UInt8 → Except Fault (List Char)
  | [] => .ok []
  | a :: s =>
    match width? a with
    | none => .error ⟨start, some 1⟩
    | some 1 => (decodeFrom (start + 1) s).map (Char.ofNat a.toNat :: ·)
    | some width =>
      match s with
      | [] => .error ⟨start, none⟩
      | b :: s =>
        if !mayFollow a b then .error ⟨start, some 1⟩
        else if width = 2 then
          (decodeFrom (start + 2) s).map (Char.ofNat (a.toNat % 32 * 64 + low b) :: ·)
        else
          match s with
          | [] => .error ⟨start, none⟩
          | c :: s =>
            if !isContinuation c then .error ⟨start, some 2⟩
            else if width = 3 then
              (decodeFrom (start + 3) s).map
                (Char.ofNat (a.toNat % 16 * 4096 + low b * 64 + low c) :: ·)
            else
              match s with
              | [] => .error ⟨start, none⟩
              | d :: s =>
                if !isContinuation d then .error ⟨start, some 3⟩
                else
                  (decodeFrom (start + 4) s).map
                    (Char.ofNat (a.toNat % 8 * 262144 + low b * 4096 + low c * 64 + low d) :: ·)

def decode (bytes : List UInt8) : Except Fault String :=
  (decodeFrom 0 bytes).map String.ofList

/-- The characters of the bytes, where each bad sequence reads as a replacement character; `fuel`
is at least the number of bytes. -/
def decodeLossyFrom (fuel : Nat) (bytes : List UInt8) : List Char :=
  match fuel, decodeFrom 0 bytes with
  | _, .ok cs => cs
  | 0, .error _ => []
  | fuel + 1, .error f =>
    let good := ((decodeFrom 0 (bytes.take f.start)).toOption).getD []
    let rest := (f.length.map fun n => decodeLossyFrom fuel (bytes.drop (f.start + n))).getD []
    good ++ '\uFFFD' :: rest

def decodeLossy (bytes : List UInt8) : String :=
  String.ofList (decodeLossyFrom bytes.length bytes)

def encode (s : String) : List UInt8 := s.toUTF8.toList

/-- How many bytes the characters have. -/
def size : List Char → Nat
  | [] => 0
  | c :: s => c.utf8Size + size s

end MailSnapshot.Text.Utf8
