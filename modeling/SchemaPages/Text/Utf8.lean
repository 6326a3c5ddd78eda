/-!
# UTF-8

`encode` writes a text as bytes and `decode` reads it back or reports the first fault: the bytes
that no character starts with or goes on with, or the unfinished character at the end. A fault
covers the bytes that are well formed so far, and its message shows a single byte by its value
and several by their positions.
-/

namespace SchemaPages.Text

/-- The content of a file or of a stream. -/
abbrev Bytes := List UInt8

namespace Utf8

/-! ### Writing -/

/-- The bytes of a character. -/
def encodeChar (c : Char) : Bytes :=
  let n := c.toNat
  if n < 0x80 then [n.toUInt8]
  else if n < 0x800 then [(0xC0 + n / 0x40).toUInt8, (0x80 + n % 0x40).toUInt8]
  else if n < 0x10000 then
    [(0xE0 + n / 0x1000).toUInt8, (0x80 + n / 0x40 % 0x40).toUInt8, (0x80 + n % 0x40).toUInt8]
  else
    [(0xF0 + n / 0x40000).toUInt8, (0x80 + n / 0x1000 % 0x40).toUInt8,
     (0x80 + n / 0x40 % 0x40).toUInt8, (0x80 + n % 0x40).toUInt8]

/-- The bytes of a text. -/
def encode (text : String) : Bytes :=
  text.toList.flatMap encodeChar

/-! ### Reading -/

/-- What is wrong at a fault. -/
inductive Reason where
  /-- No character starts with this byte. -/
  | start
  /-- The next byte does not continue the character. -/
  | continuation
  /-- The bytes end inside a character. -/
  | truncated
  deriving DecidableEq, Repr

/-- Bytes that are not UTF-8: `bytes`, from the position `offset` on. -/
structure Fault where
  offset : Nat
  bytes : Bytes
  reason : Reason
  deriving DecidableEq, Repr

/-- How many bytes follow a first byte, and the bounds of the one next to it. -/
def lead (b : UInt8) : Option (Nat × UInt8 × UInt8) :=
  if b < 0xC2 then none
  else if b < 0xE0 then some (1, 0x80, 0xBF)
  else if b = 0xE0 then some (2, 0xA0, 0xBF)
  else if b = 0xED then some (2, 0x80, 0x9F)
  else if b < 0xF0 then some (2, 0x80, 0xBF)
  else if b = 0xF0 then some (3, 0x90, 0xBF)
  else if b < 0xF4 then some (3, 0x80, 0xBF)
  else if b = 0xF4 then some (3, 0x80, 0x8F)
  else none

/-- The first bytes that continue a character, at most `count` of them, where the next one lies
between `low` and `high` and the others are any continuation bytes. -/
def tail (count : Nat) (low high : UInt8) : Bytes → Bytes
  | [] => []
  | b :: rest =>
    match count with
    | 0 => []
    | count + 1 => if low ≤ b && b ≤ high then b :: tail count 0x80 0xBF rest else []

/-- The code point of a first byte that `count` continuation bytes follow. -/
def codePoint (first : UInt8) (continuation : Bytes) : Nat :=
  let high := if first < 0xE0 then first.toNat - 0xC0
    else if first < 0xF0 then first.toNat - 0xE0 else first.toNat - 0xF0
  continuation.foldl (fun n b => n * 0x40 + (b.toNat - 0x80)) high

/-- Reads the bytes from the position `offset` on. The first argument counts the bytes of the
current character that are still to be passed. -/
def decodeFrom (offset : Nat) : Nat → Bytes → Except Fault (List Char)
  | _, [] => .ok []
  | passing + 1, _ :: rest => decodeFrom (offset + 1) passing rest
  | 0, b :: rest =>
    if b < 0x80 then (Char.ofNat b.toNat :: ·) <$> decodeFrom (offset + 1) 0 rest
    else
      match lead b with
      | none => .error ⟨offset, [b], .start⟩
      | some (count, low, high) =>
        let found := tail count low high rest
        if found.length = count then
          (Char.ofNat (codePoint b found) :: ·) <$> decodeFrom (offset + 1) count rest
        else if found.length = rest.length then .error ⟨offset, b :: found, .truncated⟩
        else .error ⟨offset, b :: found, .continuation⟩

/-- Reads a text, or reports the first fault. -/
def decode (bytes : Bytes) : Except Fault String :=
  String.ofList <$> decodeFrom 0 0 bytes

/-! ### Messages -/

/-- The text of a reason. -/
def Reason.message : Reason → String
  | .start => "invalid start byte"
  | .continuation => "invalid continuation byte"
  | .truncated => "unexpected end of data"

/-- A number as two lowercase hexadecimal digits. -/
def twoHexDigits (n : Nat) : String :=
  String.ofList [Nat.digitChar (n / 16 % 16), Nat.digitChar (n % 16)]

/-- The text of a fault: one byte is shown by its value, several by their positions. -/
def Fault.message (fault : Fault) : String :=
  let place := match fault.bytes with
    | [b] => "byte 0x" ++ twoHexDigits b.toNat ++ " in position " ++ toString fault.offset
    | bytes => "bytes in position " ++ toString fault.offset ++ "-" ++
        toString (fault.offset + bytes.length - 1)
  "'utf-8' codec can't decode " ++ place ++ ": " ++ fault.reason.message

example : decode [0x61, 0xC3, 0xA9] = .ok "aé" := rfl
example : decode [0x61, 0xE2, 0x28] = .error ⟨1, [0xE2], .continuation⟩ := rfl

end Utf8

end SchemaPages.Text
