/-!
# UTF-8

Text as bytes and bytes as text. Encoding never fails. Decoding stops at the first byte sequence
that no character has, and says where that sequence starts, how many bytes of it had been
accepted, and what is wrong with it.
-/

namespace Pinpoint.Text

/-- The bytes of a text. -/
def encodeUtf8 (text : List Char) : List UInt8 :=
  text.flatMap String.utf8EncodeChar

/-- What is wrong with a byte sequence. -/
inductive Utf8Fault where
  /-- The first byte starts no character. -/
  | invalidStart
  /-- A later byte does not continue the character. -/
  | invalidContinuation
  /-- The bytes end before the character does. -/
  | unexpectedEnd
  deriving BEq, DecidableEq, Repr

/-- The first undecodable sequence of a byte string. -/
structure Utf8Error where
  /-- The position of the first byte of the sequence. -/
  start : Nat
  /-- The first byte of the sequence. -/
  byte : UInt8
  /-- The number of bytes that the sequence spans, at least one. -/
  length : Nat
  fault : Utf8Fault
  deriving BEq, DecidableEq, Repr

/-- What the first byte of a character promises: the bits it holds, the number of bytes that
follow, and the range in which the first of them lies. The ranges rule out overlong forms,
surrogates and code points beyond U+10FFFF. -/
structure Lead where
  bits : Nat
  following : Nat
  low : UInt8
  high : UInt8
  deriving BEq, DecidableEq, Repr

/-- What a first byte promises; `none` for a byte that starts no character. -/
def lead? (byte : UInt8) : Option Lead :=
  let value := byte.toNat
  if value < 0x80 then some ⟨value, 0, 0x80, 0xBF⟩
  else if value < 0xC2 then none
  else if value < 0xE0 then some ⟨value - 0xC0, 1, 0x80, 0xBF⟩
  else if value = 0xE0 then some ⟨0, 2, 0xA0, 0xBF⟩
  else if value = 0xED then some ⟨0xD, 2, 0x80, 0x9F⟩
  else if value < 0xF0 then some ⟨value - 0xE0, 2, 0x80, 0xBF⟩
  else if value = 0xF0 then some ⟨0, 3, 0x90, 0xBF⟩
  else if value < 0xF4 then some ⟨value - 0xF0, 3, 0x80, 0xBF⟩
  else if value = 0xF4 then some ⟨4, 3, 0x80, 0x8F⟩
  else none

/-- Reads the bytes that continue a character: `missing` are still to come, the next one lies
between `low` and `high`, and `bits` is the code point so far. A failure carries the number of
bytes that were accepted. -/
def continuation (low high : UInt8) : (missing : Nat) → (bits : Nat) → List UInt8 →
    Except (Nat × Utf8Fault) (Nat × List UInt8)
  | 0, bits, rest => .ok (bits, rest)
  | _ + 1, _, [] => .error (0, .unexpectedEnd)
  | missing + 1, bits, byte :: rest =>
    if low ≤ byte ∧ byte ≤ high then
      match continuation 0x80 0xBF missing (bits * 64 + (byte.toNat - 0x80)) rest with
      | .ok result => .ok result
      | .error (accepted, fault) => .error (accepted + 1, fault)
    else .error (0, .invalidContinuation)

theorem continuation_length {low high : UInt8} {missing bits code : Nat}
    {bytes rest : List UInt8} (read : continuation low high missing bits bytes = .ok (code, rest)) :
    rest.length ≤ bytes.length := by
  fun_induction continuation low high missing bits bytes with
  | case1 => simp_all
  | case2 => simp at read
  | case3 low high missing bits byte bytes bounds result inner ih =>
    cases read
    have := ih inner
    simp only [List.length_cons]
    omega
  | case4 => simp at read
  | case5 => simp at read

/-- Reads a byte string as text. `position` is the number of bytes before it. -/
def decodeFrom (position : Nat) (bytes : List UInt8) : Except Utf8Error (List Char) :=
  match bytes with
  | [] => .ok []
  | byte :: following =>
    match lead? byte with
    | none => .error ⟨position, byte, 1, .invalidStart⟩
    | some lead =>
      match read : continuation lead.low lead.high lead.following lead.bits following with
      | .error (accepted, fault) => .error ⟨position, byte, accepted + 1, fault⟩
      | .ok (code, rest) =>
        have : rest.length ≤ following.length := continuation_length read
        match decodeFrom (position + (bytes.length - rest.length)) rest with
        | .ok text => .ok (Char.ofNat code :: text)
        | .error error => .error error
  termination_by bytes.length

/-- Reads a byte string as text. -/
def decodeUtf8 (bytes : List UInt8) : Except Utf8Error (List Char) :=
  decodeFrom 0 bytes

end Pinpoint.Text
