/-!
Text as bytes. Decoding is strict: a byte sequence is text only if it is the encoding of that text,
so no overlong forms, no surrogates and nothing above the last code point.
-/
namespace Codemod

abbrev Bytes := List UInt8

def bytesOf (cs : List Char) : Bytes := cs.flatMap String.utf8EncodeChar

namespace Utf8

def continued? (b : UInt8) : Option Nat :=
  if 0x80 ≤ b && b ≤ 0xBF then some (b.toNat - 0x80) else none

def charFrom? (least value : Nat) : Option Char :=
  if least ≤ value && value.isValidChar then some (Char.ofNat value) else none

def first? : Bytes → Option (Char × Bytes)
  | [] => none
  | a :: rest =>
    if a < 0x80 then some (Char.ofNat a.toNat, rest)
    else if 0xC0 ≤ a && a < 0xE0 then
      match rest with
      | b :: rest => do
        let c ← charFrom? 0x80 ((a.toNat - 0xC0) * 64 + (← continued? b))
        return (c, rest)
      | _ => none
    else if 0xE0 ≤ a && a < 0xF0 then
      match rest with
      | b :: c :: rest => do
        let value := ((a.toNat - 0xE0) * 64 + (← continued? b)) * 64 + (← continued? c)
        return (← charFrom? 0x800 value, rest)
      | _ => none
    else if 0xF0 ≤ a && a < 0xF8 then
      match rest with
      | b :: c :: d :: rest => do
        let high := ((a.toNat - 0xF0) * 64 + (← continued? b)) * 64 + (← continued? c)
        return (← charFrom? 0x10000 (high * 64 + (← continued? d)), rest)
      | _ => none
    else none

def decodeFrom : Nat → Nat → List Char → Bytes → Except Nat (List Char)
  | _, _, done, [] => .ok done.reverse
  | 0, offset, _, _ => .error offset
  | fuel + 1, offset, done, bytes =>
    match first? bytes with
    | none => .error offset
    | some (c, rest) => decodeFrom fuel (offset + c.utf8Size) (c :: done) rest

/-- The text that the bytes encode, or the number of bytes before the first that encodes nothing. -/
def decode (bytes : Bytes) : Except Nat (List Char) := decodeFrom bytes.length 0 [] bytes

end Utf8

end Codemod
