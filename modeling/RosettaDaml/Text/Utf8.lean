/-
This file reads the characters at the front of bytes that need not be well-formed UTF-8.
-/

namespace RosettaDaml.Text.Utf8

/-- What stands at the front of some bytes. -/
inductive Front where
  | char (char : Char)
  /-- The byte behind as many others shows that there is no character. -/
  | broken (seen : Nat)
  /-- The bytes end before the character does. -/
  | cut

/-- The number of bytes behind the first one of a character, the bits that this one gives, and the
bounds of the second byte. Longer forms of shorter characters and halves of surrogate pairs are
left out. -/
def leadOf? (byte : Nat) : Option (Nat × Nat × Nat × Nat) :=
  if 0xC2 ≤ byte && byte ≤ 0xDF then some (1, byte - 0xC0, 0x80, 0xBF)
  else if 0xE0 ≤ byte && byte ≤ 0xEF then
    some (2, byte - 0xE0, if byte = 0xE0 then 0xA0 else 0x80, if byte = 0xED then 0x9F else 0xBF)
  else if 0xF0 ≤ byte && byte ≤ 0xF4 then
    some (3, byte - 0xF0, if byte = 0xF0 then 0x90 else 0x80, if byte = 0xF4 then 0x8F else 0xBF)
  else none

/-- The bytes behind the first one. Only the second byte of a character has bounds of its own. -/
def tail (seen low high code : Nat) : Nat → List UInt8 → Front
  | 0, _ => .char (Char.ofNat code)
  | _ + 1, [] => .cut
  | missing + 1, byte :: rest =>
      if low ≤ byte.toNat && byte.toNat ≤ high then
        tail (seen + 1) 0x80 0xBF (64 * code + (byte.toNat - 0x80)) missing rest
      else .broken seen

def front : List UInt8 → Front
  | [] => .cut
  | byte :: rest =>
      if byte < 0x80 then .char (Char.ofNat byte.toNat)
      else
        match leadOf? byte.toNat with
        | none => .broken 0
        | some (missing, bits, low, high) => tail 1 low high bits missing rest

/-- The characters up to the first place without one, and how many bytes it takes to see that. -/
def decodeFrom (position : Nat) (chars : Array Char) : Nat → List UInt8 → Array Char × Nat
  | 0, _ => (chars, position)
  | _ + 1, [] => (chars, position)
  | fuel + 1, bytes =>
      match front bytes with
      | .char char =>
          decodeFrom (position + char.utf8Size) (chars.push char) fuel (bytes.drop char.utf8Size)
      | .broken seen => (chars, position + seen)
      | .cut => (chars, position + bytes.length)

def decode (bytes : List UInt8) : Array Char × Nat := decodeFrom 0 #[] bytes.length bytes

end RosettaDaml.Text.Utf8
