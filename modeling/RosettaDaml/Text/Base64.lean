/-
This file reads bytes that are written in base 64. Characters outside the alphabet are passed over.
-/

namespace RosettaDaml.Text.Base64

def sextet? (char : Char) : Option Nat :=
  if 'A' ≤ char ∧ char ≤ 'Z' then some (char.toNat - 'A'.toNat)
  else if 'a' ≤ char ∧ char ≤ 'z' then some (char.toNat - 'a'.toNat + 26)
  else if '0' ≤ char ∧ char ≤ '9' then some (char.toNat - '0'.toNat + 52)
  else if char = '+' then some 62
  else if char = '/' then some 63
  else none

/-- The whole bytes in a group of at most four sextets. -/
def wholeBytes : List Nat → List UInt8
  | [first, second] => [UInt8.ofNat (first * 4 + second / 16)]
  | [first, second, third] =>
      [UInt8.ofNat (first * 4 + second / 16), UInt8.ofNat (second * 16 + third / 4)]
  | [first, second, third, fourth] =>
      [UInt8.ofNat (first * 4 + second / 16), UInt8.ofNat (second * 16 + third / 4),
        UInt8.ofNat (third * 64 + fourth)]
  | _ => []

/-- Reads on with a group that is not full yet and the number of pads behind it. Pads that fill the
group end the text; without them it must end with a full group. -/
def decodeFrom (group : List Nat) (pads : Nat) : List Char → Option (List UInt8)
  | [] => if group.isEmpty then some [] else none
  | char :: rest =>
      if char = '=' then
        if group.length < 2 then decodeFrom group pads rest
        else if 4 ≤ group.length + pads + 1 then some (wholeBytes group)
        else decodeFrom group (pads + 1) rest
      else
        match sextet? char with
        | none => decodeFrom group pads rest
        | some sextet =>
            if group.length = 3 then (decodeFrom [] 0 rest).map (wholeBytes (group ++ [sextet]) ++ ·)
            else decodeFrom (group ++ [sextet]) 0 rest

def decode? (chars : List Char) : Option (List UInt8) := decodeFrom [] 0 chars

end RosettaDaml.Text.Base64
