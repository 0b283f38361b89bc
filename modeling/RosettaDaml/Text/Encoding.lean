/-
This file turns texts into bytes and back. A half of a surrogate pair has no bytes.
-/

import RosettaDaml.Text.Quoted

namespace RosettaDaml.Text

/-- The first halves of surrogate pairs in a text: where they begin, the first one, and how many
there are in a row. -/
structure EncodingFault where
  position : Nat
  first : Nat
  count : Nat
  deriving DecidableEq, Repr

def EncodingFault.message (fault : EncodingFault) : String :=
  let place :=
    if fault.count = 1 then
      s!"character '\\u{String.ofList (hexDigits 4 fault.first)}' in position {fault.position}"
    else s!"characters in position {fault.position}-{fault.position + fault.count - 1}"
  s!"'utf-8' codec can't encode {place}: surrogates not allowed"

def encodingFaultFrom? (position : Nat) : List Place → Option EncodingFault
  | [] => none
  | .plain _ :: rest => encodingFaultFrom? (position + 1) rest
  | .half number :: rest =>
      some ⟨position, (Place.half number).code, 1 + (rest.takeWhile Place.isHalf).length⟩

/-- The first halves in a text, if it has any. -/
def encodingFault? (text : String) : Option EncodingFault :=
  encodingFaultFrom? 0 (places text.toList)

/-- A text that holds the characters of a string. -/
def ofString (string : String) : String := String.ofList (ofChars string.toList)

/-- The string of the characters in a text, without its halves. -/
def charText (text : String) : String :=
  String.ofList ((places text.toList).filterMap Place.char?)

def encode (text : String) : Except EncodingFault ByteArray :=
  match encodingFault? text with
  | some fault => .error fault
  | none => .ok (charText text).toUTF8

/-- The text of bytes that are well-formed. -/
def decode? (bytes : ByteArray) : Option String := (String.fromUTF8? bytes).map ofString

end RosettaDaml.Text
