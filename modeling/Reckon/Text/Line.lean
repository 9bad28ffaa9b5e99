/-!
Contract: the lines of a byte stream.

Owns:
- the characters of the Unicode property White_Space, and the texts made of nothing else;
- where a line ends and which bytes belong to it;
- the decoding of a line as UTF-8, and the bytes of a text;
- the texts that a line can hold.

Does not own: what a line means, and where a blank one is skipped.
-/

set_option autoImplicit false

namespace Reckon

/-! ## Blank texts -/

namespace Text

/-- The Unicode property White_Space: 25 characters, wider than ASCII white space. -/
def isWhiteSpace (character : Char) : Bool :=
  let code := character.toNat
  (0x9 ≤ code && code ≤ 0xd) || code == 0x20 || code == 0x85 || code == 0xa0 || code == 0x1680 ||
    (0x2000 ≤ code && code ≤ 0x200a) || code == 0x2028 || code == 0x2029 || code == 0x202f ||
    code == 0x205f || code == 0x3000

/-- Nothing is left of a blank text once white space is trimmed. -/
def isBlank (text : String) : Bool :=
  text.toList.all isWhiteSpace

end Text

/-! ## Lines -/

namespace Text.Line

def newline : UInt8 := 0x0a

/-- The byte that does not belong to a line if it stands right before the newline. -/
def carriageReturn : UInt8 := 0x0d

/-- Without one carriage return at the front. -/
def dropCarriageReturn : List UInt8 → List UInt8
  | byte :: rest => if byte = carriageReturn then rest else byte :: rest
  | [] => []

/-- The lines of a stream whose first bytes, last one first, were taken in already.  What stands
after the last newline is a line only if it holds a byte, and it keeps a carriage return at its end.
-/
def splitAfter (taken : List UInt8) : List UInt8 → List (List UInt8)
  | [] => if taken.isEmpty then [] else [taken.reverse]
  | byte :: rest =>
      if byte = newline then (dropCarriageReturn taken).reverse :: splitAfter [] rest
      else splitAfter (byte :: taken) rest

/-- The lines of a stream, without the bytes that end them. -/
def split (bytes : List UInt8) : List (List UInt8) := splitAfter [] bytes

/-- The text of a line, if its bytes are UTF-8. -/
def decode? (bytes : List UInt8) : Option String := String.fromUTF8? ⟨bytes.toArray⟩

/-- The bytes of a text in UTF-8. -/
def encode (text : String) : List UInt8 := text.toUTF8.data.toList

/-- A text that stands in a stream as one line, to its last character. -/
def IsUnbroken (text : String) : Prop :=
  '\n' ∉ text.toList ∧ text.toList.getLast? ≠ some '\r'

instance (text : String) : Decidable (IsUnbroken text) :=
  inferInstanceAs (Decidable (_ ∧ _))

end Text.Line

end Reckon
