import Reckon.Calculator
import Reckon.Token

/-!
Contract: the texts that can still become an expression, and the characters that a message allows.

A message that refuses a character first says where it stands, and then, behind the words "be" or
"with", lists what may stand there instead.  Commas and the word "or" set the items of the list
apart.

Owns:
- the beginnings of a text, and the texts that some accepted text begins with;
- the classes of character that a message can name, and the characters of each;
- the reading of a message as a list of such classes.

Does not own: the automaton and its messages.  Nothing here refers to its phases.
-/

set_option autoImplicit false

namespace Reckon

/-! ## Viable texts -/

/-- The text that the first characters of a text make. -/
def Text.front (count : Nat) (text : String) : String :=
  String.ofList (text.toList.take count)

/-- Some text that begins with this one is accepted. -/
def Viable (text : String) : Prop :=
  ∃ rest tokens, (tokenize (text ++ rest)).outcome = .ok tokens

/-! ## Allowances -/

/-- A class of character that a message can name. -/
inductive Allowance where
  | digit
  | point
  | leftParenthesis
  | rightParenthesis
  | unaryMinus
  | operator
deriving DecidableEq, Repr

namespace Allowance

def covers : Allowance → Char → Bool
  | .digit, character => character.isDigit
  | .point, character => character == '.'
  | .leftParenthesis, character => character == '('
  | .rightParenthesis, character => character == ')'
  | .unaryMinus, character => character == '-'
  | .operator, character => ['+', '-', '*', '/', '^'].contains character

/-- Read the items of a list.  There is no reading if a word belongs to none. -/
def ofWords? : List String → Option (List Allowance)
  | [] => some []
  | "or" :: rest => ofWords? rest
  | "a" :: "digit" :: rest => (ofWords? rest).map (.digit :: ·)
  | "a" :: "point" :: rest => (ofWords? rest).map (.point :: ·)
  | "a" :: "left" :: "parenthesis" :: rest => (ofWords? rest).map (.leftParenthesis :: ·)
  | "a" :: "right" :: "parenthesis" :: rest => (ofWords? rest).map (.rightParenthesis :: ·)
  | "a" :: "unary" :: "minus" :: rest => (ofWords? rest).map (.unaryMinus :: ·)
  | "an" :: "operator" :: rest => (ofWords? rest).map (.operator :: ·)
  | _ => none

/-- The words of a message, without its commas. -/
def words (characters : List Char) : List String :=
  (Token.fields (characters.filter (· ≠ ','))).map String.ofList

def ofCharacters? (characters : List Char) : Option (List Allowance) :=
  ofWords? (((words characters).dropWhile fun word => word != "be" && word != "with").drop 1)

/-- Read what a message allows. -/
def ofMessage? (message : String) : Option (List Allowance) := ofCharacters? message.toList

/-- A message that is written out is read by its characters, which need not be decoded. -/
theorem ofMessage?_ofList (characters : List Char) :
    ofMessage? (String.ofList characters) = ofCharacters? characters := by
  rw [ofMessage?, String.toList_ofList]

end Allowance

end Reckon
