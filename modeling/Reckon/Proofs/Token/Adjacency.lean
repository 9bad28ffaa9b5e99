import Reckon.Proofs.Run
import Reckon.Token.WellFormed

/-!
Contract: token lists in which neighbours agree, cut at any place.

Owns:
- the stretches of a well-formed list, from the kind before to the kind of the last token;
- the characters that a token list spells, and those that a token may be spelled with;
- the digits at the front of a number, cut off from what follows them.

Does not own: where a stretch comes from.  `wellFormed_iff` says that a stretch from the start to a
kind that may end is all there is to well-formedness.
-/

set_option autoImplicit false

namespace Reckon

namespace Token

/-- The lexemes of tokens, one after the other. -/
def characters (tokens : List Token) : List Char :=
  tokens.flatMap fun token => token.lexeme.toList

@[simp]
theorem characters_nil : characters [] = [] := rfl

@[simp]
theorem characters_cons (token : Token) (tokens : List Token) :
    characters (token :: tokens) = token.lexeme.toList ++ characters tokens := rfl

@[simp]
theorem characters_append (left right : List Token) :
    characters (left ++ right) = characters left ++ characters right := by
  simp [characters]

@[simp]
theorem toList_lexeme_operator (symbol : Char) :
    (Token.operator symbol).lexeme.toList = [symbol] := by
  simp [Token.operator]

theorem toList_join_lexemes (tokens : List Token) :
    (String.join (tokens.map lexeme)).toList = characters tokens := by
  simp [characters, List.flatMap_map]

/-- Apart from parentheses, tokens are spelled with digits, points and operator symbols. -/
theorem IsSpelled.mem_lexeme {token : Token} (spelled : token.IsSpelled)
    (other : token.isParenthesis = false) {character : Char}
    (member : character ∈ token.lexeme.toList) :
    character.isDigit ∨ character = '.' ∨ ∃ operator : Operator, character = operator.symbol := by
  obtain ⟨lexeme, kind⟩ := token
  cases kind with
  | integer => exact .inl (spelled.2 character member)
  | floatingPoint =>
      obtain ⟨whole, fraction, wholeDigits, fractionDigits, lexemeEq⟩ := spelled
      rw [lexemeEq] at member
      rcases List.mem_append.1 member with inWhole | afterWhole
      · exact .inl (wholeDigits.2 character inWhole)
      · rcases List.mem_cons.1 afterWhole with point | inFraction
        · exact .inr (.inl point)
        · exact .inl (fractionDigits.2 character inFraction)
  | unaryMinus =>
      cases spelled
      exact .inr (.inr ⟨.subtract, List.mem_singleton.1 member⟩)
  | operator =>
      obtain ⟨operator, tokenEq⟩ := spelled
      rw [tokenEq, toList_lexeme_operator] at member
      exact .inr (.inr ⟨operator, List.mem_singleton.1 member⟩)
  | leftParenthesis => cases other
  | rightParenthesis => cases other

/-- A number starts with a digit. -/
theorem IsSpelled.exists_digit {number : Token} (spelled : number.IsSpelled)
    (isNumber : number.isNumber) :
    ∃ digit rest, digit.isDigit ∧ number.lexeme.toList = digit :: rest := by
  obtain ⟨lexeme, kind⟩ := number
  rcases isNumber_iff.1 isNumber with rfl | rfl
  · exact IsDigits.exists_digit spelled
  · exact IsPointed.exists_digit spelled

/-- Tokens that are spelled as their kinds demand and may stand one after the other, from a token of
one kind to a last token of another. -/
def Leads : Option Kind → List Token → Option Kind → Prop
  | previous, [], last => previous = last
  | previous, token :: rest, last =>
      Kind.mayFollow previous token.kind ∧ token.IsSpelled ∧ Leads (some token.kind) rest last

theorem leads_append {previous last : Option Kind} {left right : List Token} :
    Leads previous (left ++ right) last ↔
      ∃ middle, Leads previous left middle ∧ Leads middle right last := by
  induction left generalizing previous with
  | nil =>
      constructor
      · intro leads
        exact ⟨previous, rfl, leads⟩
      · rintro ⟨middle, rfl, leads⟩
        exact leads
  | cons token rest inductionHypothesis =>
      simp only [List.cons_append, Leads, inductionHypothesis]
      constructor
      · rintro ⟨follows, spelled, middle, leftLeads, rightLeads⟩
        exact ⟨middle, ⟨follows, spelled, leftLeads⟩, rightLeads⟩
      · rintro ⟨middle, ⟨follows, spelled, leftLeads⟩, rightLeads⟩
        exact ⟨follows, spelled, middle, leftLeads, rightLeads⟩

/-- One more token at the end of a stretch. -/
theorem Leads.concat {previous middle : Option Kind} {tokens : List Token} {token : Token}
    (leads : Leads previous tokens middle) (follows : Kind.mayFollow middle token.kind)
    (spelled : token.IsSpelled) : Leads previous (tokens ++ [token]) (some token.kind) :=
  leads_append.2 ⟨middle, leads, follows, spelled, rfl⟩

/-- The operators of spelled tokens name one. -/
theorem IsSpelled.operator?_ne_none {token : Token} (spelled : token.IsSpelled)
    (kind : token.kind = .operator) : token.operator? ≠ none := by
  obtain ⟨lexeme, _⟩ := token
  cases kind
  obtain ⟨operator, tokenEq⟩ := spelled
  simp [tokenEq]

theorem Leads.isSpelled {previous last : Option Kind} {tokens : List Token}
    (leads : Leads previous tokens last) : ∀ token ∈ tokens, token.IsSpelled := by
  induction tokens generalizing previous with
  | nil => simp
  | cons token rest inductionHypothesis =>
      obtain ⟨_, spelled, restLeads⟩ := leads
      intro other member
      rcases List.mem_cons.1 member with rfl | inRest
      · exact spelled
      · exact inductionHypothesis restLeads other inRest

/-- A stretch ends in its last token, or where it started if it has none. -/
theorem Leads.kind_getLast? {previous last : Option Kind} {tokens : List Token}
    (leads : Leads previous tokens last) : (tokens.getLast?.map kind).or previous = last := by
  induction tokens generalizing previous with
  | nil => exact leads
  | cons token rest inductionHypothesis =>
      obtain ⟨_, _, restLeads⟩ := leads
      rw [← inductionHypothesis restLeads, List.getLast?_cons]
      cases rest.getLast? <;> rfl

theorem wellFormedAfter_iff {previous : Option Kind} {tokens : List Token} :
    WellFormedAfter previous tokens ↔
      ∃ kind, Leads previous tokens (some kind) ∧ kind.mayEnd := by
  induction tokens generalizing previous with
  | nil => exact Iff.rfl
  | cons token rest inductionHypothesis =>
      simp only [WellFormedAfter, Leads, inductionHypothesis]
      constructor
      · rintro ⟨follows, spelled, kind, leads, ends⟩
        exact ⟨kind, ⟨follows, spelled, leads⟩, ends⟩
      · rintro ⟨kind, ⟨follows, spelled, leads⟩, ends⟩
        exact ⟨follows, spelled, kind, leads, ends⟩

theorem wellFormed_iff {tokens : List Token} :
    WellFormed tokens ↔ ∃ kind, Leads none tokens (some kind) ∧ kind.mayEnd :=
  wellFormedAfter_iff

theorem WellFormed.isSpelled {tokens : List Token} (wellFormed : WellFormed tokens) :
    ∀ token ∈ tokens, token.IsSpelled := by
  obtain ⟨_, leads, _⟩ := wellFormed_iff.1 wellFormed
  exact leads.isSpelled

namespace Kind

/-- What stands after a complete operand is a right parenthesis or an operator. -/
theorem mayFollow_of_mayEnd {kind : Kind} (ends : kind.mayEnd) :
    mayFollow (some kind) .rightParenthesis ∧ mayFollow (some kind) .operator := by
  cases kind <;> first | exact ⟨rfl, rfl⟩ | cases ends

/-- Nothing else stands there. -/
theorem eq_of_mayFollow_of_mayEnd {kind next : Kind} (ends : kind.mayEnd)
    (follows : mayFollow (some kind) next) : next = .operator ∨ next = .rightParenthesis := by
  revert ends follows
  cases kind <;> cases next <;> decide

/-- A number stands where a number of the other kind stands. -/
theorem mayFollow_floatingPoint (previous : Option Kind) :
    mayFollow previous .floatingPoint = mayFollow previous .integer := by
  rcases previous with _ | kind
  · rfl
  · cases kind <;> rfl

/-- A number stands wherever a left parenthesis stands. -/
theorem mayFollow_integer_of_leftParenthesis {previous : Option Kind}
    (follows : mayFollow previous .leftParenthesis) : mayFollow previous .integer := by
  rcases previous with _ | kind
  · rfl
  · cases kind <;> first | rfl | cases follows

end Kind

end Token

/-! ## Digits -/

namespace IsDigits

variable {digits : List Char}

theorem takeWhile_eq (isDigits : IsDigits digits) : digits.takeWhile Char.isDigit = digits :=
  List.takeWhile_eq_self_iff.2 isDigits.2

theorem dropWhile_eq (isDigits : IsDigits digits) : digits.dropWhile Char.isDigit = [] :=
  List.dropWhile_eq_nil_iff.2 isDigits.2

theorem not_isDigit_point (fraction : List Char) :
    ∀ character ∈ ('.' :: fraction).head?, character.isDigit = false := by
  simp

theorem takeWhile_point (isDigits : IsDigits digits) (fraction : List Char) :
    (digits ++ '.' :: fraction).takeWhile Char.isDigit = digits :=
  takeWhile_append_of_boundary isDigits.2 (not_isDigit_point fraction)

theorem dropWhile_point (isDigits : IsDigits digits) (fraction : List Char) :
    (digits ++ '.' :: fraction).dropWhile Char.isDigit = '.' :: fraction :=
  dropWhile_append_of_boundary isDigits.2 (not_isDigit_point fraction)

end IsDigits

end Reckon
