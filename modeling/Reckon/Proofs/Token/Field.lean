import Reckon.Proofs.Token.Adjacency
import Reckon.Token

/-!
Contract: a line of lexemes is read back as the tokens that it was written for.

Owns:
- the tokens that share a field of a line, and the token lists that are cut into such fields;
- the line of such a list, field by field, the white space in it, and its reading;
- that well-formed lists are cut into fields.

Does not own: other token lists.  A unary minus that no number stands after is not read back.
-/

set_option autoImplicit false

namespace Reckon.Token

/-- The tokens of one field: a token on its own, or a unary minus with the number after it. -/
inductive IsField : List Token → Prop where
  | single {token : Token} (spelled : token.IsSpelled) (other : token.kind ≠ .unaryMinus) :
      IsField [token]
  | negated {number : Token} (spelled : number.IsSpelled) (isNumber : number.isNumber) :
      IsField [.unaryMinus, number]

/-- The tokens are cut into fields. -/
def InFields (tokens : List Token) : Prop :=
  ∃ cut : List (List Token), (∀ field ∈ cut, IsField field) ∧ cut.flatten = tokens

theorem inFields_nil : InFields [] :=
  ⟨[], by simp, rfl⟩

theorem IsField.inFields {field : List Token} (isField : IsField field) : InFields field :=
  ⟨[field], by simpa using isField, by simp⟩

theorem inFields_operator (operator : Operator) : InFields [.operator operator.symbol] := by
  have spelled : (Token.operator operator.symbol).IsSpelled := ⟨operator, rfl⟩
  have other : (Token.operator operator.symbol).kind ≠ .unaryMinus := by
    simp [Token.operator]
  exact (IsField.single spelled other).inFields

theorem InFields.append {left right : List Token} (leftFields : InFields left)
    (rightFields : InFields right) : InFields (left ++ right) := by
  obtain ⟨leftCut, leftAre, rfl⟩ := leftFields
  obtain ⟨rightCut, rightAre, rfl⟩ := rightFields
  exact ⟨leftCut ++ rightCut, List.forall_mem_append.2 ⟨leftAre, rightAre⟩, List.flatten_append⟩

theorem IsField.ne_nil {field : List Token} (isField : IsField field) : field ≠ [] := by
  cases isField <;> simp

/-- The unary minus that stands before a stretch of tokens, if one does. -/
def minusBefore (previous : Option Kind) : List Token :=
  if previous = some .unaryMinus then [.unaryMinus] else []

theorem minusBefore_of_ne {kind : Kind} (other : kind ≠ .unaryMinus) :
    minusBefore (some kind) = [] := by
  simp [minusBefore, other]

theorem isNumber_of_mayFollow_unaryMinus {token : Token}
    (follows : Kind.mayFollow (some .unaryMinus) token.kind) : token.isNumber := by
  obtain ⟨lexeme, kind⟩ := token
  cases kind <;> first | rfl | cases follows

/-- A unary minus waits for its number, which is next to it.  Therefore the minus that stands before
a stretch is part of what is cut. -/
theorem inFields_of_wellFormedAfter {previous : Option Kind} {tokens : List Token}
    (wellFormed : WellFormedAfter previous tokens) :
    InFields (minusBefore previous ++ tokens) := by
  induction tokens generalizing previous with
  | nil =>
      obtain ⟨kind, rfl, ends⟩ := wellFormed
      have other : kind ≠ .unaryMinus := by
        rintro rfl
        cases ends
      rw [minusBefore_of_ne other]
      exact inFields_nil
  | cons token rest inductionHypothesis =>
      obtain ⟨follows, spelled, restWellFormed⟩ := wellFormed
      have restFields := inductionHypothesis restWellFormed
      by_cases minus : previous = some .unaryMinus
      · subst minus
        have isNumber := isNumber_of_mayFollow_unaryMinus follows
        rw [minusBefore_of_ne (kind_ne_unaryMinus_of_isNumber isNumber)] at restFields
        exact (IsField.negated spelled isNumber).inFields.append restFields
      · rw [minusBefore, if_neg minus]
        by_cases other : token.kind = .unaryMinus
        · have tokenEq : token = .unaryMinus := by
            simpa only [IsSpelled, other] using spelled
          rw [tokenEq] at restFields ⊢
          exact restFields
        · rw [minusBefore_of_ne other] at restFields
          exact (IsField.single spelled other).inFields.append restFields

theorem WellFormed.inFields {tokens : List Token} (wellFormed : WellFormed tokens) :
    InFields tokens :=
  inFields_of_wellFormedAfter wellFormed

/-! ## Lines -/

theorem isWhitespace_of_isDigit {character : Char} (isDigit : character.isDigit) :
    character.isWhitespace = false := by
  apply Bool.eq_false_iff.2
  intro whitespace
  simp only [Char.isWhitespace, Bool.or_eq_true, decide_eq_true_eq] at whitespace
  rcases whitespace with ((rfl | rfl) | rfl) | rfl <;> cases isDigit

/-- No token is spelled with white space. -/
theorem IsSpelled.isWhitespace_of_mem {token : Token} (spelled : token.IsSpelled) {character : Char}
    (member : character ∈ token.lexeme.toList) : character.isWhitespace = false := by
  by_cases parenthesis : token.isParenthesis
  · have tokenEq : token = .leftParenthesis ∨ token = .rightParenthesis := by
      obtain ⟨lexeme, kind⟩ := token
      cases kind <;> first | exact .inl spelled | exact .inr spelled | cases parenthesis
    rcases tokenEq with rfl | rfl
    · rw [List.mem_singleton.1 member]
      rfl
    · rw [List.mem_singleton.1 member]
      rfl
  · rcases spelled.mem_lexeme (by simpa using parenthesis) member with
      digit | rfl | ⟨operator, rfl⟩
    · exact isWhitespace_of_isDigit digit
    · rfl
    · cases operator <;> rfl

theorem IsSpelled.blank_notMem {token : Token} (spelled : token.IsSpelled) :
    ' ' ∉ token.lexeme.toList := by
  intro member
  cases spelled.isWhitespace_of_mem member

theorem IsField.blank_notMem {field : List Token} (isField : IsField field) :
    ' ' ∉ characters field := by
  cases isField with
  | single spelled other => simpa using spelled.blank_notMem
  | negated spelled isNumber => simpa [unaryMinus] using spelled.blank_notMem

theorem toList_spaced_singleton (token : Token) : (spaced [token]).toList = token.lexeme.toList :=
  rfl

theorem toList_spaced_cons {token : Token} {rest : List Token} (nonempty : rest ≠ []) :
    (spaced (token :: rest)).toList =
      token.lexeme.toList ++ (if token.kind = .unaryMinus then [] else [' ']) ++
        (spaced rest).toList := by
  rw [spaced, String.toList_append, String.toList_append]
  · split <;> rfl
  · exact nonempty

/-- The spaces of a line that are in no lexeme are all there is beside the lexemes. -/
theorem filter_spaced (tokens : List Token) :
    (spaced tokens).toList.filter (· ≠ ' ') = (characters tokens).filter (· ≠ ' ') := by
  induction tokens with
  | nil => rfl
  | cons token rest inductionHypothesis =>
      by_cases last : rest = []
      · subst last
        simp [toList_spaced_singleton]
      · have separatorRemoved :
            (if token.kind = .unaryMinus then [] else [' ']).filter (· ≠ ' ') = [] := by
          split <;> rfl
        rw [toList_spaced_cons last, characters_cons, List.filter_append, List.filter_append,
          List.filter_append, separatorRemoved, inductionHypothesis, List.append_nil]

/-- There is no white space but spaces in a line of spelled tokens. -/
theorem isWhitespace_of_mem_spaced {tokens : List Token} (spelled : ∀ token ∈ tokens, token.IsSpelled)
    {character : Char} (member : character ∈ (spaced tokens).toList) (other : character ≠ ' ') :
    character.isWhitespace = false := by
  have kept : character ∈ (spaced tokens).toList.filter (· ≠ ' ') :=
    List.mem_filter.2 ⟨member, decide_eq_true other⟩
  rw [filter_spaced] at kept
  obtain ⟨token, tokenMember, inLexeme⟩ := List.mem_flatMap.1 (List.mem_filter.1 kept).1
  exact (spelled token tokenMember).isWhitespace_of_mem inLexeme

/-- Without its spaces a line of spelled tokens holds what they spell. -/
theorem filter_spaced_of_isSpelled {tokens : List Token}
    (spelled : ∀ token ∈ tokens, token.IsSpelled) :
    (spaced tokens).toList.filter (· ≠ ' ') = characters tokens := by
  rw [filter_spaced, List.filter_eq_self]
  intro character member
  obtain ⟨token, tokenMember, inLexeme⟩ := List.mem_flatMap.1 member
  have notBlank : character ≠ ' ' := by
    rintro rfl
    exact (spelled token tokenMember).blank_notMem inLexeme
  exact decide_eq_true notBlank

theorem IsField.toList_spaced {field : List Token} (isField : IsField field) :
    (spaced field).toList = characters field := by
  cases isField with
  | single spelled other => simp [toList_spaced_singleton]
  | negated spelled isNumber =>
      rw [toList_spaced_cons (by simp), toList_spaced_singleton]
      simp [unaryMinus]

/-- A space stands after a field that is not the last one. -/
theorem IsField.toList_spaced_append {field rest : List Token} (isField : IsField field)
    (nonempty : rest ≠ []) :
    (spaced (field ++ rest)).toList = characters field ++ ' ' :: (spaced rest).toList := by
  cases isField with
  | single spelled other =>
      rw [List.singleton_append, toList_spaced_cons nonempty, if_neg other]
      simp
  | negated spelled isNumber =>
      rw [List.cons_append, List.singleton_append, toList_spaced_cons (by simp),
        toList_spaced_cons nonempty, if_neg (kind_ne_unaryMinus_of_isNumber isNumber)]
      simp [unaryMinus]

/-- The line of a list that is cut into fields has a space between any two of them, and no other. -/
theorem toList_spaced_flatten {cut : List (List Token)} (areFields : ∀ field ∈ cut, IsField field) :
    (spaced cut.flatten).toList = [' '].intercalate (cut.map characters) := by
  induction cut with
  | nil => rfl
  | cons field others inductionHypothesis =>
      obtain ⟨isField, othersAre⟩ := List.forall_mem_cons.1 areFields
      cases others with
      | nil => simpa using isField.toList_spaced
      | cons next later =>
          have nonempty : (next :: later).flatten ≠ [] := by
            simp [(othersAre next (by simp)).ne_nil]
          rw [List.flatten_cons, isField.toList_spaced_append nonempty,
            inductionHypothesis othersAre]
          simp [List.intercalate_cons_cons]

/-! ## Reading -/

theorem fields_eq_splitOn (text : List Char) : fields text = text.splitOn ' ' := by
  induction text with
  | nil => rfl
  | cons character rest inductionHypothesis =>
      rw [fields, inductionHypothesis, List.splitOn_cons_eq_if_modifyHead]
      by_cases blank : character = ' '
      · simp [blank]
      · rw [if_neg blank, if_neg (by simpa using blank)]
        cases split : rest.splitOn ' ' with
        | nil => exact absurd split (List.splitOn_ne_nil ' ' rest)
        | cons first others => rfl

theorem ofDigitField?_digits {digits : List Char} (isDigits : IsDigits digits) :
    ofDigitField? digits = some (.integer (String.ofList digits)) := by
  obtain ⟨digit, rest, _, digitsEq⟩ := isDigits.exists_digit
  unfold ofDigitField?
  rw [isDigits.takeWhile_eq, isDigits.dropWhile_eq, digitsEq]

theorem ofDigitField?_pointed {whole fraction : List Char} (wholeDigits : IsDigits whole)
    (fractionDigits : IsDigits fraction) :
    ofDigitField? (whole ++ '.' :: fraction) =
      some (.floatingPoint (String.ofList (whole ++ '.' :: fraction))) := by
  obtain ⟨digit, rest, _, wholeEq⟩ := wholeDigits.exists_digit
  unfold ofDigitField?
  rw [wholeDigits.takeWhile_point, wholeDigits.dropWhile_point, wholeEq]
  exact if_pos ⟨fractionDigits.1, List.all_eq_true.2 fractionDigits.2⟩

theorem ofDigitField?_of_isSpelled {number : Token} (spelled : number.IsSpelled)
    (isNumber : number.isNumber) : ofDigitField? number.lexeme.toList = some number := by
  obtain ⟨lexeme, kind⟩ := number
  rcases isNumber_iff.1 isNumber with rfl | rfl
  · rw [ofDigitField?_digits spelled, String.ofList_toList]
    rfl
  · obtain ⟨whole, fraction, wholeDigits, fractionDigits, lexemeEq⟩ := spelled
    rw [lexemeEq, ofDigitField?_pointed wholeDigits fractionDigits, ← lexemeEq,
      String.ofList_toList]
    rfl

theorem ofMark?_of_isDigit {digit : Char} (isDigit : digit.isDigit) : ofMark? digit = none := by
  unfold ofMark?
  split
  · cases isDigit
  · cases isDigit
  · cases named : Operator.ofSymbol? digit with
    | none => rfl
    | some operator =>
        rw [← Operator.symbol_of_ofSymbol? named] at isDigit
        cases operator <;> cases isDigit

/-- A field that starts with a digit is a number or nothing. -/
theorem ofField?_of_isDigit {digit : Char} {rest : List Char} (isDigit : digit.isDigit) :
    ofField? (digit :: rest) = (ofDigitField? (digit :: rest)).map ([·]) := by
  unfold ofField?
  split
  · next fieldEq =>
      cases fieldEq
      rw [ofMark?_of_isDigit isDigit, Option.none_or]
  · next fieldEq =>
      cases fieldEq
      cases isDigit
  · rfl

theorem IsField.ofField?_characters {field : List Token} (isField : IsField field) :
    ofField? (characters field) = some field := by
  cases isField with
  | @single token spelled other =>
      by_cases isNumber : token.isNumber
      · obtain ⟨digit, rest, isDigit, lexemeEq⟩ := spelled.exists_digit isNumber
        rw [characters_cons, characters_nil, List.append_nil, lexemeEq,
          ofField?_of_isDigit isDigit, ← lexemeEq, ofDigitField?_of_isSpelled spelled isNumber]
        rfl
      · obtain ⟨lexeme, kind⟩ := token
        cases kind with
        | integer => exact absurd rfl isNumber
        | floatingPoint => exact absurd rfl isNumber
        | unaryMinus => exact absurd rfl other
        | operator =>
            obtain ⟨operator, tokenEq⟩ := spelled
            rw [tokenEq]
            cases operator <;> rfl
        | leftParenthesis =>
            cases spelled
            rfl
        | rightParenthesis =>
            cases spelled
            rfl
  | @negated number spelled isNumber =>
      obtain ⟨digit, rest, isDigit, lexemeEq⟩ := spelled.exists_digit isNumber
      have read := ofDigitField?_of_isSpelled spelled isNumber
      rw [lexemeEq] at read
      simp [unaryMinus, lexemeEq, ofField?, read]

theorem mapM_ofField?_characters {cut : List (List Token)}
    (areFields : ∀ field ∈ cut, IsField field) :
    (cut.map characters).mapM ofField? = some cut := by
  induction cut with
  | nil => rfl
  | cons field others inductionHypothesis =>
      obtain ⟨isField, othersAre⟩ := List.forall_mem_cons.1 areFields
      rw [List.map_cons, List.mapM_cons, isField.ofField?_characters,
        inductionHypothesis othersAre]
      rfl

/-- A line that is written for fields is read back.  An empty line is not: it has one empty field.
-/
theorem ofSpaced?_spaced {tokens : List Token} (inFields : InFields tokens)
    (nonempty : tokens ≠ []) : ofSpaced? (spaced tokens) = some tokens := by
  obtain ⟨cut, areFields, rfl⟩ := inFields
  have cutNonempty : cut.map characters ≠ [] := by
    rintro empty
    rw [List.map_eq_nil_iff.1 empty] at nonempty
    exact nonempty rfl
  have blankFree : ∀ field ∈ cut.map characters, ' ' ∉ field := by
    intro text member
    obtain ⟨field, fieldMember, rfl⟩ := List.mem_map.1 member
    exact (areFields field fieldMember).blank_notMem
  rw [ofSpaced?, fields_eq_splitOn, toList_spaced_flatten areFields,
    List.splitOn_intercalate ' ' blankFree cutNonempty, mapM_ofField?_characters areFields]
  rfl

end Reckon.Token
