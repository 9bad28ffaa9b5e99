import Reckon.Proofs.ReversePolish.Arrangement
import Reckon.Proofs.Token.Adjacency
import Reckon.Token.Nesting

/-!
Contract: the balance of a text, read off its tokens.

Owns:
- balance inside parentheses that are open already, element by element;
- that spelled tokens are balanced exactly if the text they spell is.

Does not own: what becomes of tokens that are not balanced.
-/

set_option autoImplicit false

namespace Reckon

section Balance

variable {α : Type} {opens closes : α → Bool}

/-- Balance after so many openings that are not closed yet. -/
def BalancedFrom (opens closes : α → Bool) (depth : Nat) (elements : List α) : Prop :=
  (∀ count, (elements.take count).countP closes ≤ depth + (elements.take count).countP opens) ∧
    elements.countP closes = depth + elements.countP opens

theorem balancedFrom_zero {elements : List α} :
    BalancedFrom opens closes 0 elements ↔ Balanced opens closes elements := by
  simp [BalancedFrom, Balanced]

theorem balancedFrom_nil {depth : Nat} : BalancedFrom opens closes depth [] ↔ depth = 0 := by
  simp [BalancedFrom, eq_comm]

theorem balancedFrom_cons {depth : Nat} {element : α} {rest : List α} :
    BalancedFrom opens closes depth (element :: rest) ↔
      (closes element).toNat ≤ depth + (opens element).toNat ∧
        BalancedFrom opens closes (depth + (opens element).toNat - (closes element).toNat) rest := by
  have countCons : ∀ (test : α → Bool) (elements : List α),
      (element :: elements).countP test = elements.countP test + (test element).toNat := by
    intro test elements
    rw [List.countP_cons]
    cases test element <;> rfl
  unfold BalancedFrom
  constructor
  · intro ⟨prefixes, totals⟩
    have first := prefixes 1
    simp only [List.take_succ_cons, List.take_zero, countCons, List.countP_nil] at first
    refine ⟨by omega, ?_, ?_⟩
    · intro count
      have longer := prefixes (count + 1)
      simp only [List.take_succ_cons, countCons] at longer
      omega
    · simp only [countCons] at totals
      omega
  · intro ⟨first, prefixes, totals⟩
    refine ⟨?_, ?_⟩
    · intro count
      cases count with
      | zero => simp
      | succ count =>
          have shorter := prefixes count
          simp only [List.take_succ_cons, countCons]
          omega
    · simp only [countCons]
      omega

variable {depth : Nat} {element : α} {rest : List α}

theorem balancedFrom_cons_of_opens (opening : opens element = true)
    (stays : closes element = false) :
    BalancedFrom opens closes depth (element :: rest) ↔
      BalancedFrom opens closes (depth + 1) rest := by
  rw [balancedFrom_cons, opening, stays]
  exact and_iff_right (Nat.zero_le _)

theorem balancedFrom_cons_of_closes (stays : opens element = false)
    (closing : closes element = true) :
    BalancedFrom opens closes depth (element :: rest) ↔
      0 < depth ∧ BalancedFrom opens closes (depth - 1) rest := by
  rw [balancedFrom_cons, stays, closing]
  rfl

theorem balancedFrom_cons_of_neutral (opensNone : opens element = false)
    (closesNone : closes element = false) :
    BalancedFrom opens closes depth (element :: rest) ↔ BalancedFrom opens closes depth rest := by
  rw [balancedFrom_cons, opensNone, closesNone]
  exact and_iff_right (Nat.zero_le _)

theorem balancedFrom_append_of_neutral {neutral : List α}
    (opensNone : ∀ element ∈ neutral, opens element = false)
    (closesNone : ∀ element ∈ neutral, closes element = false) :
    BalancedFrom opens closes depth (neutral ++ rest) ↔ BalancedFrom opens closes depth rest := by
  induction neutral with
  | nil => rfl
  | cons element others inductionHypothesis =>
      rw [List.forall_mem_cons] at opensNone closesNone
      rw [List.cons_append, balancedFrom_cons_of_neutral opensNone.1 closesNone.1]
      exact inductionHypothesis opensNone.2 closesNone.2

end Balance

namespace Token

/-- Numbers are spelled without parentheses. -/
theorem not_parenthesis_of_isDigit {character : Char} (digit : character.isDigit) :
    (character == '(') = false ∧ (character == ')') = false := by
  refine ⟨beq_false_of_ne ?_, beq_false_of_ne ?_⟩
  · rintro rfl
    cases digit
  · rintro rfl
    cases digit

/-- Apart from parentheses, tokens are spelled without parentheses. -/
theorem IsSpelled.not_parenthesis {token : Token} (spelled : token.IsSpelled)
    (other : token.isParenthesis = false) :
    ∀ character ∈ token.lexeme.toList,
      (character == '(') = false ∧ (character == ')') = false := by
  intro character member
  rcases spelled.mem_lexeme other member with digit | rfl | ⟨operator, rfl⟩
  · exact not_parenthesis_of_isDigit digit
  · decide
  · cases operator <;> decide

end Token

/-- Balance of characters inside parentheses that are open already. -/
def BalancedCharacters (depth : Nat) (characters : List Char) : Prop :=
  BalancedFrom (fun character => character == '(') (fun character => character == ')') depth
    characters

theorem balancedCharacters_nil {depth : Nat} : BalancedCharacters depth [] ↔ depth = 0 :=
  balancedFrom_nil

theorem balancedCharacters_leftParenthesis {depth : Nat} {rest : List Char} :
    BalancedCharacters depth ('(' :: rest) ↔ BalancedCharacters (depth + 1) rest :=
  balancedFrom_cons_of_opens rfl rfl

theorem balancedCharacters_rightParenthesis {depth : Nat} {rest : List Char} :
    BalancedCharacters depth (')' :: rest) ↔ 0 < depth ∧ BalancedCharacters (depth - 1) rest :=
  balancedFrom_cons_of_closes rfl rfl

theorem balancedCharacters_lexeme {depth : Nat} {token : Token} {rest : List Char}
    (spelled : token.IsSpelled) (other : token.isParenthesis = false) :
    BalancedCharacters depth (token.lexeme.toList ++ rest) ↔ BalancedCharacters depth rest :=
  balancedFrom_append_of_neutral
    (fun character member => (spelled.not_parenthesis other character member).1)
    (fun character member => (spelled.not_parenthesis other character member).2)

/-! ## Tokens -/

/-- Balance of tokens inside parentheses that are open already. -/
def BalancedTokens (depth : Nat) (tokens : List Token) : Prop :=
  BalancedFrom ShuntingYard.opens ShuntingYard.closes depth tokens

theorem balancedTokens_nil {depth : Nat} : BalancedTokens depth [] ↔ depth = 0 :=
  balancedFrom_nil

theorem balancedTokens_leftParenthesis {depth : Nat} {rest : List Token} :
    BalancedTokens depth (.leftParenthesis :: rest) ↔ BalancedTokens (depth + 1) rest :=
  balancedFrom_cons_of_opens rfl rfl

theorem balancedTokens_rightParenthesis {depth : Nat} {rest : List Token} :
    BalancedTokens depth (.rightParenthesis :: rest) ↔
      0 < depth ∧ BalancedTokens (depth - 1) rest :=
  balancedFrom_cons_of_closes rfl rfl

/-- A token that is no parenthesis leaves the depth. -/
theorem balancedTokens_cons {depth : Nat} {token : Token} {rest : List Token}
    (other : token.isParenthesis = false) :
    BalancedTokens depth (token :: rest) ↔ BalancedTokens depth rest := by
  obtain ⟨opensNone, closesNone⟩ := Bool.or_eq_false_iff.1 other
  exact balancedFrom_cons_of_neutral opensNone closesNone

/-- Spelled tokens are balanced exactly if the text they spell is. -/
theorem balancedTokens_iff {tokens : List Token} (spelled : ∀ token ∈ tokens, token.IsSpelled)
    {depth : Nat} :
    BalancedTokens depth tokens ↔ BalancedCharacters depth (Token.characters tokens) := by
  induction tokens generalizing depth with
  | nil => rw [Token.characters_nil, balancedTokens_nil, balancedCharacters_nil]
  | cons token rest inductionHypothesis =>
      obtain ⟨tokenSpelled, restSpelled⟩ := List.forall_mem_cons.1 spelled
      have restIff : ∀ {depth}, BalancedTokens depth rest ↔
          BalancedCharacters depth (Token.characters rest) :=
        inductionHypothesis restSpelled
      rw [Token.characters_cons]
      by_cases other : token.isParenthesis = false
      · rw [balancedTokens_cons other, balancedCharacters_lexeme tokenSpelled other, restIff]
      · obtain ⟨lexeme, kind⟩ := token
        cases kind with
        | leftParenthesis =>
            cases tokenSpelled
            exact (balancedTokens_leftParenthesis.trans restIff).trans
              balancedCharacters_leftParenthesis.symm
        | rightParenthesis =>
            cases tokenSpelled
            exact (balancedTokens_rightParenthesis.trans (and_congr_right fun _ => restIff)).trans
              balancedCharacters_rightParenthesis.symm
        | _ => exact absurd rfl other

/-- The parentheses of a well-formed list pair up exactly if those of its text do. -/
theorem balancedTokens_iff_balancedText {tokens : List Token} {text : String}
    (wellFormed : Token.WellFormed tokens) (textEq : Token.characters tokens = text.toList) :
    BalancedTokens 0 tokens ↔ BalancedText text := by
  rw [BalancedText, ← textEq, ← balancedFrom_zero]
  exact balancedTokens_iff wellFormed.isSpelled

end Reckon
