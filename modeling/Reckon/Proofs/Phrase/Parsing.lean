import Reckon.Proofs.Phrase.Grammar
import Reckon.Proofs.Token.Balance

/-!
Contract: the phrase of a well-formed token list whose parentheses pair up.

Owns:
- contexts, the tokens in front of a place for a phrase, with the operators and the parentheses that
  are still open there;
- the step from one token to the next, and the phrase that is left when the tokens end.

Does not own: that there is only one phrase.

A phrase that has been read is an atom at first.  It takes in the operators in front of it that bind
as tightly as what follows it, and no others: this makes every operator associate to the left.
-/

set_option autoImplicit false

namespace Reckon.Phrase

/-- `Context previous level depth before`: a phrase of a level fits after the tokens in `before`.
The last of these is of the kind `previous`, and `depth` parentheses are open. -/
inductive Context : Option Token.Kind → Nat → Nat → List Token → Prop where
  | whole : Context none 1 0 []
  | opened {previous : Option Token.Kind} {level depth : Nat} {before : List Token}
      (outer : Context previous level depth before) (anyPhrase : previous ≠ some .unaryMinus) :
      Context (some .leftParenthesis) 1 (depth + 1) (before ++ [.leftParenthesis])
  | negated {previous : Option Token.Kind} {level depth : Nat} {before : List Token}
      (outer : Context previous level depth before) (anyPhrase : previous ≠ some .unaryMinus) :
      Context (some .unaryMinus) 1 (depth + 1) (before ++ [.leftParenthesis, .unaryMinus])
  | operated {previous : Option Token.Kind} {level depth : Nat} {before : List Token}
      {operator : Operator} {left : Phrase} (outer : Context previous level depth before)
      (bindsEnough : level ≤ operator.precedence) (leftFits : left.Fits operator.precedence)
      (starts : previous = some .unaryMinus → left.startsWithNumber) :
      Context (some .operator) (operator.precedence + 1) depth
        (before ++ (left.tokens ++ [.operator operator.symbol]))

/-- `Filled target depth tokens`: the tokens end with a phrase of the level `target`, in a context
that takes phrases of this level. -/
inductive Filled (target depth : Nat) : List Token → Prop where
  | intro {previous : Option Token.Kind} {level : Nat} {before : List Token} {phrase : Phrase}
      (context : Context previous level depth before) (levelLe : level ≤ target)
      (fits : phrase.Fits target) (starts : previous = some .unaryMinus → phrase.startsWithNumber) :
      Filled target depth (before ++ phrase.tokens)

/-- A phrase takes in the operators in front of it that bind at least as tightly as a level. -/
theorem Context.absorb {previous : Option Token.Kind} {level depth target : Nat}
    {before : List Token} {phrase : Phrase} (context : Context previous level depth before)
    (positive : 1 ≤ target) (fits : phrase.Fits level) (fitsTarget : phrase.Fits target)
    (starts : previous = some .unaryMinus → phrase.startsWithNumber) :
    Filled target depth (before ++ phrase.tokens) := by
  induction context generalizing phrase with
  | whole => exact .intro .whole positive fitsTarget starts
  | opened outer anyPhrase => exact .intro (.opened outer anyPhrase) positive fitsTarget starts
  | negated outer anyPhrase => exact .intro (.negated outer anyPhrase) positive fitsTarget starts
  | @operated previous level depth before operator left outer bindsEnough leftFits leftStarts
      inductionHypothesis =>
      by_cases stays : operator.precedence + 1 ≤ target
      · exact .intro (.operated outer bindsEnough leftFits leftStarts) stays fitsTarget starts
      -- Otherwise the phrase is the right operand of the operator in front of it.
      · have targetLe : target ≤ operator.precedence := by omega
        have taken : Filled target depth (before ++ tokens (.binary operator left phrase)) :=
          inductionHypothesis ⟨bindsEnough, leftFits, fits⟩ ⟨targetLe, leftFits, fits⟩ leftStarts
        simpa [tokens] using taken

theorem Context.not_mayEnd {kind : Token.Kind} {level depth : Nat} {before : List Token}
    (context : Context (some kind) level depth before) : kind.mayEnd = false := by
  cases context <;> rfl

/-- `Progress previous depth done`: the tokens read so far, the last one of the kind `previous`,
await a phrase, or end with an atom. -/
inductive Progress : Option Token.Kind → Nat → List Token → Prop where
  | awaiting {previous : Option Token.Kind} {level depth : Nat} {done : List Token}
      (context : Context previous level depth done) : Progress previous depth done
  | complete {kind : Token.Kind} {depth : Nat} {done : List Token} (ends : kind.mayEnd)
      (filled : ∀ target, 1 ≤ target → Filled target depth done) : Progress (some kind) depth done

namespace Progress

theorem atom {kind : Token.Kind} {previous : Option Token.Kind} {level depth : Nat}
    {before : List Token} {phrase : Phrase} (ends : kind.mayEnd)
    (context : Context previous level depth before) (fits : ∀ target, phrase.Fits target)
    (starts : previous = some .unaryMinus → phrase.startsWithNumber) :
    Progress (some kind) depth (before ++ phrase.tokens) := by
  apply Progress.complete ends
  intro target positive
  exact context.absorb positive (fits level) (fits target) starts

/-- A token that may start a phrase is taken in where a phrase is awaited. -/
theorem step_awaiting {previous : Option Token.Kind} {level depth : Nat} {done rest : List Token}
    {token : Token} (context : Context previous level depth done)
    (follows : Token.Kind.mayFollow previous token.kind) (spelled : token.IsSpelled)
    (balanced : BalancedTokens depth (token :: rest)) :
    ∃ deeper, BalancedTokens deeper rest ∧
      Progress (some token.kind) deeper (done ++ [token]) := by
  obtain ⟨lexeme, kind⟩ := token
  cases kind with
  | integer =>
      have fits : ∀ target, Fits target (.number false lexeme) := fun _ => spelled
      exact ⟨depth, (balancedTokens_cons rfl).1 balanced, atom rfl context fits fun _ => rfl⟩
  | floatingPoint =>
      have fits : ∀ target, Fits target (.number true lexeme) := fun _ => spelled
      exact ⟨depth, (balancedTokens_cons rfl).1 balanced, atom rfl context fits fun _ => rfl⟩
  | leftParenthesis =>
      have anyPhrase : previous ≠ some .unaryMinus := by
        rintro rfl
        cases follows
      cases spelled
      exact ⟨depth + 1, balancedTokens_leftParenthesis.1 balanced,
        .awaiting (.opened context anyPhrase)⟩
  | unaryMinus =>
      cases spelled
      cases context with
      | opened outer anyPhrase =>
          refine ⟨_, (balancedTokens_cons rfl).1 balanced, ?_⟩
          rw [List.append_assoc]
          exact .awaiting (.negated outer anyPhrase)
      | whole => cases follows
      | negated => cases follows
      | operated => cases follows
  | operator => cases context <;> cases follows
  | rightParenthesis => cases context <;> cases follows

/-- After an atom comes an operator, or a right parenthesis that makes a new atom. -/
theorem step_complete {kind : Token.Kind} {depth : Nat} {done rest : List Token} {token : Token}
    (ends : kind.mayEnd) (filled : ∀ target, 1 ≤ target → Filled target depth done)
    (follows : Token.Kind.mayFollow (some kind) token.kind) (spelled : token.IsSpelled)
    (balanced : BalancedTokens depth (token :: rest)) :
    ∃ shallower, BalancedTokens shallower rest ∧
      Progress (some token.kind) shallower (done ++ [token]) := by
  obtain ⟨lexeme, tokenKind⟩ := token
  rcases Token.Kind.eq_of_mayFollow_of_mayEnd ends follows with isOperator | isParenthesis
  · cases isOperator
    obtain ⟨operator, tokenEq⟩ := spelled
    rw [tokenEq] at balanced ⊢
    obtain ⟨context, bindsEnough, fits, starts⟩ :=
      filled operator.precedence operator.precedence_pos
    refine ⟨depth, (balancedTokens_cons rfl).1 balanced, ?_⟩
    rw [List.append_assoc]
    exact .awaiting (.operated context bindsEnough fits starts)
  · cases isParenthesis
    cases spelled
    obtain ⟨inside, restBalanced⟩ := balancedTokens_rightParenthesis.1 balanced
    obtain @⟨_, _, _, phrase, context, atMostOne, fits, starts⟩ := filled 1 (Nat.le_refl 1)
    cases context with
    | whole => exact absurd inside (Nat.lt_irrefl 0)
    | @opened _ _ _ before outer anyPhrase =>
        have fitsAny : ∀ target, Fits target (.group phrase) := fun _ => fits
        have closed : Progress (some .rightParenthesis) _ (before ++ tokens (.group phrase)) :=
          atom rfl outer fitsAny (absurd · anyPhrase)
        refine ⟨_, restBalanced, ?_⟩
        simpa [tokens, Token.rightParenthesis] using closed
    | @negated _ _ _ before outer anyPhrase =>
        have fitsAny : ∀ target, Fits target (.negatedGroup phrase) := fun _ => ⟨starts rfl, fits⟩
        have closed :
            Progress (some .rightParenthesis) _ (before ++ tokens (.negatedGroup phrase)) :=
          atom rfl outer fitsAny (absurd · anyPhrase)
        refine ⟨_, restBalanced, ?_⟩
        simpa [tokens, Token.rightParenthesis] using closed
    | @operated _ _ _ _ operator =>
        have positive := operator.precedence_pos
        omega

/-- Progress goes on from token to token. -/
theorem step {previous : Option Token.Kind} {depth : Nat} {done rest : List Token} {token : Token}
    (progress : Progress previous depth done)
    (follows : Token.Kind.mayFollow previous token.kind) (spelled : token.IsSpelled)
    (balanced : BalancedTokens depth (token :: rest)) :
    ∃ nextDepth, BalancedTokens nextDepth rest ∧
      Progress (some token.kind) nextDepth (done ++ [token]) := by
  cases progress with
  | awaiting context => exact step_awaiting context follows spelled balanced
  | complete ends filled => exact step_complete ends filled follows spelled balanced

/-- What is complete when no parenthesis is open is a phrase. -/
theorem exists_phrase {kind : Token.Kind} {done : List Token}
    (progress : Progress (some kind) 0 done) (ends : kind.mayEnd) :
    ∃ phrase : Phrase, phrase.Fits 1 ∧ phrase.tokens = done := by
  cases progress with
  | awaiting context =>
      rw [context.not_mayEnd] at ends
      cases ends
  | complete _ filled =>
      obtain ⟨context, atMostOne, fits, _⟩ := filled 1 (Nat.le_refl 1)
      cases context with
      | whole => exact ⟨_, fits, rfl⟩
      | @operated _ _ _ _ operator =>
          have positive := operator.precedence_pos
          omega

theorem exists_phrase_of_wellFormedAfter {previous : Option Token.Kind} {depth : Nat}
    {done rest : List Token} (progress : Progress previous depth done)
    (wellFormed : Token.WellFormedAfter previous rest) (balanced : BalancedTokens depth rest) :
    ∃ phrase : Phrase, phrase.Fits 1 ∧ phrase.tokens = done ++ rest := by
  induction rest generalizing previous depth done with
  | nil =>
      obtain ⟨kind, previousEq, ends⟩ := wellFormed
      rw [previousEq, balancedTokens_nil.1 balanced] at progress
      rw [List.append_nil]
      exact progress.exists_phrase ends
  | cons token rest inductionHypothesis =>
      obtain ⟨follows, spelled, restWellFormed⟩ := wellFormed
      obtain ⟨nextDepth, restBalanced, next⟩ := progress.step follows spelled balanced
      obtain ⟨phrase, fits, tokensEq⟩ := inductionHypothesis next restWellFormed restBalanced
      rw [List.append_assoc] at tokensEq
      exact ⟨phrase, fits, tokensEq⟩

end Progress

/-- A well-formed token list whose parentheses pair up is that of a phrase. -/
theorem exists_of_wellFormed {tokens : List Token} (wellFormed : Token.WellFormed tokens)
    (balanced : BalancedTokens 0 tokens) :
    ∃ phrase : Phrase, phrase.Fits 1 ∧ phrase.tokens = tokens :=
  Progress.exists_phrase_of_wellFormedAfter (.awaiting .whole) wellFormed balanced

end Reckon.Phrase
