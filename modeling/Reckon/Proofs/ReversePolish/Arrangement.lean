import Reckon.Calculator
import Reckon.Expression
import Reckon.Proofs.Run
import Reckon.ReversePolish

/-!
Contract: the shunting yard keeps the tree of the expression that its tokens write.

Owns:
- the tokens that pass straight through to the output, one or many;
- the moves of a yard, one constructor for each kind of move, and that a step succeeds exactly if it
  is one of them;
- the yard after a written expression, on top of whatever was held back before;
- the reverse Polish order of every way to write an expression.

Does not own: token lists that write no expression.

What a token does to a yard is read off the stack by a split of it.  For an expression the induction
is on the writing.  The expression meets a stack whose top binds weaker than the level at which it is
written.  It leaves operators on that stack which bind at least as tightly as this level, and they
belong after what was put out.
-/

set_option autoImplicit false

namespace Reckon

/-! ## Moves -/

namespace Token

@[simp]
theorem precedence_operator (operator : Operator) :
    (Token.operator operator.symbol).precedence = operator.precedence := by
  simp [precedence]

theorem precedence_of_kind {token : Token} (kind : token.kind ≠ .operator) :
    token.precedence = 0 :=
  precedence_eq_zero_iff.2 (operator?_eq_none_of_kind kind)

end Token

namespace ShuntingYard

def closes (token : Token) : Bool := token.kind == .rightParenthesis

/-- Numbers and unary minuses are put out as they arrive. -/
def passes (token : Token) : Bool :=
  token.isNumber || token.kind == .unaryMinus

theorem step_of_passes {token : Token} (passing : passes token) (yard : ShuntingYard) :
    yard.step token = .ok { yard with output := yard.output.push token } := by
  obtain ⟨lexeme, kind⟩ := token
  cases kind <;> first | rfl | cases passing

theorem foldlM_step_of_passes {tokens : List Token} (passing : ∀ token ∈ tokens, passes token)
    (yard : ShuntingYard) :
    tokens.foldlM step yard = .ok { yard with output := yard.output ++ tokens } := by
  induction tokens generalizing yard with
  | nil => simp [pure, Except.pure]
  | cons token rest inductionHypothesis =>
      rw [Run.foldlM_cons_of_ok (step_of_passes (passing token (by simp)) yard),
        inductionHypothesis fun later member => passing later (by simp [member])]
      simp

/-- Only a token with no precedence can open a parenthesis. -/
theorem not_opens_of_precedence_pos {token : Token} (positive : 0 < token.precedence) :
    opens token = false := by
  cases opening : opens token with
  | false => rfl
  | true =>
      have kind : token.kind = .leftParenthesis := by simpa [opens] using opening
      have zero : token.precedence = 0 := Token.precedence_of_kind (by simp [kind])
      omega

theorem step_operator {token : Token} {yard : ShuntingYard} {released kept : List Token}
    (kind : token.kind = .operator) (held : yard.held = released ++ kept)
    (binds : ∀ waiting ∈ released, token.precedence ≤ waiting.precedence)
    (rests : ∀ top ∈ kept.head?, top.precedence < token.precedence) :
    yard.step token = .ok ⟨token :: kept, yard.output ++ released⟩ := by
  have inside : ∀ waiting ∈ released, releases token waiting = true := by
    intro waiting member
    simpa [releases] using binds waiting member
  have boundary : ∀ top ∈ kept.head?, releases token top = false := by
    intro top member
    simpa [releases] using rests top member
  simp only [step, kind, holdOperator, held, dropWhile_append_of_boundary inside boundary,
    takeWhile_append_of_boundary inside boundary]

theorem step_leftParenthesis (yard : ShuntingYard) :
    yard.step .leftParenthesis = .ok { yard with held := .leftParenthesis :: yard.held } := rfl

theorem step_rightParenthesis {token parenthesis : Token} {yard : ShuntingYard}
    {released kept : List Token} (kind : token.kind = .rightParenthesis)
    (held : yard.held = released ++ parenthesis :: kept)
    (inside : ∀ waiting ∈ released, opens waiting = false) (opening : opens parenthesis) :
    yard.step token = .ok ⟨kept, yard.output ++ released⟩ := by
  have closing : ∀ waiting ∈ released, (!opens waiting) = true := by
    intro waiting member
    simp [inside waiting member]
  have boundary : ∀ top ∈ (parenthesis :: kept).head?, (!opens top) = false := by
    simp [opening]
  have dropped : yard.held.dropWhile (!opens ·) = parenthesis :: kept := by
    rw [held]
    exact dropWhile_append_of_boundary closing boundary
  have taken : yard.held.takeWhile (!opens ·) = released := by
    rw [held]
    exact takeWhile_append_of_boundary closing boundary
  have nonempty : yard.held ≠ [] := by
    simp [held]
  simp only [step, kind, close, dropped, taken]

theorem finish_of_not_opens {yard : ShuntingYard}
    (closed : ∀ waiting ∈ yard.held, opens waiting = false) :
    yard.finish = .ok (yard.output.toList ++ yard.held) := by
  have noneOpens : yard.held.any opens = false := by
    simpa using closed
  simp [finish, noneOpens]

theorem finish_eq_ok_iff {yard : ShuntingYard} {arranged : List Token} :
    yard.finish = .ok arranged ↔
      (∀ waiting ∈ yard.held, opens waiting = false) ∧ yard.output.toList ++ yard.held = arranged := by
  constructor
  · intro finished
    cases someOpens : yard.held.any opens with
    | true =>
        rw [finish, someOpens] at finished
        cases finished
    | false =>
        have closed : ∀ waiting ∈ yard.held, opens waiting = false := by
          simpa using someOpens
        rw [finish_of_not_opens closed] at finished
        exact ⟨closed, Except.ok.inj finished⟩
  · rintro ⟨closed, rfl⟩
    exact finish_of_not_opens closed

/-- The moves of a yard, by what they do to the tokens held back and to those put out. -/
inductive Move (yard : ShuntingYard) (token : Token) : ShuntingYard → Prop where
  | passed (passing : passes token) :
      Move yard token { yard with output := yard.output.push token }
  | heldBack {released kept : List Token} (kind : token.kind = .operator)
      (held : yard.held = released ++ kept)
      (binds : ∀ waiting ∈ released, token.precedence ≤ waiting.precedence)
      (rests : ∀ top ∈ kept.head?, top.precedence < token.precedence) :
      Move yard token ⟨token :: kept, yard.output ++ released⟩
  | opened (kind : token.kind = .leftParenthesis) :
      Move yard token { yard with held := token :: yard.held }
  | closed {released kept : List Token} {parenthesis : Token}
      (kind : token.kind = .rightParenthesis)
      (held : yard.held = released ++ parenthesis :: kept)
      (inside : ∀ waiting ∈ released, opens waiting = false) (opening : opens parenthesis) :
      Move yard token ⟨kept, yard.output ++ released⟩

theorem move_of_step_operator {yard next : ShuntingYard} {token : Token}
    (kind : token.kind = .operator) (stepped : yard.step token = .ok next) :
    Move yard token next := by
  obtain ⟨released, kept, held, released_binds, boundary⟩ := exists_cut (releases token) yard.held
  have binds : ∀ waiting ∈ released, token.precedence ≤ waiting.precedence := by
    intro waiting member
    simpa [releases] using released_binds waiting member
  have rests : ∀ top ∈ kept.head?, top.precedence < token.precedence := by
    intro top member
    simpa [releases] using boundary top member
  rw [step_operator kind held binds rests] at stepped
  cases stepped
  exact .heldBack kind held binds rests

theorem move_of_step_rightParenthesis {yard next : ShuntingYard} {token : Token}
    (kind : token.kind = .rightParenthesis) (stepped : yard.step token = .ok next) :
    Move yard token next := by
  obtain ⟨released, kept, held, passing, boundary⟩ := exists_cut (!opens ·) yard.held
  have inside : ∀ waiting ∈ released, opens waiting = false := by
    intro waiting member
    simpa using passing waiting member
  cases kept with
  | nil =>
      -- Without a left parenthesis among the tokens held back the step fails.
      have nothingStays : yard.held.dropWhile (!opens ·) = [] := by
        rw [held, List.append_nil]
        exact List.dropWhile_eq_nil_iff.2 passing
      simp only [step, kind, close, nothingStays] at stepped
      split at stepped <;> simp_all
  | cons parenthesis below =>
      have opening : opens parenthesis = true := by
        simpa using boundary parenthesis rfl
      rw [step_rightParenthesis kind held inside opening] at stepped
      cases stepped
      exact .closed kind held inside opening

theorem step_eq_ok_iff {yard next : ShuntingYard} {token : Token} :
    yard.step token = .ok next ↔ Move yard token next := by
  constructor
  · intro stepped
    cases kind : token.kind with
    | operator => exact move_of_step_operator kind stepped
    | rightParenthesis => exact move_of_step_rightParenthesis kind stepped
    | leftParenthesis =>
        simp only [step, kind] at stepped
        cases stepped
        exact .opened kind
    | _ =>
        have passing : passes token := by
          simp [passes, Token.isNumber, kind]
        rw [step_of_passes passing] at stepped
        cases stepped
        exact .passed passing
  · intro move
    cases move with
    | passed passing => exact step_of_passes passing yard
    | heldBack kind held binds rests => exact step_operator kind held binds rests
    | opened kind => simp [step, kind]
    | closed kind held inside opening => exact step_rightParenthesis kind held inside opening

end ShuntingYard

/-! ## Written expressions -/

open Expression

/-- A spelling of operands that a shunting yard puts out as it arrives. -/
structure ShuntingYard.PassesThrough {α : Type} (spell : α → List Token) : Prop where
  passes : ∀ operand, ∀ token ∈ spell operand, ShuntingYard.passes token
  nonempty : ∀ operand, spell operand ≠ []

namespace ShuntingYard

variable {α : Type} {spell : α → List Token}

/-- The yard after a written expression: the operators in `pending` are held back on top. -/
structure Arranged (level : Nat) (yard next : ShuntingYard) (pending order : List Token) :
    Prop where
  held : next.held = pending ++ yard.held
  output : next.output.toList ++ pending = yard.output.toList ++ order
  binds : ∀ token ∈ pending, max level 1 ≤ token.precedence

theorem foldlM_step_written (through : PassesThrough spell) {level : Nat}
    {expression : Expression α} {tokens : List Token}
    (written : Written spell level expression tokens) (yard : ShuntingYard)
    (rests : ∀ top ∈ yard.held.head?, top.precedence < max level 1) :
    ∃ next pending, tokens.foldlM step yard = .ok next ∧
      Arranged level yard next pending (expression.postorder spell) := by
  induction written generalizing yard with
  | leaf operand =>
      refine ⟨_, [], foldlM_step_of_passes (through.passes operand) yard, rfl, ?_, by simp⟩
      simp [postorder]
  | @binary level operator left right leftTokens rightTokens bindsEnough _ _ leftHypothesis
      rightHypothesis =>
      have positive := operator.precedence_pos
      have leftRests : ∀ top ∈ yard.held.head?, top.precedence < max operator.precedence 1 := by
        intro top member
        have below := rests top member
        omega
      obtain ⟨middle, leftPending, leftRan, leftHeld, leftOutput, leftBinds⟩ :=
        leftHypothesis yard leftRests
      -- The operator releases all that the left operand holds back, and nothing below it.
      have stepped : middle.step (.operator operator.symbol) =
          .ok ⟨.operator operator.symbol :: yard.held, middle.output ++ leftPending⟩ := by
        apply step_operator rfl leftHeld
        · intro waiting member
          have binds := leftBinds waiting member
          rw [Token.precedence_operator]
          omega
        · intro top member
          have below := rests top member
          rw [Token.precedence_operator]
          omega
      have rightRests : ∀ top ∈ (Token.operator operator.symbol :: yard.held).head?,
          top.precedence < max (operator.precedence + 1) 1 := by
        intro top member
        cases member
        rw [Token.precedence_operator]
        omega
      obtain ⟨next, rightPending, rightRan, rightHeld, rightOutput, rightBinds⟩ :=
        rightHypothesis ⟨_, middle.output ++ leftPending⟩ rightRests
      refine ⟨next, rightPending ++ [.operator operator.symbol], ?_, ?_, ?_, ?_⟩
      · rw [Run.foldlM_append_of_ok leftRan, Run.foldlM_cons_of_ok stepped]
        exact rightRan
      · rw [rightHeld]
        simp
      · rw [← List.append_assoc, rightOutput]
        simp [leftOutput, postorder]
      · intro token member
        rcases List.mem_append.1 member with inRight | last
        · have binds := rightBinds token inRight
          omega
        · rw [List.mem_singleton.1 last, Token.precedence_operator]
          omega
  | parenthesized _ innerHypothesis =>
      have rests : ∀ top ∈ (Token.leftParenthesis :: yard.held).head?,
          top.precedence < max 0 1 := by
        intro top member
        cases member
        decide
      obtain ⟨inside, pending, ran, held, output, binds⟩ := innerHypothesis ⟨_, yard.output⟩ rests
      -- What is pending inside the parentheses is released by the closing one.
      have stepped : inside.step .rightParenthesis = .ok ⟨yard.held, inside.output ++ pending⟩ := by
        refine step_rightParenthesis rfl held ?_ rfl
        intro waiting member
        have positive := binds waiting member
        exact not_opens_of_precedence_pos (by omega)
      refine ⟨⟨yard.held, inside.output ++ pending⟩, [], ?_, rfl, ?_, by simp⟩
      · rw [List.cons_append, Run.foldlM_cons_of_ok (step_leftParenthesis yard),
          Run.foldlM_append_of_ok ran]
        exact Run.foldlM_singleton stepped
      · simp [output]

/-- A written expression has at least one token. -/
theorem ne_nil_of_written (through : PassesThrough spell) {level : Nat}
    {expression : Expression α} {tokens : List Token}
    (written : Written spell level expression tokens) : tokens ≠ [] := by
  cases written with
  | leaf operand => exact through.nonempty operand
  | binary => simp
  | parenthesized => simp

/-- The yard arranges every way to write an expression into its reverse Polish order. -/
theorem run_written (through : PassesThrough spell) {level : Nat} {expression : Expression α}
    {tokens : List Token} (written : Written spell level expression tokens) :
    run tokens = .ok (expression.postorder spell) := by
  have nothingHeld : ∀ top ∈ empty.held.head?, top.precedence < max level 1 := by
    simp [empty]
  obtain ⟨next, pending, ran, held, output, binds⟩ :=
    foldlM_step_written through written empty nothingHeld
  have closed : ∀ waiting ∈ next.held, opens waiting = false := by
    intro waiting member
    rw [held, empty, List.append_nil] at member
    have positive := binds waiting member
    exact not_opens_of_precedence_pos (by omega)
  have ordered : next.output.toList ++ next.held = expression.postorder spell := by
    rw [held, empty, List.append_nil, output]
    simp [empty]
  have nonempty : tokens.isEmpty = false := by
    simpa using ne_nil_of_written through written
  simp only [run, nonempty, ran]
  show (next.finish).mapError Failure.unbalanced = _
  rw [finish_of_not_opens closed, ordered]
  rfl

theorem passesThrough_signedToken : PassesThrough SignedToken.tokens where
  passes signed token member := by
    rcases List.mem_append.1 member with inMinus | isNumber
    · have kind := signed.minus_kind token (Option.mem_toList.1 inMinus)
      simp [passes, kind]
    · rw [List.mem_singleton.1 isNumber]
      simp [passes, signed.number_isNumber]
  nonempty signed := by simp [SignedToken.tokens]

end ShuntingYard

@[simp]
theorem outcome_arrange (tokens : List Token) :
    (arrange tokens).outcome = ShuntingYard.run tokens := by
  unfold arrange ShuntingYard.run
  rw [Report.outcome_announce]
  by_cases empty : tokens.isEmpty
  · rw [if_pos empty, if_pos empty]
    rfl
  · rw [if_neg empty, if_neg empty, Report.outcome_bind, Report.outcome_foldlM,
      Run.mapError_foldlM_bind]
    simp only [ShuntingYard.outcome_receive, Report.outcome_bind, Report.outcome_ofExcept]
    rfl

/-- However an expression over signed numbers is written, with the parentheses it needs and any that
it does not, its tokens are arranged into its reverse Polish order. -/
theorem outcome_arrange_of_written {expression : Expression SignedToken} {tokens : List Token}
    (written : Written SignedToken.tokens 0 expression tokens) :
    (arrange tokens).outcome = .ok (expression.postorder SignedToken.tokens) := by
  rw [outcome_arrange]
  exact ShuntingYard.run_written ShuntingYard.passesThrough_signedToken written

/-- The expression `(2) * (-3.5 + 4)`, with a pair of parentheses that it does not need. -/
theorem outcome_arrange_product_of_sum :
    let two := Operand.signed ⟨.plus, false, "2"⟩
    let negated := Operand.signed ⟨.minus, true, "3.5"⟩
    let four := Operand.signed ⟨.plus, false, "4"⟩
    let tokens : List Token :=
      [.leftParenthesis, .integer "2", .rightParenthesis, .operator '*', .leftParenthesis,
        .unaryMinus, .floatingPoint "3.5", .operator '+', .integer "4", .rightParenthesis]
    Written SignedToken.tokens 0
        (.binary .multiply (.leaf two) (.binary .add (.leaf negated) (.leaf four))) tokens ∧
      (arrange tokens).outcome =
        .ok [.integer "2", .unaryMinus, .floatingPoint "3.5", .integer "4", .operator '+',
          .operator '*'] := by
  intro two negated four tokens
  have factor : Written SignedToken.tokens 2 (.leaf two)
      (.leftParenthesis :: two.tokens ++ [.rightParenthesis]) :=
    .parenthesized (.leaf two)
  have sum : Written SignedToken.tokens 0 (.binary .add (.leaf negated) (.leaf four))
      (negated.tokens ++ .operator '+' :: four.tokens) :=
    .binary (Nat.zero_le _) (.leaf negated) (.leaf four)
  have product : Written SignedToken.tokens 0
      (.binary .multiply (.leaf two) (.binary .add (.leaf negated) (.leaf four)))
      ((.leftParenthesis :: two.tokens ++ [.rightParenthesis]) ++ .operator '*' ::
        (.leftParenthesis :: (negated.tokens ++ .operator '+' :: four.tokens)
          ++ [.rightParenthesis])) :=
    .binary (Nat.zero_le _) factor (.parenthesized sum)
  exact ⟨product, outcome_arrange_of_written product⟩

end Reckon
