import Mathlib.Data.List.Basic
import Reckon.Proofs.ReversePolish.Arrangement
import Reckon.Proofs.Run
import Reckon.Token.Nesting

/-!
Contract: where a shunting yard fails, and what it says there.

Owns:
- the depth of a yard, and whether an operator is held back below every parenthesis, read off its
  stack;
- that these are the depth and the operators outside parentheses of the tokens taken in;
- the token that a failing yard announces last;
- the outcome of arranging any token list.

Does not own: the tokens put out.

Depth and flag are read off the stack, so no invariant of the stack is needed: every step of the yard
takes them to what they are behind its token.
-/

set_option autoImplicit false

namespace Reckon

namespace Nesting

/-- In front of the first stray parenthesis there is none. -/
theorem exists_split_of_firstStray {tokens before : List Token} {parenthesis : Token}
    (first : firstStray? tokens = some (before, parenthesis)) :
    ∃ after, tokens = before ++ parenthesis :: after ∧ firstStray? before = none ∧
      strays before parenthesis :=
  Token.exists_split_of_find?_places first

end Nesting

namespace ShuntingYard

/-- How many parentheses are open. -/
def depth (yard : ShuntingYard) : Nat := yard.held.countP opens

/-- What is held back longest is an operator. -/
def operatorHeld (yard : ShuntingYard) : Bool := yard.held.getLast?.any fun bottom => !opens bottom

theorem depth_eq_zero_iff {yard : ShuntingYard} :
    yard.depth = 0 ↔ ∀ waiting ∈ yard.held, opens waiting = false := by
  simp [depth, List.countP_eq_zero]

/-- What is released above a token that stays does not count if it holds no parenthesis. -/
theorem depth_eq_of_append {yard : ShuntingYard} {released kept : List Token}
    (held : yard.held = released ++ kept)
    (inside : ∀ waiting ∈ released, opens waiting = false) : yard.depth = kept.countP opens := by
  have none : released.countP opens = 0 := by
    simpa [List.countP_eq_zero] using inside
  rw [depth, held, List.countP_append, none, Nat.zero_add]

/-- A yard with no open parenthesis holds operators back, or nothing. -/
theorem operatorHeld_of_depth_eq_zero {yard : ShuntingYard} (outside : yard.depth = 0) :
    yard.operatorHeld = !yard.held.isEmpty := by
  rw [depth_eq_zero_iff] at outside
  cases bottom : yard.held.getLast? with
  | none =>
      rw [operatorHeld, bottom, List.getLast?_eq_none_iff.1 bottom]
      rfl
  | some token =>
      have member := List.mem_of_getLast? bottom
      have nonempty : yard.held.isEmpty = false := by
        simpa using List.ne_nil_of_mem member
      simp [operatorHeld, bottom, outside token member, nonempty]

/-! ## Steps -/

theorem exists_step_leftParenthesis {token : Token} (kind : token.kind = .leftParenthesis)
    (yard : ShuntingYard) :
    ∃ next, yard.step token = .ok next ∧ next.depth = yard.depth + 1 ∧
      next.operatorHeld = yard.operatorHeld := by
  have opening : opens token = true := by
    simp [opens, kind]
  refine ⟨{ yard with held := token :: yard.held }, by simp [step, kind], ?_, ?_⟩
  · simp [depth, opening]
  · cases nothing : yard.held with
    | nil => simp [operatorHeld, nothing, opening]
    | cons top below => simp [operatorHeld, nothing, List.getLast?_cons_cons]

theorem exists_step_operator {token : Token} {operator : Operator} (kind : token.kind = .operator)
    (known : token.operator? = some operator) (yard : ShuntingYard) :
    ∃ next, yard.step token = .ok next ∧ next.depth = yard.depth ∧
      next.operatorHeld = (yard.operatorHeld || decide (yard.depth = 0)) := by
  have closed : opens token = false := by
    simp [opens, kind]
  have positive : 0 < token.precedence := by
    rw [Token.precedence, known]
    exact operator.precedence_pos
  obtain ⟨released, kept, held, binds, rests⟩ := exists_cut (releases token) yard.held
  have inside : ∀ waiting ∈ released, opens waiting = false := by
    intro waiting member
    have tighter : token.precedence ≤ waiting.precedence := by
      simpa [releases] using binds waiting member
    exact not_opens_of_precedence_pos (by omega)
  have depthEq := depth_eq_of_append held inside
  refine ⟨_, step_operator kind held ?_ ?_, ?_, ?_⟩
  · intro waiting member
    simpa [releases] using binds waiting member
  · intro top member
    simpa [releases] using rests top member
  · show (token :: kept).countP opens = yard.depth
    rw [List.countP_cons_of_neg (by simp [closed]), depthEq]
  · cases kept with
    | nil => simp [depthEq, operatorHeld, closed]
    | cons top below =>
        have sameBottom : yard.held.getLast? = (top :: below).getLast? := by
          rw [held]
          exact List.getLast?_append_of_ne_nil released (by simp)
        show ((token :: top :: below).getLast?.any fun bottom => !opens bottom) = _
        rw [List.getLast?_cons_cons, ← sameBottom]
        by_cases outside : yard.depth = 0
        · have seen : yard.operatorHeld = true := by
            rw [operatorHeld_of_depth_eq_zero outside, held]
            simp
          simpa [operatorHeld, outside] using seen
        · simp [operatorHeld, outside]

theorem exists_step_unknownOperator {token : Token} (kind : token.kind = .operator)
    (unknown : token.operator? = none) (yard : ShuntingYard) :
    ∃ next, yard.step token = .ok next ∧ next.depth = 0 ∧ next.operatorHeld = true := by
  have closed : opens token = false := by
    simp [opens, kind]
  have zero : token.precedence = 0 := Token.precedence_eq_zero_iff.2 unknown
  refine ⟨_, step_operator kind (List.append_nil yard.held).symm ?_ (by simp), ?_, ?_⟩
  · intro waiting _
    rw [zero]
    exact Nat.zero_le _
  · simp [depth, closed]
  · simp [operatorHeld, closed]

theorem step_extraRightParenthesis {token : Token} (kind : token.kind = .rightParenthesis)
    {yard : ShuntingYard} (outside : yard.depth = 0) :
    yard.step token =
      .error (if yard.operatorHeld then .leftParenthesisMissing else .extraRightParenthesis) := by
  have operatorsOnly := operatorHeld_of_depth_eq_zero outside
  rw [depth_eq_zero_iff] at outside
  have passing : ∀ waiting ∈ yard.held, (!opens waiting) = true := by
    intro waiting member
    simp [outside waiting member]
  simp only [step, kind, close, List.dropWhile_eq_nil_iff.2 passing]
  cases held : yard.held with
  | nil => simp [operatorsOnly, held]
  | cons top below => simp [operatorsOnly, held]

theorem exists_step_rightParenthesis {token : Token} (kind : token.kind = .rightParenthesis)
    {yard : ShuntingYard} {outer : Nat} (inside : yard.depth = outer + 1) :
    ∃ next, yard.step token = .ok next ∧ next.depth = outer ∧
      next.operatorHeld = yard.operatorHeld := by
  obtain ⟨released, kept, held, closed, boundary⟩ := exists_cut (!opens ·) yard.held
  have operatorsOnly : ∀ waiting ∈ released, opens waiting = false := by
    intro waiting member
    simpa using closed waiting member
  have depthEq := depth_eq_of_append held operatorsOnly
  cases kept with
  | nil =>
      rw [depthEq] at inside
      cases inside
  | cons parenthesis below =>
      have opening : opens parenthesis = true := by
        simpa using boundary parenthesis rfl
      refine ⟨_, step_rightParenthesis kind held operatorsOnly opening, ?_, ?_⟩
      · rw [depthEq, List.countP_cons_of_pos opening] at inside
        exact Nat.succ.inj inside
      · have sameBottom : yard.held.getLast? = (parenthesis :: below).getLast? := by
          rw [held]
          exact List.getLast?_append_of_ne_nil released (by simp)
        cases below with
        | nil => simp [operatorHeld, sameBottom, opening]
        | cons top others => simp [operatorHeld, sameBottom, List.getLast?_cons_cons]

/-! ## Tracking -/

variable {taken : List Token} {yard next : ShuntingYard} {token : Token}

/-- The stack of a yard shows the depth of the tokens taken in, and whether one of them is an
operator outside all parentheses. -/
structure Tracks (taken : List Token) (yard : ShuntingYard) : Prop where
  depth : yard.depth = Nesting.depth taken
  operatorHeld : yard.operatorHeld = Nesting.operatorOutside taken

theorem tracks_empty : Tracks [] empty :=
  ⟨rfl, rfl⟩

/-- A token that is neither a parenthesis nor an operator is not tracked. -/
theorem Tracks.passed (tracks : Tracks taken yard) (passing : passes token) :
    Tracks (taken ++ [token]) { yard with output := yard.output.push token } where
  depth := by
    rw [Nesting.depth_concat, ← tracks.depth]
    obtain ⟨lexeme, kind⟩ := token
    cases kind <;> first | rfl | cases passing
  operatorHeld := by
    rw [Nesting.operatorOutside_concat, ← tracks.operatorHeld]
    obtain ⟨lexeme, kind⟩ := token
    cases kind <;> first | exact (Bool.or_false _).symm | cases passing

/-- A yard takes in every token that is no stray parenthesis, and goes on tracking. -/
theorem Tracks.step (tracks : Tracks taken yard) (fits : Nesting.strays taken token = false) :
    ∃ next, yard.step token = .ok next ∧ Tracks (taken ++ [token]) next := by
  have outside : Nesting.depth taken = yard.depth := tracks.depth.symm
  have seen : Nesting.operatorOutside taken = yard.operatorHeld := tracks.operatorHeld.symm
  by_cases passing : passes token
  · exact ⟨_, step_of_passes passing yard, tracks.passed passing⟩
  cases kind : token.kind with
  | leftParenthesis =>
      obtain ⟨next, stepped, depthEq, heldEq⟩ := exists_step_leftParenthesis kind yard
      refine ⟨next, stepped, ?_, ?_⟩
      · rw [depthEq, Nesting.depth_concat, outside, Nesting.depthAfter, kind]
      · simp [heldEq, seen, Nesting.standsOutside, kind]
  | rightParenthesis =>
      have inside : yard.depth = (yard.depth - 1) + 1 := by
        have positive : yard.depth ≠ 0 := by
          simpa [Nesting.strays, kind, outside] using fits
        omega
      obtain ⟨next, stepped, depthEq, heldEq⟩ := exists_step_rightParenthesis kind inside
      refine ⟨next, stepped, ?_, ?_⟩
      · rw [depthEq, Nesting.depth_concat, outside, Nesting.depthAfter, kind]
      · simp [heldEq, seen, Nesting.standsOutside, kind]
  | operator =>
      cases named : token.operator? with
      | none =>
          obtain ⟨next, stepped, depthEq, heldEq⟩ := exists_step_unknownOperator kind named yard
          refine ⟨next, stepped, ?_, ?_⟩
          · simp [depthEq, Nesting.depthAfter, kind, named]
          · simp [heldEq, Nesting.standsOutside, kind, named]
      | some operator =>
          obtain ⟨next, stepped, depthEq, heldEq⟩ := exists_step_operator kind named yard
          refine ⟨next, stepped, ?_, ?_⟩
          · simp [depthEq, outside, Nesting.depthAfter, kind, named]
          · simp [heldEq, seen, outside, Nesting.standsOutside, kind, named]
  | _ => exact absurd (by simp [passes, Token.isNumber, kind]) passing

/-- A yard fails on a stray parenthesis, and what it says tells whether an operator stood outside. -/
theorem Tracks.step_of_strays (tracks : Tracks taken yard) (stray : Nesting.strays taken token) :
    yard.step token = .error
      (if Nesting.operatorOutside taken then .leftParenthesisMissing else .extraRightParenthesis) := by
  have both : token.kind = .rightParenthesis ∧ Nesting.depth taken = 0 := by
    simpa [Nesting.strays] using stray
  rw [← tracks.operatorHeld]
  exact step_extraRightParenthesis both.1 (tracks.depth.trans both.2)

/-- Without stray parentheses all tokens are taken in. -/
theorem exists_tracks_of_foldlM {tokens : List Token} (none : Nesting.firstStray? tokens = none) :
    ∃ yard, tokens.foldlM ShuntingYard.step empty = .ok yard ∧ Tracks tokens yard :=
  Token.exists_foldlM_of_find?_places Tracks Tracks.step tracks_empty none

/-! ## Runs -/

/-- A run fails for want of tokens, or over parentheses. -/
theorem exists_imbalance_of_run {tokens : List Token} {failure : Failure}
    (failed : run tokens = .error failure) :
    tokens = [] ∧ failure = .emptyInput ∨ ∃ imbalance, failure = .unbalanced imbalance := by
  cases tokens with
  | nil =>
      cases failed
      exact .inl ⟨rfl, rfl⟩
  | cons token rest =>
      change (List.foldlM step empty (token :: rest) >>= finish).mapError Failure.unbalanced = _
        at failed
      cases ran : List.foldlM step empty (token :: rest) >>= finish with
      | error imbalance =>
          rw [ran] at failed
          cases failed
          exact .inr ⟨imbalance, rfl⟩
      | ok arranged =>
          rw [ran] at failed
          cases failed

/-- Without stray parentheses a run has a result, unless a parenthesis is still open at the end. -/
theorem run_of_tracks {tokens : List Token} (nonempty : tokens ≠ [])
    (ran : tokens.foldlM ShuntingYard.step empty = .ok yard) (tracks : Tracks tokens yard) :
    run tokens =
      if Nesting.depth tokens = 0 then .ok (yard.output.toList ++ yard.held)
      else .error (.unbalanced .rightParenthesisMissing) := by
  have someTokens : tokens.isEmpty = false := List.isEmpty_eq_false_iff.2 nonempty
  simp only [run, someTokens, ran]
  show (yard.finish).mapError Failure.unbalanced = _
  rw [← tracks.depth]
  by_cases closed : yard.depth = 0
  · rw [if_pos closed, finish_of_not_opens (depth_eq_zero_iff.1 closed)]
    rfl
  · have someOpens : yard.held.any opens = true := by
      simpa [depth, List.countP_eq_zero] using closed
    rw [if_neg closed, finish, someOpens]
    rfl

/-! ## Events -/

/-- Tokens that are taken in are announced one after the other. -/
theorem foldlM_receive_of_ok {tokens : List Token}
    (ran : tokens.foldlM ShuntingYard.step yard = .ok next) :
    tokens.foldlM receive yard = ⟨tokens.map .shunted, .ok next⟩ := by
  induction tokens generalizing yard with
  | nil =>
      cases ran
      rfl
  | cons token tokens inductionHypothesis =>
      obtain ⟨after, stepped, ranRest⟩ := Run.foldlM_cons_eq_ok_iff.1 ran
      have received : yard.receive token = ⟨[.shunted token], .ok after⟩ := by
        unfold receive
        rw [stepped]
        rfl
      rw [List.foldlM_cons, received, Report.bind_of_ok rfl, inductionHypothesis ranRest]
      rfl

/-- The token that a yard fails on is announced last, and the warning follows. -/
theorem foldlM_receive_of_error {tokens rest : List Token} {imbalance : Imbalance}
    (ran : tokens.foldlM ShuntingYard.step yard = .ok next)
    (stepped : next.step token = .error imbalance) :
    (tokens ++ token :: rest).foldlM receive yard =
      ⟨(tokens ++ [token]).map .shunted ++ [.failed (.unbalanced imbalance)],
        .error (.unbalanced imbalance)⟩ := by
  have received : next.receive token =
      ⟨[.shunted token, .failed (.unbalanced imbalance)], .error (.unbalanced imbalance)⟩ := by
    unfold receive
    rw [stepped]
    rfl
  rw [List.foldlM_append, foldlM_receive_of_ok ran, Report.bind_of_ok rfl, List.foldlM_cons,
    received, Report.bind_of_error rfl]
  simp

end ShuntingYard

/-- Arranging fails at a stray parenthesis behind tokens without one, whatever follows it. -/
theorem arrange_of_strays {before : List Token} {parenthesis : Token}
    (noneBefore : Nesting.firstStray? before = none)
    (stray : Nesting.strays before parenthesis) (after : List Token) :
    let imbalance : Imbalance :=
      if Nesting.operatorOutside before then .leftParenthesisMissing else .extraRightParenthesis
    (arrange (before ++ parenthesis :: after)).outcome = .error (.unbalanced imbalance) ∧
      (arrange (before ++ parenthesis :: after)).events =
        (before ++ [parenthesis]).map .shunted ++ [.failed (.unbalanced imbalance)] := by
  intro imbalance
  obtain ⟨yard, ran, tracks⟩ := ShuntingYard.exists_tracks_of_foldlM noneBefore
  have stepped := tracks.step_of_strays stray
  have someTokens : ¬(before ++ parenthesis :: after).isEmpty := by
    simp
  have arranged : arrange (before ++ parenthesis :: after) =
      ⟨(before ++ [parenthesis]).map .shunted ++ [.failed (.unbalanced imbalance)],
        .error (.unbalanced imbalance)⟩ := by
    unfold arrange Report.announce
    rw [if_neg someTokens, ShuntingYard.foldlM_receive_of_error ran stepped,
      Report.bind_of_error rfl, Report.bind_of_error rfl]
  rw [arranged]
  exact ⟨rfl, rfl⟩

/-- Arranging fails for want of tokens, or else at the first right parenthesis that closes nothing,
or else for a parenthesis that is open at the end, and in no other way.

A right parenthesis that closes nothing is one too many if no operator stands outside all
parentheses in front of it, and lacks a left one otherwise, whatever follows it.  It is the last
token that is announced. -/
theorem arrange_outcome_by_depth (tokens : List Token) :
    ((arrange tokens).outcome = .error .emptyInput ↔ tokens = []) ∧
    (∀ before parenthesis, Nesting.firstStray? tokens = some (before, parenthesis) →
      (∃ after, tokens = before ++ parenthesis :: after) ∧
      ∃ imbalance : Imbalance,
        imbalance.message =
          (if Nesting.operatorOutside before then "left parenthesis missing"
            else "extra right parenthesis") ∧
        ∀ after,
          (arrange (before ++ parenthesis :: after)).outcome = .error (.unbalanced imbalance) ∧
          (arrange (before ++ parenthesis :: after)).events =
            (before ++ [parenthesis]).map .shunted ++ [.failed (.unbalanced imbalance)]) ∧
    (tokens ≠ [] → Nesting.firstStray? tokens = none →
      ((∃ imbalance : Imbalance, imbalance.message = "right parenthesis missing" ∧
          (arrange tokens).outcome = .error (.unbalanced imbalance)) ↔ 0 < Nesting.depth tokens) ∧
      ((∃ arranged, (arrange tokens).outcome = .ok arranged) ↔ Nesting.depth tokens = 0)) ∧
    ∀ failure, (arrange tokens).outcome = .error failure →
      failure = .emptyInput ∨ ∃ imbalance, failure = .unbalanced imbalance := by
  refine ⟨?_, ?_, ?_, ?_⟩
  · rw [outcome_arrange]
    constructor
    · intro failed
      rcases ShuntingYard.exists_imbalance_of_run failed with ⟨empty, _⟩ | ⟨_, other⟩
      · exact empty
      · cases other
    · rintro rfl
      rfl
  · intro before parenthesis first
    obtain ⟨after, tokensEq, noneBefore, stray⟩ := Nesting.exists_split_of_firstStray first
    refine ⟨⟨after, tokensEq⟩, _, ?_, arrange_of_strays noneBefore stray⟩
    by_cases outside : Nesting.operatorOutside before
    · rw [if_pos outside, if_pos outside]
      rfl
    · rw [if_neg outside, if_neg outside]
      rfl
  · intro nonempty noStray
    obtain ⟨yard, ran, tracks⟩ := ShuntingYard.exists_tracks_of_foldlM noStray
    have outcome := ShuntingYard.run_of_tracks nonempty ran tracks
    rw [outcome_arrange, outcome]
    by_cases closed : Nesting.depth tokens = 0
    · rw [if_pos closed]
      simp [closed]
    · rw [if_neg closed]
      simp [closed, Nat.pos_of_ne_zero closed, Imbalance.message]
  · intro failure failed
    rw [outcome_arrange] at failed
    exact (ShuntingYard.exists_imbalance_of_run failed).imp_left And.right

/-- The operator `%` names none.  In `(1%)` it closes the parenthesis, so that the right one lacks a
left one; the tokens of `(1%` are arranged, and those of `(1` are not. -/
theorem arrange_unknown_operator_in_parentheses :
    let opened : List Token := [.leftParenthesis, .integer "1"]
    let released : List Token := opened ++ [.operator '%']
    let stray : List Token := released ++ [.rightParenthesis]
    Nesting.firstStray? stray = some (released, .rightParenthesis) ∧
      (∃ imbalance : Imbalance, imbalance.message = "left parenthesis missing" ∧
        (arrange stray).outcome = .error (.unbalanced imbalance)) ∧
      Nesting.firstStray? released = none ∧
      (∃ arranged, (arrange released).outcome = .ok arranged) ∧
      Nesting.firstStray? opened = none ∧
      (∃ imbalance : Imbalance, imbalance.message = "right parenthesis missing" ∧
        (arrange opened).outcome = .error (.unbalanced imbalance)) := by
  intro opened released stray
  have first : Nesting.firstStray? stray = some (released, .rightParenthesis) := rfl
  obtain ⟨_, byStray, _, _⟩ := arrange_outcome_by_depth stray
  obtain ⟨_, imbalance, message, failed⟩ := byStray released .rightParenthesis first
  obtain ⟨_, _, ofReleased, _⟩ := arrange_outcome_by_depth released
  obtain ⟨_, _, ofOpened, _⟩ := arrange_outcome_by_depth opened
  exact ⟨first, ⟨imbalance, message, (failed []).1⟩,
    rfl, (ofReleased (by decide) rfl).2.2 rfl,
    rfl, (ofOpened (by decide) rfl).1.2 (by decide)⟩

end Reckon
