import Reckon.Proofs.ReversePolish.Conservation
import Reckon.Proofs.ReversePolish.Nesting

/-!
Contract: the parentheses of tokens that are arranged.

Owns:
- the parentheses that are opened, against those that are closed, lost or still open;
- the parentheses that are put out, which are those that are lost;
- that tokens which are not balanced are not arranged, if all their operators name one;
- that the parentheses of arranged tokens are balanced, and none is put out, exactly if no operator
  that names none stands inside parentheses.

Does not own: which tokens are arranged.
-/

set_option autoImplicit false

namespace Reckon

open ShuntingYard (opens closes)

namespace Nesting

variable {tokens before : List Token} {token : Token}

/-- A token opens a parenthesis, closes one, or loses all that are open, or leaves the depth. -/
theorem closes_add_depthAfter_add_lostTo (fits : strays before token = false) :
    [token].countP closes + depthAfter (depth before) token + lostTo before token =
      depth before + [token].countP opens := by
  unfold depthAfter lostTo
  cases kind : token.kind with
  | rightParenthesis =>
      have inside : depth before ≠ 0 := by
        simpa [strays, kind] using fits
      have closed : 1 + (depth before - 1) = depth before := by
        omega
      simpa [closes, opens, kind] using closed
  | operator => cases named : token.operator? <;> simp [closes, opens, kind]
  | _ => simp [closes, opens, kind]

/-- Every left parenthesis is closed, or lost, or still open. -/
theorem closes_add_depth_add_lost (noStray : firstStray? tokens = none) :
    tokens.countP closes + depth tokens + lost tokens = tokens.countP opens := by
  induction tokens using List.reverseRecOn with
  | nil => rfl
  | append_singleton tokens token inductionHypothesis =>
      obtain ⟨noneBefore, fits⟩ := Token.find?_places_concat_eq_none_iff.1 noStray
      have counted := inductionHypothesis noneBefore
      have last := closes_add_depthAfter_add_lostTo fits
      rw [depth_concat, lost_concat, List.countP_append, List.countP_append]
      omega

/-- Where no right parenthesis strays, none does in a front either. -/
theorem closes_take_le_opens_take (noStray : firstStray? tokens = none) (count : Nat) :
    (tokens.take count).countP closes ≤ (tokens.take count).countP opens := by
  rw [← List.take_append_drop count tokens] at noStray
  have counted := closes_add_depth_add_lost (Token.find?_places_of_append noStray)
  omega

theorem lost_eq_zero_iff_forall_places :
    lost tokens = 0 ↔ ∀ place ∈ Token.places tokens, lostTo place.1 place.2 = 0 := by
  induction tokens using List.reverseRecOn with
  | nil => simp [lost, Token.places]
  | append_singleton tokens token inductionHypothesis =>
      rw [lost_concat, Nat.add_eq_zero_iff, inductionHypothesis, Token.places_concat,
        List.forall_mem_append, List.forall_mem_singleton]

theorem lost_eq_zero_iff :
    lost tokens = 0 ↔ ∀ before token after, tokens = before ++ token :: after →
      token.kind = .operator → token.operator? = none → depth before = 0 := by
  rw [lost_eq_zero_iff_forall_places]
  constructor
  · intro nothing before token after tokensEq kind unknown
    have here := nothing (before, token) (Token.mem_places_iff.2 ⟨after, tokensEq⟩)
    simpa [lostTo, kind, unknown] using here
  · intro outside (before, token) member
    obtain ⟨after, tokensEq⟩ := Token.mem_places_iff.1 member
    have here := outside before token after tokensEq
    simpa [lostTo] using here

/-- Without stray parentheses balance is a matter of the totals. -/
theorem balanced_iff (noStray : firstStray? tokens = none) :
    Balanced opens closes tokens ↔ tokens.countP closes = tokens.countP opens := by
  constructor
  · intro balanced
    exact balanced.2
  · intro totals
    exact ⟨closes_take_le_opens_take noStray, totals⟩

end Nesting

variable {tokens arranged : List Token}

/-- Tokens that are arranged have no stray parenthesis, and leave none open. -/
theorem firstStray?_of_arrange (succeeded : (arrange tokens).outcome = .ok arranged) :
    Nesting.firstStray? tokens = none ∧ Nesting.depth tokens = 0 := by
  have noStray : Nesting.firstStray? tokens = none := by
    cases first : Nesting.firstStray? tokens with
    | none => rfl
    | some place =>
        obtain ⟨after, tokensEq, noneBefore, stray⟩ := Nesting.exists_split_of_firstStray first
        have failed := (arrange_of_strays noneBefore stray after).1
        rw [← tokensEq, succeeded] at failed
        cases failed
  refine ⟨noStray, ?_⟩
  rw [outcome_arrange] at succeeded
  obtain ⟨nonempty, _⟩ := ShuntingYard.run_eq_ok_iff.1 succeeded
  obtain ⟨yard, ran, tracks⟩ := ShuntingYard.exists_tracks_of_foldlM noStray
  rw [ShuntingYard.run_of_tracks nonempty ran tracks] at succeeded
  by_cases closed : Nesting.depth tokens = 0
  · exact closed
  · rw [if_neg closed] at succeeded
    cases succeeded

/-- If all operators name one, nothing is lost, and tokens that are not balanced are not arranged. -/
theorem exists_imbalance_of_not_balanced (nonempty : tokens ≠ [])
    (known : ∀ token ∈ tokens, token.kind = .operator → token.operator? ≠ none)
    (notBalanced : ¬Balanced opens closes tokens) :
    ∃ imbalance, (arrange tokens).outcome = .error (.unbalanced imbalance) := by
  cases outcome : (arrange tokens).outcome with
  | error failure =>
      rw [outcome_arrange] at outcome
      obtain ⟨empty, _⟩ | ⟨imbalance, rfl⟩ := ShuntingYard.exists_imbalance_of_run outcome
      · exact absurd empty nonempty
      · exact ⟨imbalance, rfl⟩
  | ok arranged =>
      obtain ⟨noStray, closed⟩ := firstStray?_of_arrange outcome
      have nothingLost : Nesting.lost tokens = 0 := by
        apply Nesting.lost_eq_zero_iff.2
        intro before token after tokensEq kind unknown
        exact absurd unknown (known token (by simp [tokensEq]) kind)
      have counted := Nesting.closes_add_depth_add_lost noStray
      exact absurd ((Nesting.balanced_iff noStray).2 (by omega)) notBalanced

/-- The parentheses that are put out are those that are lost. -/
theorem countP_isParenthesis_of_arrange (succeeded : (arrange tokens).outcome = .ok arranged) :
    arranged.countP Token.isParenthesis = Nesting.lost tokens := by
  obtain ⟨noStray, closed⟩ := firstStray?_of_arrange succeeded
  have counted := Nesting.closes_add_depth_add_lost noStray
  rw [outcome_arrange] at succeeded
  have conserved := ShuntingYard.countP_opens_of_run succeeded
  have left : arranged.countP Token.isParenthesis = arranged.countP opens := by
    apply List.countP_congr
    intro token member
    have notRight := ShuntingYard.kind_of_mem_run succeeded member
    simp [Token.isParenthesis, opens, notRight]
  omega

/-- Where tokens are arranged, no right parenthesis strays, and the parentheses that are put out are
those that are open where an operator stands that names none.  So the parentheses are balanced and
none is put out exactly if such operators stand outside all parentheses. -/
theorem arranged_balanced_iff (succeeded : (arrange tokens).outcome = .ok arranged) :
    (∀ count, (tokens.take count).countP closes ≤ (tokens.take count).countP opens) ∧
    arranged.countP Token.isParenthesis = Nesting.lost tokens ∧
    ((Balanced opens closes tokens ∧ ∀ token ∈ arranged, token.isParenthesis = false) ↔
      ∀ before token after, tokens = before ++ token :: after →
        token.kind = .operator → token.operator? = none → Nesting.depth before = 0) := by
  obtain ⟨noStray, closed⟩ := firstStray?_of_arrange succeeded
  have putOut := countP_isParenthesis_of_arrange succeeded
  refine ⟨Nesting.closes_take_le_opens_take noStray, putOut, ?_⟩
  have counted := Nesting.closes_add_depth_add_lost noStray
  rw [← Nesting.lost_eq_zero_iff, Nesting.balanced_iff noStray]
  constructor
  · intro ⟨totals, _⟩
    omega
  · intro nothing
    refine ⟨by omega, ?_⟩
    rw [nothing, List.countP_eq_zero] at putOut
    simpa using putOut

/-- The operator `%` names none.  In `(1)%2` it stands outside the parentheses. -/
theorem arranged_balanced_unknown_operator_outside :
    let tokens : List Token :=
      [.leftParenthesis, .integer "1", .rightParenthesis, .operator '%', .integer "2"]
    let arranged : List Token := [.integer "1", .integer "2", .operator '%']
    (arrange tokens).outcome = .ok arranged ∧ Balanced opens closes tokens ∧
      ∀ token ∈ arranged, token.isParenthesis = false := by
  intro tokens arranged
  have succeeded : (arrange tokens).outcome = .ok arranged := rfl
  obtain ⟨_, _, balanced⟩ := arranged_balanced_iff succeeded
  exact ⟨succeeded, balanced.2 (Nesting.lost_eq_zero_iff.1 rfl)⟩

/-- In `(1%2` it stands inside of one that is never closed, and the tokens are arranged nonetheless,
with the parenthesis among them. -/
theorem arranged_unbalanced_unknown_operator_inside :
    let tokens : List Token :=
      [.leftParenthesis, .integer "1", .operator '%', .integer "2"]
    ∃ arranged, (arrange tokens).outcome = .ok arranged ∧ ¬Balanced opens closes tokens ∧
      ∃ token ∈ arranged, token.isParenthesis := by
  intro tokens
  refine ⟨[.integer "1", .leftParenthesis, .integer "2", .operator '%'], rfl, ?_, ?_⟩
  · intro balanced
    exact absurd balanced.2 (by decide)
  · exact ⟨.leftParenthesis, by decide, rfl⟩

end Reckon
