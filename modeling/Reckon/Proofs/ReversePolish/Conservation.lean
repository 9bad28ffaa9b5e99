import Reckon.Proofs.ReversePolish.Arrangement

/-!
Contract: a shunting yard neither loses, doubles nor invents a token.

Owns:
- what a yard holds back and has put out, against the tokens taken in;
- its preservation by every move and by a run;
- which tokens are put out, and in which order those that are no operators.

Does not own: whether a run comes to an end, and the order of the operators.

Tokens are compared up to their order, together with the left parentheses that were closed.  This
counts the left parentheses that an operator releases to the output, too.
-/

set_option autoImplicit false

namespace Reckon

namespace ShuntingYard

variable {taken matched tokens arranged : List Token} {yard next : ShuntingYard} {token : Token}

theorem kind_of_opens (opening : opens token) : token.kind = .leftParenthesis := by
  simpa [opens] using opening

theorem closes_of_passes (passing : passes token) : closes token = false := by
  obtain ⟨lexeme, kind⟩ := token
  cases kind <;> first | rfl | cases passing

/-! ## All tokens -/

/-- The tokens put out, those held back and the left parentheses that were closed are the tokens
taken in, without the right parentheses.  There is one of these for every left one that was closed.
-/
structure Conserves (taken : List Token) (yard : ShuntingYard) (matched : List Token) : Prop where
  tokens : (yard.output.toList ++ yard.held ++ matched).Perm (taken.filter (!closes ·))
  opening : ∀ parenthesis ∈ matched, opens parenthesis
  length : matched.length = taken.countP closes

theorem conserves_empty : Conserves [] empty [] :=
  ⟨.refl _, by simp, rfl⟩

/-- A token that closes nothing joins the others. -/
theorem Conserves.joined (conserves : Conserves taken yard matched) (stays : closes token = false)
    (joins : (next.output.toList ++ next.held).Perm
      (yard.output.toList ++ yard.held ++ [token])) :
    Conserves (taken ++ [token]) next matched where
  tokens := by
    have last : (yard.output.toList ++ yard.held ++ [token] ++ matched).Perm
        (yard.output.toList ++ yard.held ++ matched ++ [token]) := by
      simp only [List.append_assoc]
      exact .append_left _ (.append_left _ List.perm_append_comm)
    have kept : (taken ++ [token]).filter (!closes ·) = taken.filter (!closes ·) ++ [token] := by
      simp [stays]
    rw [kept]
    exact ((joins.append_right matched).trans last).trans (conserves.tokens.append_right [token])
  opening := conserves.opening
  length := by
    simp [stays, conserves.length]

/-- A right parenthesis stays out, and a left one is matched. -/
theorem Conserves.closed {released kept : List Token} {parenthesis : Token}
    (conserves : Conserves taken yard matched) (closing : closes token)
    (held : yard.held = released ++ parenthesis :: kept) (opening : opens parenthesis) :
    Conserves (taken ++ [token]) ⟨kept, yard.output ++ released⟩ (parenthesis :: matched) where
  tokens := by
    have stays : (taken ++ [token]).filter (!closes ·) = taken.filter (!closes ·) := by
      simp [closing]
    have before := conserves.tokens
    rw [held] at before
    rw [stays]
    refine .trans ?_ before
    simp only [Array.toList_appendList, List.append_assoc, List.cons_append]
    exact .append_left _ (.append_left _ List.perm_middle)
  opening := by
    simpa [opening] using conserves.opening
  length := by
    simp [closing, conserves.length]

/-- A move conserves the tokens. -/
theorem Conserves.move (conserves : Conserves taken yard matched) (move : Move yard token next) :
    ∃ matched, Conserves (taken ++ [token]) next matched := by
  cases move with
  | passed passing =>
      refine ⟨matched, conserves.joined (closes_of_passes passing) ?_⟩
      simp only [Array.toList_push, List.append_assoc]
      exact .append_left _ List.perm_append_comm
  | opened kind =>
      refine ⟨matched, conserves.joined (by simp [closes, kind]) ?_⟩
      rw [List.append_assoc]
      exact .append_left _ (List.perm_append_singleton ..).symm
  | heldBack kind held =>
      refine ⟨matched, conserves.joined (by simp [closes, kind]) ?_⟩
      simp only [Array.toList_appendList, held, List.append_assoc]
      exact .append_left _ (.append_left _ (List.perm_append_singleton ..).symm)
  | @closed _ _ parenthesis kind held _ opening =>
      exact ⟨parenthesis :: matched, conserves.closed (by simp [closes, kind]) held opening⟩

theorem exists_conserves_of_foldlM (ran : tokens.foldlM step empty = .ok yard) :
    ∃ matched, Conserves tokens yard matched := by
  refine Run.invariant_foldlM (fun taken yard => ∃ matched, Conserves taken yard matched) ?_
    ⟨[], conserves_empty⟩ ran
  intro taken yard token next ⟨matched, conserves⟩ stepped
  exact conserves.move (step_eq_ok_iff.1 stepped)

/-! ## Numbers and unary minuses -/

/-- Numbers and unary minuses are put out in their order, and none is held back. -/
structure KeepsOrder (taken : List Token) (yard : ShuntingYard) : Prop where
  output : yard.output.toList.filter passes = taken.filter passes
  held : ∀ waiting ∈ yard.held, passes waiting = false

theorem KeepsOrder.move (ordered : KeepsOrder taken yard) (move : Move yard token next) :
    KeepsOrder (taken ++ [token]) next := by
  -- What is released was held back, and no number or unary minus is among it.
  have unchanged : ∀ {released : List Token}, (∀ waiting ∈ released, waiting ∈ yard.held) →
      passes token = false →
      (yard.output ++ released).toList.filter passes = (taken ++ [token]).filter passes := by
    intro released members other
    have none : released.filter passes = [] := by
      apply List.filter_eq_nil_iff.2
      intro waiting member
      simp [ordered.held waiting (members waiting member)]
    simp [none, other, ordered.output]
  cases move with
  | passed passing => exact ⟨by simp [passing, ordered.output], ordered.held⟩
  | opened kind =>
      have other : passes token = false := by
        simp [passes, Token.isNumber, kind]
      exact ⟨by simp [other, ordered.output], by simpa [other] using ordered.held⟩
  | heldBack kind held =>
      have other : passes token = false := by
        simp [passes, Token.isNumber, kind]
      refine ⟨unchanged ?_ other, ?_⟩
      · intro waiting member
        simp [held, member]
      · intro waiting member
        rcases List.mem_cons.1 member with rfl | stays
        · exact other
        · exact ordered.held waiting (by simp [held, stays])
  | closed kind held =>
      have other : passes token = false := by
        simp [passes, Token.isNumber, kind]
      refine ⟨unchanged ?_ other, ?_⟩
      · intro waiting member
        simp [held, member]
      · intro waiting stays
        exact ordered.held waiting (by simp [held, stays])

theorem keepsOrder_of_foldlM (ran : tokens.foldlM step empty = .ok yard) :
    KeepsOrder tokens yard := by
  have start : KeepsOrder [] empty := ⟨rfl, by simp [empty]⟩
  refine Run.invariant_foldlM KeepsOrder ?_ start ran
  intro taken yard token next ordered stepped
  exact ordered.move (step_eq_ok_iff.1 stepped)

/-! ## Runs -/

theorem run_eq_ok_iff :
    run tokens = .ok arranged ↔
      tokens ≠ [] ∧ ∃ yard, tokens.foldlM step empty = .ok yard ∧ yard.finish = .ok arranged := by
  unfold run
  cases tokens with
  | nil => simp
  | cons token rest =>
      show (List.foldlM step empty (token :: rest) >>= finish).mapError Failure.unbalanced = _ ↔ _
      rw [Run.mapError_foldlM_bind_eq_ok_iff]
      simp

/-- What a run puts out is what it takes in, up to order, without the right parentheses and as many
left ones. -/
theorem exists_perm_of_run (ran : run tokens = .ok arranged) :
    ∃ matched, (arranged ++ matched).Perm (tokens.filter (!closes ·)) ∧
      (∀ parenthesis ∈ matched, opens parenthesis) ∧ matched.length = tokens.countP closes := by
  obtain ⟨_, yard, taken, finished⟩ := run_eq_ok_iff.1 ran
  obtain ⟨_, arrangedEq⟩ := finish_eq_ok_iff.1 finished
  obtain ⟨matched, conserved, opening, length⟩ := exists_conserves_of_foldlM taken
  rw [arrangedEq] at conserved
  exact ⟨matched, conserved, opening, length⟩

theorem filter_passes_of_run (ran : run tokens = .ok arranged) :
    arranged.filter passes = tokens.filter passes := by
  obtain ⟨_, yard, taken, finished⟩ := run_eq_ok_iff.1 ran
  obtain ⟨_, arrangedEq⟩ := finish_eq_ok_iff.1 finished
  obtain ⟨output, held⟩ := keepsOrder_of_foldlM taken
  have none : yard.held.filter passes = [] := by
    simpa [List.filter_eq_nil_iff] using held
  rw [← arrangedEq, List.filter_append, none, List.append_nil, output]

theorem countP_opens_of_run (ran : run tokens = .ok arranged) :
    arranged.countP opens + tokens.countP closes = tokens.countP opens := by
  obtain ⟨matched, conserved, opening, length⟩ := exists_perm_of_run ran
  have all : matched.countP opens = matched.length := List.countP_eq_length.2 opening
  have counted : (tokens.filter (!closes ·)).countP opens = tokens.countP opens := by
    rw [List.countP_filter]
    apply List.countP_congr
    intro token _
    cases kind : token.kind <;> simp [opens, closes, kind]
  have sameCount := conserved.countP_eq opens
  rw [List.countP_append, all, length, counted] at sameCount
  exact sameCount

theorem mem_filter_of_mem_run (ran : run tokens = .ok arranged) (member : token ∈ arranged) :
    token ∈ tokens.filter (!closes ·) := by
  obtain ⟨matched, conserved, _⟩ := exists_perm_of_run ran
  exact (conserved.mem_iff).1 (List.mem_append_left matched member)

theorem kind_of_mem_run (ran : run tokens = .ok arranged) (member : token ∈ arranged) :
    token.kind ≠ .rightParenthesis := by
  have kept := mem_filter_of_mem_run ran member
  simpa [closes] using (List.mem_filter.1 kept).2

/-- Apart from parentheses, all tokens are put out. -/
theorem filter_isParenthesis_of_run (ran : run tokens = .ok arranged) :
    (arranged.filter (!·.isParenthesis)).Perm (tokens.filter (!·.isParenthesis)) := by
  obtain ⟨matched, conserved, opening, _⟩ := exists_perm_of_run ran
  have none : matched.filter (!·.isParenthesis) = [] := by
    apply List.filter_eq_nil_iff.2
    intro parenthesis member
    simp [Token.isParenthesis, kind_of_opens (opening parenthesis member)]
  have others : (tokens.filter (!closes ·)).filter (!·.isParenthesis) =
      tokens.filter (!·.isParenthesis) := by
    rw [List.filter_filter]
    apply List.filter_congr
    intro token _
    cases kind : token.kind <;> simp [Token.isParenthesis, closes, kind]
  have filtered := conserved.filter (!·.isParenthesis)
  rw [List.filter_append, none, List.append_nil, others] at filtered
  exact filtered

end ShuntingYard

/-- What arranging puts out is what it is given, whatever the lexemes are.  Apart from parentheses
all tokens are there, none more often than before, and numbers and unary minuses in their order.
There is no right parenthesis among them, and as many left ones as were not closed. -/
theorem arrange_conserves_tokens {tokens arranged : List Token}
    (succeeded : (arrange tokens).outcome = .ok arranged) :
    (arranged.filter (!·.isParenthesis)).Perm (tokens.filter (!·.isParenthesis)) ∧
    arranged.filter ShuntingYard.passes = tokens.filter ShuntingYard.passes ∧
    (∀ token ∈ arranged, token.kind ≠ .rightParenthesis) ∧
    (arranged.countP ShuntingYard.opens : Int) =
      tokens.countP ShuntingYard.opens - tokens.countP ShuntingYard.closes := by
  rw [outcome_arrange] at succeeded
  refine ⟨ShuntingYard.filter_isParenthesis_of_run succeeded,
    ShuntingYard.filter_passes_of_run succeeded, ?_, ?_⟩
  · intro token member
    exact ShuntingYard.kind_of_mem_run succeeded member
  · have counted := ShuntingYard.countP_opens_of_run succeeded
    omega

/-- In `2*((-1)%3.5` the operator `%` names none, and the left parenthesis that it releases is put
out. -/
theorem arrange_conserves_released_parenthesis :
    let tokens : List Token :=
      [.integer "2", .operator '*', .leftParenthesis, .leftParenthesis, .unaryMinus, .integer "1",
        .rightParenthesis, .operator '%', .floatingPoint "3.5"]
    let arranged : List Token :=
      [.integer "2", .unaryMinus, .integer "1", .leftParenthesis, .operator '*',
        .floatingPoint "3.5", .operator '%']
    (arrange tokens).outcome = .ok arranged ∧
      (arranged.filter (!·.isParenthesis)).Perm (tokens.filter (!·.isParenthesis)) ∧
      arranged.filter ShuntingYard.passes = tokens.filter ShuntingYard.passes ∧
      (∀ token ∈ arranged, token.kind ≠ .rightParenthesis) ∧
      (arranged.countP ShuntingYard.opens : Int) =
        tokens.countP ShuntingYard.opens - tokens.countP ShuntingYard.closes := by
  intro tokens arranged
  have succeeded : (arrange tokens).outcome = .ok arranged := rfl
  exact ⟨succeeded, arrange_conserves_tokens succeeded⟩

end Reckon
