import Mathlib.Data.List.Chain
import Reckon.Calculator
import Reckon.Proofs.ReversePolish.Arrangement

/-!
Contract: what a shunting yard holds back at any moment.

Owns:
- the order of the tokens held back, read from the bottom of the stack to its top;
- its preservation by a step and by a run, and that every stack in this order comes up;
- the bound on the number of tokens held back that follows from it.

Does not own: the tokens put out.

A step changes the stack at its top, so what a step preserves is said of neighbours: a token that
stands on another opens a parenthesis or binds tighter than it.  Left parentheses and operators that
name none bind at 0, which makes this one rule for all of them.
-/

set_option autoImplicit false

namespace Reckon

namespace ShuntingYard

/-- The order of the tokens held back, from the bottom to the top.  There are left parentheses and
operators only, an operator that names none is at the bottom, and where operators that name one stand
next to each other, they bind tighter the higher they stand. -/
structure Stacked (stack : List Token) : Prop where
  kind : ∀ token ∈ stack, token.kind = .leftParenthesis ∨ token.kind = .operator
  known : ∀ token ∈ stack.tail, token.kind = .operator → token.operator?.isSome
  ascending : ∀ run, run <:+: stack → (∀ token ∈ run, token.operator?.isSome) →
    (run.map Token.precedence).Pairwise (· < ·)

/-- A token may stand directly on another. -/
def RestsOn (above below : Token) : Prop := opens above ∨ below.precedence < above.precedence

/-- The same order by neighbours, from the top to the bottom. -/
structure Piled (held : List Token) : Prop where
  kind : ∀ token ∈ held, token.kind = .leftParenthesis ∨ token.kind = .operator
  rests : held.IsChain RestsOn

variable {token above below : Token} {held kept : List Token}

theorem opens_of_kind (kind : token.kind = .leftParenthesis) : opens token := by
  simp [opens, kind]

theorem RestsOn.tighter (rests : RestsOn above below) (kind : above.kind = .operator) :
    below.precedence < above.precedence := by
  have closed : opens above = false := by
    simp [opens, kind]
  simpa [RestsOn, closed] using rests

/-! ### Steps and runs -/

theorem piled_empty : Piled empty.held := ⟨nofun, .nil⟩

theorem Piled.of_suffix (piled : Piled held) (suffix : kept <:+ held) : Piled kept where
  kind := fun token member => piled.kind token (suffix.subset member)
  rests := piled.rests.suffix suffix

theorem Piled.cons (piled : Piled held)
    (kind : token.kind = .leftParenthesis ∨ token.kind = .operator)
    (rests : ∀ top ∈ held.head?, RestsOn token top) : Piled (token :: held) where
  kind := List.forall_mem_cons.2 ⟨kind, piled.kind⟩
  rests := List.isChain_cons.2 ⟨rests, piled.rests⟩

/-- A step keeps the order: it takes tokens off the top, and then puts on one at most. -/
theorem Piled.step {yard next : ShuntingYard} (piled : Piled yard.held)
    (stepped : yard.step token = .ok next) : Piled next.held := by
  cases step_eq_ok_iff.1 stepped with
  | passed passing => exact piled
  | @heldBack released kept kind held binds rests =>
      have stays : Piled kept := piled.of_suffix ⟨released, held.symm⟩
      exact stays.cons (.inr kind) fun top member => .inr (rests top member)
  | opened kind => exact piled.cons (.inl kind) fun top member => .inl (opens_of_kind kind)
  | @closed released kept parenthesis kind held inside opening =>
      apply piled.of_suffix
      exact ⟨released ++ [parenthesis], by simp [held]⟩

theorem piled_of_foldlM {tokens : List Token} {yard : ShuntingYard}
    (ran : tokens.foldlM ShuntingYard.step empty = .ok yard) : Piled yard.held :=
  Run.preserved_foldlM (fun yard => Piled yard.held) (fun piled stepped => piled.step stepped)
    piled_empty ran

theorem outcome_foldlM_receive_eq_ok_iff {tokens : List Token} {yard final : ShuntingYard} :
    (tokens.foldlM receive yard).outcome = .ok final ↔
      tokens.foldlM ShuntingYard.step yard = .ok final := by
  rw [Report.outcome_foldlM]
  simp only [outcome_receive]
  exact Run.foldlM_mapError_eq_ok_iff

/-- Tokens in this order release nothing.  Put in from the bottom on, they are all held back. -/
theorem Piled.foldlM_step (piled : Piled held) :
    held.reverse.foldlM ShuntingYard.step empty = .ok ⟨held, #[]⟩ := by
  induction held with
  | nil => rfl
  | cons token rest inductionHypothesis =>
      have ran := inductionHypothesis (piled.of_suffix (List.suffix_cons token rest))
      rw [List.reverse_cons, Run.foldlM_append_of_ok ran]
      apply Run.foldlM_singleton
      rcases piled.kind token List.mem_cons_self with kind | kind
      · simp [ShuntingYard.step, kind]
      · have rests : ∀ top ∈ rest.head?, top.precedence < token.precedence := by
          intro top member
          exact ((List.isChain_cons.1 piled.rests).1 top member).tighter kind
        have stepped : ShuntingYard.step ⟨rest, #[]⟩ token =
            .ok ⟨token :: rest, #[] ++ ([] : List Token)⟩ :=
          step_operator kind rfl (List.forall_mem_nil _) rests
        exact stepped

/-! ### Neighbours and whole runs of operators -/

theorem Piled.stacked (piled : Piled held) : Stacked held.reverse := by
  have chain : held.reverse.IsChain fun below above => RestsOn above below :=
    List.isChain_reverse.2 piled.rests
  refine ⟨fun token member => piled.kind token (List.mem_reverse.1 member), ?_, ?_⟩
  · intro token member kind
    -- Above the bottom there is a neighbour to bind tighter than.
    obtain ⟨place, inside, rfl⟩ := List.getElem_of_mem member
    rw [List.getElem_tail] at kind ⊢
    rw [List.length_tail] at inside
    have rests := List.isChain_iff_getElem.1 chain place (by omega)
    have tighter := rests.tighter kind
    exact Token.precedence_pos_iff.1 (by omega)
  · intro run inStack known
    have runChain := List.IsChain.infix chain inStack
    rw [← List.isChain_iff_pairwise, List.isChain_map]
    apply runChain.imp_of_mem_imp
    intro below above _ member rests
    have named := Token.precedence_pos_iff.2 (known above member)
    simpa [RestsOn, not_opens_of_precedence_pos named] using rests

theorem Stacked.piled (stacked : Stacked held.reverse) : Piled held := by
  refine ⟨fun token member => stacked.kind token (List.mem_reverse.2 member), ?_⟩
  rw [← List.isChain_reverse, List.isChain_iff_forall_rel_of_append_cons_cons]
  intro below above front rest stackEq
  have inTail : above ∈ held.reverse.tail := by
    rw [stackEq]
    cases front <;> simp
  rcases stacked.kind above (List.mem_of_mem_tail inTail) with kind | kind
  · exact .inl (opens_of_kind kind)
  · right
    have named := stacked.known above inTail kind
    by_cases belowNamed : below.operator?.isSome
    · have inStack : [below, above] <:+: held.reverse := ⟨front, rest, by simp [stackEq]⟩
      simpa using stacked.ascending [below, above] inStack (by simp [belowNamed, named])
    · rw [← Token.precedence_pos_iff] at belowNamed named
      omega

/-! ### Number -/

/-- A parenthesis and an operator of each precedence on it are four tokens.  At the bottom there is
room for four as well, with an operator that names none in place of the parenthesis.  The top tells
how much of the uppermost room is taken. -/
theorem length_le_of_isChain {top : Token} {rest : List Token}
    (chain : (top :: rest).IsChain RestsOn) :
    (top :: rest).length ≤ 4 * (top :: rest).countP opens + top.precedence + 1 := by
  induction rest generalizing top with
  | nil => simp
  | cons next others inductionHypothesis =>
      obtain ⟨rests, restChain⟩ := List.isChain_cons_cons.1 chain
      have bound := inductionHypothesis restChain
      rw [List.length_cons]
      rcases rests with opening | tighter
      · have low := next.precedence_le_three
        rw [List.countP_cons_of_pos opening]
        omega
      · have atLeast : (next :: others).countP opens ≤ (top :: next :: others).countP opens :=
          (List.sublist_cons_self top (next :: others)).countP_le
        omega

theorem Piled.length_le (piled : Piled held) : held.length ≤ 4 * (held.countP opens + 1) := by
  cases held with
  | nil => exact Nat.zero_le _
  | cons top rest =>
      have bound := length_le_of_isChain piled.rests
      have low := top.precedence_le_three
      omega

end ShuntingYard

/-- Behind any number of tokens that are taken in, the tokens held back are in order from the bottom
of the stack to its top, so that there are at most four of them for each open parenthesis, and four
more.  Every stack in this order comes up. -/
theorem held_back_in_order :
    (∀ (tokens : List Token) (count : Nat) (yard : ShuntingYard),
      ((tokens.take count).foldlM ShuntingYard.receive .empty).outcome = .ok yard →
        ShuntingYard.Stacked yard.held.reverse ∧
          yard.held.length ≤ 4 * (yard.held.countP ShuntingYard.opens + 1)) ∧
    ∀ stack : List Token, ShuntingYard.Stacked stack →
      ∃ yard, (stack.foldlM ShuntingYard.receive .empty).outcome = .ok yard ∧
        yard.held.reverse = stack := by
  simp only [ShuntingYard.outcome_foldlM_receive_eq_ok_iff]
  constructor
  · intro tokens count yard ran
    have piled := ShuntingYard.piled_of_foldlM ran
    exact ⟨piled.stacked, piled.length_le⟩
  · intro stack stacked
    rw [← List.reverse_reverse stack] at stacked
    have ran := stacked.piled.foldlM_step
    rw [List.reverse_reverse] at ran
    exact ⟨_, ran, List.reverse_reverse stack⟩

/-- The bound is met: behind the first fourteen tokens of `% 1 + 2 * 3 ^ (4 - 5 / 6 ^ 7)`, where `%`
names no operator, eight tokens are held back and one parenthesis is open. -/
theorem held_back_to_the_bound :
    let tokens : List Token :=
      [.operator '%', .integer "1", .operator '+', .integer "2", .operator '*', .integer "3",
        .operator '^', .leftParenthesis, .integer "4", .operator '-', .integer "5", .operator '/',
        .integer "6", .operator '^', .integer "7", .rightParenthesis]
    let stack : List Token :=
      [.operator '%', .operator '+', .operator '*', .operator '^', .leftParenthesis, .operator '-',
        .operator '/', .operator '^']
    ∃ yard, ((tokens.take 14).foldlM ShuntingYard.receive .empty).outcome = .ok yard ∧
      yard.held.reverse = stack ∧ ShuntingYard.Stacked stack ∧
      stack.length = 4 * (stack.countP ShuntingYard.opens + 1) ∧
      ∃ again, (stack.foldlM ShuntingYard.receive .empty).outcome = .ok again ∧
        again.held.reverse = stack := by
  intro tokens stack
  have ordered := (held_back_in_order.1 tokens 14 _ rfl).1
  exact ⟨_, rfl, rfl, ordered, rfl, held_back_in_order.2 stack ordered⟩

end Reckon
