import Mathlib.Data.List.Induction
import Mathlib.Data.List.TakeWhile
import Reckon.Token

/-!
Contract: lists taken in one item after the other.

A run is `List.foldlM` of a step in `Except`: it may fail.

Owns:
- the run over a list, by its first step, by its last one and by a cut at any place;
- the step that a run fails on;
- the passage from what one step preserves to what a run preserves;
- the cut of a list where its elements stop to pass a test;
- the places of a token list as the ways to cut it at a token, and the first place that passes a
  test;
- that a run whose steps succeed where the test does not pass takes in a list without such a place.

Does not own: any machine, and any test.

Places are told by the tokens in front of them, so inductions on them go along the end of the list.
-/

set_option autoImplicit false

namespace Reckon

/-! ## Runs -/

namespace Run

variable {ε α σ : Type} {step : σ → α → Except ε σ}

theorem foldlM_cons_of_ok {state next : σ} {item : α} (stepped : step state item = .ok next)
    (rest : List α) : (item :: rest).foldlM step state = rest.foldlM step next := by
  rw [List.foldlM_cons, stepped]
  rfl

theorem foldlM_cons_of_error {state : σ} {item : α} {failure : ε}
    (stepped : step state item = .error failure) (rest : List α) :
    (item :: rest).foldlM step state = .error failure := by
  rw [List.foldlM_cons, stepped]
  rfl

theorem foldlM_singleton {state next : σ} {item : α} (stepped : step state item = .ok next) :
    [item].foldlM step state = .ok next :=
  foldlM_cons_of_ok stepped []

theorem foldlM_append_of_ok {state middle : σ} {left : List α}
    (ran : left.foldlM step state = .ok middle) (right : List α) :
    (left ++ right).foldlM step state = right.foldlM step middle := by
  rw [List.foldlM_append, ran]
  rfl

/-- A run that takes in all its items is cut in two at any place. -/
theorem foldlM_append_eq_ok_iff {state final : σ} {left right : List α} :
    (left ++ right).foldlM step state = .ok final ↔
      ∃ middle, left.foldlM step state = .ok middle ∧ right.foldlM step middle = .ok final := by
  rw [List.foldlM_append]
  cases left.foldlM step state with
  | error failure =>
      show Except.error failure = Except.ok final ↔ _
      simp
  | ok middle =>
      show right.foldlM step middle = .ok final ↔ _
      simp

/-- The first step of a run that takes in all its items. -/
theorem foldlM_cons_eq_ok_iff {state final : σ} {item : α} {rest : List α} :
    (item :: rest).foldlM step state = .ok final ↔
      ∃ next, step state item = .ok next ∧ rest.foldlM step next = .ok final := by
  rw [← List.singleton_append, foldlM_append_eq_ok_iff]
  simp only [List.foldlM_cons, List.foldlM_nil, bind_pure]

/-- The last step of a run that takes in all its items. -/
theorem foldlM_concat_eq_ok_iff {state final : σ} {items : List α} {item : α} :
    (items ++ [item]).foldlM step state = .ok final ↔
      ∃ middle, items.foldlM step state = .ok middle ∧ step middle item = .ok final := by
  rw [foldlM_append_eq_ok_iff]
  simp only [List.foldlM_cons, List.foldlM_nil, bind_pure]

/-- A run fails where one of its steps does, and in no other way. -/
theorem foldlM_eq_error_iff {state : σ} {items : List α} {failure : ε} :
    items.foldlM step state = .error failure ↔
      ∃ taken item rest middle, items = taken ++ item :: rest ∧
        taken.foldlM step state = .ok middle ∧ step middle item = .error failure := by
  constructor
  · intro ran
    induction items generalizing state with
    | nil => cases ran
    | cons item rest inductionHypothesis =>
        cases stepped : step state item with
        | error stepFailure =>
            rw [foldlM_cons_of_error stepped] at ran
            cases ran
            exact ⟨[], item, rest, state, rfl, rfl, stepped⟩
        | ok next =>
            rw [foldlM_cons_of_ok stepped] at ran
            obtain ⟨taken, later, left, middle, itemsEq, reached, failed⟩ := inductionHypothesis ran
            refine ⟨item :: taken, later, left, middle, ?_, ?_, failed⟩
            · rw [itemsEq, List.cons_append]
            · rw [foldlM_cons_of_ok stepped]
              exact reached
  · intro ⟨taken, item, rest, middle, itemsEq, reached, failed⟩
    rw [itemsEq, foldlM_append_of_ok reached]
    exact foldlM_cons_of_error failed rest

/-- What relates the first state to the items taken in before, and is preserved by every step that
succeeds, relates the last state to all the items taken in. -/
theorem invariant_foldlM (Invariant : List α → σ → Prop)
    (preserved : ∀ {taken state item next}, Invariant taken state → step state item = .ok next →
      Invariant (taken ++ [item]) next)
    {taken items : List α} {state final : σ} (start : Invariant taken state)
    (ran : items.foldlM step state = .ok final) : Invariant (taken ++ items) final := by
  induction items generalizing taken state with
  | nil =>
      cases ran
      rw [List.append_nil]
      exact start
  | cons item rest inductionHypothesis =>
      obtain ⟨next, stepped, ranRest⟩ := foldlM_cons_eq_ok_iff.1 ran
      rw [← List.singleton_append, ← List.append_assoc]
      exact inductionHypothesis (preserved start stepped) ranRest

/-- What holds of the first state, and is preserved by every step that succeeds, holds of the last
state. -/
theorem preserved_foldlM (Property : σ → Prop)
    (preserved : ∀ {state item next}, Property state → step state item = .ok next → Property next)
    {items : List α} {state final : σ} (start : Property state)
    (ran : items.foldlM step state = .ok final) : Property final :=
  @invariant_foldlM ε α σ step (fun _ => Property) (@fun _ _ _ _ => preserved) [] items state final
    start ran

/-- Failures may be turned into others at every step or at the end of the run. -/
theorem mapError_foldlM_bind {ε' β : Type} {finish : σ → Except ε β} {turn : ε → ε'} (state : σ)
    (items : List α) :
    (items.foldlM step state >>= finish).mapError turn =
      items.foldlM (fun state item => (step state item).mapError turn) state >>=
        fun final => (finish final).mapError turn := by
  induction items generalizing state with
  | nil => rfl
  | cons item rest inductionHypothesis =>
      rw [List.foldlM_cons, List.foldlM_cons]
      cases step state item with
      | error failure => rfl
      | ok next => exact inductionHypothesis next

/-- A run takes in its items whatever the failures of its steps are turned into. -/
theorem foldlM_mapError_eq_ok_iff {ε' : Type} {turn : ε → ε'} {state final : σ} {items : List α} :
    items.foldlM (fun state item => (step state item).mapError turn) state = .ok final ↔
      items.foldlM step state = .ok final := by
  induction items generalizing state with
  | nil => simp [pure, Except.pure]
  | cons item rest inductionHypothesis =>
      rw [List.foldlM_cons, List.foldlM_cons]
      cases step state item with
      | error failure => exact iff_of_false nofun nofun
      | ok next => exact inductionHypothesis

/-- A run that has a result, whatever its failures are turned into, has taken in all its items. -/
theorem mapError_foldlM_bind_eq_ok_iff {ε' β : Type} {finish : σ → Except ε β} {turn : ε → ε'}
    {state : σ} {items : List α} {result : β} :
    (items.foldlM step state >>= finish).mapError turn = .ok result ↔
      ∃ final, items.foldlM step state = .ok final ∧ finish final = .ok result := by
  cases ran : items.foldlM step state with
  | error failure =>
      show Except.error (turn failure) = Except.ok result ↔ _
      simp
  | ok final =>
      show (finish final).mapError turn = .ok result ↔ _
      cases finished : finish final with
      | error failure =>
          show Except.error (turn failure) = Except.ok result ↔ _
          simp [finished]
      | ok value =>
          show Except.ok value = Except.ok result ↔ _
          simp [finished]

end Run

/-! ## Cuts -/

variable {α : Type} {test : α → Bool}

theorem dropWhile_append_of_boundary {body rest : List α}
    (inside : ∀ element ∈ body, test element = true)
    (boundary : ∀ element ∈ rest.head?, test element = false) :
    (body ++ rest).dropWhile test = rest := by
  rw [List.dropWhile_append_of_pos inside]
  cases rest with
  | nil => rfl
  | cons element below => exact List.dropWhile_cons_of_neg (by simp [boundary element rfl])

theorem takeWhile_append_of_boundary {body rest : List α}
    (inside : ∀ element ∈ body, test element = true)
    (boundary : ∀ element ∈ rest.head?, test element = false) :
    (body ++ rest).takeWhile test = body := by
  rw [List.takeWhile_append_of_pos inside]
  cases rest with
  | nil => simp
  | cons element below =>
      rw [List.takeWhile_cons_of_neg (by simp [boundary element rfl]), List.append_nil]

/-- Every list is cut by a test in this way. -/
theorem exists_cut (test : α → Bool) (elements : List α) :
    ∃ body rest, elements = body ++ rest ∧ (∀ element ∈ body, test element = true) ∧
      ∀ element ∈ rest.head?, test element = false := by
  refine ⟨elements.takeWhile test, elements.dropWhile test,
    List.takeWhile_append_dropWhile.symm, ?_, ?_⟩
  · intro element member
    exact List.mem_takeWhile_imp member
  · intro element member
    have boundary := List.head?_dropWhile_not test elements
    rw [Option.mem_def.1 member] at boundary
    exact boundary

/-! ## Places -/

namespace Token

variable {test : List Token × Token → Bool} {tokens before : List Token} {token : Token}

/-- The places of a list are the ways to cut it at a token. -/
theorem mem_places_iff :
    (before, token) ∈ places tokens ↔ ∃ after, tokens = before ++ token :: after := by
  unfold places
  rw [List.mem_map]
  constructor
  · rintro ⟨⟨other, place⟩, member, placeEq⟩
    obtain ⟨inside, otherEq⟩ := List.mem_zipIdx' member
    cases placeEq
    refine ⟨tokens.drop (place + 1), ?_⟩
    rw [otherEq, List.getElem_cons_drop, List.take_append_drop]
  · rintro ⟨after, rfl⟩
    refine ⟨(token, before.length), ?_, ?_⟩
    · rw [List.mem_zipIdx_iff_getElem?]
      simp
    · simp

/-- No place of the front of a list passes if none of the list does. -/
theorem find?_places_of_append {left right : List Token}
    (noneFound : (places (left ++ right)).find? test = none) :
    (places left).find? test = none := by
  apply List.find?_eq_none.2
  intro ⟨before, token⟩ member
  obtain ⟨after, rfl⟩ := mem_places_iff.1 member
  refine List.find?_eq_none.1 noneFound (before, token) (mem_places_iff.2 ⟨after ++ right, ?_⟩)
  rw [List.append_assoc, List.cons_append]

theorem find?_places_concat_eq_none_iff :
    (places (tokens ++ [token])).find? test = none ↔
      (places tokens).find? test = none ∧ test (tokens, token) = false := by
  rw [places_concat, List.find?_append, Option.or_eq_none_iff, List.find?_singleton]
  by_cases passes : test (tokens, token)
  · simp [passes]
  · simp [passes]

/-- The first place that passes cuts the list at its token, and in front of it none passes. -/
theorem exists_split_of_find?_places
    (found : (places tokens).find? test = some (before, token)) :
    ∃ after, tokens = before ++ token :: after ∧ (places before).find? test = none ∧
      test (before, token) := by
  induction tokens using List.reverseRecOn with
  | nil => cases found
  | append_singleton tokens last inductionHypothesis =>
      rw [places_concat, List.find?_append] at found
      cases earlier : (places tokens).find? test with
      | some place =>
          rw [earlier, Option.some_or] at found
          obtain ⟨after, tokensEq, noneBefore, passes⟩ := inductionHypothesis (earlier.trans found)
          refine ⟨after ++ [last], ?_, noneBefore, passes⟩
          rw [tokensEq, List.append_assoc, List.cons_append]
      | none =>
          rw [earlier, Option.none_or, List.find?_singleton] at found
          by_cases passes : test (tokens, last)
          · rw [if_pos passes] at found
            cases found
            exact ⟨[], rfl, earlier, passes⟩
          · rw [if_neg passes] at found
            cases found

/-- If a step succeeds wherever the test does not pass, and preserves an invariant, a list without a
place that passes is taken in as a whole, and the invariant holds behind it. -/
theorem exists_foldlM_of_find?_places {ε σ : Type} {step : σ → Token → Except ε σ}
    (Invariant : List Token → σ → Prop)
    (preserved : ∀ {taken state token}, Invariant taken state → test (taken, token) = false →
      ∃ next, step state token = .ok next ∧ Invariant (taken ++ [token]) next)
    {start : σ} (begins : Invariant [] start) (noneFound : (places tokens).find? test = none) :
    ∃ final, tokens.foldlM step start = .ok final ∧ Invariant tokens final := by
  induction tokens using List.reverseRecOn with
  | nil => exact ⟨start, rfl, begins⟩
  | append_singleton tokens token inductionHypothesis =>
      obtain ⟨noneBefore, notHere⟩ := find?_places_concat_eq_none_iff.1 noneFound
      obtain ⟨state, ran, holds⟩ := inductionHypothesis noneBefore
      obtain ⟨next, stepped, nextHolds⟩ := preserved holds notHere
      exact ⟨next, Run.foldlM_concat_eq_ok_iff.2 ⟨state, ran, stepped⟩, nextHolds⟩

end Token

end Reckon
