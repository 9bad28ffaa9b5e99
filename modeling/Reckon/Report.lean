import Reckon.Event

/-!
Contract: a result together with the events on the way to it.

Owns:
- the type of reports and their composition;
- the order in which the parts of a calculation come into play;
- the warning that a failure calls for, part and wording;
- candid reports, which warn of the failure that ends them and of nothing else;
- the results that a report shows.

Does not own: any event of its own, and which reports are candid.
-/

set_option autoImplicit false

namespace Reckon

/-- The events of a calculation, oldest first, and its result or the failure that ended it. -/
structure Report (α : Type) where
  events : List Event
  outcome : Except Failure α

namespace Report

variable {α β γ : Type}

/-- Go on with the result of a report.  After a failure nothing more happens. -/
protected def bind (report : Report α) (continuation : α → Report β) : Report β :=
  match report.outcome with
  | .ok value =>
      let rest := continuation value
      ⟨report.events ++ rest.events, rest.outcome⟩
  | .error failure => ⟨report.events, .error failure⟩

instance : Monad Report where
  pure value := ⟨[], .ok value⟩
  bind := Report.bind

def emit (event : Event) : Report Unit := ⟨[event], .ok ()⟩

/-- Give up, and leave a warning. -/
def fail (failure : Failure) : Report α := ⟨[.failed failure], .error failure⟩

/-- Go on with a result, or give up for a failure. -/
def ofExcept : Except Failure α → Report α
  | .ok value => pure value
  | .error failure => fail failure

/-- Report a result once there is one. -/
def announce (event : α → Event) (report : Report α) : Report α := do
  let value ← report
  emit (event value)
  return value

@[simp]
theorem outcome_pure (value : α) : (pure value : Report α).outcome = .ok value := rfl

@[simp]
theorem events_pure (value : α) : (pure value : Report α).events = [] := rfl

@[simp]
theorem outcome_bind (report : Report α) (continuation : α → Report β) :
    (report >>= continuation).outcome
      = report.outcome >>= fun value => (continuation value).outcome := by
  show (Report.bind report continuation).outcome = _
  unfold Report.bind
  cases report.outcome <;> rfl

/-- What happens after a success: the events of the first report come first. -/
theorem bind_of_ok {report : Report α} {value : α} (succeeded : report.outcome = .ok value)
    (continuation : α → Report β) :
    report >>= continuation =
      ⟨report.events ++ (continuation value).events, (continuation value).outcome⟩ := by
  show Report.bind report continuation = _
  unfold Report.bind
  rw [succeeded]

theorem bind_of_error {report : Report α} {failure : Failure}
    (failed : report.outcome = .error failure) (continuation : α → Report β) :
    report >>= continuation = ⟨report.events, .error failure⟩ := by
  show Report.bind report continuation = _
  unfold Report.bind
  rw [failed]

@[simp]
theorem outcome_emit (event : Event) : (emit event).outcome = .ok () := rfl

@[simp]
theorem events_emit (event : Event) : (emit event).events = [event] := rfl

@[simp]
theorem outcome_ofExcept (outcome : Except Failure α) : (ofExcept outcome).outcome = outcome := by
  cases outcome <;> rfl

@[simp]
theorem outcome_announce (event : α → Event) (report : Report α) :
    (report.announce event).outcome = report.outcome := by
  unfold announce
  rw [outcome_bind]
  cases report.outcome <;> rfl

/-- What a run comes to does not depend on what it reports on the way. -/
theorem outcome_foldlM {σ : Type} (step : σ → α → Report σ) (items : List α) (state : σ) :
    (items.foldlM step state).outcome =
      items.foldlM (fun state item => (step state item).outcome) state := by
  induction items generalizing state with
  | nil => rfl
  | cons item rest inductionHypothesis =>
      rw [List.foldlM_cons, List.foldlM_cons, outcome_bind]
      cases (step state item).outcome with
      | error failure => rfl
      | ok next => exact inductionHypothesis next

/-- Composition is associative, and a report that yields a value without events is neutral. -/
instance : LawfulMonad Report :=
  LawfulMonad.mk' Report
    (by
      rintro α ⟨events, outcome⟩
      cases outcome <;> simp [Functor.map, Report.bind])
    (by
      intro α β value continuation
      simp [bind, Report.bind, pure])
    (by
      rintro α β γ ⟨events, outcome⟩ first second
      cases outcome with
      | error failure => rfl
      | ok value =>
          simp only [bind, Report.bind]
          cases (first value).outcome <;> simp)

end Report

/-! ## Candour -/

/-- The place of a part of the calculation in the order in which the parts come into play. -/
def Event.Source.rank : Event.Source → Nat
  | .scan => 0
  | .shuntingYard => 1
  | .arrangement => 2
  | .evaluation => 3
  | .calculator => 4

/-- A warning of a failure: it comes from the part of the calculation that failed, and says why. -/
def Event.WarnsOf (event : Event) (failure : Failure) : Prop :=
  event.severity = .warning ∧
    match failure with
    | .lexical fault position =>
        event.source = .scan ∧
          event.message =
            "Tokenization error at position " ++ Nat.repr position ++ ": " ++ fault.message
    | .emptyInput =>
        event.source = .shuntingYard ∧ event.message = "Conversion error: input is empty"
    | .unbalanced imbalance =>
        event.source = .shuntingYard ∧ event.message = "Conversion error: " ++ imbalance.message
    | .evaluation fault =>
        event.source = .evaluation ∧ event.message = "Evaluation error: " ++ fault.message

namespace Report

variable {α : Type}

/-- There is no warning if there is a result.  After a failure there is one, of this failure, as the
last event, and no part of the calculation behind the one that failed has reported anything. -/
structure Candid (report : Report α) : Prop where
  silent : ∀ value, report.outcome = .ok value →
    ∀ event ∈ report.events, event.severity ≠ .warning
  warned : ∀ failure, report.outcome = .error failure →
    ∃ earlier warning, report.events = earlier ++ [warning] ∧ warning.WarnsOf failure ∧
      ∀ event ∈ earlier, event.severity ≠ .warning ∧ event.source.rank ≤ warning.source.rank

/-- The report holds an event, and the event is a result. -/
def Shows (report : Report α) (event : Event) : Prop :=
  event ∈ report.events ∧ event.severity = .debug

end Report

end Reckon
