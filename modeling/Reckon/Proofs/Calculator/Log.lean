import Reckon.Calculator
import Reckon.Report

/-!
Contract: the log of a calculation agrees with its outcome.

Owns:
- the events and the results of composed reports, and reports of work in one part of the calculation;
- that candid reports compose to a candid one if the parts of the calculation keep their order, and
  that a run of candid steps is candid;
- that every stage, and the stages together, report candidly;
- which results a log shows.

Does not own: the single moves and arrivals in a log.
-/

set_option autoImplicit false

namespace Reckon

/-! ## Reports -/

/-- The event of a failure warns of it. -/
theorem Event.warnsOf_failed (failure : Failure) : (Event.failed failure).WarnsOf failure := by
  refine ⟨rfl, ?_⟩
  cases failure <;> exact ⟨rfl, rfl⟩

namespace Report

variable {α β σ : Type}

theorem outcome_bind_eq_ok_iff {report : Report α} {continuation : α → Report β} {result : β} :
    (report >>= continuation).outcome = .ok result ↔
      ∃ value, report.outcome = .ok value ∧ (continuation value).outcome = .ok result := by
  cases outcome : report.outcome with
  | error failure =>
      rw [bind_of_error outcome]
      simp
  | ok value =>
      rw [bind_of_ok outcome]
      simp

/-! ### Events -/

/-- The second report has a say only after a success of the first. -/
theorem mem_events_bind {report : Report α} {continuation : α → Report β} {event : Event} :
    event ∈ (report >>= continuation).events ↔
      event ∈ report.events ∨
        ∃ value, report.outcome = .ok value ∧ event ∈ (continuation value).events := by
  cases outcome : report.outcome with
  | error failure =>
      rw [bind_of_error outcome]
      simp
  | ok value =>
      rw [bind_of_ok outcome]
      simp

theorem mem_events_ofExcept {outcome : Except Failure α} {event : Event} :
    event ∈ (ofExcept outcome).events ↔
      ∃ failure, outcome = .error failure ∧ event = .failed failure := by
  cases outcome with
  | error failure => simp [ofExcept, fail]
  | ok value => simp [ofExcept]

theorem mem_events_announce {report : Report α} {announcement : α → Event} {event : Event} :
    event ∈ (report.announce announcement).events ↔
      event ∈ report.events ∨ ∃ value, report.outcome = .ok value ∧ event = announcement value := by
  unfold announce
  rw [mem_events_bind]
  simp only [mem_events_bind, events_emit, events_pure, List.mem_singleton, List.not_mem_nil,
    and_false, exists_false, or_false]

/-! ### Candour -/

theorem candid_emit {event : Event} (quiet : event.severity ≠ .warning) : (emit event).Candid where
  silent := by
    intro value _ other member
    rw [events_emit, List.mem_singleton] at member
    rw [member]
    exact quiet
  warned := nofun

theorem candid_pure (value : α) : (pure value : Report α).Candid where
  silent := by simp
  warned := nofun

theorem candid_fail (failure : Failure) : (fail failure : Report α).Candid where
  silent := nofun
  warned := by
    intro other outcome
    cases outcome
    exact ⟨[], .failed failure, rfl, Event.warnsOf_failed failure, by simp⟩

theorem candid_ofExcept (outcome : Except Failure α) : (ofExcept outcome).Candid := by
  cases outcome with
  | error failure => exact candid_fail failure
  | ok value => exact candid_pure value

/-- Candid reports in their order compose: what the first has reported stands in front of the
warning of the second. -/
theorem Candid.bind {report : Report α} {continuation : α → Report β} (first : report.Candid)
    (second : ∀ value, (continuation value).Candid)
    (inOrder : ∀ earlier ∈ report.events, ∀ value, ∀ later ∈ (continuation value).events,
      earlier.source.rank ≤ later.source.rank) :
    (report >>= continuation).Candid := by
  cases outcome : report.outcome with
  | error failure =>
      rw [bind_of_error outcome]
      refine ⟨nofun, ?_⟩
      rintro _ ⟨rfl⟩
      exact first.warned failure outcome
  | ok value =>
      rw [bind_of_ok outcome]
      refine ⟨?_, ?_⟩
      · intro result succeeded event member
        rcases List.mem_append.1 member with inFirst | inSecond
        · exact first.silent value outcome event inFirst
        · exact (second value).silent result succeeded event inSecond
      · intro failure failed
        obtain ⟨earlier, warning, eventsEq, warns, quiet⟩ := (second value).warned failure failed
        have warningMember : warning ∈ (continuation value).events := by
          simp [eventsEq]
        refine ⟨report.events ++ earlier, warning, ?_, warns, ?_⟩
        · rw [eventsEq, List.append_assoc]
        · intro event member
          rcases List.mem_append.1 member with inFirst | inSecond
          · exact ⟨first.silent value outcome event inFirst,
              inOrder event inFirst value warning warningMember⟩
          · exact quiet event inSecond

/-- A candid report stays candid if its result is announced by a part of the calculation that comes
into play no earlier than those that worked on it. -/
theorem Candid.announce {report : Report α} {announcement : α → Event} (candid : report.Candid)
    (quiet : ∀ value, (announcement value).severity ≠ .warning)
    (inOrder : ∀ earlier ∈ report.events, ∀ value,
      earlier.source.rank ≤ (announcement value).source.rank) :
    (report.announce announcement).Candid := by
  have announced : ∀ value,
      (emit (announcement value) >>= fun _ => (pure value : Report α)).Candid := by
    intro value
    apply (candid_emit (quiet value)).bind fun _ => candid_pure value
    simp
  apply candid.bind announced
  intro earlier earlierMember value later laterMember
  rw [mem_events_bind] at laterMember
  have laterEq : later = announcement value := by
    simpa using laterMember
  rw [laterEq]
  exact inOrder earlier earlierMember value

/-! ### Work

What a stage does before it has a result.  Every stage is a run of steps in one part of the
calculation, so what is proved of a step is proved here of a run. -/

/-- A candid report from one part of the calculation, without any result. -/
structure WorksIn (source : Event.Source) (report : Report α) : Prop where
  candid : report.Candid
  source_eq : ∀ event ∈ report.events, event.source = source
  noResult : ∀ event ∈ report.events, event.severity ≠ .debug

variable {source : Event.Source}

theorem worksIn_pure (value : α) : (pure value : Report α).WorksIn source :=
  ⟨candid_pure value, by simp, by simp⟩

theorem worksIn_emit {event : Event} (isSource : event.source = source)
    (isTrace : event.severity = .trace) : (emit event).WorksIn source where
  candid := candid_emit (by simp [isTrace])
  source_eq := by simp [isSource]
  noResult := by simp [isTrace]

theorem worksIn_fail {failure : Failure} (isSource : (Event.failed failure).source = source) :
    (fail failure : Report α).WorksIn source where
  candid := candid_fail failure
  source_eq := by simp [fail, isSource]
  noResult := by simp [fail, Event.severity]

/-- Failures of a kind are reported by the part of the calculation that they arise in. -/
theorem worksIn_ofExcept {outcome : Except Failure α}
    (failing : ∀ failure, outcome = .error failure → (Event.failed failure).source = source) :
    (ofExcept outcome).WorksIn source where
  candid := candid_ofExcept outcome
  source_eq := by
    intro event member
    obtain ⟨failure, outcomeEq, rfl⟩ := mem_events_ofExcept.1 member
    exact failing failure outcomeEq
  noResult := by
    intro event member
    obtain ⟨failure, _, rfl⟩ := mem_events_ofExcept.1 member
    exact nofun

theorem worksIn_ofExcept_mapError {ε : Type} {turn : ε → Failure}
    (turned : ∀ fault, (Event.failed (turn fault)).source = source) (outcome : Except ε α) :
    (ofExcept (outcome.mapError turn)).WorksIn source := by
  apply worksIn_ofExcept
  intro failure failed
  cases outcome with
  | ok value => cases failed
  | error fault =>
      cases failed
      exact turned fault

theorem WorksIn.bind {report : Report α} {continuation : α → Report β}
    (first : report.WorksIn source) (second : ∀ value, (continuation value).WorksIn source) :
    (report >>= continuation).WorksIn source where
  candid := by
    apply first.candid.bind fun value => (second value).candid
    intro earlier earlierMember value later laterMember
    have same : earlier.source = later.source :=
      (first.source_eq earlier earlierMember).trans
        ((second value).source_eq later laterMember).symm
    exact Nat.le_of_eq (congrArg Event.Source.rank same)
  source_eq := by
    intro event member
    rcases mem_events_bind.1 member with inFirst | ⟨value, _, inSecond⟩
    · exact first.source_eq event inFirst
    · exact (second value).source_eq event inSecond
  noResult := by
    intro event member
    rcases mem_events_bind.1 member with inFirst | ⟨value, _, inSecond⟩
    · exact first.noResult event inFirst
    · exact (second value).noResult event inSecond

/-- A run of steps does what its steps do. -/
theorem worksIn_foldlM {step : σ → α → Report σ}
    (works : ∀ state item, (step state item).WorksIn source) (items : List α) (state : σ) :
    (items.foldlM step state).WorksIn source := by
  induction items generalizing state with
  | nil => exact worksIn_pure state
  | cons item rest inductionHypothesis =>
      rw [List.foldlM_cons]
      exact (works state item).bind inductionHypothesis

/-! ### Results -/

theorem shows_bind {report : Report α} {continuation : α → Report β} {event : Event} :
    (report >>= continuation).Shows event ↔
      report.Shows event ∨
        ∃ value, report.outcome = .ok value ∧ (continuation value).Shows event := by
  unfold Shows
  rw [mem_events_bind, or_and_right, ← exists_and_right]
  simp only [and_assoc]

theorem WorksIn.not_shows {report : Report α} (works : report.WorksIn source) (event : Event) :
    ¬report.Shows event :=
  fun ⟨member, isResult⟩ => works.noResult event member isResult

/-- An announced result is shown exactly if there is one. -/
theorem shows_announce {report : Report α} {announcement : α → Event} {event : Event}
    (isResult : ∀ value, (announcement value).severity = .debug) :
    (report.announce announcement).Shows event ↔
      report.Shows event ∨ ∃ value, report.outcome = .ok value ∧ event = announcement value := by
  unfold Shows
  rw [mem_events_announce, or_and_right]
  constructor
  · rintro (shown | ⟨announced, _⟩)
    · exact .inl shown
    · exact .inr announced
  · rintro (shown | ⟨value, succeeded, rfl⟩)
    · exact .inl shown
    · exact .inr ⟨⟨value, succeeded, rfl⟩, isResult value⟩

end Report

/-! ## The calculator -/

open Report

/-! ### Steps -/

theorem Event.source_unbalanced (imbalance : Imbalance) :
    (Event.failed (.unbalanced imbalance)).source = .shuntingYard := rfl

theorem Event.source_evaluation (fault : EvaluationFault) :
    (Event.failed (.evaluation fault)).source = .evaluation := rfl

theorem Scan.worksIn_advance (scan : Scan) (character : Char) :
    (scan.advance character).WorksIn .scan := by
  unfold advance
  apply WorksIn.bind
  · exact worksIn_emit rfl rfl
  · intro _
    apply worksIn_ofExcept
    intro failure failed
    rw [← (step_eq_error_iff.1 failed).2]
    rfl

theorem Scan.worksIn_finish (scan : Scan) : (Report.ofExcept scan.finish).WorksIn .scan := by
  apply worksIn_ofExcept
  intro failure failed
  rw [← (finish_eq_error_iff.1 failed).2]
  rfl

theorem ShuntingYard.worksIn_receive (yard : ShuntingYard) (token : Token) :
    (yard.receive token).WorksIn .shuntingYard := by
  unfold receive
  apply WorksIn.bind
  · exact worksIn_emit rfl rfl
  · intro _
    exact worksIn_ofExcept_mapError Event.source_unbalanced (yard.step token)

theorem Evaluation.worksIn_advance (evaluation : Evaluation) (token : Token) :
    (evaluation.advance token).WorksIn .evaluation := by
  unfold advance
  exact worksIn_ofExcept_mapError Event.source_evaluation (evaluation.step token)

/-! ### Stages -/

/-- A scan, before its result is announced. -/
theorem Scan.worksIn_run (characters : List Char) :
    (characters.foldlM advance start >>= fun scan => Report.ofExcept scan.finish).WorksIn .scan :=
  (worksIn_foldlM worksIn_advance characters start).bind worksIn_finish

/-- A shunting yard, before its result is announced. -/
theorem ShuntingYard.worksIn_run (tokens : List Token) :
    (if tokens.isEmpty then Report.fail .emptyInput
      else do
        let yard ← tokens.foldlM receive empty
        Report.emit .tokensEnded
        Report.ofExcept (yard.finish.mapError .unbalanced)).WorksIn .shuntingYard := by
  by_cases noTokens : tokens.isEmpty
  · rw [if_pos noTokens]
    exact worksIn_fail rfl
  · rw [if_neg noTokens]
    apply (worksIn_foldlM worksIn_receive tokens empty).bind
    intro yard
    apply WorksIn.bind
    · exact worksIn_emit rfl rfl
    · intro _
      exact worksIn_ofExcept_mapError Event.source_unbalanced yard.finish

theorem worksIn_evaluateReversePolish (tokens : List Token) :
    (evaluateReversePolish tokens).WorksIn .evaluation := by
  apply (worksIn_foldlM Evaluation.worksIn_advance tokens .start).bind
  intro evaluation
  exact worksIn_ofExcept_mapError Event.source_evaluation evaluation.finish

/-! ### Sources -/

theorem source_of_mem_tokenize {text : String} {event : Event}
    (member : event ∈ (tokenize text).events) : event.source = .scan := by
  rcases mem_events_announce.1 member with working | ⟨tokens, _, rfl⟩
  · exact (Scan.worksIn_run text.toList).source_eq event working
  · rfl

theorem source_of_mem_arrange {tokens : List Token} {event : Event}
    (member : event ∈ (arrange tokens).events) :
    event.source = .shuntingYard ∨ event.source = .arrangement := by
  rcases mem_events_announce.1 member with working | ⟨arranged, _, rfl⟩
  · exact .inl ((ShuntingYard.worksIn_run tokens).source_eq event working)
  · exact .inr rfl

theorem rank_le_of_mem_convert {text : String} {event : Event}
    (member : event ∈ (convert text).events) :
    event.source.rank ≤ Event.Source.arrangement.rank := by
  rcases mem_events_bind.1 member with inScan | ⟨tokens, _, inYard⟩
  · rw [source_of_mem_tokenize inScan]
    decide
  · rcases source_of_mem_arrange inYard with source | source
    · rw [source]
      decide
    · exact Nat.le_of_eq (congrArg Event.Source.rank source)

theorem Event.Source.rank_le_calculator (source : Source) : source.rank ≤ calculator.rank := by
  cases source <;> decide

/-! ### Candour -/

theorem candid_tokenize (text : String) : (tokenize text).Candid := by
  have works := Scan.worksIn_run text.toList
  apply works.candid.announce
  · exact fun _ => nofun
  · intro earlier member _
    rw [works.source_eq earlier member]
    exact Nat.le_refl _

theorem candid_arrange (tokens : List Token) : (arrange tokens).Candid := by
  have works := ShuntingYard.worksIn_run tokens
  apply works.candid.announce
  · exact fun _ => nofun
  · intro earlier member arranged
    rw [works.source_eq earlier member]
    exact Nat.le_succ Event.Source.shuntingYard.rank

theorem candid_convert (text : String) : (convert text).Candid := by
  apply (candid_tokenize text).bind candid_arrange
  intro earlier member _ later _
  rw [source_of_mem_tokenize member]
  exact Nat.zero_le later.source.rank

theorem candid_evaluate (text : String) : (evaluate text).Candid := by
  have reduced : (convert text >>= evaluateReversePolish).Candid := by
    apply (candid_convert text).bind fun tokens => (worksIn_evaluateReversePolish tokens).candid
    intro earlier earlierMember tokens later laterMember
    rw [(worksIn_evaluateReversePolish tokens).source_eq later laterMember]
    exact Nat.le_succ_of_le (rank_le_of_mem_convert earlierMember)
  apply reduced.announce
  · exact fun _ => nofun
  · intro earlier _ _
    exact earlier.source.rank_le_calculator

/-! ### Results -/

theorem shows_tokenize {text : String} {event : Event} :
    (tokenize text).Shows event ↔
      ∃ tokens, (tokenize text).outcome = .ok tokens ∧ event = .tokenized text tokens := by
  have works := Scan.worksIn_run text.toList
  unfold tokenize
  rw [shows_announce fun _ => rfl, outcome_announce]
  exact or_iff_right (works.not_shows event)

theorem shows_arrange {tokens : List Token} {event : Event} :
    (arrange tokens).Shows event ↔
      ∃ arranged, (arrange tokens).outcome = .ok arranged ∧ event = .arranged arranged := by
  have works := ShuntingYard.worksIn_run tokens
  unfold arrange
  rw [shows_announce fun _ => rfl, outcome_announce]
  exact or_iff_right (works.not_shows event)

theorem shows_convert {text : String} {event : Event} :
    (convert text).Shows event ↔
      (∃ tokens, (tokenize text).outcome = .ok tokens ∧ event = .tokenized text tokens) ∨
        ∃ arranged, (convert text).outcome = .ok arranged ∧ event = .arranged arranged := by
  unfold convert
  rw [shows_bind, shows_tokenize]
  apply or_congr_right
  simp only [shows_arrange, outcome_bind_eq_ok_iff]
  constructor
  · intro ⟨tokens, scanned, arranged, succeeded, eventEq⟩
    exact ⟨arranged, ⟨tokens, scanned, succeeded⟩, eventEq⟩
  · intro ⟨arranged, ⟨tokens, scanned, succeeded⟩, eventEq⟩
    exact ⟨tokens, scanned, arranged, succeeded, eventEq⟩

theorem shows_evaluate {text : String} {event : Event} :
    (evaluate text).Shows event ↔
      (convert text).Shows event ∨
        ∃ value, (evaluate text).outcome = .ok value ∧ event = .evaluated text value := by
  unfold evaluate
  rw [shows_announce fun _ => rfl, outcome_announce]
  apply or_congr_left
  rw [shows_bind]
  apply or_iff_left
  intro ⟨tokens, _, shown⟩
  exact (worksIn_evaluateReversePolish tokens).not_shows event shown

/-- Every stage, and the stages together, report candidly: the log warns of the failure that ends a
calculation, last and once, and of nothing else.  A stage reports from its own part of the
calculation, and the results that a log shows are those of the stages that succeeded. -/
theorem events_agree_with_outcomes :
    ((∀ text, (tokenize text).Candid) ∧ (∀ tokens, (arrange tokens).Candid) ∧
      (∀ text, (convert text).Candid) ∧ (∀ tokens, (evaluateReversePolish tokens).Candid) ∧
      ∀ text, (evaluate text).Candid) ∧
    ((∀ text, ∀ event ∈ (tokenize text).events, event.source = .scan) ∧
      (∀ tokens, ∀ event ∈ (arrange tokens).events,
        event.source = .shuntingYard ∨ event.source = .arrangement) ∧
      ∀ tokens, ∀ event ∈ (evaluateReversePolish tokens).events, event.source = .evaluation) ∧
    (∀ text event, (tokenize text).Shows event ↔
      ∃ tokens, (tokenize text).outcome = .ok tokens ∧ event = .tokenized text tokens) ∧
    (∀ tokens event, (arrange tokens).Shows event ↔
      ∃ arranged, (arrange tokens).outcome = .ok arranged ∧ event = .arranged arranged) ∧
    (∀ text event, (convert text).Shows event ↔
      (∃ tokens, (tokenize text).outcome = .ok tokens ∧ event = .tokenized text tokens) ∨
        ∃ arranged, (convert text).outcome = .ok arranged ∧ event = .arranged arranged) ∧
    (∀ tokens event, ¬(evaluateReversePolish tokens).Shows event) ∧
    ∀ text event, (evaluate text).Shows event ↔
      (∃ tokens, (tokenize text).outcome = .ok tokens ∧ event = .tokenized text tokens) ∨
        (∃ arranged, (convert text).outcome = .ok arranged ∧ event = .arranged arranged) ∨
          ∃ value, (evaluate text).outcome = .ok value ∧ event = .evaluated text value := by
  refine ⟨⟨candid_tokenize, candid_arrange, candid_convert, ?_, candid_evaluate⟩, ⟨?_, ?_, ?_⟩,
    ?_, ?_, ?_, ?_, ?_⟩
  · intro tokens
    exact (worksIn_evaluateReversePolish tokens).candid
  · intro text event member
    exact source_of_mem_tokenize member
  · intro tokens event member
    exact source_of_mem_arrange member
  · intro tokens event member
    exact (worksIn_evaluateReversePolish tokens).source_eq event member
  · intro text event
    exact shows_tokenize
  · intro tokens event
    exact shows_arrange
  · intro text event
    exact shows_convert
  · intro tokens event
    exact (worksIn_evaluateReversePolish tokens).not_shows event
  · intro text event
    rw [shows_evaluate, shows_convert, or_assoc]

/-- The log of `(1+2))`: it shows the tokens and no other result, and it ends with a warning from the
shunting yard.  A lone operator token is warned of in the evaluation. -/
theorem log_of_extra_rightParenthesis :
    let tokens : List Token :=
      [.leftParenthesis, .integer "1", .operator '+', .integer "2", .rightParenthesis,
        .rightParenthesis]
    ((tokenize "(1+2))").outcome = .ok tokens ∧ ∀ event, (evaluate "(1+2))").Shows event ↔
      event = .tokenized "(1+2))" tokens) ∧
    (∃ earlier warning, (evaluate "(1+2))").events = earlier ++ [warning] ∧
      warning.source = .shuntingYard ∧
      warning.message = "Conversion error: extra right parenthesis" ∧
      ∀ event ∈ earlier, event.severity ≠ .warning ∧
        event.source.rank ≤ Event.Source.shuntingYard.rank) ∧
    ∃ earlier warning, (evaluateReversePolish [.operator '+']).events = earlier ++ [warning] ∧
      warning.source = .evaluation ∧
      warning.message = "Evaluation error: missing operand for '+'" := by
  intro tokens
  have scanned : (tokenize "(1+2))").outcome = .ok tokens := rfl
  have converted : (convert "(1+2))").outcome = .error (.unbalanced .extraRightParenthesis) := rfl
  have evaluated : (evaluate "(1+2))").outcome = .error (.unbalanced .extraRightParenthesis) := rfl
  have reduced : (evaluateReversePolish [.operator '+']).outcome =
      .error (.evaluation (.missingOperand "+")) := rfl
  obtain ⟨⟨_, _, _, reducingCandid, candid⟩, _, _, _, _, _, shown⟩ := events_agree_with_outcomes
  refine ⟨⟨scanned, ?_⟩, ?_, ?_⟩
  · intro event
    rw [shown "(1+2))" event, scanned, converted, evaluated]
    simp
  · obtain ⟨earlier, warning, eventsEq, ⟨_, source, message⟩, quiet⟩ :=
      (candid "(1+2))").warned _ evaluated
    rw [source] at quiet
    exact ⟨earlier, warning, eventsEq, source, message, quiet⟩
  · obtain ⟨earlier, warning, eventsEq, ⟨_, source, message⟩, _⟩ :=
      (reducingCandid [.operator '+']).warned _ reduced
    exact ⟨earlier, warning, eventsEq, source, message⟩

end Reckon
