import Reckon.CommandLine
import Reckon.Proofs.Text.Line

/-!
Contract: a run on lines against runs on each of them.

Owns:
- what a run on one expression leaves behind, by whether the calculation fails;
- the lines of a list that are calculated, those that fail, and the tally of them that a run on
  lines keeps;
- that the run on a stream of lines leaves behind what the runs on its expressions do;
- what a run leaves behind for every list of lines, and that a line that cannot be decoded ends it,
  keeps what was put out before it, and takes the place of the counts.

Does not own: which bytes can be decoded.
-/

set_option autoImplicit false

namespace Reckon.CommandLine

/-! ## Lines that are calculated -/

/-! ### One expression -/

/-- The run on an expression of its own fails. -/
def fails (options : Options) (expression : String) : Bool :=
  (runExpression options expression).exitCode != 0

/-- Why the calculation of an expression fails, if it does. -/
def reason (options : Options) (expression : String) : String :=
  match (calculate options expression).failure? with
  | none => ""
  | some failure => failure.message

variable {options : Options} {expression : String}

theorem fails_eq_isSome_failure? :
    fails options expression = (calculate options expression).failure?.isSome := by
  simp only [fails, runExpression]
  cases (calculate options expression).failure? <;> rfl

theorem runExpression_eq :
    runExpression options expression =
      { output := (calculate options expression).output
        diagnostics :=
          if fails options expression then [errorLine (reason options expression)] else []
        exitCode := if fails options expression then 1 else 0 } := by
  simp only [fails_eq_isSome_failure?, runExpression, reason]
  cases (calculate options expression).failure? <;> rfl

/-! ### The tally of a run on lines -/

/-- The lines that are calculated. -/
def expressions (lines : List String) : List String :=
  lines.filter fun line => !Text.isBlank line

/-- The lines that are calculated and fail. -/
def failing (options : Options) (lines : List String) : List String :=
  (expressions lines).filter (fails options)

/-- The report of a failure among others. -/
def failureLine (options : Options) (line : String) : String :=
  line ++ ": " ++ reason options line

theorem expressions_append (front back : List String) :
    expressions (front ++ back) = expressions front ++ expressions back :=
  List.filter_append front back

theorem failing_append (front back : List String) :
    failing options (front ++ back) = failing options front ++ failing options back := by
  rw [failing, expressions_append, List.filter_append]
  rfl

theorem expressions_singleton (line : String) :
    expressions [line] = if Text.isBlank line then [] else [line] := by
  unfold expressions
  cases blank : Text.isBlank line <;> simp [blank]

theorem failing_singleton (line : String) :
    failing options [line] =
      if Text.isBlank line then [] else if fails options line then [line] else [] := by
  rw [failing, expressions_singleton]
  by_cases blank : Text.isBlank line
  · rw [if_pos blank, if_pos blank]
    rfl
  · rw [if_neg blank, if_neg blank, List.filter_cons, List.filter_nil]

namespace Batch

/-- A step adds what the line it takes in is worth, and changes nothing that was there before. -/
theorem step_eq (batch : Batch) (line : String) :
    batch.step options line =
      { output := batch.output ++
          (expressions [line]).flatMap fun line => (runExpression options line).output
        diagnostics := batch.diagnostics ++ (failing options [line]).map (failureLine options)
        calculated := batch.calculated + Int32.ofNat (expressions [line]).length
        failed := batch.failed + Int32.ofNat (failing options [line]).length } := by
  rw [expressions_singleton, failing_singleton, step]
  by_cases blank : Text.isBlank line
  · simp [blank]
  · rw [if_neg blank, if_neg blank, if_neg blank, fails_eq_isSome_failure?]
    cases failed : (calculate options line).failure? with
    | none => simp [failed, runExpression_eq]
    | some failure => simp [failed, runExpression_eq, failureLine, reason]

/-- What a run on lines holds after the lines it has taken in. -/
structure Tallies (options : Options) (lines : List String) (batch : Batch) : Prop where
  output : batch.output.toList =
    (expressions lines).flatMap fun line => (runExpression options line).output
  diagnostics : batch.diagnostics.toList = (failing options lines).map (failureLine options)
  calculated : batch.calculated = Int32.ofNat (expressions lines).length
  failed : batch.failed = Int32.ofNat (failing options lines).length

theorem tallies_start : start.Tallies options [] := ⟨rfl, rfl, rfl, rfl⟩

theorem Tallies.step {lines : List String} {batch : Batch} (tallies : batch.Tallies options lines)
    (line : String) : (batch.step options line).Tallies options (lines ++ [line]) := by
  rw [step_eq]
  constructor
  · rw [expressions_append, List.flatMap_append, ← tallies.output]
    exact Array.toList_appendList
  · rw [failing_append, List.map_append, ← tallies.diagnostics]
    exact Array.toList_appendList
  · rw [expressions_append, List.length_append, Int32.ofNat_add, ← tallies.calculated]
  · rw [failing_append, List.length_append, Int32.ofNat_add, ← tallies.failed]

theorem Tallies.foldl {taken lines : List String} {batch : Batch}
    (tallies : batch.Tallies options taken) :
    (lines.foldl (Batch.step options) batch).Tallies options (taken ++ lines) := by
  induction lines generalizing taken batch with
  | nil =>
      rw [List.append_nil]
      exact tallies
  | cons line rest inductionHypothesis =>
      rw [List.append_cons]
      exact inductionHypothesis (tallies.step line)

theorem tallies_foldl_start (lines : List String) :
    (lines.foldl (step options) start).Tallies options lines :=
  tallies_start.foldl

/-! ### The end of a run -/

theorem toInt_ofNat_of_few {count : Nat} (few : count < 0x80000000) :
    (Int32.ofNat count).toInt = count :=
  Int32.toInt_ofNat_of_lt few

theorem ofNat_pos_iff_of_few {count : Nat} (few : count < 0x80000000) :
    0 < Int32.ofNat count ↔ 0 < count := by
  rw [Int32.lt_iff_toInt_lt, toInt_ofNat_of_few few, Int32.toInt_zero]
  exact Int.natCast_pos

theorem Tallies.abort_eq {lines : List String} {batch : Batch}
    (tallies : batch.Tallies options lines) (reason : String) :
    batch.abort reason =
      { output := (expressions lines).flatMap fun line => (runExpression options line).output
        diagnostics := (failing options lines).map (failureLine options) ++ [errorLine reason]
        exitCode := 1 } := by
  rw [abort, Array.toList_push, tallies.output, tallies.diagnostics]

/-- As long as the counts hold out, a run ends with the numbers of the lines it has tallied. -/
theorem Tallies.finish_eq {lines : List String} {batch : Batch}
    (tallies : batch.Tallies options lines) (few : lines.length < 0x80000000) :
    batch.finish =
      { output := (expressions lines).flatMap fun line => (runExpression options line).output
        diagnostics := (failing options lines).map (failureLine options) ++
          if 0 < (failing options lines).length then
            [errorLine (Nat.repr (failing options lines).length ++ " of " ++
              Nat.repr (expressions lines).length ++ " expressions could not be evaluated")]
          else []
        exitCode := if 0 < (failing options lines).length then 1 else 0 } := by
  have fewCalculated : (expressions lines).length < 0x80000000 :=
    Nat.lt_of_le_of_lt (List.length_filter_le _ lines) few
  have fewFailed : (failing options lines).length < 0x80000000 :=
    Nat.lt_of_le_of_lt (List.length_filter_le _ (expressions lines)) fewCalculated
  rw [finish, tallies.failed, tallies.calculated, toInt_ofNat_of_few fewFailed,
    toInt_ofNat_of_few fewCalculated]
  by_cases someFailed : 0 < (failing options lines).length
  · rw [if_pos ((ofNat_pos_iff_of_few fewFailed).2 someFailed), if_pos someFailed,
      if_pos someFailed, tallies.abort_eq]
    rfl
  · rw [if_neg (mt (ofNat_pos_iff_of_few fewFailed).1 someFailed), if_neg someFailed,
      if_neg someFailed, List.append_nil, tallies.output, tallies.diagnostics]

/-! ### A stream of lines -/

/-- A run takes in the lines that can be decoded, and then ends. -/
theorem run_map_some_append (lines : List String) (rest : List (Option String)) (batch : Batch) :
    batch.run options (lines.map some ++ rest) =
      (lines.foldl (step options) batch).run options rest := by
  induction lines generalizing batch with
  | nil => rfl
  | cons line below inductionHypothesis => exact inductionHypothesis (batch.step options line)

end Batch

theorem runLines_map_some (lines : List String) :
    runLines options (lines.map some) = (lines.foldl (Batch.step options) .start).finish := by
  rw [runLines, ← List.append_nil (lines.map some), Batch.run_map_some_append]
  rfl

theorem renderLines_cons (line : String) (rest : List String) :
    renderLines (line :: rest) = line ++ "\n" ++ renderLines rest := by
  rw [renderLines, List.map_cons, String.join_cons]
  rfl

/-- Unbroken lines that were written to a stream are read back. -/
theorem split_encode_renderLines {lines : List String}
    (unbroken : ∀ line ∈ lines, Text.Line.IsUnbroken line) :
    Text.Line.split (Text.Line.encode (renderLines lines)) = lines.map Text.Line.encode := by
  induction lines with
  | nil => rfl
  | cons line rest inductionHypothesis =>
      obtain ⟨first, others⟩ := List.forall_mem_cons.1 unbroken
      have bytes : Text.Line.encode (renderLines (line :: rest)) =
          Text.Line.encode line ++ Text.Line.newline :: Text.Line.encode (renderLines rest) := by
        rw [renderLines_cons, Text.Line.encode_append, Text.Line.encode_append, List.append_assoc]
        rfl
      rw [bytes, Text.Line.split_encode_append_newline first, inductionHypothesis others,
        List.map_cons]

theorem runStream_encode_renderLines {lines : List String}
    (unbroken : ∀ line ∈ lines, Text.Line.IsUnbroken line) :
    runStream options (Text.Line.encode (renderLines lines)) =
      (lines.foldl (Batch.step options) .start).finish := by
  have decoded : (lines.map Text.Line.encode).map Text.Line.decode? = lines.map some := by
    rw [List.map_map]
    exact List.map_congr_left fun line _ => Text.Line.decode?_encode line
  rw [runStream, split_encode_renderLines unbroken, decoded, runLines_map_some]

/-- A run on a stream of lines puts out what the runs on its expressions do, one after the other.
It reports the failure of each with the line it belongs to, for the reason that the run on that
line gives, and in the end counts the failures up, if there are any.  The bound on the lines is
`2 ^ 31`, which their counts do not reach. -/
theorem runStream_eq_runs_on_expressions (options : Options) {lines : List String}
    (unbroken : ∀ line ∈ lines, Text.Line.IsUnbroken line) (few : lines.length < 0x80000000) :
    let outcome := runStream options (Text.Line.encode (renderLines lines))
    let failures := failing options lines
    let count := Nat.repr failures.length ++ " of " ++ Nat.repr (expressions lines).length ++
      " expressions could not be evaluated"
    outcome.output =
        (expressions lines).flatMap (fun line => (runExpression options line).output) ∧
      outcome.diagnostics =
        failures.map (fun line => line ++ ": " ++ reason options line) ++
          (if 0 < failures.length then ["Error: " ++ count] else []) ∧
      outcome.exitCode = (if 0 < failures.length then 1 else 0) ∧
      ∀ line,
        (runExpression options line).diagnostics =
            (if fails options line then ["Error: " ++ reason options line] else []) ∧
          (runExpression options line).exitCode = if fails options line then 1 else 0 := by
  intro outcome failures count
  have finished : outcome = (lines.foldl (Batch.step options) .start).finish :=
    runStream_encode_renderLines unbroken
  rw [(Batch.tallies_foldl_start lines).finish_eq few] at finished
  rw [finished]
  refine ⟨rfl, rfl, rfl, ?_⟩
  intro line
  rw [runExpression_eq]
  exact ⟨rfl, rfl⟩

/-- Of the four lines here, one is blank and two fail, one of them after its tokens were shown. -/
theorem runStream_blank_and_unfinished_lines :
    let lines := ["(1+2", "\t", "2*3", "1+"]
    let outcome := runStream ⟨true, true⟩ (Text.Line.encode (renderLines lines))
    (∀ line ∈ lines, Text.Line.IsUnbroken line) ∧ lines.length < 0x80000000 ∧
      outcome.output = ["tokens: ( 1 + 2", "tokens: 2 * 3", "postfix: 2 3 *", "6"] ∧
      outcome.diagnostics =
        ["(1+2: Syntax error: right parenthesis missing",
          "1+: Lexical error at position 2: expression should end only on a digit or a right " ++
            "parenthesis",
          "Error: 2 of 3 expressions could not be evaluated"] ∧
      outcome.exitCode = 1 := by
  intro lines outcome
  have unbroken : ∀ line ∈ lines, Text.Line.IsUnbroken line := by decide
  have few : lines.length < 0x80000000 := by decide
  obtain ⟨output, diagnostics, exitCode, _⟩ :=
    runStream_eq_runs_on_expressions ⟨true, true⟩ unbroken few
  refine ⟨unbroken, few, output.trans ?_, diagnostics.trans ?_, exitCode.trans ?_⟩
  · decide +kernel
  · decide +kernel
  · decide +kernel

/-! ## Lines of any stream -/

section Streams

variable {lines : List (Option String)}

/-- The lines before the first one that cannot be decoded. -/
def readable : List (Option String) → List String
  | some line :: rest => line :: readable rest
  | none :: _ | [] => []

/-- The texts of the lines of a stream, up to the first one that cannot be decoded. -/
def textsOf (bytes : List UInt8) : List String :=
  readable ((Text.Line.split bytes).map Text.Line.decode?)

/-- Why a run on lines fails as a whole, if it does: a line cannot be decoded, or failures were
counted. -/
def verdict? (options : Options) (lines : List (Option String)) : Option String :=
  if none ∈ lines then some "stream did not contain valid UTF-8"
  else
    let failed := Int32.ofNat (failing options (readable lines)).length
    let calculated := Int32.ofNat (expressions (readable lines)).length
    if 0 < failed then
      some (Int.repr failed.toInt ++ " of " ++ Int.repr calculated.toInt ++
        " expressions could not be evaluated")
    else none

/-- Either all lines are read, or those before one that cannot be. -/
theorem readable_cases (lines : List (Option String)) :
    none ∉ lines ∧ lines = (readable lines).map some ∨
      ∃ rest, lines = (readable lines).map some ++ none :: rest := by
  induction lines with
  | nil => exact .inl ⟨List.not_mem_nil, rfl⟩
  | cons first below inductionHypothesis =>
      cases first with
      | none => exact .inr ⟨below, rfl⟩
      | some line =>
          rcases inductionHypothesis with ⟨decoded, belowEq⟩ | ⟨rest, belowEq⟩
          · refine .inl ⟨?_, congrArg (some line :: ·) belowEq⟩
            simpa using decoded
          · exact .inr ⟨rest, congrArg (some line :: ·) belowEq⟩

theorem readable_map_some (taken : List String) : readable (taken.map some) = taken := by
  induction taken with
  | nil => rfl
  | cons line below inductionHypothesis => exact congrArg (line :: ·) inductionHypothesis

theorem readable_map_some_append_none (taken : List String) (rest : List (Option String)) :
    readable (taken.map some ++ none :: rest) = taken := by
  induction taken with
  | nil => rfl
  | cons line below inductionHypothesis => exact congrArg (line :: ·) inductionHypothesis

/-- What a run on lines leaves behind is determined by the runs on its expressions. -/
theorem runLines_eq (options : Options) (lines : List (Option String)) :
    runLines options lines =
      { output :=
          (expressions (readable lines)).flatMap fun line => (runExpression options line).output
        diagnostics :=
          (failing options (readable lines)).map (failureLine options) ++
            ((verdict? options lines).map errorLine).toList
        exitCode := if (verdict? options lines).isSome then 1 else 0 } := by
  have tallies : Batch.Tallies options (readable lines) _ :=
    Batch.tallies_foldl_start (readable lines)
  have ran (rest : List (Option String)) :
      runLines options ((readable lines).map some ++ rest) =
        ((readable lines).foldl (Batch.step options) .start).run options rest :=
    Batch.run_map_some_append (readable lines) rest .start
  rcases readable_cases lines with ⟨decoded, linesEq⟩ | ⟨rest, linesEq⟩
  · have finished := ran []
    rw [List.append_nil, ← linesEq] at finished
    rw [finished, verdict?, if_neg decoded]
    show Batch.finish _ = _
    rw [Batch.finish, tallies.failed, tallies.calculated]
    by_cases someFailed : 0 < Int32.ofNat (failing options (readable lines)).length
    · rw [if_pos someFailed, if_pos someFailed, tallies.abort_eq]
      rfl
    · rw [if_neg someFailed, if_neg someFailed, tallies.output, tallies.diagnostics]
      simp
  · have aborted := ran (none :: rest)
    rw [← linesEq] at aborted
    have undecoded : none ∈ lines := by
      rw [linesEq]
      simp
    rw [aborted, verdict?, if_pos undecoded]
    exact tallies.abort_eq _

/-- What a run on a stream leaves behind. -/
theorem runStream_eq (options : Options) (bytes : List UInt8) :
    runStream options bytes =
      { output :=
          (expressions (textsOf bytes)).flatMap fun line => (runExpression options line).output
        diagnostics :=
          (failing options (textsOf bytes)).map (failureLine options) ++
            ((verdict? options ((Text.Line.split bytes).map Text.Line.decode?)).map
              errorLine).toList
        exitCode :=
          if (verdict? options ((Text.Line.split bytes).map Text.Line.decode?)).isSome then 1
          else 0 } :=
  runLines_eq options _

end Streams

/-! ## Lines that cannot be decoded -/

section Undecodable

open Text.Line (IsEnded decode? split)

variable {lines : List (List UInt8)} {bad : List UInt8}

/-- Lines that can be decoded are the texts that a run reads, whatever stands behind them. -/
theorem decode?_split_flatten_append
    (decodable : ∀ line ∈ lines, IsEnded line ∧ (decode? line).isSome) (rest : List UInt8) :
    (split (lines.flatten ++ rest)).map decode? =
      (textsOf lines.flatten).map some ++ (split rest).map decode? := by
  obtain ⟨texts, textsEq⟩ := Text.Line.exists_texts decodable
  have alone : (split lines.flatten).map decode? = texts.map some := by
    have nothingBehind := textsEq []
    rw [List.append_nil] at nothingBehind
    exact nothingBehind.trans (List.append_nil _)
  rw [textsEq, textsOf, alone, readable_map_some]

/-- Without a line that cannot be decoded a run fails over the counts, if at all. -/
theorem verdict?_map_some (options : Options) (texts : List String) :
    verdict? options (texts.map some) = none ∨ ∃ failed calculated,
      verdict? options (texts.map some) =
        some (failed ++ " of " ++ calculated ++ " expressions could not be evaluated") := by
  have decoded : none ∉ texts.map some := by simp
  rw [verdict?, if_neg decoded]
  dsimp only
  split
  · exact .inr ⟨_, _, rfl⟩
  · exact .inl rfl

/-- A line that cannot be decoded stops a run without disturbing what came before.  The run puts out
what the run on the lines before it does, and reports the same failures.  Then it fails over the
line, whatever became of the lines before and whatever stands behind it. -/
theorem undecodable_line_stops_run (options : Options)
    (decodable : ∀ line ∈ lines, IsEnded line ∧ (decode? line).isSome) (ended : IsEnded bad)
    (undecodable : decode? bad = none) (rest : List UInt8) :
    let alone := runStream options lines.flatten
    let stopped := runStream options (lines.flatten ++ bad ++ rest)
    let records := (failing options (textsOf lines.flatten)).map fun line =>
      line ++ ": " ++ reason options line
    stopped.output = alone.output ∧
      (alone.diagnostics = records ∨ ∃ failed calculated, alone.diagnostics =
        records ++ ["Error: " ++ (failed ++ " of " ++ calculated ++
          " expressions could not be evaluated")]) ∧
      stopped.diagnostics = records ++ ["Error: stream did not contain valid UTF-8"] ∧
      stopped.exitCode = 1 := by
  intro alone stopped records
  have decoded : (split lines.flatten).map decode? = (textsOf lines.flatten).map some := by
    have nothingBehind := decode?_split_flatten_append decodable []
    rw [List.append_nil] at nothingBehind
    exact nothingBehind.trans (List.append_nil _)
  have cut : (split (lines.flatten ++ bad ++ rest)).map decode? =
      (textsOf lines.flatten).map some ++ none :: (split rest).map decode? := by
    rw [List.append_assoc, decode?_split_flatten_append decodable,
      Text.Line.decode?_split_of_undecodable ended undecodable]
  have aloneEq : alone = _ := runStream_eq options lines.flatten
  have stoppedEq : stopped = _ := runStream_eq options (lines.flatten ++ bad ++ rest)
  have sameTexts : textsOf (lines.flatten ++ bad ++ rest) = textsOf lines.flatten := by
    rw [textsOf, cut, readable_map_some_append_none]
  have stoppedVerdict : verdict? options ((split (lines.flatten ++ bad ++ rest)).map decode?) =
      some "stream did not contain valid UTF-8" := by
    rw [cut, verdict?, if_pos (by simp)]
  rw [decoded] at aloneEq
  rw [stoppedVerdict, sameTexts] at stoppedEq
  rw [stoppedEq, aloneEq]
  refine ⟨rfl, ?_, rfl, rfl⟩
  rcases verdict?_map_some options (textsOf lines.flatten) with none | ⟨failed, calculated, some⟩
  · rw [none]
    exact .inl (List.append_nil _)
  · rw [some]
    exact .inr ⟨failed, calculated, rfl⟩

/-- The lines here are `1+1`, `1+`, one that holds a byte which occurs in no text, and `3`. -/
theorem undecodable_line_behind_failure :
    let lines : List (List UInt8) := [[0x31, 0x2b, 0x31, 0x0d, 0x0a], [0x31, 0x2b, 0x0a]]
    let bad : List UInt8 := [0x32, 0xff, 0x0a]
    let stopped := runStream {} (lines.flatten ++ bad ++ [0x33, 0x0a])
    (∀ line ∈ lines, IsEnded line ∧ (decode? line).isSome) ∧ IsEnded bad ∧ decode? bad = none ∧
      stopped.output = ["2"] ∧
      stopped.diagnostics =
        ["1+: Lexical error at position 2: expression should end only on a digit or a right " ++
            "parenthesis",
          "Error: stream did not contain valid UTF-8"] ∧
      stopped.exitCode = 1 := by
  intro lines bad stopped
  have first : IsEnded [0x31, 0x2b, 0x31, 0x0d, 0x0a] :=
    ⟨[0x31, 0x2b, 0x31, 0x0d], by decide, rfl⟩
  have second : IsEnded [0x31, 0x2b, 0x0a] := ⟨[0x31, 0x2b], by decide, rfl⟩
  have decodable : ∀ line ∈ lines, IsEnded line ∧ (decode? line).isSome :=
    List.forall_mem_cons.2 ⟨⟨first, by decide +kernel⟩,
      List.forall_mem_singleton.2 ⟨second, by decide +kernel⟩⟩
  have ended : IsEnded bad := ⟨[0x32, 0xff], by decide, rfl⟩
  have undecodable : decode? bad = none := by
    decide +kernel
  obtain ⟨output, _, diagnostics, exitCode⟩ :=
    undecodable_line_stops_run {} decodable ended undecodable [0x33, 0x0a]
  refine ⟨decodable, ended, undecodable, output.trans ?_, diagnostics.trans ?_, exitCode⟩
  · decide +kernel
  · decide +kernel

end Undecodable

end Reckon.CommandLine
