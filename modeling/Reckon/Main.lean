import Reckon.CommandLine

/-!
Contract: the program.

Owns: reading arguments and standard input, writing both output streams, and the exit code.

Does not own: any decision on what is written.

Of the arguments it knows what the calculator needs, an expression and the two options of
`CommandLine.Options`.  It leaves out the options for help, the version and the verbosity of the
log, with all that these write.  It accepts an option that is given twice, and words its usage line
itself.
-/

set_option autoImplicit false

namespace Reckon

namespace CommandLine

structure Request where
  options : Options := {}
  /-- Without an expression, standard input is read. -/
  expression : Option String := none
deriving DecidableEq, Repr

/-- A request with one more expression; there may be only one. -/
def Request.withExpression? (request : Request) (expression : String) : Option Request :=
  match request.expression with
  | none => some { request with expression := some expression }
  | some _ => none

/-- A request with one more option, by its letter. -/
def Request.withFlag? (request : Request) : Char → Option Request
  | 't' => some { request with options.showTokens := true }
  | 'p' => some { request with options.showReversePolish := true }
  | _ => none

/-- Read arguments.  Options have a long and a short form, short ones may be joined, and all that
follows `--` is no option. -/
def Request.read? (request : Request) : List String → Option Request
  | [] => some request
  | "--" :: rest => rest.foldlM withExpression? request
  | "--tokens" :: rest => (request.withFlag? 't').bind (·.read? rest)
  | "--postfix" :: rest => (request.withFlag? 'p').bind (·.read? rest)
  | argument :: rest =>
      match argument.toList with
      | '-' :: flag :: flags => ((flag :: flags).foldlM withFlag? request).bind (·.read? rest)
      | _ => (request.withExpression? argument).bind (·.read? rest)

def usageLine : String := "usage: [--tokens] [--postfix] [--] [EXPRESSION]"

end CommandLine

/-- All the bytes that a stream still holds, after those read already. -/
partial def readAll (stream : IO.FS.Stream) (bytesRead : ByteArray) : IO ByteArray := do
  let chunk ← stream.read 65536
  if chunk.isEmpty then return bytesRead else readAll stream (bytesRead ++ chunk)

/-- Write what a run leaves behind. -/
def present (outcome : CommandLine.Outcome) : IO UInt32 := do
  (← IO.getStdout).putStr (CommandLine.renderLines outcome.output)
  (← IO.getStderr).putStr (CommandLine.renderLines outcome.diagnostics)
  return outcome.exitCode.toUInt32

end Reckon

open Reckon

/-- Calculate the expression among the arguments or, without one, every line of standard input. -/
def main (arguments : List String) : IO UInt32 := do
  match CommandLine.Request.read? {} arguments with
  | none =>
      (← IO.getStderr).putStrLn CommandLine.usageLine
      return 2
  | some request =>
      match request.expression with
      | some expression => present (CommandLine.runExpression request.options expression)
      | none =>
          let bytes ← readAll (← IO.getStdin) .empty
          present (CommandLine.runStream request.options bytes.data.toList)
