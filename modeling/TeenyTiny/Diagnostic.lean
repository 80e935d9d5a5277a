import TeenyTiny.Fault

/-!
# Diagnostics

What is shown to people of a failure: in which part of the work it arose, a
message, and the place in the source if it has one.
-/

namespace TeenyTiny

/-- The part of the work on a source in which a failure arose. -/
inductive Stage where
  | lexer
  | parser
  | semantic
  deriving DecidableEq, Repr

def Stage.title : Stage → String
  | .lexer => "Lexer error"
  | .parser => "Parser error"
  | .semantic => "Semantic error"

/-- A failure as it is shown. -/
inductive Diagnostic where
  /-- A failure that lies in the source. -/
  | source (stage : Stage) (message : String) (span : Span)
  /-- A failure that lies in the files. -/
  | file (message : String)
  deriving DecidableEq, Repr

namespace Diagnostic

def message : Diagnostic → String
  | source _ message _ => message
  | file message => message

def span? : Diagnostic → Option Span
  | source _ _ span => some span
  | file _ => none

/-- The message after its title, on one line. -/
def text : Diagnostic → String
  | source stage message _ => stage.title ++ ": " ++ message
  | file message => "IO error: " ++ message

end Diagnostic

def Fault.stage : Fault → Stage
  | .lexical _ => .lexer
  | .grammar _ _ => .parser
  | .name _ _ => .semantic

def Fault.diagnostic (fault : Fault) : Diagnostic :=
  .source fault.stage fault.message fault.span

end TeenyTiny
