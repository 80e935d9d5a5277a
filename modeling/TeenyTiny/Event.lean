/-!
# Events

What the program notes about its own work while it runs.  Every event has a
level, the part of the program that notes it, and a message.
-/

namespace TeenyTiny

/-- How much an event matters, the weightiest first. -/
inductive Level where
  | error
  | warn
  | info
  | debug
  | trace
  deriving DecidableEq, Repr

namespace Level

def name : Level → String
  | error => "ERROR"
  | warn => "WARN"
  | info => "INFO"
  | debug => "DEBUG"
  | trace => "TRACE"

/-- The place of a level in the order of the levels. -/
def rank : Level → Nat
  | error => 1
  | warn => 2
  | info => 3
  | debug => 4
  | trace => 5

end Level

/-- A rule of the grammar, noted when its text is about to be read. -/
inductive Rule where
  | program
  | print
  | branch
  | loop
  | label
  | jump
  | assign
  | input
  | comparison
  | expression
  | term
  | unary
  | primary (text : String)
  | newline
  deriving DecidableEq, Repr

def Rule.name : Rule → String
  | program => "PROGRAM"
  | print => "STATEMENT-PRINT"
  | branch => "STATEMENT-IF"
  | loop => "STATEMENT-WHILE"
  | label => "STATEMENT-LABEL"
  | jump => "STATEMENT-GOTO"
  | assign => "STATEMENT-LET"
  | input => "STATEMENT-INPUT"
  | comparison => "COMPARISON"
  | expression => "EXPRESSION"
  | term => "TERM"
  | unary => "UNARY"
  | primary text => s!"PRIMARY ({text})"
  | newline => "NEWLINE"

inductive Event where
  /-- A grammar rule is entered. -/
  | entered (rule : Rule)
  /-- A variable is bound for the first time. -/
  | newVariable (name : String)
  /-- A label is declared. -/
  | newLabel (name : String)
  /-- A whole program has been read. -/
  | finished (count : Nat)
  /-- The text of a program in C is complete. -/
  | generated (bytes : Nat)
  /-- A text has been stored in a file. -/
  | wrote (bytes : Nat) (path : String)
  /-- A whole source has been cut into tokens. -/
  | tokenized (count : Nat)
  /-- The work on a source file begins. -/
  | compiling (file : String)
  deriving DecidableEq, Repr

namespace Event

def level : Event → Level
  | entered _ | tokenized _ => .trace
  | newVariable _ | newLabel _ | finished _ | generated _ | wrote _ _ => .debug
  | compiling _ => .info

/-- The part of the program that notes an event. -/
def origin : Event → String
  | entered _ | finished _ => "teenyc::parser::parser"
  | newVariable _ | newLabel _ => "teenyc::parser::symbols"
  | generated _ | compiling _ => "teenyc"
  | wrote _ _ => "teenyc::codegen::emitter"
  | tokenized _ => "teenyc::lexer::scanner"

def message : Event → String
  | entered rule => rule.name
  | newVariable name => s!"declared variable '{name}'"
  | newLabel name => s!"declared label '{name}'"
  | finished count => s!"translation finished with {count} variables"
  | generated bytes => s!"generated {bytes} bytes of C"
  | wrote bytes path => s!"wrote {bytes} bytes to {path}"
  | tokenized count => s!"tokenized {count} tokens"
  | compiling file => s!"compiling {file}"

end Event

/-- What a log shows of an event. -/
structure Record where
  level : String
  origin : String
  message : String
  deriving DecidableEq, Repr

def Event.record (event : Event) : Record :=
  ⟨event.level.name, event.origin, event.message⟩

end TeenyTiny
