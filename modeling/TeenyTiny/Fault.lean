import TeenyTiny.Text.Quoted
import TeenyTiny.Token.Basic

/-!
# Faults

Why a source is refused.  A fault keeps its cause; the wording of every message
is here and nowhere else.
-/

namespace TeenyTiny

/-! ## Malformed lexemes -/

/-- The character that was found where another was wanted, as messages quote
it. -/
def foundText : Option Char → String
  | some c => quoteChar c
  | none => "end of file"

/-- The message of a malformed lexeme.  All but an open string quote the
position. -/
def LexicalError.message (error : LexicalError) : String :=
  let place := error.position.text
  match error.fault with
  | .badNumber found =>
      s!"illegal character in number: {foundText found} at {place}"
  | .badString found =>
      s!"illegal character in string: {quoteChar found} at {place}"
  | .openString => "unterminated string"
  | .loneBang found =>
      s!"expected '!=', found '!' followed by {foundText found} at {place}"
  | .strayChar found => s!"unknown token {quoteChar found} at {place}"

/-! ## Broken grammar -/

/-- What the grammar asks for at a token. -/
inductive Wanted where
  | kind (kind : Kind)
  | operand
  | comparison
  deriving DecidableEq, Repr

def Wanted.description : Wanted → String
  | .kind wanted => wanted.description
  | .operand => "number or identifier"
  | .comparison => "comparison operator"

/-- How a token breaks the grammar. -/
inductive GrammarFault where
  /-- The grammar asks for something else. -/
  | unexpected (wanted : Wanted) (found : Kind)
  /-- No statement starts like this. -/
  | noStatement (kind : Kind) (text : String)
  /-- A name is assigned to without the keyword of assignments. -/
  | bareAssignment (name : String)
  deriving DecidableEq, Repr

def GrammarFault.message : GrammarFault → String
  | .unexpected wanted found =>
      s!"expected {wanted.description}, found {found.description}"
  | .noStatement .eof _ => "invalid statement at end of file"
  | .noStatement kind text =>
      s!"invalid statement at {quoteText text} ({kind.description})"
  | .bareAssignment name =>
      s!"invalid statement at '{name}': assignments must start with LET"

/-! ## Misused names -/

inductive NameFault where
  /-- A variable is read before it is bound. -/
  | unbound (name : String)
  /-- A label is declared again. -/
  | repeatedLabel (name : String)
  /-- Some jumps go to labels that are declared nowhere. -/
  | missingLabels (names : List String)
  deriving DecidableEq, Repr

def NameFault.message : NameFault → String
  | .unbound name => s!"referencing variable before assignment: {name}"
  | .repeatedLabel name => s!"label already exists: {name}"
  | .missingLabels names =>
      "attempting to GOTO undeclared label: " ++ ", ".intercalate names

/-! ## All faults -/

/-- Why a source is refused, and where. -/
inductive Fault where
  | lexical (error : LexicalError)
  | grammar (fault : GrammarFault) (span : Span)
  | name (fault : NameFault) (span : Span)
  deriving DecidableEq, Repr

namespace Fault

def message : Fault → String
  | lexical error => error.message
  | grammar fault _ => fault.message
  | name fault _ => fault.message

/-- The part of the source that a fault points at. -/
def span : Fault → Span
  | lexical error => error.span
  | grammar _ span => span
  | name _ span => span

end Fault

end TeenyTiny
