import TeenyTiny.Names.Labels
import TeenyTiny.Names.Variables
import TeenyTiny.Program.Statement

/-!
# Readings

A reading is a program of which some tokens have been read.  It knows the
statements that are complete, the blocks that are open around them, the names
seen so far, and the phase of the statement in which the next token stands.
-/

namespace TeenyTiny

/-- What a name after a keyword is for. -/
inductive NameUse where
  | label
  | jump
  | input
  deriving DecidableEq, Repr

/-- What an expression is read for. -/
inductive Goal where
  /-- To be printed. -/
  | print
  /-- To be assigned to a variable. -/
  | assign (name : String)
  /-- To be compared in the test of a block, after the given part of the
  test. -/
  | test (block : Block) (earlier : Chain.Open CompareOp Expr)

/-- The part of an expression that stands before the next factor. -/
structure Prior where
  sum : Chain.Open AddOp Term
  product : Chain.Open MulOp Factor

/-- Nothing of the expression has been read. -/
def Prior.none : Prior :=
  ⟨.none, .none⟩

/-- Where in a statement the next token stands. -/
inductive Phase where
  /-- At the start of a statement, or on an empty line before one. -/
  | start
  /-- After the keyword of a print statement. -/
  | print
  /-- After a keyword that asks for a name. -/
  | name (use : NameUse)
  /-- After that name. -/
  | named (use : NameUse) (name : Token)
  /-- After the keyword of an assignment. -/
  | target
  /-- After the variable that is assigned to. -/
  | equals (name : String)
  /-- At the start of a factor. -/
  | factor (goal : Goal) (prior : Prior)
  /-- After the sign of a factor. -/
  | signed (goal : Goal) (prior : Prior) (sign : AddOp)
  /-- After a factor, with the sum before its term and the term up to it. -/
  | operator (goal : Goal) (sum : Chain.Open AddOp Term) (term : Term)
  /-- After the keyword behind the test of a block. -/
  | opened (block : Block) (test : Comparison)
  /-- After the last token of a statement, at the end of its line. -/
  | complete (statement : Statement)

/-- A block that is not closed yet, and the statements before it, the newest
first. -/
structure Frame where
  block : Block
  test : Comparison
  before : List Statement

structure Reading where
  phase : Phase
  /-- The complete statements of the innermost open block, the newest first. -/
  statements : List Statement
  /-- The open blocks, the innermost first. -/
  frames : List Frame
  bound : Variables
  labels : Labels

namespace Reading

def empty : Reading :=
  ⟨.start, [], [], .empty, .empty⟩

def goTo (reading : Reading) (phase : Phase) : Reading :=
  { reading with phase }

def push (reading : Reading) (statement : Statement) : Reading :=
  { reading with
    phase := .start
    statements := statement :: reading.statements }

def openBlock (reading : Reading) (block : Block) (test : Comparison) :
    Reading :=
  { reading with
    phase := .start
    statements := []
    frames := ⟨block, test, reading.statements⟩ :: reading.frames }

/-- Closes the block of the given frame, which was the innermost, with `outer`
around it. -/
def closeBlock (reading : Reading) (frame : Frame) (outer : List Frame) :
    Reading :=
  { reading with
    phase :=
      .complete (.block frame.block frame.test reading.statements.reverse)
    statements := frame.before
    frames := outer }

/-- The program that has been read, once no block is open. -/
def program (reading : Reading) : Program :=
  reading.statements.reverse

end Reading

end TeenyTiny
