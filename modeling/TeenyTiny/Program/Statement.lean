import TeenyTiny.Program.Expr

/-!
# Statements and programs
-/

namespace TeenyTiny

/-- The two statements that hold other statements. -/
inductive Block where
  | branch
  | loop
  deriving DecidableEq, Repr

namespace Block

def opener : Block → Keyword
  | branch => .ifKw
  | loop => .whileKw

/-- The keyword between the comparison of a block and its statements. -/
def divider : Block → Keyword
  | branch => .thenKw
  | loop => .repeatKw

def closer : Block → Keyword
  | branch => .endifKw
  | loop => .endwhileKw

end Block

inductive Statement where
  /-- Prints a fixed text. -/
  | printText (text : String)
  /-- Prints the value of an expression. -/
  | printValue (value : Expr)
  /-- Marks a place to jump to. -/
  | label (name : String)
  /-- Jumps to a label. -/
  | jump (name : String)
  /-- Gives a variable a new value. -/
  | assign (name : String) (value : Expr)
  /-- Reads a number into a variable. -/
  | input (name : String)
  /-- Runs statements if, or as long as, a comparison holds. -/
  | block (kind : Block) (test : Comparison) (body : List Statement)
  deriving Repr

abbrev Program : Type :=
  List Statement

end TeenyTiny
