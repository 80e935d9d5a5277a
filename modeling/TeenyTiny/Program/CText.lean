import TeenyTiny.Page
import TeenyTiny.Reading.Basic

/-!
# Programs in C

How a program is written in C.  Every variable is a `float` that is declared in
the header of the page; the statements are the body of the function `main`.
-/

namespace TeenyTiny

/-- A number as C reads it in decimal: without zeros in front, which would make
it octal. -/
def decimalText (digits : String) : String :=
  let whole := digits.toList.takeWhile (· ≠ '.')
  let fraction := digits.toList.dropWhile (· ≠ '.')
  match whole.dropWhile (· = '0') with
  | [] => String.ofList ('0' :: fraction)
  | significant => String.ofList (significant ++ fraction)

def Operand.cText : Operand → String
  | .number digits => decimalText digits
  | .variable name => name

/-- A factor in C: the sign stands right before the operand. -/
def Factor.cText (factor : Factor) : String :=
  match factor.sign with
  | some sign => (Operator.text sign) ++ factor.operand.cText
  | none => factor.operand.cText

/-- A chain in C: a space stands on either side of an operator. -/
def Chain.cText {Op Arg : Type}
    (opText : Op → String) (argText : Arg → String) : Chain Op Arg → String
  | .first arg => argText arg
  | .join left op right =>
      left.cText opText argText ++ " " ++ opText op ++ " " ++ argText right

def Term.cText (term : Term) : String :=
  Chain.cText Operator.text Factor.cText term

def Expr.cText (expr : Expr) : String :=
  Chain.cText Operator.text Term.cText expr

def Comparison.cText (test : Comparison) : String :=
  Chain.cText Operator.text Expr.cText (.join test.left test.op test.right)

def Block.cWord : Block → String
  | .branch => "if"
  | .loop => "while"

mutual

def Statement.write : Statement → Page → Page
  | .printText text, page => page.writeLine ("printf(\"" ++ text ++ "\\n\");")
  | .printValue value, page =>
      page.writeLine ("printf(\"%.2f\\n\", (float)(" ++ value.cText ++ "));")
  | .label name, page => page.writeLine (name ++ ":;")
  | .jump name, page => page.writeLine ("goto " ++ name ++ ";")
  | .assign name value, page =>
      page.writeLine (name ++ " = " ++ value.cText ++ ";")
  | .input name, page =>
      let test := "if (0 == scanf(\"%f\", &" ++ name ++ ")) \x7b"
      let page := (page.writeLine test).indent
      let page := (page.writeLine (name ++ " = 0;")).writeLine "scanf(\"%*s\");"
      page.dedent.writeLine "\x7d"
  | .block kind test body, page =>
      let line := kind.cWord ++ " (" ++ test.cText ++ ") \x7b"
      let page := (page.writeLine line).indent
      (Statement.writeAll body page).dedent.writeLine "\x7d"

def Statement.writeAll : List Statement → Page → Page
  | [], page => page
  | statement :: rest, page => Statement.writeAll rest (statement.write page)

end

/-- Writes the header: the opening of the function and the declarations of the
variables. -/
def Variables.write (bound : Variables) (page : Page) : Page :=
  let page := page.headerLine 0 "#include <stdio.h>"
  let page := page.headerLine 0 "int main(void) \x7b"
  bound.names.foldl
    (fun page name => page.headerLine 1 ("float " ++ name ++ ";")) page

/-- Writes the body of the function and its end. -/
def Program.write (program : Program) (page : Page) : Page :=
  let page := (Statement.writeAll program page.indent).writeLine "return 0;"
  page.dedent.writeLine "\x7d"

def Reading.write (reading : Reading) (page : Page) : Page :=
  reading.program.write (reading.bound.write page)

end TeenyTiny
