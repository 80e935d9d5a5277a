/-!
# Keywords

The language has eleven reserved words, all in capitals.
-/

namespace TeenyTiny

inductive Keyword where
  | labelKw
  | gotoKw
  | printKw
  | inputKw
  | letKw
  | ifKw
  | thenKw
  | endifKw
  | whileKw
  | repeatKw
  | endwhileKw
  deriving DecidableEq, Repr

namespace Keyword

def all : List Keyword :=
  [labelKw, gotoKw, printKw, inputKw, letKw, ifKw, thenKw, endifKw, whileKw,
    repeatKw, endwhileKw]

/-- The spelling of a reserved word in a source text. -/
def text : Keyword → String
  | labelKw => "LABEL"
  | gotoKw => "GOTO"
  | printKw => "PRINT"
  | inputKw => "INPUT"
  | letKw => "LET"
  | ifKw => "IF"
  | thenKw => "THEN"
  | endifKw => "ENDIF"
  | whileKw => "WHILE"
  | repeatKw => "REPEAT"
  | endwhileKw => "ENDWHILE"

/-- The name of a reserved word in listings of tokens. -/
def name : Keyword → String
  | labelKw => "Label"
  | gotoKw => "Goto"
  | printKw => "Print"
  | inputKw => "Input"
  | letKw => "Let"
  | ifKw => "If"
  | thenKw => "Then"
  | endifKw => "Endif"
  | whileKw => "While"
  | repeatKw => "Repeat"
  | endwhileKw => "Endwhile"

/-- The reserved word with the given spelling; capitals count. -/
def ofText? (text : String) : Option Keyword :=
  all.find? fun keyword => keyword.text = text

end Keyword

end TeenyTiny
