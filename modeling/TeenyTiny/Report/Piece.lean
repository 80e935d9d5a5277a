/-!
# Coloured pieces of text

A row of a report is a list of pieces, each in a colour or in none.
-/

namespace TeenyTiny

inductive Ink where
  | red
  | margin
  | skipped
  | plain
  deriving DecidableEq, Repr

/-- The code of a colour on terminals. -/
def Ink.code : Ink → String
  | .red => "31"
  | .margin => "38;5;246"
  | .skipped => "38;5;240"
  | .plain => "38;5;249"

/-- A piece of text and its colour. -/
structure Piece where
  ink : Option Ink
  text : String
  deriving DecidableEq, Repr

namespace Piece

def bare (text : String) : Piece :=
  ⟨none, text⟩

def inked (ink : Ink) (text : String) : Piece :=
  ⟨some ink, text⟩

def spaces (count : Nat) : Piece :=
  bare (String.ofList (List.replicate count ' '))

/-- A piece as it is written, with its colour or without. -/
def render (coloured : Bool) (piece : Piece) : String :=
  match coloured, piece.ink with
  | true, some ink => "\x1b[" ++ ink.code ++ "m" ++ piece.text ++ "\x1b[0m"
  | _, _ => piece.text

end Piece

/-- A row as it is written, with the end of its line. -/
def renderRow (coloured : Bool) (row : List Piece) : String :=
  String.join (row.map (Piece.render coloured)) ++ "\n"

end TeenyTiny
