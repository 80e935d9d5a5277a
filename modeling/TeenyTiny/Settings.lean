import TeenyTiny.Page

/-!
# Settings

Where a program in C is stored and how it is indented.  Both can be set in the
environment and on the command line.
-/

namespace TeenyTiny

/-- The variables of the environment that the program looks at. -/
structure Environment where
  /-- The value of `TEENY_OUTPUT`: where the program in C is stored. -/
  output : Option String
  /-- The value of `TEENY_INDENT`: how many spaces one level of indentation
  has. -/
  indent : Option String
  /-- The value of `RUST_LOG`: which events are written to the log. -/
  log : Option String
  deriving DecidableEq, Repr

/-- The largest number that a setting can have. -/
def maxNumber : Nat :=
  0xffffffffffffffff

def digitsValue (digits : List Char) : Nat :=
  digits.foldl (fun value digit => value * 10 + (digit.toNat - '0'.toNat)) 0

/-- Reads a number: a plus sign or none, and one or more digits. -/
def numberOf? (text : String) : Option Nat :=
  let digits :=
    match text.toList with
    | '+' :: rest => rest
    | chars => chars
  if digits ≠ [] ∧ digits.all Char.isDigit ∧ digitsValue digits ≤ maxNumber then
    some (digitsValue digits)
  else none

structure Settings where
  /-- The path of the file. -/
  output : String
  /-- The number of spaces for one level of indentation. -/
  indentWidth : Nat
  deriving DecidableEq, Repr

/-- The settings that an environment asks for.  An empty path and a number that
cannot be read count as not set. -/
def Settings.ofEnvironment (environment : Environment) : Settings where
  output :=
    match environment.output with
    | none | some "" => "out.c"
    | some path => path
  indentWidth := (environment.indent.bind numberOf?).getD Page.defaultWidth

/-- Replaces the settings that are given. -/
def Settings.override (settings : Settings) (output : Option String)
    (indentWidth : Option Nat) : Settings where
  output := output.getD settings.output
  indentWidth := indentWidth.getD settings.indentWidth

end TeenyTiny
