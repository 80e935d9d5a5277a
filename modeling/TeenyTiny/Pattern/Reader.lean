import TeenyTiny.Pattern.Fault
import TeenyTiny.Pattern.Kind
import TeenyTiny.Text.Blank

/-!
# Reading the text of a pattern

The text of a pattern is read from left to right, character by character.  Flags
say how its parts are to be understood.
-/

namespace TeenyTiny

/-- How a part of a pattern is to be understood. -/
structure PatternFlags where
  /-- Case does not count. -/
  foldCase : Bool
  /-- Lines have starts and ends of their own. -/
  lines : Bool
  /-- A point stands for line breaks too. -/
  dotAll : Bool
  /-- A carriage return may stand in a line break. -/
  returns : Bool
  /-- Kinds of characters reach beyond the basic alphabet. -/
  wide : Bool
  /-- White space and comments do not count. -/
  spaced : Bool
  deriving DecidableEq, Repr

/-- The text that is still to be read, and what has been noted about the text
before it. -/
structure PatternReader where
  rest : List Char
  /-- The number of characters before the rest. -/
  column : Nat
  flags : PatternFlags
  /-- The names of groups and where they stand. -/
  names : List (String × Columns)

abbrev ReadPattern (α : Type) : Type :=
  StateT PatternReader (Except PatternFault) α

namespace PatternReader

def fail {α : Type} (reason : PatternReason) (start stop : Nat) :
    ReadPattern α :=
  throw ⟨reason, [⟨start, stop⟩]⟩

def next? : ReadPattern (Option Char) := do
  return (← get).rest.head?

def here : ReadPattern Nat := do
  return (← get).column

def pass (count : Nat) : ReadPattern Unit :=
  modify fun reader =>
    { reader with
      rest := reader.rest.drop count
      column := reader.column + min count reader.rest.length }

/-- Passes over the given text if it is next. -/
def passText (text : String) : ReadPattern Bool := do
  if text.toList.isPrefixOf (← get).rest then
    pass text.length
    return true
  else return false

/-- The characters of the kind that are next. -/
def takeKind (kind : CharKind) : ReadPattern (List Char) := do
  let taken := (← get).rest.takeWhile kind
  pass taken.length
  return taken

/-- The text behind white space and comments. -/
def skipSpaced : Nat → List Char → List Char
  | 0, text => text
  | fuel + 1, text =>
      match text.dropWhile isWhiteSpace with
      | '#' :: rest => skipSpaced fuel (rest.dropWhile (· ≠ '\n'))
      | other => other

/-- Passes over white space and comments where they do not count. -/
def settle : ReadPattern Unit := do
  let reader ← get
  if reader.flags.spaced then
    let behind := skipSpaced reader.rest.length reader.rest
    pass (reader.rest.length - behind.length)

/-- Passes over a character and over what does not count behind it.  The result
is the character that is next then. -/
def advance : ReadPattern (Option Char) := do
  pass 1
  settle
  next?

end PatternReader

end TeenyTiny
