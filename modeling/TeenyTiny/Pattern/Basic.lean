/-!
# Patterns

A pattern describes pieces of text.  Whether some piece of a text fits a pattern
is found by marking places of the text: the places where a piece may start are
marked first, and going through the pattern moves the marks to the places where
such a piece may end.  The places of a text of `n` characters are `0` to `n`, so
marks are a list of `n + 1` truth values.
-/

namespace TeenyTiny

inductive Pattern where
  /-- The empty piece. -/
  | empty
  /-- One character of the given kind. -/
  | one (admits : Char → Bool)
  /-- The empty piece, at a place where the characters before and behind it are
  as given. -/
  | place (admits : (before behind : Option Char) → Bool)
  /-- A piece of the first kind and right behind it one of the second kind. -/
  | join (first second : Pattern)
  /-- A piece of one kind or of the other. -/
  | either (first second : Pattern)
  /-- A number of pieces one behind the other, at least and at most as many as
  given. -/
  | times (least : Nat) (most : Option Nat) (piece : Pattern)

abbrev Marks : Type :=
  List Bool

namespace Marks

def union (first second : Marks) : Marks :=
  List.zipWith (· || ·) first second

/-- Moves each mark behind the next character, if that is of the given kind. -/
def advance (admits : Char → Bool) (text : List Char) (marks : Marks) : Marks :=
  false :: List.zipWith (fun c marked => marked && admits c) text marks

/-- Keeps the marks at places that are as given.  The character before the first
place is given. -/
def keep (admits : Option Char → Option Char → Bool) :
    Option Char → List Char → Marks → Marks
  | _, _, [] => []
  | before, [], marked :: _ => [marked && admits before none]
  | before, c :: rest, marked :: marks =>
      (marked && admits before (some c)) :: keep admits (some c) rest marks

/-- Moves marks the given number of times, or until that does not change
them. -/
def iterate (move : Marks → Marks) : Nat → Marks → Marks
  | 0, marks => marks
  | count + 1, marks =>
      let moved := move marks
      if moved = marks then marks else iterate move count moved

/-- The marks that are reached by moving marks any number of times up to the
given one. -/
def closure (move : Marks → Marks) (count : Nat) (marks : Marks) : Marks :=
  iterate (fun reached => reached.union (move reached)) count marks

end Marks

namespace Pattern

/-- The places where a piece that fits the pattern may end when it starts at a
marked place.  When marks are moved without a bound, more moves than the text
has places reach nothing new. -/
def move (text : List Char) : Pattern → Marks → Marks
  | empty, marks => marks
  | one admits, marks => marks.advance admits text
  | place admits, marks => marks.keep admits none text
  | join first second, marks => second.move text (first.move text marks)
  | either first second, marks =>
      (first.move text marks).union (second.move text marks)
  | times least most piece, marks =>
      let more := (most.getD (least + text.length + 1)) - least
      Marks.closure (piece.move text) more
        (Marks.iterate (piece.move text) least marks)

def occursIn (pattern : Pattern) (text : String) : Bool :=
  let characters := text.toList
  (pattern.move characters (List.replicate (characters.length + 1) true)).any id

end Pattern

end TeenyTiny
