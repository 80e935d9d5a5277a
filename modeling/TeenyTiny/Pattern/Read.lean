import TeenyTiny.Pattern.Bracket
import TeenyTiny.Pattern.Group
import TeenyTiny.Pattern.Repetition

/-!
# Reading patterns

Most characters of a pattern stand for themselves; others choose kinds of
characters, group, repeat and divide alternatives.
-/

namespace TeenyTiny

namespace PatternReader

def kindPattern (flags : PatternFlags) (kind : CharKind) : Pattern :=
  .one (if flags.foldCase then kind.foldCase else kind)

def startsLine (flags : PatternFlags) (before behind : Option Char) : Bool :=
  before.isNone ||
    (flags.lines && (before = some '\n' ||
      (flags.returns && before = some '\r' && behind ≠ some '\n')))

def endsLine (flags : PatternFlags) (before behind : Option Char) : Bool :=
  behind.isNone ||
    (flags.lines &&
      (if flags.returns then
        behind = some '\r' || (behind = some '\n' && before ≠ some '\r')
      else behind = some '\n'))

def Primitive.pattern (flags : PatternFlags) : Primitive → Pattern
  | .literal c => kindPattern flags (.only c)
  | .kind admits => kindPattern flags admits
  | .place admits => .place admits
  | .any =>
      .one fun c => flags.dotAll || (c ≠ '\n' && !(flags.returns && c = '\r'))

/-- Reads a character that stands for itself, for any character or for a place,
or an escape. -/
def readPrimitive (c : Char) : ReadPattern Pattern := do
  let flags := (← get).flags
  match c with
  | '\\' => return (← readEscape).pattern flags
  | '.' =>
      pass 1
      return Primitive.any.pattern flags
  | '^' =>
      pass 1
      return .place (startsLine flags)
  | '$' =>
      pass 1
      return .place (endsLine flags)
  | c =>
      pass 1
      return (Primitive.literal c).pattern flags

/-- One piece behind the other, the last one first; flags are no pieces. -/
def joinAll (pieces : List (Option Pattern)) : Pattern :=
  pieces.foldl
    (fun rest piece => (piece.map (Pattern.join · rest)).getD rest) .empty

/-- Reads a pattern up to the end of its group or of the text.  The group stands
at the given column, the alternatives before the last one are given as one, and
the pieces of the last one with the last piece first.  Each turn reads at least
one character, so the fuel is more than the length of the text. -/
def readBody : Nat → Option Nat → (Pattern → Pattern) → List (Option Pattern) →
    ReadPattern Pattern
  | 0, _, others, pieces => return others (joinAll pieces)
  | fuel + 1, group, others, pieces => do
      settle
      match ← next? with
      | none =>
          match group with
          | some column => fail .groupUnclosed column (column + 1)
          | none => return others (joinAll pieces)
      | some '(' =>
          let start ← here
          let flags := (← get).flags
          if ← readGroupHead start then
            let inner ← readBody fuel (some start) id []
            modify fun reader => { reader with flags := flags }
            readBody fuel group others (some inner :: pieces)
          else readBody fuel group others (none :: pieces)
      | some ')' =>
          match group with
          | some _ =>
              pass 1
              return others (joinAll pieces)
          | none =>
              let column ← here
              fail .groupUnopened column (column + 1)
      | some '|' =>
          pass 1
          readBody fuel group
            (fun last => others (.either (joinAll pieces) last)) []
      | some '[' =>
          let kind ← readKinds (← get).rest.length (← readBracket)
          readBody fuel group others (some (.one kind) :: pieces)
      | some c =>
          if c = '?' ∨ c = '*' ∨ c = '+' ∨ c = '\x7b' then
            match pieces with
            | some piece :: before =>
                let repeated ← readRepetition c piece
                readBody fuel group others (some repeated :: before)
            | _ =>
                let column ← here
                fail .repetitionMissing column column
          else
            let piece ← readPrimitive c
            readBody fuel group others (some piece :: pieces)

end PatternReader

def Pattern.ofText (text : String) : Except PatternFault Pattern := do
  let characters := text.toList
  let flags : PatternFlags := ⟨false, false, false, false, true, false⟩
  let reader : PatternReader := ⟨characters, 0, flags, []⟩
  let body := PatternReader.readBody (characters.length + 1) none id []
  let (pattern, _) ← body.run reader
  return pattern

end TeenyTiny
