import TeenyTiny.Pattern.Basic
import TeenyTiny.Pattern.Reader

/-!
# Repetitions in patterns

A piece of a pattern may be followed by how often it is to be repeated.
-/

namespace TeenyTiny.PatternReader

/-- A number of repetitions in braces, or why there is none. -/
def readCount : ReadPattern (Except PatternFault Nat) := do
  discard (takeKind isWhiteSpace)
  let start ← here
  let digits ← takeKind Char.isDigit
  let columns : Columns := ⟨start, ← here⟩
  discard (takeKind isWhiteSpace)
  let count := digits.foldl (fun value c => value * 10 + (c.toNat - 0x30)) 0
  if digits = [] then return .error ⟨.countEmpty, [columns]⟩
  else if 0xffffffff < count then return .error ⟨.countInvalid, [columns]⟩
  else return .ok count

/-- Reads the least and the most number of repetitions in braces. -/
def readCounts (start : Nat) : ReadPattern (Nat × Option Nat) := do
  let unclosed (next : Option Char) : ReadPattern Unit := do
    if next.isNone then fail .countUnclosed start (← here)
  unclosed (← advance)
  let least ← readCount
  unclosed (← next?)
  if (← next?) = some ',' then
    unclosed (← advance)
    if (← next?) = some '\x7d' then return (← least, none)
    else
      let least ← least
      let most ← readCount
      return (least, some (← most))
  else
    let count ← least
    return (count, some count)

/-- Reads a repetition of a piece.  Whether as few or as many pieces as possible
are preferred makes no difference to where a pattern occurs. -/
def readRepetition (operator : Char) (piece : Pattern) :
    ReadPattern Pattern := do
  let start ← here
  let passPreference : ReadPattern Unit := do
    if (← next?) = some '?' then pass 1
  match operator with
  | '?' =>
      pass 1
      passPreference
      return .times 0 (some 1) piece
  | '*' =>
      pass 1
      passPreference
      return .times 0 none piece
  | '+' =>
      pass 1
      passPreference
      return .times 1 none piece
  | _ =>
      let (least, most) ← readCounts start
      if (← next?) ≠ some '\x7d' then fail .countUnclosed start (← here)
      discard advance
      passPreference
      if most.any (· < least) then fail .countRangeInvalid start (← here)
      return .times least most piece

end TeenyTiny.PatternReader
