import TeenyTiny.Pattern.Reader
import TeenyTiny.Text.Digit
import TeenyTiny.Text.Word

/-!
# Heads of groups in patterns

The text behind an opening parenthesis may name a group or set flags.
-/

namespace TeenyTiny.PatternReader

/-- The letters of flags.  The letter `U` turns preferences around, which makes
no difference to where a pattern occurs. -/
def flagLetters : List Char :=
  ['i', 'm', 's', 'U', 'u', 'R', 'x']

def setFlag (flags : PatternFlags) (letter : Char) (value : Bool) :
    PatternFlags :=
  match letter with
  | 'i' => { flags with foldCase := value }
  | 'm' => { flags with lines := value }
  | 's' => { flags with dotAll := value }
  | 'R' => { flags with returns := value }
  | 'u' => { flags with wide := value }
  | 'x' => { flags with spaced := value }
  | _ => flags

/-- Reads flags up to a colon or a closing parenthesis.  The letters and hyphens
before are given, the last one first. -/
def readFlags : Nat → List (Char × Nat) → ReadPattern (List Char)
  | 0, seen => return (seen.map (·.1)).reverse
  | fuel + 1, seen => do
      let column ← here
      match ← next? with
      | none => fail .flagUnexpectedEnd column column
      | some c =>
          if c = ':' ∨ c = ')' then
            match seen.head? with
            | some ('-', last) => fail .flagDanglingNegation last (last + 1)
            | _ => return (seen.map (·.1)).reverse
          else if c ≠ '-' ∧ c ∉ flagLetters then
            fail .flagUnrecognized column (column + 1)
          else
            match seen.lookup c with
            | some earlier =>
                let reason : PatternReason :=
                  if c = '-' then .flagRepeatedNegation else .flagDuplicate
                throw ⟨reason, [⟨earlier, earlier + 1⟩, ⟨column, column + 1⟩]⟩
            | none =>
                pass 1
                readFlags fuel ((c, column) :: seen)

/-- The flags after letters, of which those behind a hyphen are taken back. -/
def applyFlags (flags : PatternFlags) (letters : List Char) : PatternFlags :=
  let given := letters.takeWhile (· ≠ '-')
  let taken := letters.dropWhile (· ≠ '-')
  taken.foldl (setFlag · · false) (given.foldl (setFlag · · true) flags)

/-- Whether a character may stand in the name of a group. -/
def isNameChar (first : Bool) (c : Char) : Bool :=
  c = '_' || (if first then isWordChar c && !isDecimalDigit c
    else c = '.' || c = '[' || c = ']' || isWordChar c)

/-- Reads the name of a group up to the closing angle. -/
def readGroupName : ReadPattern Unit := do
  let start ← here
  let name ← takeKind (· ≠ '>')
  let valid := name.zipIdx.takeWhile fun (c, index) => isNameChar (index = 0) c
  let bad := start + valid.length
  if valid.length < name.length then fail .groupNameInvalid bad (bad + 1)
  if (← next?).isNone then
    let stop ← here
    fail .groupNameUnexpectedEnd stop stop
  let columns : Columns := ⟨start, ← here⟩
  pass 1
  if name = [] then fail .groupNameEmpty start start
  let text := String.ofList name
  match (← get).names.lookup text with
  | some earlier => throw ⟨.groupNameDuplicate, [earlier, columns]⟩
  | none =>
      modify fun reader =>
        { reader with names := (text, columns) :: reader.names }

/-- Reads what stands between the opening parenthesis of a group and its
content.  A group without content only sets flags for what follows, and is
none. -/
def readGroupHead (start : Nat) : ReadPattern Bool := do
  discard advance
  let inner ← here
  let around ← ["?=", "?!", "?<=", "?<!"].anyM passText
  if around then fail .unsupportedLookAround start (← here)
  if (← passText "?P<") || (← passText "?<") then
    readGroupName
    return true
  else if ← passText "?" then
    if (← next?).isNone then fail .groupUnclosed start (start + 1)
    let letters ← readFlags (← get).rest.length.succ []
    let closing ← next?
    pass 1
    if closing = some ')' ∧ letters = [] then
      fail .repetitionMissing inner inner
    modify fun reader =>
      { reader with flags := applyFlags reader.flags letters }
    return closing = some ':'
  else return true

end TeenyTiny.PatternReader
