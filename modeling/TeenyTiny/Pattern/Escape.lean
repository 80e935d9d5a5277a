import TeenyTiny.Pattern.Reader
import TeenyTiny.Text.Digit
import TeenyTiny.Text.Word

/-!
# Escapes in patterns

A backslash and the characters behind it stand for one character, for a kind of
characters or for a kind of places.
-/

namespace TeenyTiny.PatternReader

/-- What a character or an escape stands for. -/
inductive Primitive where
  | literal (c : Char)
  | kind (kind : CharKind)
  | place (admits : (before behind : Option Char) → Bool)
  | any

/-- Whether a character has to be escaped to stand for itself somewhere. -/
def isMeta (c : Char) : Bool :=
  "\\.+*?()|[]\x7b\x7d^$#&-~".toList.contains c

/-- Whether a character stands for itself behind a backslash. -/
def isEscapable (c : Char) : Bool :=
  isMeta c || (c.toNat < 0x80 && !c.isAlphanum && c ≠ '<' && c ≠ '>')

def hexValue (digits : List Char) : Nat :=
  digits.foldl (fun value c =>
    let digit := if c.isDigit then c.toNat - 0x30 else c.toLower.toNat - 0x57
    value * 16 + digit) 0

def charOf? (code : Nat) : Option Char :=
  if code.isValidChar then some (Char.ofNat code) else none

def isHexDigit (c : Char) : Bool :=
  c.isDigit || CharKind.range 'A' 'F' c || CharKind.range 'a' 'f' c

def readHexDigits (start : Nat) : Nat → List Char → ReadPattern Char
  | 0, digits => do
      match charOf? (hexValue digits.reverse) with
      | some c => return c
      | none => fail .escapeHexInvalid start (← here)
  | count + 1, digits => do
      let column ← here
      match ← next? with
      | none => fail .escapeUnexpectedEnd column column
      | some c =>
          if isHexDigit c then
            discard advance
            readHexDigits start count (c :: digits)
          else fail .escapeHexInvalidDigit column (column + 1)

def readHexBraces : ReadPattern Char := do
  let brace ← here
  discard advance
  let start ← here
  let digits ← takeKind isHexDigit
  let stop ← here
  match ← next? with
  | none => fail .escapeUnexpectedEnd brace stop
  | some '\x7d' =>
      discard advance
      if digits = [] then fail .escapeHexEmpty brace (← here)
      match charOf? (hexValue digits) with
      | some c => return c
      | none => fail .escapeHexInvalid start stop
  | some _ => fail .escapeHexInvalidDigit stop (stop + 1)

/-- Reads the code point behind one of the letters `x`, `u` and `U`. -/
def readHex (letter : Char) : ReadPattern Char := do
  match ← advance with
  | none =>
      let column ← here
      fail .escapeUnexpectedEnd column column
  | some '\x7b' => readHexBraces
  | some _ =>
      let count := if letter = 'x' then 2 else if letter = 'u' then 4 else 8
      readHexDigits (← here) count []

/-- Reads the name of a property of characters; no property is known. -/
def readProperty (start : Nat) : ReadPattern Primitive := do
  match ← advance with
  | none =>
      let column ← here
      fail .escapeUnexpectedEnd column column
  | some '\x7b' =>
      discard (takeKind (· ≠ '\x7d'))
      let stop ← here
      match ← next? with
      | none => fail .escapeUnexpectedEnd stop stop
      | some _ => fail .propertyUnknown start (stop + 1)
  | some _ => fail .propertyUnknown start ((← here) + 1)

/-- The kind of characters that a letter behind a backslash stands for. -/
def kindOf (flags : PatternFlags) (letter : Char) : CharKind :=
  let basic (name : String) := (CharKind.ofName? name).getD .none
  match letter.toLower with
  | 'd' => if flags.wide then isDecimalDigit else basic "digit"
  | 's' => if flags.wide then isWhiteSpace else basic "space"
  | _ => if flags.wide then isWordChar else basic "word"

/-- Whether a place has a character of a word before it and behind it. -/
def wordSides (flags : PatternFlags) (before behind : Option Char) :
    Bool × Bool :=
  let inWord := kindOf flags 'w'
  (before.any inWord, behind.any inWord)

/-- Reads the kind of a word boundary in braces, which may also be a count. -/
def readBoundaryKind (start : Nat) : ReadPattern (Option String) := do
  let reader ← get
  let brace ← here
  let isNameChar (c : Char) : Bool := c.isAlpha || c = '-'
  match ← advance with
  | none => fail .wordBoundaryUnexpectedEnd start (← here)
  | some c =>
      if isNameChar c then
        let first ← here
        let name ← takeKind isNameChar
        let last ← here
        if (← next?) = some '\x7d' then
          pass 1
          let word := String.ofList name
          if ["start", "end", "start-half", "end-half"].contains word then
            return some word
          else fail .wordBoundaryUnrecognized first last
        else fail .wordBoundaryUnclosed brace last
      else
        set reader
        return none

/-- Reads what may stand in braces behind the letter `b`. -/
def readBoundary (start : Nat) : ReadPattern Primitive := do
  let sides := wordSides (← get).flags
  let kind ←
    if (← next?) = some '\x7b' then readBoundaryKind start else pure none
  return .place fun before behind =>
    let (left, right) := sides before behind
    match kind with
    | some "start" => !left && right
    | some "end" => left && !right
    | some "start-half" => !left
    | some "end-half" => !right
    | _ => left != right

def readEscape : ReadPattern Primitive := do
  let start ← here
  let flags := (← get).flags
  pass 1
  match ← next? with
  | none => fail .escapeUnexpectedEnd start (← here)
  | some c =>
      if c.isDigit then fail .unsupportedBackreference start ((← here) + 1)
      else if c = 'x' || c = 'u' || c = 'U' then return .literal (← readHex c)
      else if c = 'p' || c = 'P' then readProperty start
      else
        pass 1
        if isEscapable c then return .literal c
        match c with
        | 'd' | 's' | 'w' => return .kind (kindOf flags c)
        | 'D' | 'S' | 'W' => return .kind (kindOf flags c).complement
        | 'a' => return .literal '\x07'
        | 'f' => return .literal '\x0c'
        | 't' => return .literal '\t'
        | 'n' => return .literal '\n'
        | 'r' => return .literal '\r'
        | 'v' => return .literal '\x0b'
        | 'A' => return .place fun before _ => before.isNone
        | 'z' => return .place fun _ behind => behind.isNone
        | 'b' => readBoundary start
        | 'B' =>
            return .place fun before behind =>
              let (left, right) := wordSides flags before behind
              left == right
        | '<' =>
            return .place fun before behind =>
              let (left, right) := wordSides flags before behind
              !left && right
        | '>' =>
            return .place fun before behind =>
              let (left, right) := wordSides flags before behind
              left && !right
        | _ => fail .escapeUnrecognized start (← here)

end TeenyTiny.PatternReader
