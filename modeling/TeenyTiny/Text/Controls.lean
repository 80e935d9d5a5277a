/-!
# Terminal controls

Control characters and control sequences steer a terminal and are not drawn.  A
text that is meant for reading is freed from them: white space stays, and so
does everything that stands between the sequences.
-/

namespace TeenyTiny

/-- A control sequence of which a part has been read. -/
inductive Sequence where
  /-- The escape character. -/
  | escape
  /-- An escape character and intermediate characters. -/
  | intermediate
  /-- A control sequence with parameters, which ends with its first letter. -/
  | control
  /-- A command to the operating system, which ends with a bell. -/
  | command
  /-- The start of a device control string. -/
  | device
  /-- The parameters of a device control string. -/
  | deviceParameter
  /-- The intermediate characters of a device control string. -/
  | deviceIntermediate
  /-- The content of a device control string or of another string for the
  terminal. -/
  | content
  deriving DecidableEq, Repr

inductive ControlState where
  /-- In text that is drawn. -/
  | plain
  /-- In a sequence. -/
  | inside (sequence : Sequence)
  /-- In text that is drawn after white space in a sequence.  The sequence goes
  on at the next control character. -/
  | paused (sequence : Sequence)
  deriving DecidableEq, Repr

/-- Whether a character is white space of the basic alphabet. -/
def isBasicSpace (c : Char) : Bool :=
  c = ' ' || c = '\t' || c = '\n' || c = '\x0c' || c = '\r'

/-- Whether a character is drawn or is white space of the basic alphabet. -/
def isDrawn (c : Char) : Bool :=
  isBasicSpace c || (0x20 ≤ c.toNat && c.toNat ≠ 0x7f)

/-- Whether the byte that ends a string for the terminal is among those that
encode a character. -/
def endsContent (c : Char) : Bool :=
  (String.utf8EncodeChar c).contains 0x9c

namespace Sequence

/-- Whether white space in a sequence is drawn. -/
def showsSpace : Sequence → Bool
  | escape | intermediate | control => true
  | _ => false

/-- The sequence that the character behind an escape character starts. -/
def afterEscape (c : Char) : ControlState :=
  if c = '[' then .inside control
  else if c = ']' then .inside command
  else if c = 'P' then .inside device
  else if c = 'X' || c = '^' || c = '_' then .inside content
  else if ' ' ≤ c && c ≤ '/' then .inside intermediate
  else if '0' ≤ c && c ≤ '~' then .plain
  else .inside escape

/-- What a character of the basic alphabet changes in the head of a device
control string. -/
def deviceHead (sequence : Sequence) (c : Char) : Sequence :=
  if '@' ≤ c && c ≤ '~' then content
  else if c = ':' then content
  else if '0' ≤ c && c ≤ ';' then
    if sequence = deviceIntermediate then content else deviceParameter
  else if '<' ≤ c && c ≤ '?' then
    if sequence = device then deviceParameter else content
  else if ' ' ≤ c && c ≤ '/' then deviceIntermediate
  else sequence

/-- The state after a character of a sequence that does not start or break off a
sequence itself. -/
def next (sequence : Sequence) (c : Char) : ControlState :=
  match sequence with
  | escape => afterEscape c
  | intermediate => if '0' ≤ c && c ≤ '~' then .plain else .inside intermediate
  | control => if '@' ≤ c && c ≤ '~' then .plain else .inside control
  | command => if c = '\x07' then .plain else .inside command
  | content => if endsContent c then .plain else .inside content
  | device | deviceParameter | deviceIntermediate =>
      .inside (sequence.deviceHead c)

end Sequence

namespace ControlState

/-- Reads a character: whether it is drawn, and the state after it.  An escape
character starts a sequence wherever it stands, and the characters `CAN` and
`SUB` break one off. -/
def step (state : ControlState) (c : Char) : Bool × ControlState :=
  if c = '\x1b' then (false, inside .escape)
  else if c = '\x18' || c = '\x1a' then (false, plain)
  else
    match state with
    | plain => (isDrawn c, plain)
    | paused sequence =>
        if 0x80 ≤ c.toNat then (true, plain)
        else if isDrawn c then (true, paused sequence)
        else (false, inside sequence)
    | inside sequence =>
        if sequence.showsSpace && c ≠ ' ' && isBasicSpace c then
          (true, paused sequence)
        else (false, sequence.next c)

def drawn (state : ControlState) : List Char → List Char
  | [] => []
  | c :: rest =>
      let (shown, state) := state.step c
      if shown then c :: state.drawn rest else state.drawn rest

end ControlState

/-- A text without terminal controls. -/
def withoutControls (text : String) : String :=
  String.ofList (ControlState.plain.drawn text.toList)

end TeenyTiny
