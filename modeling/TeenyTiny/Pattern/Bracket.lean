import TeenyTiny.Pattern.Escape

/-!
# Kinds of characters in brackets

Brackets hold characters, ranges and kinds of characters, and brackets inside
them.  Operators between them form intersections and differences.
-/

namespace TeenyTiny.PatternReader

/-- A primitive in brackets, and where it stands. -/
structure KindItem where
  primitive : Primitive
  columns : Columns

def readKindItem : ReadPattern KindItem := do
  let start ← here
  match ← next? with
  | some '\\' =>
      let primitive ← readEscape
      return ⟨primitive, start, ← here⟩
  | other =>
      pass 1
      return ⟨.literal (other.getD ' '), start, start + 1⟩

/-- The kind that an item stands for by itself. -/
def KindItem.alone (item : KindItem) : ReadPattern CharKind :=
  match item.primitive with
  | .literal c => return .only c
  | .kind kind => return kind
  | _ => fail .classEscapeInvalid item.columns.start item.columns.stop

/-- The character that an item stands for at an end of a range. -/
def KindItem.bound (item : KindItem) : ReadPattern Char :=
  match item.primitive with
  | .literal c => return c
  | _ => fail .classRangeLiteral item.columns.start item.columns.stop

/-- Reads an item in brackets or a range between two of them.  The bracket
stands at the given columns. -/
def readKindRange (bracket : Columns) : ReadPattern CharKind := do
  let first ← readKindItem
  settle
  let reader ← get
  match reader.rest with
  | [] => fail .classUnclosed bracket.start bracket.stop
  | '-' :: rest =>
      let behind :=
        if reader.flags.spaced then skipSpaced rest.length rest else rest
      if behind.head? = some ']' ∨ behind.head? = some '-' then first.alone
      else if (← advance).isNone then
        fail .classUnclosed bracket.start bracket.stop
      else
        let last ← readKindItem
        let low ← first.bound
        let high ← last.bound
        if high < low then
          fail .classRangeInvalid first.columns.start last.columns.stop
        else return .range low high
  | _ => first.alone

/-- The kind with a name between colons and brackets at the start of a text, and
the number of characters that name it. -/
def namedKind? (text : List Char) : Option (CharKind × Nat) :=
  match text with
  | '[' :: ':' :: inner =>
      let negated := inner.head? = some '^'
      let inner := if negated then inner.drop 1 else inner
      let name := inner.takeWhile (· ≠ ':')
      if [':', ']'].isPrefixOf (inner.drop name.length) then
        (CharKind.ofName? (String.ofList name)).map fun kind =>
          if negated then (kind.complement, name.length + 5)
          else (kind, name.length + 4)
      else none
  | _ => none

/-- What has been read of the kinds in brackets. -/
structure BracketState where
  /-- Where the opening bracket stands, with the characters that belong to
  it. -/
  bracket : Columns
  negated : Bool
  /-- The kind before the last operator, with the operator. -/
  left : Option ((CharKind → CharKind → CharKind) × CharKind)
  /-- The kind since the last operator. -/
  right : CharKind

namespace BracketState

/-- The kind that has been read so far. -/
def kind (state : BracketState) (foldCase : Bool) : CharKind :=
  let fold (kind : CharKind) : CharKind :=
    if foldCase then kind.foldCase else kind
  match state.left with
  | none => fold state.right
  | some (operator, left) => operator (fold left) (fold state.right)

def closed (state : BracketState) (foldCase : Bool) : CharKind :=
  if state.negated then (state.kind foldCase).complement
  else state.kind foldCase

def add (state : BracketState) (kind : CharKind) : BracketState :=
  { state with right := state.right.union kind }

def operate (state : BracketState) (foldCase : Bool)
    (operator : CharKind → CharKind → CharKind) : BracketState :=
  { state with left := some (operator, state.kind foldCase), right := .none }

end BracketState

/-- Reads hyphens at the start of brackets, where they stand for themselves. -/
def readHyphens (start : Nat) : Nat → CharKind → ReadPattern CharKind
  | 0, kind => return kind
  | fuel + 1, kind => do
      if (← next?) = some '-' then
        if (← advance).isNone then fail .classUnclosed start (← here)
        readHyphens start fuel (.only '-')
      else return kind

/-- Reads an opening bracket, and behind it what negates the kind and what would
be read otherwise in another place. -/
def readBracket : ReadPattern BracketState := do
  let start ← here
  let unclosed (next : Option Char) : ReadPattern Unit := do
    if next.isNone then fail .classUnclosed start (← here)
  unclosed (← advance)
  let negated := (← next?) = some '^'
  if negated then unclosed (← advance)
  let column ← here
  let hyphens ← readHyphens start (← get).rest.length .none
  if (← here) = column ∧ (← next?) = some ']' then
    unclosed (← advance)
    return ⟨⟨start, ← here⟩, negated, none, .only ']'⟩
  else return ⟨⟨start, ← here⟩, negated, none, hyphens⟩

/-- Reads kinds up to the closing bracket.  Each turn reads at least one
character, so the fuel is the length of the text. -/
def readKinds : Nat → BracketState → ReadPattern CharKind
  | 0, state => fail .classUnclosed state.bracket.start state.bracket.stop
  | fuel + 1, state => do
      settle
      let reader ← get
      let foldCase := reader.flags.foldCase
      match reader.rest with
      | [] => fail .classUnclosed state.bracket.start state.bracket.stop
      | '[' :: _ =>
          match namedKind? reader.rest with
          | some (kind, length) =>
              pass length
              readKinds fuel (state.add kind)
          | none =>
              let inner ← readKinds fuel (← readBracket)
              readKinds fuel (state.add inner)
      | ']' :: _ =>
          pass 1
          return state.closed foldCase
      | '&' :: '&' :: _ =>
          pass 2
          readKinds fuel
            (state.operate foldCase fun left right c => left c && right c)
      | '-' :: '-' :: _ =>
          pass 2
          readKinds fuel
            (state.operate foldCase fun left right c => left c && !right c)
      | '~' :: '~' :: _ =>
          pass 2
          readKinds fuel
            (state.operate foldCase fun left right c => left c != right c)
      | _ => readKinds fuel (state.add (← readKindRange state.bracket))

end TeenyTiny.PatternReader
