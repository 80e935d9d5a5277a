import TeenyTiny.Source.Span

/-!
# Line and column positions

Lines and columns count from one.  A line feed ends a line and nothing else
does, and a column counts characters.
-/

namespace TeenyTiny

/-- A place in a source text as people count it. -/
structure Position where
  line : Nat
  column : Nat
  deriving DecidableEq, Repr

namespace Position

def origin : Position :=
  ⟨1, 1⟩

/-- The position just after a character that stands at `position`. -/
def step (position : Position) (c : Char) : Position :=
  if c = '\n' then ⟨position.line + 1, 1⟩
  else ⟨position.line, position.column + 1⟩

/-- The position reached from `position` by all characters of `text` that start
fewer than `bytes` bytes into it. -/
def after (position : Position) : (text : List Char) → (bytes : Nat) → Position
  | [], _ => position
  | _ :: _, 0 => position
  | c :: rest, bytes + 1 =>
      (position.step c).after rest (bytes + 1 - c.utf8Size)

/-- The position of a byte offset.  An offset inside a character counts as the
end of that character, and one beyond the end as the end of the text. -/
def ofOffset (source : List Char) (offset : Nat) : Position :=
  origin.after source offset

/-- The form `line:column` in which messages quote a position. -/
def text (position : Position) : String :=
  s!"{position.line}:{position.column}"

end Position

end TeenyTiny
