import TeenyTiny.Token.Cursor

/-!
# Windows

A window shows two neighbouring tokens of a source.  It moves by one token at a
time and reads a token only when that comes into view, so a malformed lexeme is
met two tokens before its turn.
-/

namespace TeenyTiny

/-- Two neighbouring tokens, and the cursor behind them. -/
structure Window where
  current : Token
  next : Token
  cursor : Cursor

namespace Window

/-- The window on the first two tokens of a source. -/
def ofSource (source : List Char) : Except LexicalError Window :=
  let first := (Cursor.ofSource source).next
  match first.1, first.2.next with
  | .error error, _ => .error error
  | .ok _, (.error error, _) => .error error
  | .ok current, (.ok next, cursor) => .ok ⟨current, next, cursor⟩

def advance (window : Window) : Except LexicalError Window :=
  match window.cursor.next with
  | (.error error, _) => .error error
  | (.ok token, cursor) => .ok ⟨window.next, token, cursor⟩

/-- One for a token that stands for text, none for the end of the source. -/
def weight (token : Token) : Nat :=
  if token.kind = .eof then 0 else 1

/-- A bound on how often the window can move before it shows the end of the
source. -/
def size (window : Window) : Nat :=
  weight window.current + weight window.next + 2 * window.cursor.rest.length

/-- A window that does not show the end of the source shrinks when it moves. -/
theorem size_advance_lt {window moved : Window}
    (inside : window.current.kind ≠ .eof)
    (moves : window.advance = .ok moved) :
    moved.size < window.size := by
  have current : weight window.current = 1 := if_neg inside
  unfold advance at moves
  split at moves
  · cases moves
  · rename_i token cursor read
    cases moves
    have first : window.cursor.next.1 = .ok token := by rw [read]
    have second : window.cursor.next.2 = cursor := by rw [read]
    by_cases last : token.kind = .eof
    · have le := Cursor.length_next_rest_le window.cursor
      have shown : weight token = 0 := if_pos last
      simp only [size, shown]
      rw [second] at le
      omega
    · have less := Cursor.length_next_rest_lt first last
      have shown : weight token = 1 := if_neg last
      simp only [size, shown]
      rw [second] at less
      omega

end Window

end TeenyTiny
