import TeenyTiny.Token.Basic

/-!
# Cursors

A cursor is a place in a source from which tokens are read one at a time.
Reading never stops: after an error it goes on behind what was read, and at the
end of the source it gives the end again and again.
-/

namespace TeenyTiny

/-- A place in a source: the text that is still to be read, and the offset at
which that starts. -/
structure Cursor where
  source : List Char
  rest : List Char
  offset : Nat

namespace Cursor

def ofSource (source : List Char) : Cursor :=
  ⟨source, source, 0⟩

/-- The offset of the next lexeme, or of the end of the source. -/
def start (cursor : Cursor) : Nat :=
  cursor.offset + byteLength (splitBlanks cursor.rest).1

/-- Reads the next token, or finds the next malformed lexeme, and moves behind
what was read. -/
def next (cursor : Cursor) : Except LexicalError Token × Cursor :=
  match (splitBlanks cursor.rest).2 with
  | [] =>
      (.ok (Token.eof cursor.start),
        { cursor with rest := [], offset := cursor.start })
  | first :: rest =>
      let lexeme := Lexeme.read first rest
      (lexeme.toToken cursor.source cursor.start,
        { cursor with
          rest := lexeme.rest
          offset := (lexeme.spanAt cursor.start).stop })

/-- A token other than the end of the source leaves less text than the cursor
had. -/
theorem length_next_rest_lt {cursor : Cursor} {token : Token}
    (read : cursor.next.1 = .ok token) (inside : token.kind ≠ .eof) :
    cursor.next.2.rest.length < cursor.rest.length := by
  have whole := congrArg List.length (splitBlanks_append cursor.rest)
  rw [List.length_append] at whole
  unfold next at read ⊢
  split
  · rename_i front
    rw [front] at read
    cases read
    exact absurd rfl inside
  · rename_i first rest front
    rw [front] at whole
    have less := Lexeme.length_read_rest_lt first rest
    show (Lexeme.read first rest).rest.length < cursor.rest.length
    omega

/-- Reading never gives text back. -/
theorem length_next_rest_le (cursor : Cursor) :
    cursor.next.2.rest.length ≤ cursor.rest.length := by
  have whole := congrArg List.length (splitBlanks_append cursor.rest)
  rw [List.length_append] at whole
  unfold next
  split
  · exact Nat.zero_le _
  · rename_i first rest front
    rw [front] at whole
    have less := Lexeme.length_read_rest_lt first rest
    show (Lexeme.read first rest).rest.length ≤ cursor.rest.length
    omega

end Cursor

end TeenyTiny
