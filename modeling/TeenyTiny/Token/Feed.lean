import TeenyTiny.Token.Cursor

/-!
# Feeds

A feed hands out the tokens of a source in order and runs dry at the end of the
source or at the first error that it hands out.  The cursor under it stays open:
reading from it directly goes on where the feed stands and neither ends nor
reopens the feed.
-/

namespace TeenyTiny

/-- A cursor, and whether the feed of its tokens has run dry. -/
structure Feed where
  cursor : Cursor
  dry : Bool

namespace Feed

def ofSource (source : List Char) : Feed :=
  ⟨Cursor.ofSource source, false⟩

/-- Reads a token from the cursor under the feed. -/
def read (feed : Feed) : Except LexicalError Token × Feed :=
  (feed.cursor.next.1, { feed with cursor := feed.cursor.next.2 })

/-- The next token of the feed, which is none for the end of the source and from
then on. -/
def next? (feed : Feed) : Option (Except LexicalError Token) × Feed :=
  if feed.dry then (none, feed)
  else
    match feed.cursor.next with
    | (.ok token, cursor) =>
        if token.kind = .eof then (none, ⟨cursor, true⟩)
        else (some (.ok token), ⟨cursor, false⟩)
    | (.error error, cursor) => (some (.error error), ⟨cursor, true⟩)

end Feed

/-- All tokens from a cursor on, the end of the source being the last, or the
first error. -/
def Cursor.tokens (cursor : Cursor) : Except LexicalError (List Token) :=
  match read : cursor.next.1 with
  | .error error => .error error
  | .ok token =>
      if inside : token.kind = .eof then .ok [token]
      else
        have := Cursor.length_next_rest_lt read inside
        cursor.next.2.tokens.map (token :: ·)
termination_by cursor.rest.length

/-- All that a feed hands out from a cursor on: tokens, with an error as the
last item if there is one. -/
def Cursor.items (cursor : Cursor) : List (Except LexicalError Token) :=
  match read : cursor.next.1 with
  | .error error => [.error error]
  | .ok token =>
      if inside : token.kind = .eof then []
      else
        have := Cursor.length_next_rest_lt read inside
        .ok token :: cursor.next.2.items
termination_by cursor.rest.length

def Feed.items (feed : Feed) : List (Except LexicalError Token) :=
  if feed.dry then [] else feed.cursor.items

/-- All tokens of a source, the end of the source being the last, or the first
error. -/
def tokenize (source : List Char) : Except LexicalError (List Token) :=
  (Cursor.ofSource source).tokens

end TeenyTiny
