/-!
# Spans of a source text

A source text is a list of characters.  Offsets into it count bytes of its UTF-8
form, so the offset of a character is the byte length of all that stands before
it.
-/

namespace TeenyTiny

/-- The number of bytes in the UTF-8 form of a text. -/
def byteLength : List Char → Nat
  | [] => 0
  | c :: rest => c.utf8Size + byteLength rest

/-- A range of byte offsets, `stop` excluded. -/
structure Span where
  start : Nat
  stop : Nat
  deriving DecidableEq, Repr

/-- The number of bytes in a span; a span whose ends are swapped has none. -/
def Span.length (span : Span) : Nat :=
  span.stop - span.start

end TeenyTiny
