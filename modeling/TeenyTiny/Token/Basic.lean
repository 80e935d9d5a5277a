import TeenyTiny.Source.Position
import TeenyTiny.Token.Lexeme

/-!
# Tokens

A token is a lexeme with its place in the source.  The text of a string token is
what stands between its quotes, while its span takes the quotes in.
-/

namespace TeenyTiny

/-- A lexeme of known kind and where it stands. -/
structure Token where
  kind : Kind
  text : String
  span : Span
  deriving DecidableEq, Repr

/-- A malformed lexeme and where it stands. -/
structure LexicalError where
  fault : LexicalFault
  position : Position
  span : Span
  deriving DecidableEq, Repr

namespace Lexeme

/-- The characters that a lexeme of the given kind stands for: those that were
read, without the quotes of a string. -/
def content (lexeme : Lexeme) : Kind → List Char
  | .string => lexeme.text.tail.dropLast
  | _ => lexeme.text

def spanAt (lexeme : Lexeme) (start : Nat) : Span :=
  ⟨start, start + byteLength lexeme.text⟩

/-- The span of a fault in the lexeme that starts at the given offset: what was
read of it, or the character after that, which is empty at the end of the
source. -/
def faultSpanAt (lexeme : Lexeme) (start : Nat) (fault : LexicalFault) : Span :=
  let read := lexeme.spanAt start
  if fault.liesAhead then
    ⟨read.stop, read.stop + byteLength (lexeme.rest.take 1)⟩
  else read

def toToken (lexeme : Lexeme) (source : List Char) (start : Nat) :
    Except LexicalError Token :=
  match lexeme.reading with
  | .ok kind =>
      .ok ⟨kind, String.ofList (lexeme.content kind), lexeme.spanAt start⟩
  | .error fault =>
      let span := lexeme.faultSpanAt start fault
      .error ⟨fault, Position.ofOffset source span.start, span⟩

end Lexeme

/-- The token at the end of a source of the given length. -/
def Token.eof (offset : Nat) : Token :=
  ⟨.eof, "", ⟨offset, offset⟩⟩

end TeenyTiny
