import TeenyTiny.Program.CText
import TeenyTiny.Reading.Run
import TeenyTiny.Token.Feed

/-!
# Compiling

From a source text to a program in C, or to the first fault.
-/

namespace TeenyTiny

/-- Reads the program in a window and writes it onto a page. -/
def Window.compileOnto (window : Window) (page : Page) : Traced Fault Page := do
  let reading ← window.read
  return reading.write page

def compileOnto (source : List Char) (page : Page) : Traced Fault Page :=
  match Window.ofSource source with
  | .error error => .fail (.lexical error)
  | .ok window => window.compileOnto page

/-- The program of a source in C, with the given number of spaces for one level
of indentation. -/
def compile (source : List Char) (width : Nat) : Traced Fault String := do
  let page ← compileOnto source (.empty width)
  .note (.generated page.text.utf8ByteSize)
  return page.text

/-- All tokens of a source, and a note of their number. -/
def tokenizeTraced (source : List Char) : Traced Fault (List Token) := do
  let tokens ← Traced.ofExcept ((tokenize source).mapError .lexical)
  .note (.tokenized tokens.length)
  return tokens

end TeenyTiny
