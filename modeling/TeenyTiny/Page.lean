/-!
# Pages

A page is a text in two regions, a header and a body.  Both only grow at their
ends, and the header comes first in the finished text.  The body is indented: a
piece of text that starts a line of it gets the spaces of the current level in
front.
-/

namespace TeenyTiny

structure Page where
  header : String
  body : String
  /-- The current level of indentation of the body. -/
  level : Nat
  /-- The number of spaces for one level. -/
  width : Nat
  /-- Whether the next piece of the body starts a line. -/
  atLineStart : Bool
  deriving DecidableEq, Repr

namespace Page

def empty (width : Nat) : Page :=
  ⟨"", "", 0, width, true⟩

/-- The number of spaces for one level unless another is asked for. -/
def defaultWidth : Nat :=
  4

/-- The indentation of the given level.  The product of level and width, and the
text with it, are taken to fit into memory. -/
def pad (page : Page) (level : Nat) : String :=
  String.ofList (List.replicate (level * page.width) ' ')

def addHeader (page : Page) (text : String) : Page :=
  { page with header := page.header ++ text }

/-- Adds a line to the header, indented to the given level. -/
def headerLine (page : Page) (level : Nat) (text : String) : Page :=
  page.addHeader (page.pad level ++ text ++ "\n")

/-- Adds a piece of text to the body.  An empty piece does not even start a
line. -/
def write (page : Page) (text : String) : Page :=
  if text = "" then page
  else
    let pad := if page.atLineStart then page.pad page.level else ""
    { page with
      body := page.body ++ (pad ++ text)
      atLineStart := text.toList.getLast? = some '\n' }

def writeLine (page : Page) (text : String) : Page :=
  (page.write text).write "\n"

def indent (page : Page) : Page :=
  { page with level := page.level + 1 }

/-- Indents the body by one level less, if it is indented at all. -/
def dedent (page : Page) : Page :=
  { page with level := page.level - 1 }

def text (page : Page) : String :=
  page.header ++ page.body

end Page

end TeenyTiny
