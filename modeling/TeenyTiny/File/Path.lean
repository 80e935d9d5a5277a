/-!
# Paths

A path is a text in which slashes divide names.  Slashes that follow each other
count as one, the name `.` stands for the directory it is looked up in, and `..`
for the one around that.
-/

namespace TeenyTiny

/-- The names in a text that slashes divide, after the characters of a name that
have been read, the last one first.  Empty names do not count. -/
def namesFrom (name : List Char) : List Char → List String
  | [] => if name = [] then [] else [String.ofList name.reverse]
  | c :: rest =>
      if c = '/' then
        if name = [] then namesFrom [] rest
        else String.ofList name.reverse :: namesFrom [] rest
      else namesFrom (c :: name) rest

/-- The text of a path with its last character first, without slashes and names
`.` at its end. -/
def dropDots : List Char → List Char
  | [] => []
  | '/' :: rest => dropDots rest
  | ['.'] => []
  | '.' :: '/' :: rest => dropDots ('/' :: rest)
  | c :: rest => c :: rest

structure Path where
  text : String
  deriving DecidableEq, Repr

namespace Path

/-- Whether a path starts at the root of all files and not in the working
directory. -/
def absolute (path : Path) : Bool :=
  path.text.toList.head? = some '/'

def names (path : Path) : List String :=
  namesFrom [] path.text.toList

/-- Whether a slash behind the last name asks for a directory. -/
def slashed (path : Path) : Bool :=
  path.text.toList.getLast? = some '/'

/-- The path of the directory in which a file is made before it gets the given
path: all before the last name, where the name `.` counts only as a whole
path. -/
def folder (path : Path) : Path :=
  let last := dropDots path.text.toList.reverse
  let before := dropDots (last.dropWhile (· ≠ '/'))
  if before ≠ [] then ⟨String.ofList before.reverse⟩
  else if path.absolute && last ≠ [] then ⟨"/"⟩
  else ⟨"."⟩

def child (path : Path) (name : String) : Path :=
  ⟨if path.slashed then path.text ++ name else path.text ++ "/" ++ name⟩

/-- The path that a path means in the directory at another one. -/
def startingAt (path base : Path) : Path :=
  if path.absolute then path else base.child path.text

/-- The length of the longest path that the system takes, in bytes. -/
def maxLength : Nat :=
  4095

/-- The length of the longest name that the system takes, in bytes. -/
def maxNameLength : Nat :=
  255

end Path

end TeenyTiny
