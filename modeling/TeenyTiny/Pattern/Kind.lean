/-!
# Kinds of characters

A kind of characters is given by the test whether a character is of that kind.
-/

namespace TeenyTiny

abbrev CharKind : Type :=
  Char → Bool

namespace CharKind

def none : CharKind :=
  fun _ => false

def only (c : Char) : CharKind :=
  fun other => other = c

def range (first last : Char) : CharKind :=
  fun c => first ≤ c && c ≤ last

def union (first second : CharKind) : CharKind :=
  fun c => first c || second c

def complement (kind : CharKind) : CharKind :=
  fun c => !kind c

/-- The characters that differ from a letter of the basic alphabet only in
case. -/
def caseMates (c : Char) : List Char :=
  if c = 'K' || c = 'k' || c = '\u212a' then ['K', 'k', '\u212a']
  else if c = 'S' || c = 's' || c = '\u017f' then ['S', 's', '\u017f']
  else [c.toLower, c.toUpper]

/-- The characters that differ from one of a kind only in case. -/
def foldCase (kind : CharKind) : CharKind :=
  fun c => kind c || (caseMates c).any kind

/-- The kind with the given name in the basic alphabet. -/
def ofName? : String → Option CharKind
  | "alnum" => some Char.isAlphanum
  | "alpha" => some Char.isAlpha
  | "ascii" => some fun c => c.toNat < 0x80
  | "blank" => some fun c => c = '\t' || c = ' '
  | "cntrl" => some fun c => c.toNat < 0x20 || c = '\x7f'
  | "digit" => some Char.isDigit
  | "graph" => some (range '!' '~')
  | "lower" => some Char.isLower
  | "print" => some (range ' ' '~')
  | "punct" => some fun c => range '!' '~' c && !c.isAlphanum
  | "space" => some fun c => range '\t' '\r' c || c = ' '
  | "upper" => some Char.isUpper
  | "word" => some fun c => c.isAlphanum || c = '_'
  | "xdigit" => some fun c => c.isDigit || range 'A' 'F' c || range 'a' 'f' c
  | _ => Option.none

end CharKind

end TeenyTiny
