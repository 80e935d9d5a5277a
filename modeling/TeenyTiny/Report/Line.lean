import TeenyTiny.Source.Span
import TeenyTiny.Text.Blank

/-!
# Lines of a source in reports

A report shows one line of the source.  Lines end at every character that
Unicode takes for the end of a line, a carriage return and the line feed after
it being one end, and a line holds its end.
-/

namespace TeenyTiny

def isLineEnd (c : Char) : Bool :=
  let code := c.toNat
  (0xa ≤ code && code ≤ 0xd) || code == 0x85 || code == 0x2028 || code == 0x2029

def splitLine (text : List Char) : List Char × List Char :=
  let content := text.takeWhile fun c => !isLineEnd c
  match text.dropWhile fun c => !isLineEnd c with
  | [] => (content, [])
  | '\r' :: '\n' :: rest => (content ++ ['\r', '\n'], rest)
  | c :: rest => (content ++ [c], rest)

theorem length_splitLine_lt {text : List Char}
    (more : (splitLine text).2 ≠ []) :
    (splitLine text).2.length < text.length := by
  have cut := congrArg List.length
    (List.takeWhile_append_dropWhile (p := fun c => !isLineEnd c) (l := text))
  rw [List.length_append] at cut
  unfold splitLine at more ⊢
  split
  · rename_i front
    simp only [front] at more
    exact absurd rfl more
  · rename_i front
    rw [front] at cut
    simp only [List.length_cons] at cut ⊢
    omega
  · rename_i front
    rw [front] at cut
    simp only [List.length_cons] at cut ⊢
    omega

/-- A line of a source: its number, which counts from one, the offset at which
it starts, and its characters. -/
structure SourceLine where
  number : Nat
  start : Nat
  chars : List Char
  deriving DecidableEq, Repr

namespace SourceLine

/-- The line that holds an offset, among the lines of `text`, of which the first
is as given.  The last line holds what lies behind it. -/
def find (number start : Nat) (text : List Char) (offset : Nat) : SourceLine :=
  let stop := start + byteLength (splitLine text).1
  if last : (splitLine text).2 = [] then ⟨number, start, (splitLine text).1⟩
  else if offset < stop then ⟨number, start, (splitLine text).1⟩
  else
    have := length_splitLine_lt last
    find (number + 1) stop (splitLine text).2 offset
termination_by text.length

def ofOffset (source : List Char) (offset : Nat) : SourceLine :=
  find 1 0 source offset

/-- The number of characters of a text that start fewer than `bytes` bytes into
it. -/
def countBefore : (text : List Char) → (bytes : Nat) → Nat
  | [], _ => 0
  | _ :: _, 0 => 0
  | c :: rest, bytes + 1 => countBefore rest (bytes + 1 - c.utf8Size) + 1

/-- The column of an offset in a line, which counts characters from zero. -/
def column (line : SourceLine) (offset : Nat) : Nat :=
  countBefore line.chars (offset - line.start)

/-- The characters of a line without the white space at its end. -/
def shown (line : SourceLine) : List Char :=
  (line.chars.reverse.dropWhile isWhiteSpace).reverse

end SourceLine

end TeenyTiny
