import TeenyTiny.Token.Kind

/-!
# Lexemes

How the text in front is cut into blanks and lexemes, without regard to where in
the source it stands.  Blanks are spaces, tabs, carriage returns and a comment
from `#` to the end of its line. The cut never loses a character: what was
skipped or read, followed by the rest, is the text.
-/

namespace TeenyTiny

/-! ## Blanks -/

def isBlank (c : Char) : Bool :=
  c = ' ' || c = '\t' || c = '\r'

/-- Splits the leading blanks, with the comment that may follow them, off a
text. -/
def splitBlanks : List Char → List Char × List Char
  | [] => ([], [])
  | c :: rest =>
      if isBlank c then
        let (blanks, after) := splitBlanks rest
        (c :: blanks, after)
      else if c = '#' then
        (c :: rest.takeWhile (· ≠ '\n'), rest.dropWhile (· ≠ '\n'))
      else
        ([], c :: rest)

theorem splitBlanks_append (text : List Char) :
    (splitBlanks text).1 ++ (splitBlanks text).2 = text := by
  induction text with
  | nil =>
      rfl
  | cons c rest inductionHypothesis =>
      unfold splitBlanks
      split
      · simp [inductionHypothesis]
      · split
        · simp
        · rfl

/-! ## Malformed lexemes -/

inductive LexicalFault where
  /-- A number's point has no digit after it, or its fraction is followed by a
  further point; `none` stands for the end of the source. -/
  | badNumber (found : Option Char)
  /-- A string holds a character that strings may not hold. -/
  | badString (found : Char)
  /-- A string reaches the end of the source. -/
  | openString
  /-- An exclamation mark is not followed by an equals sign; `none` as above. -/
  | loneBang (found : Option Char)
  /-- A character starts no lexeme. -/
  | strayChar (found : Char)
  deriving DecidableEq, Repr

/-- Whether a fault lies in the character after the part of the lexeme that was
read, and not in that part itself. -/
def LexicalFault.liesAhead : LexicalFault → Bool
  | .badNumber _ | .badString _ => true
  | .openString | .loneBang _ | .strayChar _ => false

/-! ## Reading a lexeme -/

/-- A lexeme cut off the front of a text: its kind or what is wrong with it, the
characters that were read, and those after them. -/
structure Lexeme where
  reading : Except LexicalFault Kind
  text : List Char
  rest : List Char

namespace Lexeme

/-- An operator that becomes another one when an equals sign follows at once. -/
def operator (first : Char) (alone joined : Kind) : List Char → Lexeme
  | '=' :: rest => ⟨.ok joined, [first, '='], rest⟩
  | rest => ⟨.ok alone, [first], rest⟩

/-- The operator `!=`, of which the exclamation mark has been seen. -/
def bang : List Char → Lexeme
  | '=' :: rest => ⟨.ok .bangEq, ['!', '='], rest⟩
  | rest => ⟨.error (.loneBang rest.head?), ['!'], rest⟩

def isStringChar (c : Char) : Bool :=
  c ≠ '"' && c ≠ '\r' && c ≠ '\n' && c ≠ '\t' && c ≠ '\\' && c ≠ '%'

/-- A string, of which the opening quote has been seen. -/
def string (rest : List Char) : Lexeme :=
  match rest.dropWhile isStringChar with
  | [] => ⟨.error .openString, '"' :: rest.takeWhile isStringChar, []⟩
  | '"' :: after =>
      ⟨.ok .string, '"' :: rest.takeWhile isStringChar ++ ['"'], after⟩
  | c :: after =>
      ⟨.error (.badString c), '"' :: rest.takeWhile isStringChar, c :: after⟩

/-- A number with a point: the digits before the point, and the text after it.
A digit has to follow the point, and no second point may follow the fraction. -/
def pointed (whole rest : List Char) : Lexeme :=
  let after := rest.dropWhile Char.isDigit
  ⟨if rest.takeWhile Char.isDigit = [] ∨ after.head? = some '.' then
      .error (.badNumber after.head?)
    else .ok .number,
    whole ++ '.' :: rest.takeWhile Char.isDigit, after⟩

/-- A number: digits, with a point and more digits behind them or not. -/
def number (text : List Char) : Lexeme :=
  match text.dropWhile Char.isDigit with
  | '.' :: rest => pointed (text.takeWhile Char.isDigit) rest
  | after => ⟨.ok .number, text.takeWhile Char.isDigit, after⟩

/-- A keyword or an identifier: letters and digits. -/
def word (text : List Char) : Lexeme :=
  let letters := text.takeWhile Char.isAlphanum
  let kind :=
    match Keyword.ofText? (String.ofList letters) with
    | some keyword => .keyword keyword
    | none => .ident
  ⟨.ok kind, letters, text.dropWhile Char.isAlphanum⟩

/-- The lexeme that starts with the character `first`, which is no blank. -/
def read (first : Char) (rest : List Char) : Lexeme :=
  match first with
  | '\n' => ⟨.ok .newline, [first], rest⟩
  | '+' => ⟨.ok .plus, [first], rest⟩
  | '-' => ⟨.ok .minus, [first], rest⟩
  | '*' => ⟨.ok .star, [first], rest⟩
  | '/' => ⟨.ok .slash, [first], rest⟩
  | '=' => operator first .eq .eqEq rest
  | '<' => operator first .lt .ltEq rest
  | '>' => operator first .gt .gtEq rest
  | '!' => bang rest
  | '"' => string rest
  | _ =>
      if first.isDigit then number (first :: rest)
      else if first.isAlpha then word (first :: rest)
      else ⟨.error (.strayChar first), [first], rest⟩

/-! ## Nothing is lost -/

theorem operator_append (first : Char) (alone joined : Kind)
    (rest : List Char) :
    (operator first alone joined rest).text ++
        (operator first alone joined rest).rest =
      first :: rest := by
  unfold operator
  split <;> simp

theorem bang_append (rest : List Char) :
    (bang rest).text ++ (bang rest).rest = '!' :: rest := by
  unfold bang
  split <;> simp

theorem string_append (rest : List Char) :
    (string rest).text ++ (string rest).rest = '"' :: rest := by
  have cut := List.takeWhile_append_dropWhile (p := isStringChar) (l := rest)
  unfold string
  split <;> rename_i after <;> rw [after] at cut <;> simpa using cut

theorem pointed_append (whole rest : List Char) :
    (pointed whole rest).text ++ (pointed whole rest).rest =
      whole ++ '.' :: rest := by
  simp [pointed]

theorem number_append (text : List Char) :
    (number text).text ++ (number text).rest = text := by
  have cut := List.takeWhile_append_dropWhile (p := Char.isDigit) (l := text)
  unfold number
  split
  · rename_i point
    rw [point] at cut
    rw [pointed_append, cut]
  · exact cut

theorem word_append (text : List Char) :
    (word text).text ++ (word text).rest = text :=
  List.takeWhile_append_dropWhile

theorem read_append (first : Char) (rest : List Char) :
    (read first rest).text ++ (read first rest).rest = first :: rest := by
  unfold read
  split
  case h_6 | h_7 | h_8 => exact operator_append _ _ _ _
  case h_9 => exact bang_append _
  case h_10 => exact string_append _
  case h_11 =>
      split
      · exact number_append _
      · split
        · exact word_append _
        · rfl
  all_goals rfl

theorem read_text_ne_nil (first : Char) (rest : List Char) :
    (read first rest).text ≠ [] := by
  unfold read
  split
  case h_6 | h_7 | h_8 => unfold operator; split <;> simp
  case h_9 => unfold bang; split <;> simp
  case h_10 => unfold string; split <;> simp
  case h_11 =>
      split
      · rename_i digit
        unfold number
        split
        · simp [pointed]
        · simp [digit]
      · split
        · rename_i letter
          simp [word, Char.isAlphanum, letter]
        · simp
  all_goals simp

/-- A lexeme leaves less text than it found. -/
theorem length_read_rest_lt (first : Char) (rest : List Char) :
    (read first rest).rest.length < (first :: rest).length := by
  have whole := congrArg List.length (read_append first rest)
  have positive := List.length_pos_iff.2 (read_text_ne_nil first rest)
  rw [List.length_append] at whole
  omega

end Lexeme

end TeenyTiny
