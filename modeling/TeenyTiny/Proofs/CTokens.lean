import TeenyTiny.Program.CText
import TeenyTiny.Proofs.Lexemes

/-!
# Tokens of C

How C cuts a text into tokens: the longest token in front comes first.  So a
sign right before another makes one token with it, two signs with a space
between them are two tokens, and a number goes on as far as letters, digits and
points do.  The signs that open comments are tokens here, so that a text has
none of them if they are not among its tokens.  The end of a line is a token
too.

Names, numbers and operators keep apart if the text behind them does not
continue them (`cTokens_name`, `cTokens_number`, `cTokens_mark`).
-/

namespace TeenyTiny

/-- A token of C. -/
inductive CToken where
  /-- A keyword or an identifier. -/
  | word (text : String)
  | number (text : String)
  /-- A string literal with its quotes. -/
  | literal (text : String)
  /-- An operator or a separator. -/
  | mark (text : String)
  | newline
  deriving DecidableEq, Repr

namespace CToken

/-! ## The longest token in front -/

def isIdentStart (c : Char) : Bool :=
  c.isAlpha || c == '_'

def isIdentChar (c : Char) : Bool :=
  c.isAlphanum || c == '_'

def isNumberChar (c : Char) : Bool :=
  isIdentChar c || c == '.'

/-- Whether a sign behind the character belongs to the same number. -/
def isExponent (c : Char) : Bool :=
  c == 'e' || c == 'E' || c == 'p' || c == 'P'

def isSign (c : Char) : Bool :=
  c == '+' || c == '-'

def startsNumber (first : Char) (rest : List Char) : Bool :=
  first.isDigit || (first == '.' && rest.head?.any Char.isDigit)

/-- What belongs to a number behind its first character. -/
def numberTail : List Char → List Char
  | first :: second :: rest =>
      if isExponent first && isSign second then
        first :: second :: numberTail rest
      else if isNumberChar first then first :: numberTail (second :: rest)
      else []
  | [last] => if isNumberChar last then [last] else []
  | [] => []

/-- What belongs to a string literal behind its first quote. -/
def literalTail : List Char → List Char
  | '"' :: _ => ['"']
  | '\\' :: escaped :: rest => '\\' :: escaped :: literalTail rest
  | first :: rest => first :: literalTail rest
  | [] => []

/-- The marks with several characters, the longer ones first. -/
def longMarks : List String :=
  ["%:%:", "...", "<<=", ">>=", "->", "++", "--", "<<", ">>", "<=", ">=",
    "==", "!=", "&&", "||", "*=", "/=", "%=", "+=", "-=", "&=", "^=", "|=",
    "##", "<:", ":>", "<%", "%>", "%:", "//", "/*"]

/-- What belongs to a mark behind its first character. -/
def markTail (first : Char) (rest : List Char) : List Char :=
  match longMarks.find? fun mark => mark.toList.isPrefixOf (first :: rest) with
  | some found => found.toList.tail
  | none => []

/-- The form of the token in front, and what belongs to it behind its first
character. -/
def front (first : Char) (rest : List Char) :
    (String → CToken) × List Char :=
  if isIdentStart first then (word, rest.takeWhile isIdentChar)
  else if startsNumber first rest then (number, numberTail rest)
  else if first = '"' then (literal, literalTail rest)
  else (mark, markTail first rest)

end CToken

open CToken

/-- The tokens of a text in C. -/
def cTokens : List Char → List CToken
  | [] => []
  | first :: rest =>
      if first = '\n' then .newline :: cTokens rest
      else if first = ' ' then cTokens rest
      else
        (front first rest).1 (String.ofList (first :: (front first rest).2)) ::
          cTokens (rest.drop (front first rest).2.length)
termination_by text => text.length

example : cTokens "x = -1.5e+3--y/*2".toList =
    [.word "x", .mark "=", .mark "-", .number "1.5e+3", .mark "--", .word "y",
      .mark "/*", .number "2"] := by
  decide +kernel

section Front

variable {first : Char} {rest : List Char}

@[simp]
theorem cTokens_nil : cTokens [] = [] := by
  rw [cTokens]

@[simp]
theorem cTokens_newline (rest : List Char) :
    cTokens ('\n' :: rest) = .newline :: cTokens rest := by
  rw [cTokens, if_pos rfl]

@[simp]
theorem cTokens_space (rest : List Char) :
    cTokens (' ' :: rest) = cTokens rest := by
  rw [cTokens, if_neg (by decide), if_pos rfl]

/-- A text with a token in front, which has been cut off. -/
theorem cTokens_of_front
    {form : String → CToken} {tail behind : List Char}
    (visible : first ≠ '\n' ∧ first ≠ ' ')
    (cut : front first (tail ++ behind) = (form, tail)) :
    cTokens (first :: (tail ++ behind)) =
      form (String.ofList (first :: tail)) :: cTokens behind := by
  rw [cTokens, if_neg visible.1, if_neg visible.2, cut, List.drop_left]

end Front

/-! ## Names and numbers -/

/-- The text does not continue a name or a number before it. -/
def Detached (rest : List Char) : Prop :=
  ∀ c, rest.head? = some c → isNumberChar c = false

theorem detached_cons {c : Char} {rest : List Char}
    (other : isNumberChar c = false) :
    Detached (c :: rest) := by
  rintro _ ⟨⟩
  exact other

theorem detached_nil : Detached [] := by
  rintro _ ⟨⟩

theorem visible_of_isIdentChar {c : Char}
    (inWord : isIdentChar c = true) :
    c ≠ '\n' ∧ c ≠ ' ' := by
  constructor <;> rintro rfl <;> exact absurd inWord (by decide)

theorem isIdentChar_of_isAlphanum {c : Char}
    (alphanumeric : c.isAlphanum = true) :
    isIdentChar c = true := by
  simp [isIdentChar, alphanumeric]

theorem takeWhile_isIdentChar_append {name rest : List Char}
    (inside : ∀ c ∈ name, isIdentChar c = true)
    (detached : Detached rest) :
    (name ++ rest).takeWhile isIdentChar = name := by
  apply takeWhile_append_of_stop inside
  intro c first
  have other := detached c first
  rw [isNumberChar, Bool.or_eq_false_iff] at other
  exact other.1

theorem cTokens_name {name : String} {rest : List Char}
    (named : IsName name.toList)
    (detached : Detached rest) :
    cTokens (name.toList ++ rest) = .word name :: cTokens rest := by
  generalize letters : name.toList = text at named
  cases named with
  | @intro first tail letter others =>
      have inside : ∀ c ∈ tail, isIdentChar c = true :=
        fun c member => isIdentChar_of_isAlphanum (others c member)
      have starts : isIdentChar first = true := by
        simp [isIdentChar, Char.isAlphanum, letter]
      have visible := visible_of_isIdentChar starts
      have cut : front first (tail ++ rest) = (.word, tail) := by
        simp [front, isIdentStart, letter,
          takeWhile_isIdentChar_append inside detached]
      rw [List.cons_append, cTokens_of_front visible cut, ← letters,
        String.ofList_toList]

theorem numberTail_cons {first : Char}
    (noExponent : isExponent first = false)
    (rest : List Char) :
    numberTail (first :: rest) =
      if isNumberChar first then first :: numberTail rest else [] := by
  cases rest with
  | nil =>
      rfl
  | cons second rest =>
      simp [numberTail, noExponent]

/-- The character is one of those that numbers are written with. -/
def IsDecimal (c : Char) : Prop :=
  c.isDigit = true ∨ c = '.'

theorem IsDecimal.isNumberChar {c : Char}
    (decimal : IsDecimal c) :
    isNumberChar c = true := by
  rcases decimal with digit | rfl
  · simp [CToken.isNumberChar, isIdentChar, Char.isAlphanum, digit]
  · rfl

theorem IsDecimal.isExponent {c : Char}
    (decimal : IsDecimal c) :
    isExponent c = false := by
  have other : ∀ letter : Char, letter.isDigit = false → letter ≠ '.' →
      c ≠ letter := by
    rintro letter noDigit noPoint rfl
    rcases decimal with digit | point
    · exact absurd (digit.symm.trans noDigit) (by decide)
    · exact noPoint point
  simp [CToken.isExponent, other]

theorem numberTail_of_detached {rest : List Char}
    (detached : Detached rest) :
    numberTail rest = [] := by
  cases rest with
  | nil =>
      rfl
  | cons c rest =>
      have stops := detached c rfl
      have noExponent : isExponent c = false := by
        cases exponent : isExponent c with
        | false =>
            rfl
        | true =>
            simp only [isExponent, Bool.or_eq_true, beq_iff_eq] at exponent
            rcases exponent with ((rfl | rfl) | rfl) | rfl <;>
              exact absurd stops (by decide)
      rw [numberTail_cons noExponent, if_neg (by simp [stops])]

/-- Digits and points belong to the same number. -/
theorem numberTail_append {digits rest : List Char}
    (decimal : ∀ c ∈ digits, IsDecimal c)
    (detached : Detached rest) :
    numberTail (digits ++ rest) = digits := by
  induction digits with
  | nil =>
      exact numberTail_of_detached detached
  | cons digit digits inductionHypothesis =>
      have first := decimal digit (List.mem_cons_self ..)
      rw [List.cons_append, numberTail_cons first.isExponent,
        if_pos first.isNumberChar, inductionHypothesis fun c member =>
          decimal c (List.mem_cons_of_mem digit member)]

theorem isIdentStart_of_isDigit {c : Char}
    (digit : c.isDigit = true) :
    isIdentStart c = false := by
  have noUnderscore : c ≠ '_' := by
    rintro rfl
    exact absurd digit (by decide)
  have noLetter := isAlpha_eq_false_of_isDigit digit
  simp [isIdentStart, noLetter, noUnderscore]

theorem cTokens_number {digit : Char} {digits rest : List Char}
    (starts : digit.isDigit = true)
    (decimal : ∀ c ∈ digits, IsDecimal c)
    (detached : Detached rest) :
    cTokens (digit :: (digits ++ rest)) =
      .number (String.ofList (digit :: digits)) :: cTokens rest := by
  have inWord : isIdentChar digit = true := by
    simp [isIdentChar, Char.isAlphanum, starts]
  have noLetter := isIdentStart_of_isDigit starts
  have cut : front digit (digits ++ rest) = (.number, digits) := by
    simp [front, noLetter, startsNumber, starts,
      numberTail_append decimal detached]
  exact cTokens_of_front (visible_of_isIdentChar inWord) cut

/-- A number in C starts with a digit, and a point is all that it has besides
digits. -/
theorem exists_decimalText {digits : String}
    (isNumber : IsNumber digits.toList) :
    ∃ first rest, (decimalText digits).toList = first :: rest ∧
      first.isDigit = true ∧ ∀ c ∈ rest, IsDecimal c := by
  have decimal : ∀ c ∈ digits.toList, IsDecimal c := by
    intro c member
    generalize digits.toList = text at isNumber member
    cases isNumber with
    | whole _ areDigits =>
        exact Or.inl (areDigits c member)
    | pointed _ areDigits _ fractionDigits =>
        rw [List.mem_append, List.mem_cons] at member
        rcases member with member | rfl | member
        · exact Or.inl (areDigits c member)
        · exact Or.inr rfl
        · exact Or.inl (fractionDigits c member)
  have fraction : ∀ c ∈ digits.toList.dropWhile (· ≠ '.'), IsDecimal c :=
    fun c member => decimal c ((List.dropWhile_sublist _).mem member)
  unfold decimalText
  dsimp only
  cases significant :
      (digits.toList.takeWhile (· ≠ '.')).dropWhile (· = '0') with
  | nil =>
      exact ⟨'0', _, String.toList_ofList, by decide, fraction⟩
  | cons first rest =>
      have inside : ∀ c ∈ first :: rest, c.isDigit = true := by
        intro c member
        rw [← significant] at member
        have inWhole := (List.dropWhile_sublist _).mem member
        have noPoint : c ≠ '.' := by
          simpa using List.all_eq_true.mp List.all_takeWhile c inWhole
        have known := decimal c ((List.takeWhile_sublist _).mem inWhole)
        exact known.resolve_right noPoint
      refine ⟨first, _, String.toList_ofList,
        inside first (List.mem_cons_self ..), ?_⟩
      intro c member
      rcases List.mem_append.mp member with member | member
      · exact Or.inl (inside c (List.mem_cons_of_mem first member))
      · exact fraction c member

/-! ## Marks -/

/-- The characters that some mark goes on with. -/
def CToken.joiners : List Char :=
  ['%', ':', '.', '<', '>', '=', '-', '+', '&', '|', '#', '/', '*']

/-- The text does not continue a mark before it. -/
def Unmarked (rest : List Char) : Prop :=
  ∀ c, rest.head? = some c → c ∉ joiners

theorem unmarked_cons {c : Char} {rest : List Char}
    (other : c ∉ joiners) :
    Unmarked (c :: rest) := by
  rintro _ ⟨⟩
  exact other

theorem unmarked_of_isAlphanum {c : Char} {rest : List Char}
    (alphanumeric : c.isAlphanum = true) :
    Unmarked (c :: rest) := by
  have table : joiners.all (fun c => !c.isAlphanum) = true := by
    decide
  apply unmarked_cons
  intro joiner
  have other := List.all_eq_true.mp table c joiner
  rw [alphanumeric] at other
  cases other

theorem IsName.unmarked {name : List Char}
    (named : IsName name) (rest : List Char) :
    Unmarked (name ++ rest) := by
  cases named with
  | intro letter _ =>
      exact unmarked_of_isAlphanum (by simp [Char.isAlphanum, letter])

theorem markTail_eq_nil (first : Char) {rest : List Char}
    (unmarked : Unmarked rest) :
    markTail first rest = [] := by
  have table : ∀ mark ∈ longMarks,
      mark.toList.tail.head?.any joiners.contains = true := by
    decide
  have missing : (longMarks.find? fun mark =>
      mark.toList.isPrefixOf (first :: rest)) = none := by
    rw [List.find?_eq_none]
    intro mark member isFront
    obtain ⟨more, whole⟩ := List.isPrefixOf_iff_prefix.mp isFront
    obtain ⟨c, second, joiner⟩ :=
      (Option.any_eq_true ..).mp (table mark member)
    cases spelled : mark.toList with
    | nil =>
        rw [spelled] at second
        cases second
    | cons start others =>
        rw [spelled] at second whole
        cases others with
        | nil =>
            cases second
        | cons next others =>
            cases second
            cases whole
            exact unmarked c rfl (List.contains_iff_mem.mp joiner)
  rw [markTail, missing]

/-- The marks that make tokens by themselves in what follows. -/
def CToken.singleMarks : List Char :=
  ['+', '-', '*', '/', '=', '<', '>', '&', ':', ';', ',', '(', ')', '\x7b',
    '\x7d', '#']

/-- Those with which no longer mark starts. -/
def CToken.separators : List Char :=
  [';', ',', '(', ')', '\x7b', '\x7d']

theorem cTokens_of_markTail {first : Char} {rest : List Char}
    (isMark : first ∈ singleMarks)
    (alone : markTail first rest = []) :
    cTokens (first :: rest) =
      .mark (String.singleton first) :: cTokens rest := by
  have table : singleMarks.all (fun c =>
      decide ((c ≠ '\n' ∧ c ≠ ' ') ∧ isIdentStart c = false ∧
        c.isDigit = false ∧ c ≠ '.' ∧ c ≠ '"')) = true := by
    decide
  obtain ⟨visible, noWord, noDigit, noPoint, noQuote⟩ :=
    of_decide_eq_true (List.all_eq_true.mp table first isMark)
  have cut : front first ([] ++ rest) = (.mark, []) := by
    simp [front, noWord, startsNumber, noDigit, noPoint, noQuote, alone]
  exact cTokens_of_front visible cut

/-- A mark stands alone if no other mark goes on with the character behind
it. -/
theorem cTokens_mark {first : Char} {rest : List Char}
    (isMark : first ∈ singleMarks)
    (unmarked : Unmarked rest) :
    cTokens (first :: rest) =
      .mark (String.singleton first) :: cTokens rest :=
  cTokens_of_markTail isMark (markTail_eq_nil first unmarked)

/-- A separator stands alone whatever comes behind it. -/
theorem cTokens_separator {first : Char}
    (separates : first ∈ separators)
    (rest : List Char) :
    cTokens (first :: rest) =
      .mark (String.singleton first) :: cTokens rest := by
  have table : ∀ mark ∈ longMarks,
      mark.toList.head?.any (!separators.contains ·) = true := by
    decide
  have isMark : separators ⊆ singleMarks := by
    decide
  have missing : (longMarks.find? fun mark =>
      mark.toList.isPrefixOf (first :: rest)) = none := by
    rw [List.find?_eq_none]
    intro mark member isFront
    obtain ⟨more, whole⟩ := List.isPrefixOf_iff_prefix.mp isFront
    obtain ⟨c, start, other⟩ :=
      (Option.any_eq_true ..).mp (table mark member)
    cases spelled : mark.toList with
    | nil =>
        rw [spelled] at start
        cases start
    | cons _ others =>
        rw [spelled] at start whole
        cases start
        cases whole
        rw [List.contains_iff_mem.mpr separates] at other
        cases other
  apply cTokens_of_markTail (isMark separates)
  rw [markTail, missing]

end TeenyTiny
