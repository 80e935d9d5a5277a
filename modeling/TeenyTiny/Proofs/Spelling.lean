import TeenyTiny.Proofs.Lexemes

/-!
# Lexemes and the text behind them

A well-formed lexeme is told from the text behind it by one character.  If that
character does not continue the lexeme, then the lexeme is read back as it was
written (`Lexeme.exists_read_spelling`), and what is read is never continued by
the character behind it (`Lexeme.ended_read`).  So a lexeme that is read is the
longest one in front (`Lexeme.eq_of_spelling_append`).
-/

namespace TeenyTiny

/-! ## Spelling -/

/-- The characters that a lexeme of the kind is written with. -/
def Kind.spelling : Kind → String → List Char
  | .string, text => '"' :: (text.toList ++ ['"'])
  | _, text => text.toList

/-- Whether a character right behind a lexeme of the kind would make it
another one.  The end of the source has no character behind it. -/
def Kind.isContinuedBy : Kind → Char → Bool
  | .eof, _ => true
  | .keyword _, c => c.isAlphanum
  | .ident, c => c.isAlphanum
  | .number, c => c.isDigit || c == '.'
  | .eq, c => c == '='
  | .lt, c => c == '='
  | .gt, c => c == '='
  | _, _ => false

/-- The text behind a lexeme of the kind does not continue it. -/
def Kind.EndsBefore (kind : Kind) (rest : List Char) : Prop :=
  ∀ c, rest.head? = some c → kind.isContinuedBy c = false

theorem Kind.endsBefore_nil (kind : Kind) : kind.EndsBefore [] := by
  rintro _ ⟨⟩

theorem Kind.endsBefore_cons {kind : Kind} {c : Char} {rest : List Char}
    (other : kind.isContinuedBy c = false) :
    kind.EndsBefore (c :: rest) := by
  rintro _ ⟨⟩
  exact other

/-- Only the character in front counts. -/
theorem Kind.EndsBefore.of_append {kind : Kind} {text rest : List Char}
    (ends : kind.EndsBefore (text ++ rest)) :
    kind.EndsBefore text := by
  intro c first
  apply ends c
  rw [List.head?_append, first, Option.some_or]

theorem IsNumber.exists_digit {digits : List Char}
    (isNumber : IsNumber digits) :
    ∃ first tail, digits = first :: tail ∧ first.isDigit = true := by
  cases isNumber with
  | whole nonempty areDigits =>
      obtain ⟨first, tail, rfl⟩ := List.exists_cons_of_ne_nil nonempty
      exact ⟨first, tail, rfl, areDigits first (by simp)⟩
  | pointed nonempty areDigits _ _ =>
      obtain ⟨first, tail, rfl⟩ := List.exists_cons_of_ne_nil nonempty
      exact ⟨first, _, rfl, areDigits first (by simp)⟩

theorem IsName.exists_letter {name : List Char}
    (named : IsName name) :
    ∃ first tail, name = first :: tail ∧ first.isAlpha = true := by
  cases named with
  | @intro first tail letter _ =>
      exact ⟨first, tail, rfl, letter⟩

namespace Lexeme

/-! ## Reading back what is written -/

section Complete

variable {rest : List Char}

theorem operator_alone {first : Char} {alone joined : Kind}
    (ends : rest.head? ≠ some '=') :
    operator first alone joined rest = ⟨.ok alone, [first], rest⟩ := by
  unfold operator
  split
  · exact absurd rfl ends
  · rfl

theorem string_spelling {text : List Char}
    (allowed : ∀ c ∈ text, isStringChar c = true)
    (rest : List Char) :
    string (text ++ '"' :: rest) =
      ⟨.ok .string, '"' :: (text ++ ['"']), rest⟩ := by
  have quote : ∀ c, ('"' :: rest).head? = some c → isStringChar c = false := by
    rintro _ ⟨⟩
    rfl
  have inside := takeWhile_append_of_stop allowed quote
  have behind := dropWhile_append_of_stop allowed quote
  unfold string
  rw [behind, inside]
  rfl

theorem number_whole {digits : List Char}
    (areDigits : ∀ c ∈ digits, c.isDigit = true)
    (ends : Kind.number.EndsBefore rest) :
    number (digits ++ rest) = ⟨.ok .number, digits, rest⟩ := by
  have stops : ∀ c, rest.head? = some c → c.isDigit = false := by
    intro c first
    have other := ends c first
    simp only [Kind.isContinuedBy, Bool.or_eq_false_iff] at other
    exact other.1
  have noPoint : ∀ more, rest ≠ '.' :: more := by
    rintro more rfl
    exact absurd (ends '.' rfl) (by decide)
  have inside := takeWhile_append_of_stop areDigits stops
  have behind := dropWhile_append_of_stop areDigits stops
  unfold number
  rw [behind, inside]
  split
  · exact absurd rfl (noPoint _)
  · rfl

theorem number_pointed {digits fraction : List Char}
    (areDigits : ∀ c ∈ digits, c.isDigit = true)
    (nonempty : fraction ≠ [])
    (fractionDigits : ∀ c ∈ fraction, c.isDigit = true)
    (ends : Kind.number.EndsBefore rest) :
    number (digits ++ '.' :: (fraction ++ rest)) =
      ⟨.ok .number, digits ++ '.' :: fraction, rest⟩ := by
  have point : ∀ c, ('.' :: (fraction ++ rest)).head? = some c →
      c.isDigit = false := by
    rintro _ ⟨⟩
    rfl
  have stops : ∀ c, rest.head? = some c → c.isDigit = false ∧ c ≠ '.' := by
    intro c first
    have other := ends c first
    simpa [Kind.isContinuedBy] using other
  have whole := takeWhile_append_of_stop areDigits point
  have behindWhole := dropWhile_append_of_stop areDigits point
  have inside := takeWhile_append_of_stop fractionDigits
    fun c first => (stops c first).1
  have behind := dropWhile_append_of_stop fractionDigits
    fun c first => (stops c first).1
  have good : ¬ (fraction = [] ∨ rest.head? = some '.') := by
    rintro (empty | second)
    · exact nonempty empty
    · exact (stops '.' second).2 rfl
  unfold number
  rw [behindWhole, whole]
  simp only [pointed, inside, behind, if_neg good]

theorem word_spelling {letters : List Char}
    (alphanumeric : ∀ c ∈ letters, c.isAlphanum = true)
    (stops : ∀ c, rest.head? = some c → c.isAlphanum = false) :
    word (letters ++ rest) =
      ⟨.ok ((Keyword.ofText? (String.ofList letters)).elim .ident .keyword),
        letters, rest⟩ := by
  have inside := takeWhile_append_of_stop alphanumeric stops
  have behind := dropWhile_append_of_stop alphanumeric stops
  unfold word
  rw [inside, behind]
  dsimp only
  cases Keyword.ofText? (String.ofList letters) <;> rfl

/-- Digits and letters start no operator and no string. -/
theorem read_of_isAlphanum {first : Char}
    (alphanumeric : first.isAlphanum = true)
    (rest : List Char) :
    read first rest =
      if first.isDigit then number (first :: rest)
      else word (first :: rest) := by
  unfold read
  split
  case h_11 =>
    by_cases digit : first.isDigit = true
    · rw [if_pos digit, if_pos digit]
    · have letter : first.isAlpha = true := by
        simpa [Char.isAlphanum, digit] using alphanumeric
      rw [if_neg digit, if_neg digit, if_pos letter]
  all_goals exact absurd alphanumeric (by decide)

theorem exists_read_name {name : List Char}
    (named : IsName name)
    (stops : ∀ c, rest.head? = some c → c.isAlphanum = false) :
    ∃ first tail, name = first :: tail ∧
      read first (tail ++ rest) =
        ⟨.ok ((Keyword.ofText? (String.ofList name)).elim .ident .keyword),
          name, rest⟩ := by
  cases named with
  | @intro first tail letter others =>
      have alphanumeric : first.isAlphanum = true := by
        simp [Char.isAlphanum, letter]
      have noDigit : ¬ first.isDigit = true := by
        intro digit
        rw [isAlpha_eq_false_of_isDigit digit] at letter
        cases letter
      refine ⟨first, tail, rfl, ?_⟩
      rw [read_of_isAlphanum alphanumeric, if_neg noDigit, ← List.cons_append]
      apply word_spelling _ stops
      intro c member
      rcases List.mem_cons.mp member with rfl | later
      · exact alphanumeric
      · exact others c later

theorem exists_read_number {digits : List Char}
    (isNumber : IsNumber digits)
    (ends : Kind.number.EndsBefore rest) :
    ∃ first tail, digits = first :: tail ∧
      read first (tail ++ rest) = ⟨.ok .number, digits, rest⟩ := by
  have cut : number (digits ++ rest) = ⟨.ok .number, digits, rest⟩ := by
    cases isNumber with
    | whole _ areDigits =>
        exact number_whole areDigits ends
    | pointed _ areDigits nonempty fractionDigits =>
        rw [List.append_assoc]
        exact number_pointed areDigits nonempty fractionDigits ends
  obtain ⟨first, tail, rfl, digit⟩ := isNumber.exists_digit
  refine ⟨first, tail, rfl, ?_⟩
  rw [read_of_isAlphanum (by simp [Char.isAlphanum, digit]), if_pos digit]
  exact cut

end Complete

theorem isName_keyword (word : Keyword) : IsName word.text.toList := by
  cases word <;> decide

theorem ofText?_text (word : Keyword) :
    Keyword.ofText? word.text = some word := by
  cases word <;> decide

/-- A well-formed lexeme is read back if the text behind it does not continue
it. -/
theorem exists_read_spelling {kind : Kind} {text : String} {rest : List Char}
    (inside : kind ≠ .eof)
    (admits : kind.Admits text)
    (ends : kind.EndsBefore rest) :
    ∃ first tail, kind.spelling text = first :: tail ∧
      read first (tail ++ rest) =
        ⟨.ok kind, kind.spelling text, rest⟩ := by
  cases kind with
  | eof =>
      exact absurd rfl inside
  | number =>
      exact exists_read_number admits ends
  | ident =>
      obtain ⟨named, noKeyword⟩ := admits
      have read := exists_read_name named ends
      rwa [String.ofList_toList, noKeyword] at read
  | keyword word =>
      cases admits
      have read := exists_read_name (isName_keyword word) ends
      rwa [String.ofList_toList, ofText?_text] at read
  | string =>
      refine ⟨'"', text.toList ++ ['"'], rfl, ?_⟩
      have read := string_spelling admits rest
      rw [List.append_assoc]
      exact read
  | eq | lt | gt =>
      cases admits
      refine ⟨_, [], rfl, operator_alone ?_⟩
      intro equals
      exact absurd (ends '=' equals) (by decide)
  | newline | plus | minus | star | slash =>
      cases admits
      exact ⟨_, [], rfl, rfl⟩
  | eqEq | bangEq | ltEq | gtEq =>
      cases admits
      exact ⟨_, ['='], rfl, rfl⟩

/-! ## What is read ends where it should -/

/-- The lexeme is written with the characters that were read, and the text
behind it does not continue it, unless it is malformed. -/
def Ended (lexeme : Lexeme) : Prop :=
  ∀ kind, lexeme.reading = .ok kind →
    lexeme.text = kind.spelling (String.ofList (lexeme.content kind)) ∧
      kind.EndsBefore lexeme.rest

section Sound

variable {text rest : List Char}

theorem spelling_content (lexeme : Lexeme) {kind : Kind}
    (plain : kind ≠ .string) :
    lexeme.text = kind.spelling (String.ofList (lexeme.content kind)) := by
  cases kind with
  | string =>
      exact absurd rfl plain
  | _ =>
      simp [Kind.spelling, content]

theorem ended_error {fault : LexicalFault} :
    Ended ⟨.error fault, text, rest⟩ := by
  rintro kind ⟨⟩

theorem ended_ok {kind : Kind}
    (plain : kind ≠ .string)
    (ends : kind.EndsBefore rest) :
    Ended ⟨.ok kind, text, rest⟩ := by
  rintro _ ⟨⟩
  exact ⟨spelling_content _ plain, ends⟩

theorem ended_operator {first : Char} {alone joined : Kind}
    (plain : alone ≠ .string ∧ joined ≠ .string)
    (aloneEnds : ∀ c, c ≠ '=' → alone.isContinuedBy c = false)
    (joinedEnds : ∀ c, joined.isContinuedBy c = false)
    (rest : List Char) :
    (operator first alone joined rest).Ended := by
  unfold operator
  split
  · exact ended_ok plain.2 fun c _ => joinedEnds c
  · rename_i other
    apply ended_ok plain.1
    intro c isFirst
    apply aloneEnds
    rintro rfl
    cases rest with
    | nil =>
        cases isFirst
    | cons d more =>
        cases isFirst
        exact other more rfl

theorem ended_bang (rest : List Char) : (bang rest).Ended := by
  unfold bang
  split
  · exact ended_ok (by decide) fun _ _ => rfl
  · exact ended_error

theorem ended_string (rest : List Char) : (string rest).Ended := by
  unfold string
  split
  · exact ended_error
  · rintro kind ⟨⟩
    refine ⟨?_, fun _ _ => rfl⟩
    simp [Kind.spelling, content]
  · exact ended_error

theorem ended_pointed (whole rest : List Char) :
    (pointed whole rest).Ended := by
  unfold pointed
  dsimp only
  split
  · exact ended_error
  · rename_i good
    apply ended_ok (by decide)
    intro c first
    have noDigit := eq_false_of_head?_dropWhile first
    have noPoint : c ≠ '.' := by
      rintro rfl
      exact good (Or.inr first)
    simp [Kind.isContinuedBy, noDigit, noPoint]

theorem ended_number (text : List Char) : (number text).Ended := by
  unfold number
  split
  · exact ended_pointed _ _
  · rename_i noPoint
    apply ended_ok (by decide)
    intro c first
    have noDigit := eq_false_of_head?_dropWhile first
    have other : c ≠ '.' := by
      rintro rfl
      obtain ⟨more, point⟩ := List.head?_eq_some_iff.mp first
      exact noPoint more point
    simp [Kind.isContinuedBy, noDigit, other]

theorem ended_word (text : List Char) : (word text).Ended := by
  have stops : ∀ c, (text.dropWhile Char.isAlphanum).head? = some c →
      c.isAlphanum = false :=
    fun c first => eq_false_of_head?_dropWhile first
  unfold word
  dsimp only
  cases Keyword.ofText? (String.ofList (text.takeWhile Char.isAlphanum)) with
  | none =>
      exact ended_ok (by decide) stops
  | some word =>
      exact ended_ok (by simp) stops

/-- A lexeme that is read is not continued by the text behind it. -/
theorem ended_read (first : Char) (rest : List Char) :
    (read first rest).Ended := by
  unfold read
  split
  case h_6 | h_7 | h_8 =>
    refine ended_operator (by decide) ?_ (fun _ => rfl) rest
    intro c other
    simp [Kind.isContinuedBy, other]
  case h_9 => exact ended_bang rest
  case h_10 => exact ended_string rest
  case h_11 =>
    split
    · exact ended_number _
    · split
      · exact ended_word _
      · exact ended_error
  all_goals exact ended_ok (by decide) fun _ _ => rfl

end Sound

/-! ## The longest lexeme -/

/-- No blank and no comment starts like a lexeme. -/
theorem not_blank_of_read {first : Char} {rest : List Char} {kind : Kind}
    (wellFormed : (read first rest).reading = .ok kind) :
    isBlank first = false ∧ first ≠ '#' := by
  have stray : ∀ c : Char, isBlank c = true ∨ c = '#' →
      (read c rest).reading ≠ .ok kind := by
    intro c skipped
    have listed : ((c = ' ' ∨ c = '\t') ∨ c = '\r') ∨ c = '#' := by
      simpa [isBlank] using skipped
    rcases listed with ((rfl | rfl) | rfl) | rfl <;> rintro ⟨⟩
  constructor
  · rw [← Bool.not_eq_true]
    exact fun blank => stray first (Or.inl blank) wellFormed
  · exact fun comment => stray first (Or.inr comment) wellFormed

/-- A lexeme that the text behind it does not continue is the longest one in
front: with more of that text it is no lexeme of any kind, and by itself it is
a lexeme of one kind only. -/
theorem eq_of_spelling_append {kind other : Kind} {text otherText : String}
    {more : List Char}
    (inside : kind ≠ .eof)
    (admits : kind.Admits text)
    (ends : kind.EndsBefore more)
    (otherAdmits : other.Admits otherText)
    (same : kind.spelling text ++ more = other.spelling otherText) :
    more = [] ∧ kind = other := by
  obtain ⟨first, tail, spelled, read⟩ :=
    exists_read_spelling inside admits ends
  have otherInside : other ≠ .eof := by
    rintro rfl
    cases otherAdmits
    rw [spelled] at same
    cases same
  obtain ⟨otherFirst, otherTail, otherSpelled, otherRead⟩ :=
    exists_read_spelling otherInside otherAdmits other.endsBefore_nil
  rw [spelled, otherSpelled, List.cons_append] at same
  cases same
  rw [List.append_nil, read] at otherRead
  have sameReading := congrArg Lexeme.reading otherRead
  have sameRest := congrArg Lexeme.rest otherRead
  exact ⟨sameRest, Except.ok.inj sameReading⟩

end Lexeme

end TeenyTiny
