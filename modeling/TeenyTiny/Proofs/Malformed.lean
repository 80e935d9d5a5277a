import TeenyTiny.Proofs.Progress

/-!
# Malformed lexemes

`Malformed` lists the ways in which a lexeme can be malformed, without regard
to how it is read, and for each of them which part of the text is to blame.
What is read in front of a text and has a fault is malformed in one of these
ways (`Lexeme.blamed_read`), and what is malformed is read with that fault
(`Malformed.exists_read`).
-/

namespace TeenyTiny

/-- The characters that may not stand in a string. -/
def stringForbidden : List Char :=
  ['\r', '\n', '\t', '\\', '%']

/-- The text may stand between the quotes of a string. -/
def StringBody (body : List Char) : Prop :=
  ∀ c ∈ body, c ≠ '"' ∧ c ∉ stringForbidden

/-- No well-formed lexeme starts with the character. -/
def StartsNoLexeme (c : Char) : Prop :=
  ∀ (kind : Kind) (text : String), kind.Admits text →
    (kind.spelling text).head? ≠ some c

/-- A malformed lexeme in front of a text: the part before the fault, the part
that the fault lies in, and the text behind that. -/
inductive Malformed :
    LexicalFault → List Char → List Char → List Char → Prop
  /-- No digit follows the point of a number. -/
  | noFraction {digits rest : List Char}
      (nonempty : digits ≠ [])
      (areDigits : ∀ c ∈ digits, c.isDigit = true)
      (noDigit : ∀ c, rest.head? = some c → c.isDigit = false) :
      Malformed (.badNumber rest.head?)
        (digits ++ ['.']) (rest.take 1) (rest.drop 1)
  /-- A second point follows the fraction of a number. -/
  | secondPoint {digits fraction rest : List Char}
      (nonempty : digits ≠ [])
      (areDigits : ∀ c ∈ digits, c.isDigit = true)
      (fractionNonempty : fraction ≠ [])
      (fractionDigits : ∀ c ∈ fraction, c.isDigit = true) :
      Malformed (.badNumber (some '.'))
        (digits ++ '.' :: fraction) ['.'] rest
  /-- A forbidden character stands before the closing quote of a string. -/
  | forbidden {body rest : List Char} {c : Char}
      (isBody : StringBody body)
      (isForbidden : c ∈ stringForbidden) :
      Malformed (.badString c) ('"' :: body) [c] rest
  /-- A string reaches the end of the source. -/
  | unclosed {body : List Char}
      (isBody : StringBody body) :
      Malformed .openString [] ('"' :: body) []
  /-- No equals sign follows an exclamation mark. -/
  | loneBang {rest : List Char}
      (noEquals : rest.head? ≠ some '=') :
      Malformed (.loneBang rest.head?) [] ['!'] rest
  /-- A character is neither skipped nor starts a lexeme. -/
  | stray {c : Char} {rest : List Char}
      (noBlank : isBlank c = false)
      (noComment : c ≠ '#')
      (starts : StartsNoLexeme c) :
      Malformed (.strayChar c) [] [c] rest

theorem isStringChar_iff (c : Char) :
    Lexeme.isStringChar c = true ↔ c ≠ '"' ∧ c ∉ stringForbidden := by
  simp [Lexeme.isStringChar, stringForbidden, and_assoc]

theorem stringBody_iff (body : List Char) :
    StringBody body ↔ ∀ c ∈ body, Lexeme.isStringChar c = true := by
  simp only [StringBody, isStringChar_iff]

namespace Lexeme

/-! ## What is read is malformed in one of these ways -/

/-- The fault of the lexeme, if there is one, lies where it should. -/
def Blamed (lexeme : Lexeme) : Prop :=
  ∀ fault, lexeme.reading = .error fault →
    Malformed fault
      (lexeme.lead fault) (lexeme.marked fault) (lexeme.beyond fault)

section Sound

variable {first : Char} {rest : List Char}

theorem blamed_ok {kind : Kind} {text : List Char} :
    Blamed ⟨.ok kind, text, rest⟩ := by
  rintro fault ⟨⟩

theorem blamed_operator (first : Char) (alone joined : Kind)
    (rest : List Char) :
    (operator first alone joined rest).Blamed := by
  unfold operator
  split
  · exact blamed_ok
  · exact blamed_ok

theorem blamed_bang (rest : List Char) : (bang rest).Blamed := by
  unfold bang
  split
  · exact blamed_ok
  · rename_i noEquals
    rintro fault ⟨⟩
    apply Malformed.loneBang
    intro equals
    obtain ⟨more, whole⟩ := List.head?_eq_some_iff.mp equals
    exact noEquals more whole

theorem blamed_string (rest : List Char) : (string rest).Blamed := by
  have body : StringBody (rest.takeWhile isStringChar) :=
    (stringBody_iff _).mpr (List.all_eq_true.mp List.all_takeWhile)
  unfold string
  split
  · rintro fault ⟨⟩
    exact .unclosed body
  · exact blamed_ok
  · rename_i c after noQuote behind
    rintro fault ⟨⟩
    have stops : isStringChar c = false := by
      apply eq_false_of_head?_dropWhile
      rw [behind]
      rfl
    have isForbidden : c ∈ stringForbidden := by
      by_contra allowed
      rw [(isStringChar_iff c).mpr ⟨noQuote, allowed⟩] at stops
      cases stops
    exact .forbidden body isForbidden

theorem blamed_pointed {whole : List Char}
    (nonempty : whole ≠ [])
    (areDigits : ∀ c ∈ whole, c.isDigit = true)
    (rest : List Char) :
    (pointed whole rest).Blamed := by
  intro fault failed
  have fractionDigits := List.all_eq_true.mp
    (List.all_takeWhile (l := rest) (p := Char.isDigit))
  unfold pointed at failed
  dsimp only at failed
  split at failed
  · cases failed
    rename_i bad
    by_cases empty : rest.takeWhile Char.isDigit = []
    · have cut := List.takeWhile_append_dropWhile
        (p := Char.isDigit) (l := rest)
      rw [empty, List.nil_append] at cut
      have noDigit : ∀ c, rest.head? = some c → c.isDigit = false := by
        intro c isFirst
        apply eq_false_of_head?_dropWhile
        rw [cut, isFirst]
      have blamed := Malformed.noFraction nonempty areDigits noDigit
      simpa [pointed, lead, marked, beyond, LexicalFault.liesAhead, empty,
        cut] using blamed
    · have point : (rest.dropWhile Char.isDigit).head? = some '.' :=
        bad.resolve_left empty
      obtain ⟨more, behind⟩ := List.head?_eq_some_iff.mp point
      have blamed : Malformed (.badNumber (some '.'))
          (whole ++ '.' :: rest.takeWhile Char.isDigit) ['.'] more :=
        .secondPoint nonempty areDigits empty fractionDigits
      simpa [pointed, lead, marked, beyond, LexicalFault.liesAhead,
        behind] using blamed
  · cases failed

theorem blamed_number
    (digit : first.isDigit = true)
    (rest : List Char) :
    (number (first :: rest)).Blamed := by
  have nonempty : (first :: rest).takeWhile Char.isDigit ≠ [] := by
    simp [digit]
  have areDigits := List.all_eq_true.mp
    (List.all_takeWhile (l := first :: rest) (p := Char.isDigit))
  unfold number
  split
  · exact blamed_pointed nonempty areDigits _
  · exact blamed_ok

theorem blamed_word (text : List Char) : (word text).Blamed := by
  rintro fault ⟨⟩

/-- Whether a character is a stray one does not depend on the text behind
it. -/
theorem reading_of_stray {found : Char}
    (stray : (read first rest).reading = .error (.strayChar found))
    (other : List Char) :
    (read first other).reading = .error (.strayChar first) := by
  unfold read at stray ⊢
  split at stray
  case h_6 | h_7 | h_8 =>
      unfold operator at stray; split at stray <;> cases stray
  case h_9 => unfold bang at stray; split at stray <;> cases stray
  case h_10 => unfold string at stray; split at stray <;> cases stray
  case h_11 =>
    split at stray
    · unfold number at stray
      split at stray
      · unfold pointed at stray
        dsimp only at stray
        split at stray <;> cases stray
      · cases stray
    · split at stray
      · cases stray
      · rename_i noDigit noLetter
        split <;> simp_all
  all_goals cases stray

theorem startsNoLexeme_of_stray {found : Char}
    (stray : (read first rest).reading = .error (.strayChar found)) :
    StartsNoLexeme first := by
  intro kind text admits isFirst
  have inside : kind ≠ .eof := by
    rintro rfl
    cases admits
    cases isFirst
  obtain ⟨c, tail, spelled, read⟩ :=
    exists_read_spelling inside admits kind.endsBefore_nil
  rw [spelled] at isFirst
  cases isFirst
  have again := reading_of_stray stray (tail ++ [])
  rw [read] at again
  cases again

theorem blamed_read
    (noBlank : isBlank first = false)
    (noComment : first ≠ '#')
    (rest : List Char) :
    (read first rest).Blamed := by
  unfold read
  split
  case h_6 | h_7 | h_8 => exact blamed_operator _ _ _ _
  case h_9 => exact blamed_bang rest
  case h_10 => exact blamed_string rest
  case h_11 =>
    split
    · rename_i digit
      exact blamed_number digit rest
    · split
      · exact blamed_word _
      · rintro fault ⟨⟩
        have stray : (read first rest).reading = .error (.strayChar first) := by
          unfold read
          split <;> simp_all
        exact .stray noBlank noComment (startsNoLexeme_of_stray stray)
  all_goals exact blamed_ok

end Sound

/-! ## What is malformed is read so -/

section Complete

variable {first : Char} {rest : List Char}

/-- What is well-formed on its own starts a lexeme. -/
theorem not_startsNoLexeme {kind : Kind}
    (wellFormed : (read first []).reading = .ok kind) :
    ¬ StartsNoLexeme first := by
  intro free
  have cut := read_append first []
  obtain ⟨spelled, _⟩ := ended_read first [] kind wellFormed
  obtain ⟨c, more, text⟩ :=
    List.exists_cons_of_ne_nil (read_text_ne_nil first [])
  rw [text, List.cons_append] at cut
  injection cut with sameFirst
  apply free kind _ (admitted_read first [] kind wellFormed)
  rw [← spelled, text, sameFirst]
  rfl

theorem read_of_startsNoLexeme
    (free : StartsNoLexeme first)
    (rest : List Char) :
    read first rest = ⟨.error (.strayChar first), [first], rest⟩ := by
  have noDigit : ¬ first.isDigit = true := by
    intro digit
    have digits : ∀ c ∈ [first], c.isDigit = true := by
      simpa using digit
    obtain ⟨c, tail, same, read⟩ :=
      exists_read_number (.whole (List.cons_ne_nil first []) digits)
        Kind.number.endsBefore_nil
    cases same
    exact not_startsNoLexeme (congrArg reading read) free
  have noLetter : ¬ first.isAlpha = true := by
    intro letter
    have named : IsName [first] := .intro letter (by simp)
    have stops : ∀ c, ([] : List Char).head? = some c →
        c.isAlphanum = false := by
      rintro _ ⟨⟩
    obtain ⟨c, tail, same, read⟩ := exists_read_name named stops
    cases same
    exact not_startsNoLexeme (congrArg reading read) free
  unfold read
  split
  case h_1 => exact absurd rfl (free .newline "\n" rfl)
  case h_2 => exact absurd rfl (free .plus "+" rfl)
  case h_3 => exact absurd rfl (free .minus "-" rfl)
  case h_4 => exact absurd rfl (free .star "*" rfl)
  case h_5 => exact absurd rfl (free .slash "/" rfl)
  case h_6 => exact absurd rfl (free .eq "=" rfl)
  case h_7 => exact absurd rfl (free .lt "<" rfl)
  case h_8 => exact absurd rfl (free .gt ">" rfl)
  case h_9 => exact absurd rfl (free .bangEq "!=" rfl)
  case h_10 => exact absurd rfl (free .string "" (by simp [Kind.Admits]))
  case h_11 => rw [if_neg noDigit, if_neg noLetter]

theorem string_of_forbidden {body : List Char} {c : Char}
    (isBody : StringBody body)
    (isForbidden : c ∈ stringForbidden)
    (rest : List Char) :
    string (body ++ c :: rest) =
      ⟨.error (.badString c), '"' :: body, c :: rest⟩ := by
  have noChar : isStringChar c = false := by
    rw [← Bool.not_eq_true, isStringChar_iff]
    exact fun allowed => allowed.2 isForbidden
  have noQuote : c ≠ '"' := by
    rintro rfl
    simp [stringForbidden] at isForbidden
  have stops : ∀ d, (c :: rest).head? = some d → isStringChar d = false := by
    rintro _ ⟨⟩
    exact noChar
  have inside := takeWhile_append_of_stop ((stringBody_iff body).mp isBody)
    stops
  have behind := dropWhile_append_of_stop ((stringBody_iff body).mp isBody)
    stops
  unfold string
  rw [behind, inside]
  split
  · rename_i impossible
    cases impossible
  · rename_i same
    cases same
    exact absurd rfl noQuote
  · rename_i same
    cases same
    rfl

theorem string_of_unclosed {body : List Char}
    (isBody : StringBody body) :
    string body = ⟨.error .openString, '"' :: body, []⟩ := by
  have stops : ∀ d, ([] : List Char).head? = some d →
      isStringChar d = false := by
    rintro _ ⟨⟩
  have inside := takeWhile_append_of_stop ((stringBody_iff body).mp isBody)
    stops
  have behind := dropWhile_append_of_stop ((stringBody_iff body).mp isBody)
    stops
  rw [List.append_nil] at inside behind
  unfold string
  rw [behind, inside]

theorem number_of_point {digits : List Char}
    (areDigits : ∀ c ∈ digits, c.isDigit = true)
    (rest : List Char) :
    number (digits ++ '.' :: rest) = pointed digits rest := by
  have point : ∀ c, ('.' :: rest).head? = some c → c.isDigit = false := by
    rintro _ ⟨⟩
    rfl
  have whole := takeWhile_append_of_stop areDigits point
  have behind := dropWhile_append_of_stop areDigits point
  unfold number
  rw [behind, whole]
  rfl

theorem pointed_of_noFraction
    (whole : List Char)
    (noDigit : ∀ c, rest.head? = some c → c.isDigit = false) :
    pointed whole rest =
      ⟨.error (.badNumber rest.head?), whole ++ ['.'], rest⟩ := by
  have noRun : ∀ c ∈ ([] : List Char), c.isDigit = true := by
    rintro _ ⟨⟩
  have empty : rest.takeWhile Char.isDigit = [] :=
    takeWhile_append_of_stop noRun noDigit
  have behind : rest.dropWhile Char.isDigit = rest :=
    dropWhile_append_of_stop noRun noDigit
  simp [pointed, empty, behind]

theorem pointed_of_secondPoint {fraction : List Char}
    (whole : List Char)
    (fractionDigits : ∀ c ∈ fraction, c.isDigit = true)
    (rest : List Char) :
    pointed whole (fraction ++ '.' :: rest) =
      ⟨.error (.badNumber (some '.')), whole ++ '.' :: fraction,
        '.' :: rest⟩ := by
  have point : ∀ c, ('.' :: rest).head? = some c → c.isDigit = false := by
    rintro _ ⟨⟩
    rfl
  have inside := takeWhile_append_of_stop fractionDigits point
  have behind := dropWhile_append_of_stop fractionDigits point
  simp [pointed, inside, behind]

theorem bang_of_noEquals
    (noEquals : rest.head? ≠ some '=') :
    bang rest = ⟨.error (.loneBang rest.head?), ['!'], rest⟩ := by
  unfold bang
  split
  · exact absurd rfl noEquals
  · rfl

/-- A number is read wherever digits stand in front. -/
theorem exists_read_digits {digits : List Char}
    (nonempty : digits ≠ [])
    (areDigits : ∀ c ∈ digits, c.isDigit = true) :
    ∃ first more, digits = first :: more ∧
      isBlank first = false ∧ first ≠ '#' ∧
      ∀ rest, read first (more ++ rest) = number (digits ++ rest) := by
  obtain ⟨first, more, rfl⟩ := List.exists_cons_of_ne_nil nonempty
  have digit : first.isDigit = true := areDigits first (by simp)
  have alphanumeric : first.isAlphanum = true := by
    simp [Char.isAlphanum, digit]
  have isNumber : ∀ rest,
      read first (more ++ rest) = number (first :: more ++ rest) := by
    intro rest
    rw [read_of_isAlphanum alphanumeric, if_pos digit, List.cons_append]
  have wellFormed : (read first (more ++ [])).reading = .ok .number := by
    rw [isNumber, number_whole areDigits Kind.number.endsBefore_nil]
  obtain ⟨noBlank, noComment⟩ := not_blank_of_read wellFormed
  exact ⟨first, more, rfl, noBlank, noComment, isNumber⟩

end Complete

end Lexeme

theorem Malformed.exists_read {fault : LexicalFault}
    {lead marked after : List Char}
    (malformed : Malformed fault lead marked after) :
    ∃ first tail, lead ++ (marked ++ after) = first :: tail ∧
      isBlank first = false ∧ first ≠ '#' ∧
      (Lexeme.read first tail).reading = .error fault ∧
      (Lexeme.read first tail).lead fault = lead ∧
      (Lexeme.read first tail).marked fault = marked := by
  cases malformed with
  | @noFraction digits rest nonempty areDigits noDigit =>
      obtain ⟨first, more, whole, noBlank, noComment, isNumber⟩ :=
        Lexeme.exists_read_digits nonempty areDigits
      have read : Lexeme.read first (more ++ '.' :: rest) =
          ⟨.error (.badNumber rest.head?), digits ++ ['.'], rest⟩ := by
        rw [isNumber, Lexeme.number_of_point areDigits,
          Lexeme.pointed_of_noFraction digits noDigit]
      refine ⟨first, more ++ '.' :: rest, ?_, noBlank, noComment, ?_⟩
      · rw [List.take_append_drop, whole]
        simp
      · rw [read]
        exact ⟨rfl, rfl, rfl⟩
  | @secondPoint digits fraction _ nonempty areDigits _ fractionDigits =>
      obtain ⟨first, more, whole, noBlank, noComment, isNumber⟩ :=
        Lexeme.exists_read_digits nonempty areDigits
      have read :
          Lexeme.read first (more ++ '.' :: (fraction ++ '.' :: after)) =
          ⟨.error (.badNumber (some '.')), digits ++ '.' :: fraction,
            '.' :: after⟩ := by
        rw [isNumber, Lexeme.number_of_point areDigits,
          Lexeme.pointed_of_secondPoint digits fractionDigits]
      refine ⟨first, more ++ '.' :: (fraction ++ '.' :: after), ?_, noBlank,
        noComment, ?_⟩
      · rw [whole]
        simp
      · rw [read]
        exact ⟨rfl, rfl, rfl⟩
  | @forbidden body _ c isBody isForbidden =>
      have read : Lexeme.read '"' (body ++ c :: after) = _ :=
        Lexeme.string_of_forbidden isBody isForbidden after
      refine ⟨'"', body ++ c :: after, rfl, rfl, by decide, ?_⟩
      rw [read]
      exact ⟨rfl, rfl, rfl⟩
  | @unclosed body isBody =>
      have read : Lexeme.read '"' body = _ := Lexeme.string_of_unclosed isBody
      refine ⟨'"', body, by simp, rfl, by decide, ?_⟩
      rw [read]
      exact ⟨rfl, rfl, rfl⟩
  | loneBang noEquals =>
      have read : Lexeme.read '!' after = _ :=
        Lexeme.bang_of_noEquals noEquals
      refine ⟨'!', after, rfl, rfl, by decide, ?_⟩
      rw [read]
      exact ⟨rfl, rfl, rfl⟩
  | @stray c _ noBlank noComment starts =>
      refine ⟨c, after, rfl, noBlank, noComment, ?_⟩
      rw [Lexeme.read_of_startsNoLexeme starts]
      exact ⟨rfl, rfl, rfl⟩

end TeenyTiny
