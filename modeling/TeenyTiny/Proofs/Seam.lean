import TeenyTiny.Proofs.Lexemes

/-!
# Tokens across a line break

No lexeme and no comment reaches over the end of a line.  So two texts with a
line break between them are cut into the tokens of the first, the end of the
line, and the tokens of the second (`tokenize_append_newline`).  The spans of
the latter lie behind the first text, and nothing else about them changes.
-/

namespace TeenyTiny

/-! ## Reading up to a line break -/

section Texts

variable {wanted : Char → Bool}

theorem takeWhile_append_newline
    (stops : wanted '\n' = false) (text more : List Char) :
    (text ++ '\n' :: more).takeWhile wanted = text.takeWhile wanted := by
  induction text with
  | nil =>
      simp [stops]
  | cons c rest inductionHypothesis =>
      by_cases continues : wanted c = true
      · simp [continues, inductionHypothesis]
      · simp [continues]

theorem dropWhile_append_newline
    (stops : wanted '\n' = false) (text more : List Char) :
    (text ++ '\n' :: more).dropWhile wanted =
      text.dropWhile wanted ++ '\n' :: more := by
  induction text with
  | nil =>
      simp [stops]
  | cons c rest inductionHypothesis =>
      by_cases continues : wanted c = true
      · simp [continues, inductionHypothesis]
      · simp [continues]

end Texts

theorem splitBlanks_append_newline (text more : List Char) :
    splitBlanks (text ++ '\n' :: more) =
      ((splitBlanks text).1, (splitBlanks text).2 ++ '\n' :: more) := by
  induction text with
  | nil =>
      simp [splitBlanks, isBlank]
  | cons c rest inductionHypothesis =>
      rw [List.cons_append, splitBlanks, splitBlanks]
      by_cases blank : isBlank c = true
      · simp [blank, inductionHypothesis]
      · by_cases comment : c = '#'
        · subst comment
          have noBlank : isBlank '#' = false := rfl
          simp [noBlank, takeWhile_append_newline, dropWhile_append_newline]
        · simp [blank, comment]

namespace Lexeme

/-- The lexeme with more text behind it. -/
def before (lexeme : Lexeme) (more : List Char) : Lexeme :=
  { lexeme with rest := lexeme.rest ++ more }

theorem operator_append_newline
    (first : Char) (alone joined : Kind) (rest more : List Char) :
    operator first alone joined (rest ++ '\n' :: more) =
      (operator first alone joined rest).before ('\n' :: more) := by
  cases rest with
  | nil =>
      rfl
  | cons c rest =>
      by_cases equals : c = '='
      · subst equals
        rfl
      · simp [operator, equals, before]

theorem bang_append_newline {rest : List Char} {kind : Kind}
    (wellFormed : (bang rest).reading = .ok kind) (more : List Char) :
    bang (rest ++ '\n' :: more) = (bang rest).before ('\n' :: more) := by
  unfold bang at wellFormed
  split at wellFormed
  · rfl
  · cases wellFormed

theorem string_append_newline {rest : List Char} {kind : Kind}
    (wellFormed : (string rest).reading = .ok kind) (more : List Char) :
    string (rest ++ '\n' :: more) = (string rest).before ('\n' :: more) := by
  have stops : isStringChar '\n' = false := rfl
  unfold string at wellFormed ⊢
  rw [takeWhile_append_newline stops, dropWhile_append_newline stops]
  split at wellFormed
  · cases wellFormed
  · rename_i closed
    rw [closed]
    rfl
  · cases wellFormed

theorem pointed_append_newline {whole rest : List Char} {kind : Kind}
    (wellFormed : (pointed whole rest).reading = .ok kind)
    (more : List Char) :
    pointed whole (rest ++ '\n' :: more) =
      (pointed whole rest).before ('\n' :: more) := by
  have stops : Char.isDigit '\n' = false := rfl
  unfold pointed at wellFormed ⊢
  dsimp only at wellFormed ⊢
  rw [takeWhile_append_newline stops, dropWhile_append_newline stops]
  split at wellFormed
  · cases wellFormed
  · rename_i good
    have goodBefore :
        ¬ (rest.takeWhile Char.isDigit = [] ∨
          (rest.dropWhile Char.isDigit ++ '\n' :: more).head? =
            some '.') := by
      rintro (empty | point)
      · exact good (Or.inl empty)
      · cases after : rest.dropWhile Char.isDigit with
        | nil =>
            rw [after] at point
            cases point
        | cons c others =>
            rw [after] at point good
            exact good (Or.inr point)
    rw [if_neg good, if_neg goodBefore]
    rfl

theorem number_append_newline {text : List Char} {kind : Kind}
    (wellFormed : (number text).reading = .ok kind) (more : List Char) :
    number (text ++ '\n' :: more) = (number text).before ('\n' :: more) := by
  have stops : Char.isDigit '\n' = false := rfl
  unfold number at wellFormed ⊢
  rw [takeWhile_append_newline stops, dropWhile_append_newline stops]
  split at wellFormed
  · rename_i rest point
    rw [point]
    exact pointed_append_newline wellFormed more
  · rename_i whole
    cases after : text.dropWhile Char.isDigit with
    | nil =>
        rfl
    | cons c others =>
        by_cases point : c = '.'
        · subst point
          exact absurd after (whole others)
        · simp [point, before]

theorem word_append_newline (text more : List Char) :
    word (text ++ '\n' :: more) = (word text).before ('\n' :: more) := by
  have stops : Char.isAlphanum '\n' = false := rfl
  unfold word
  rw [takeWhile_append_newline stops, dropWhile_append_newline stops]
  rfl

/-- A well-formed lexeme is read in the same way if a line break follows the
text that it is read from. -/
theorem read_append_newline {first : Char} {rest : List Char} {kind : Kind}
    (wellFormed : (read first rest).reading = .ok kind) (more : List Char) :
    read first (rest ++ '\n' :: more) =
      (read first rest).before ('\n' :: more) := by
  unfold read at wellFormed ⊢
  split
  case h_6 | h_7 | h_8 => exact operator_append_newline _ _ _ _ _
  case h_9 => exact bang_append_newline wellFormed more
  case h_10 => exact string_append_newline wellFormed more
  case h_11 =>
    split at wellFormed
    case h_11 =>
      split at wellFormed
      · rename_i digit
        rw [if_pos digit, if_pos digit]
        exact number_append_newline wellFormed more
      · rename_i noDigit
        rw [if_neg noDigit, if_neg noDigit]
        split at wellFormed
        · rename_i letter
          rw [if_pos letter, if_pos letter]
          exact word_append_newline (first :: rest) more
        · cases wellFormed
    all_goals contradiction
  all_goals rfl

end Lexeme

/-- What a well-formed lexeme makes a token of does not depend on the text
behind it, nor on the source around it. -/
theorem Lexeme.toToken_before {lexeme : Lexeme} {kind : Kind}
    (wellFormed : lexeme.reading = .ok kind)
    (more source other : List Char) (start : Nat) :
    (lexeme.before more).toToken other start =
      lexeme.toToken source start := by
  have same : (lexeme.before more).reading = .ok kind := wellFormed
  simp only [toToken, wellFormed, same]
  rfl

/-! ## Tokens up to a line break -/

def Span.shift (span : Span) (offset : Nat) : Span :=
  ⟨span.start + offset, span.stop + offset⟩

/-- The token further behind in a source. -/
def Token.shift (token : Token) (offset : Nat) : Token :=
  { token with span := token.span.shift offset }

theorem Lexeme.spanAt_shift (lexeme : Lexeme) (start offset : Nat) :
    lexeme.spanAt (start + offset) = (lexeme.spanAt start).shift offset := by
  simp only [Lexeme.spanAt, Span.shift, Span.mk.injEq, true_and]
  omega

/-- The token of a line break at the given offset. -/
def Token.newline (offset : Nat) : Token :=
  ⟨.newline, "\n", ⟨offset, offset + 1⟩⟩

namespace Cursor

variable {cursor : Cursor} {other more : List Char} {token last : Token}
  {body tokens moreTokens : List Token} {outcome : Option LexicalError}

theorem start_append_newline (cursor : Cursor) (other more : List Char) :
    start ⟨other, cursor.rest ++ '\n' :: more, cursor.offset⟩ =
      cursor.start := by
  simp only [start, splitBlanks_append_newline]

/-- A token in front of a line break is read as if the text ended there. -/
theorem next_append_newline
    (read : cursor.next.1 = .ok token)
    (inside : token.kind ≠ .eof)
    (other more : List Char) :
    next ⟨other, cursor.rest ++ '\n' :: more, cursor.offset⟩ =
      (.ok token,
        ⟨other, cursor.next.2.rest ++ '\n' :: more,
          cursor.next.2.offset⟩) := by
  rcases next_ok_cases read with
    ⟨_, rfl, _⟩ | ⟨first, rest, kind, front, wellFormed, made, moved⟩
  · exact absurd rfl inside
  · have frontBefore : (splitBlanks (cursor.rest ++ '\n' :: more)).2 =
        first :: (rest ++ '\n' :: more) := by
      rw [splitBlanks_append_newline, front]
      rfl
    rw [moved, next]
    dsimp only
    rw [frontBefore]
    dsimp only
    rw [start_append_newline, Lexeme.read_append_newline wellFormed,
      Lexeme.toToken_before wellFormed _ other, made, Lexeme.toToken,
      wellFormed]
    rfl

/-- At the end of the text in front of it, the line break is read. -/
theorem next_newline
    (read : cursor.next.1 = .ok token)
    (kind : token.kind = .eof)
    (other more : List Char) :
    next ⟨other, cursor.rest ++ '\n' :: more, cursor.offset⟩ =
      (.ok (.newline token.span.start),
        ⟨other, more, token.span.start + 1⟩) := by
  rcases next_ok_cases read with
    ⟨front, rfl, _⟩ | ⟨first, rest, found, _, wellFormed, rfl, _⟩
  · have frontBefore : (splitBlanks (cursor.rest ++ '\n' :: more)).2 =
        '\n' :: more := by
      rw [splitBlanks_append_newline, front]
      rfl
    rw [next]
    dsimp only
    rw [frontBefore]
    dsimp only
    rw [start_append_newline]
    rfl
  · cases kind
    exact absurd wellFormed (Lexeme.reading_read_ne_eof first rest)

/-- Behind a text that is cut into tokens, the line break is read and what
comes after it. -/
theorem Yields.append_newline
    (yields : cursor.Yields (body ++ [last]) none)
    (continued :
      Yields ⟨other, more, last.span.start + 1⟩ moreTokens outcome) :
    Yields ⟨other, cursor.rest ++ '\n' :: more, cursor.offset⟩
      (body ++ .newline last.span.start :: moreTokens) outcome := by
  induction body generalizing cursor with
  | nil =>
      cases yields with
      | finish read kind =>
          have broken := next_newline read kind other more
          refine .more (by rw [broken]) (by simp [Token.newline]) ?_
          rwa [broken]
      | more _ _ yields =>
          cases yields
  | cons first body inductionHypothesis =>
      rw [List.cons_append] at yields
      generalize whole : body ++ [last] = rest at yields
      cases yields with
      | finish _ _ =>
          simp at whole
      | more read inside yields =>
          subst whole
          have same := next_append_newline read inside other more
          refine .more (by rw [same]) inside ?_
          rw [same]
          exact inductionHypothesis yields

/-! ## Tokens further behind -/

theorem start_shift (cursor : Cursor) (other : List Char) (offset : Nat) :
    start ⟨other, cursor.rest, cursor.offset + offset⟩ =
      cursor.start + offset := by
  simp only [start]
  omega

/-- A token is read in the same way further behind in another source. -/
theorem next_shift
    (read : cursor.next.1 = .ok token)
    (other : List Char) (offset : Nat) :
    next ⟨other, cursor.rest, cursor.offset + offset⟩ =
      (.ok (token.shift offset),
        ⟨other, cursor.next.2.rest, cursor.next.2.offset + offset⟩) := by
  rcases next_ok_cases read with
    ⟨front, rfl, moved⟩ | ⟨first, rest, kind, front, wellFormed, made, moved⟩
  · rw [moved, next]
    dsimp only
    rw [front]
    dsimp only
    rw [start_shift]
    rfl
  · rw [moved, next]
    dsimp only
    rw [front]
    dsimp only
    rw [start_shift, Lexeme.toToken, Lexeme.spanAt_shift, wellFormed, made]
    rfl

theorem Yields.shift
    (yields : cursor.Yields tokens none)
    (other : List Char) (offset : Nat) :
    Yields ⟨other, cursor.rest, cursor.offset + offset⟩
      (tokens.map fun token => token.shift offset) none := by
  generalize outcomeIs : none = outcome at yields
  induction yields with
  | stop _ =>
      cases outcomeIs
  | finish read kind =>
      have same := next_shift read other offset
      exact .finish (by rw [same]) kind
  | more read inside _ inductionHypothesis =>
      have same := next_shift read other offset
      refine .more (by rw [same]) inside ?_
      rw [same]
      exact inductionHypothesis outcomeIs

end Cursor

/-- Two texts with a line break between them are cut into the tokens of the
first, the line break, and the tokens of the second. -/
theorem tokenize_append_newline
    {front back : List Char} {body backTokens : List Token} {last : Token}
    (tokenized : tokenize front = .ok (body ++ [last]))
    (backTokenized : tokenize back = .ok backTokens) :
    tokenize (front ++ '\n' :: back) =
      .ok (body ++ .newline last.span.start ::
        backTokens.map fun token => token.shift (last.span.start + 1)) := by
  have yields := yields_of_tokenize tokenized
  have behind := (yields_of_tokenize backTokenized).shift
    (front ++ '\n' :: back) (last.span.start + 1)
  have offset : 0 + (last.span.start + 1) = last.span.start + 1 :=
    Nat.zero_add _
  change Cursor.Yields ⟨_, back, 0 + _⟩ _ none at behind
  rw [offset] at behind
  have whole : (Cursor.ofSource (front ++ '\n' :: back)).Yields _ none :=
    yields.append_newline behind
  exact whole.tokens_eq

end TeenyTiny
