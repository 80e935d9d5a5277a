import TeenyTiny.Proofs.LexicalErrors
import TeenyTiny.Proofs.Seam

/-!
# Sources joined at a line break

What a text is cut into does not depend on the lines in front of it.  If these
are cut into tokens, then the tokens of the text, or its error, are found behind
them and have only moved: by bytes in their spans and by lines in the position
that the message of an error quotes (`tokenize_join_newline`).
-/

namespace TeenyTiny

/-! ## Positions behind other lines -/

namespace Position

/-- The position some lines further down. -/
def below (position : Position) (lines : Nat) : Position :=
  { position with line := position.line + lines }

theorem step_below (position : Position) (lines : Nat) (c : Char) :
    (position.below lines).step c = (position.step c).below lines := by
  by_cases lineEnd : c = '\n'
  · simp only [step, below, lineEnd, if_true, Position.mk.injEq, and_true]
    omega
  · simp [step, below, lineEnd]

theorem after_below
    (position : Position) (lines : Nat) (text : List Char) (bytes : Nat) :
    (position.below lines).after text bytes =
      (position.after text bytes).below lines := by
  induction text generalizing position bytes with
  | nil =>
      rfl
  | cons c rest inductionHypothesis =>
      cases bytes with
      | zero =>
          rfl
      | succ bytes =>
          rw [after, after, step_below, inductionHypothesis]

/-- An offset behind a text is counted on from the end of that text. -/
theorem after_append
    (position : Position) (front text : List Char) (bytes : Nat) :
    position.after (front ++ text) (byteLength front + bytes) =
      (front.foldl step position).after text bytes := by
  induction front generalizing position with
  | nil =>
      simp [byteLength]
  | cons c front inductionHypothesis =>
      have positive := c.utf8Size_pos
      obtain ⟨size, whole⟩ : ∃ size,
          byteLength (c :: front) + bytes = size + 1 :=
        ⟨byteLength (c :: front) + bytes - 1, by
          simp only [byteLength]
          omega⟩
      have left : size + 1 - c.utf8Size = byteLength front + bytes := by
        simp only [byteLength] at whole
        omega
      rw [whole, List.cons_append, after, left, inductionHypothesis]
      rfl

theorem line_foldl_step (position : Position) (text : List Char) :
    (text.foldl step position).line =
      position.line + text.count '\n' := by
  induction text generalizing position with
  | nil =>
      rfl
  | cons c rest inductionHypothesis =>
      rw [List.foldl_cons, inductionHypothesis, List.count_cons]
      by_cases lineEnd : c = '\n'
      · simp only [step, lineEnd, if_true, beq_self_eq_true]
        omega
      · simp [step, lineEnd]

/-- Behind a text and a line break, a position keeps its column and lies as many
lines further down as the text has, and one more. -/
theorem ofOffset_append_newline
    (front back : List Char) (offset : Nat) :
    ofOffset (front ++ '\n' :: back) (offset + (byteLength front + 1)) =
      (ofOffset back offset).below (1 + front.count '\n') := by
  have behind : offset + (byteLength front + 1) =
      byteLength (front ++ ['\n']) + offset := by
    have single : byteLength ['\n'] = 1 := rfl
    rw [byteLength_append, single]
    omega
  have reached : (front ++ ['\n']).foldl step origin =
      origin.below (1 + front.count '\n') := by
    rw [List.foldl_append, List.foldl_cons, List.foldl_nil, step, if_pos rfl,
      line_foldl_step]
    simp only [below, origin, Position.mk.injEq, and_true]
    omega
  have whole : front ++ '\n' :: back = (front ++ ['\n']) ++ back := by
    simp
  rw [behind, whole, ofOffset, after_append, reached, after_below]
  rfl

end Position

/-! ## Errors further behind -/

/-- The error further behind in a source, by bytes and by lines. -/
def LexicalError.shift
    (error : LexicalError) (offset lines : Nat) : LexicalError :=
  { error with
    position := error.position.below lines
    span := error.span.shift offset }

theorem Lexeme.faultSpanAt_shift
    (lexeme : Lexeme) (fault : LexicalFault) (start offset : Nat) :
    lexeme.faultSpanAt (start + offset) fault =
      (lexeme.faultSpanAt start fault).shift offset := by
  rw [faultSpanAt_eq, faultSpanAt_eq]
  simp only [Span.shift, Span.mk.injEq]
  omega

namespace Cursor

variable {cursor : Cursor} {other : List Char} {offset lines : Nat}
  {error : LexicalError}

theorem source_next (cursor : Cursor) :
    cursor.next.2.source = cursor.source := by
  unfold next
  split <;> rfl

/-- A malformed lexeme is found in the same way further behind in another
source. -/
theorem next_error_shift
    (failed : cursor.next.1 = .error error)
    (places : ∀ place, Position.ofOffset other (place + offset) =
      (Position.ofOffset cursor.source place).below lines) :
    (next ⟨other, cursor.rest, cursor.offset + offset⟩).1 =
      .error (error.shift offset lines) := by
  obtain ⟨first, rest, fault, front, malformed, rfl⟩ :=
    next_error_cases failed
  rw [next]
  dsimp only
  rw [front]
  dsimp only
  rw [start_shift, Lexeme.toToken, malformed]
  dsimp only
  rw [Lexeme.faultSpanAt_shift]
  simp only [LexicalError.shift, Span.shift, places]

theorem Yields.shift_error {tokens : List Token}
    (yields : cursor.Yields tokens (some error))
    (places : ∀ place, Position.ofOffset other (place + offset) =
      (Position.ofOffset cursor.source place).below lines) :
    Yields ⟨other, cursor.rest, cursor.offset + offset⟩
      (tokens.map fun token => token.shift offset)
      (some (error.shift offset lines)) := by
  generalize outcomeIs : some error = outcome at yields
  induction yields with
  | stop failed =>
      cases outcomeIs
      exact .stop (next_error_shift failed places)
  | finish _ _ =>
      cases outcomeIs
  | @more cursor _ _ _ read inside _ inductionHypothesis =>
      have same := next_shift read other offset
      rw [source_next] at inductionHypothesis
      refine .more (by rw [same]) inside ?_
      rw [same]
      exact inductionHypothesis places outcomeIs

end Cursor

/-- Of two errors with the same fault, the messages differ in the positions that
they quote, and those of open strings not at all. -/
theorem LexicalError.message_shift
    (error : LexicalError) (offset lines : Nat) :
    error.fault = .openString ∧
        error.message = "unterminated string" ∧
        (error.shift offset lines).message = "unterminated string" ∨
      error.fault ≠ .openString ∧ ∃ what,
        error.message = what ++ " at " ++ error.position.text ∧
          (error.shift offset lines).message =
            what ++ " at " ++ (error.position.below lines).text := by
  obtain ⟨fault, position, span⟩ := error
  cases fault with
  | openString =>
      exact Or.inl ⟨rfl, rfl, rfl⟩
  | badNumber found | badString found | loneBang found | strayChar found =>
      exact Or.inr ⟨by simp, _, rfl, rfl⟩

/-! ## Joined sources -/

/-- Behind a text that is cut into tokens and a line break, another text is cut
into the same tokens as alone, with their spans moved, or it has the same error.
The position in the message of that error keeps its column and moves down by the
lines of the first text. -/
theorem tokenize_join_newline
    {front : List Char} {tokens : List Token}
    (tokenized : tokenize front = .ok tokens)
    (back : List Char) :
    ∃ body, tokens = body ++ [.eof (byteLength front)] ∧
      (∀ backTokens, tokenize back = .ok backTokens →
        tokenize (front ++ '\n' :: back) =
          .ok (body ++ .newline (byteLength front) ::
            backTokens.map fun token =>
              token.shift (byteLength front + 1))) ∧
      ∀ error, tokenize back = .error error →
        ∃ moved, tokenize (front ++ '\n' :: back) = .error moved ∧
          moved.fault = error.fault ∧
          moved.span = error.span.shift (byteLength front + 1) ∧
          (error.fault = .openString ∧
              error.message = "unterminated string" ∧
              moved.message = "unterminated string" ∨
            error.fault ≠ .openString ∧ ∃ what,
              error.message = what ++ " at " ++ error.position.text ∧
                moved.message = what ++ " at " ++
                  (error.position.below (1 + front.count '\n')).text) := by
  have yields := yields_of_tokenize tokenized
  have row : Row front [] tokens := yields.row rfl rfl
  obtain ⟨body, rfl, _⟩ := row.exists_eof
  refine ⟨body, rfl, ?_, ?_⟩
  · intro backTokens backTokenized
    exact tokenize_append_newline tokenized backTokenized
  · intro error failed
    obtain ⟨backTokens, backYields⟩ := yields_of_tokenize_error failed
    have behind := backYields.shift_error
      (Position.ofOffset_append_newline front back)
    have offset : (Cursor.ofSource back).offset + (byteLength front + 1) =
        byteLength front + 1 :=
      Nat.zero_add _
    rw [offset] at behind
    have whole : (Cursor.ofSource (front ++ '\n' :: back)).Yields _ _ :=
      yields.append_newline behind
    exact ⟨_, whole.tokens_eq, rfl, rfl, error.message_shift _ _⟩

/-- A text of two lines, the last of which ends in a comment. -/
def commented : List Char :=
  "PRINT \"é\"\nLET a = 1 # é".toList

/-- Behind the comment, a line without an error has its tokens, and the error of
another line is found in the third line of the whole. -/
theorem tokenize_join_newline_commented :
    tokenize (commented ++ '\n' :: "a<=2".toList) =
        .ok [⟨.keyword .printKw, "PRINT", ⟨0, 5⟩⟩, ⟨.string, "é", ⟨6, 10⟩⟩,
          ⟨.newline, "\n", ⟨10, 11⟩⟩, ⟨.keyword .letKw, "LET", ⟨11, 14⟩⟩,
          ⟨.ident, "a", ⟨15, 16⟩⟩, ⟨.eq, "=", ⟨17, 18⟩⟩,
          ⟨.number, "1", ⟨19, 20⟩⟩, ⟨.newline, "\n", ⟨25, 26⟩⟩,
          ⟨.ident, "a", ⟨26, 27⟩⟩, ⟨.ltEq, "<=", ⟨27, 29⟩⟩,
          ⟨.number, "2", ⟨29, 30⟩⟩, ⟨.eof, "", ⟨30, 30⟩⟩] ∧
      ∃ error moved what,
        tokenize "PRINT 1.".toList = .error error ∧
          tokenize (commented ++ '\n' :: "PRINT 1.".toList) = .error moved ∧
          moved.span = ⟨34, 34⟩ ∧
          error.message = what ++ " at " ++ Position.text ⟨1, 9⟩ ∧
          moved.message = what ++ " at " ++ Position.text ⟨3, 9⟩ := by
  have tokenized : tokenize commented =
      .ok ([⟨.keyword .printKw, "PRINT", ⟨0, 5⟩⟩, ⟨.string, "é", ⟨6, 10⟩⟩,
        ⟨.newline, "\n", ⟨10, 11⟩⟩, ⟨.keyword .letKw, "LET", ⟨11, 14⟩⟩,
        ⟨.ident, "a", ⟨15, 16⟩⟩, ⟨.eq, "=", ⟨17, 18⟩⟩,
        ⟨.number, "1", ⟨19, 20⟩⟩] ++ [.eof 25]) := by
    decide +kernel
  have good : tokenize "a<=2".toList =
      .ok [⟨.ident, "a", ⟨0, 1⟩⟩, ⟨.ltEq, "<=", ⟨1, 3⟩⟩,
        ⟨.number, "2", ⟨3, 4⟩⟩, .eof 4] := by
    decide +kernel
  have bad : tokenize "PRINT 1.".toList =
      .error ⟨.badNumber none, ⟨1, 9⟩, ⟨8, 8⟩⟩ := by
    decide +kernel
  constructor
  · obtain ⟨body, split, joins, _⟩ :=
      tokenize_join_newline tokenized "a<=2".toList
    have same := List.append_inj_left' split rfl
    rw [joins _ good, ← same]
    decide +kernel
  · obtain ⟨_, _, _, fails⟩ :=
      tokenize_join_newline tokenized "PRINT 1.".toList
    obtain ⟨moved, failed, _, span, quotes⟩ := fails _ bad
    rcases quotes with ⟨impossible, _⟩ | ⟨_, what, quoted, movedQuoted⟩
    · cases impossible
    · exact ⟨_, moved, what, bad, failed, span, quoted, movedQuoted⟩

end TeenyTiny
