import TeenyTiny.Proofs.Verdict

/-!
# Which fault is found

Of several faults in a source the first one in the order of the tokens is
found.  Jumps to labels that are not declared come last, since they are not
known before the end (`compile_first_fault`).  A malformed lexeme is found as
soon as it comes into view, and only an offence that shows before that is found
first (`compile_lookahead`).
-/

namespace TeenyTiny

/-! ## Sources with well-formed lexemes only -/

/-- No fault of well-formed tokens is a malformed lexeme. -/
theorem compileTokens_ne_lexical {body : List Token} {last : Token}
    (inside : ∀ token ∈ body, token.kind ≠ .eof)
    (kind : last.kind = .eof)
    (width : Nat) (error : LexicalError) :
    (compileTokens (body ++ [last]) width).result ≠
      .error (.lexical error) := by
  rcases compileTokens_cases inside kind width with
    ⟨_, _, _, done⟩ | ⟨_, _, _, _, failed, _, reports⟩ |
      ⟨_, _, _, _, failed, _⟩
  · simp [done]
  · simp [failed, reports.ne_lexical error]
  · simp [failed]

/-- If a source is cut into tokens and they have an offence, the fault is the
first one.  Missing labels are the fault exactly if there is no offence and some
jump goes to no label.  There is no other fault. -/
theorem compile_first_fault
    {source : List Char} {tokens : List Token}
    (tokenized : tokenize source = .ok tokens)
    (width : Nat) :
    ((∃ index token offence, OffendsAt tokens index token offence) →
        ∃ index token offence fault,
          FirstOffence tokens index token offence ∧
            (compile source width).result = .error fault ∧
            offence.Reports token fault) ∧
      ((∃ names span, (compile source width).result =
            .error (.name (.missingLabels names) span)) ↔
          Correct tokens ∧
            ∃ name ∈ namesAfter .gotoKw tokens,
              name ∉ namesAfter .labelKw tokens) ∧
      ∀ fault, (compile source width).result = .error fault →
        (∃ index token offence, FirstOffence tokens index token offence ∧
            offence.Reports token fault) ∨
          ∃ names span, fault = .name (.missingLabels names) span ∧
            ∀ name, name ∈ names ↔
              name ∈ namesAfter .gotoKw tokens ∧
                name ∉ namesAfter .labelKw tokens := by
  obtain ⟨body, last, rfl, kind, inside⟩ := exists_eof_of_tokenize tokenized
  rw [compile_of_yields (yields_of_tokenize tokenized)]
  rcases compileTokens_cases inside kind width with
    ⟨final, finished, resolved, done⟩ |
      ⟨fault, index, token, offence, failed, first, reports⟩ |
      ⟨correct, unresolved, names, span, failed, missing⟩
  · rw [done]
    refine ⟨?_, ?_, ?_⟩
    · rintro ⟨index, token, offence, offends⟩
      exact absurd offends (finished.correct index token offence)
    · constructor
      · rintro ⟨names, span, impossible⟩
        cases impossible
      · rintro ⟨_, name, jumped, undeclared⟩
        exact absurd (resolved name jumped) undeclared
    · rintro fault ⟨⟩
  · rw [failed]
    refine ⟨?_, ?_, ?_⟩
    · intro _
      exact ⟨index, token, offence, fault, first, rfl, reports⟩
    · constructor
      · rintro ⟨names, span, equality⟩
        cases equality
        exact absurd rfl (reports.ne_missingLabels names span)
      · rintro ⟨correct, _⟩
        exact absurd correct first.not_correct
    · rintro other ⟨⟩
      exact Or.inl ⟨index, token, offence, first, reports⟩
  · rw [failed]
    refine ⟨?_, ?_, ?_⟩
    · rintro ⟨index, token, offence, offends⟩
      exact absurd offends (correct index token offence)
    · refine ⟨fun _ => ⟨correct, ?_⟩, fun _ => ⟨names, span, rfl⟩⟩
      simpa [JumpsResolved] using unresolved
    · rintro fault ⟨⟩
      exact Or.inr ⟨names, span, rfl, missing⟩

/-- A label that is declared twice is found before the end of the line on
which that happens. -/
theorem compile_first_fault_repeated :
    ∃ tokens,
      tokenize "LABEL a\nLABEL a\n".toList = .ok tokens ∧
        ∃ index token offence, FirstOffence tokens index token offence ∧
          offence.Reports token (.name (.repeatedLabel "a") ⟨14, 15⟩) := by
  have tokenized : tokenize "LABEL a\nLABEL a\n".toList =
      .ok [⟨.keyword .labelKw, "LABEL", ⟨0, 5⟩⟩, ⟨.ident, "a", ⟨6, 7⟩⟩,
        ⟨.newline, "\n", ⟨7, 8⟩⟩, ⟨.keyword .labelKw, "LABEL", ⟨8, 13⟩⟩,
        ⟨.ident, "a", ⟨14, 15⟩⟩, ⟨.newline, "\n", ⟨15, 16⟩⟩,
        ⟨.eof, "", ⟨16, 16⟩⟩] := by
    decide +kernel
  have failed : (compile "LABEL a\nLABEL a\n".toList 4).result =
      .error (.name (.repeatedLabel "a") ⟨14, 15⟩) := by
    decide +kernel
  refine ⟨_, tokenized, ?_⟩
  rcases (compile_first_fault tokenized 4).2.2 _ failed with
    found | ⟨_, _, impossible, _⟩
  · exact found
  · cases impossible

/-! ## Spans of tokens in front of an error -/

namespace Cursor

variable {cursor : Cursor} {token : Token} {tokens : List Token}
  {error : LexicalError}

theorem offset_le_start (cursor : Cursor) : cursor.offset ≤ cursor.start :=
  Nat.le_add_right _ _

/-- A token ends where the cursor behind it stands. -/
theorem span_of_next
    (read : cursor.next.1 = .ok token) :
    cursor.offset ≤ token.span.stop ∧
      token.span.stop = cursor.next.2.offset := by
  have started := cursor.offset_le_start
  unfold next at read ⊢
  split at read
  · rename_i front
    cases read
    simp [Token.eof, started]
  · rename_i first rest front
    unfold Lexeme.toToken at read
    dsimp only at read
    split at read
    · cases read
      simp only [Lexeme.spanAt, and_true]
      omega
    · cases read

/-- An error starts behind the cursor. -/
theorem span_of_next_error
    (failed : cursor.next.1 = .error error) :
    cursor.offset ≤ error.span.start := by
  have started := cursor.offset_le_start
  unfold next at failed
  split at failed
  · cases failed
  · unfold Lexeme.toToken at failed
    dsimp only at failed
    split at failed
    · cases failed
    · cases failed
      unfold Lexeme.faultSpanAt
      dsimp only
      split <;> simp only [Lexeme.spanAt] <;> omega

theorem Yields.offset_le
    (yields : Yields cursor tokens (some error)) :
    cursor.offset ≤ error.span.start := by
  generalize outcomeIs : some error = outcome at yields
  induction yields with
  | stop failed =>
      cases outcomeIs
      exact span_of_next_error failed
  | finish _ _ =>
      cases outcomeIs
  | more read _ _ inductionHypothesis =>
      obtain ⟨before, stop⟩ := span_of_next read
      have after := inductionHypothesis outcomeIs
      omega

/-- The tokens in front of an error end before it. -/
theorem Yields.span_le
    (yields : Yields cursor tokens (some error))
    (member : token ∈ tokens) :
    token.span.stop ≤ error.span.start := by
  generalize outcomeIs : some error = outcome at yields
  induction yields with
  | stop _ =>
      cases member
  | finish _ _ =>
      cases outcomeIs
  | more read _ yields inductionHypothesis =>
      rcases List.mem_cons.mp member with rfl | later
      · cases outcomeIs
        rw [(span_of_next read).2]
        exact yields.offset_le
      · exact inductionHypothesis later outcomeIs

end Cursor

/-! ## Sources with a malformed lexeme -/

/-- A source without malformed lexemes is compiled as the list of its tokens is.
Otherwise the first malformed lexeme is the fault, unless an offence shows
before the last of the tokens in front of it.  That is then the fault, and it
lies before the lexeme. -/
theorem compile_lookahead (source : List Char) (width : Nat) :
    (∀ tokens, tokenize source = .ok tokens →
        compile source width = compileTokens tokens width ∧
          ∀ error, (compile source width).result ≠ .error (.lexical error)) ∧
      ∀ error, tokenize source = .error error →
        ∃ tokens,
          (Feed.ofSource source).items =
              tokens.map .ok ++ [.error error] ∧
            (∀ index token offence,
              FirstOffence tokens index token offence →
                index + offence.delay + 1 < tokens.length →
                  ∃ fault, (compile source width).result = .error fault ∧
                    offence.Reports token fault ∧
                    fault.span.stop ≤ error.span.start) ∧
            ((∀ index token offence,
              FirstOffence tokens index token offence →
                ¬ index + offence.delay + 1 < tokens.length) →
              (compile source width).result = .error (.lexical error)) := by
  constructor
  · intro tokens tokenized
    have compiled := compile_of_yields (yields_of_tokenize tokenized) width
    refine ⟨compiled, ?_⟩
    rw [compiled]
    obtain ⟨body, last, rfl, kind, inside⟩ := exists_eof_of_tokenize tokenized
    exact compileTokens_ne_lexical inside kind width
  · intro error failed
    obtain ⟨tokens, yields⟩ := yields_of_tokenize_error failed
    have inside : ∀ token ∈ tokens.dropLast, token.kind ≠ .eof :=
      fun token member => yields.inside member
    refine ⟨tokens, yields.items_eq, ?_, ?_⟩
    · intro index token offence first early
      obtain ⟨fault, found, reports⟩ :=
        Reading.readSeen_of_firstOffence inside first early
      refine ⟨fault, ?_, reports, ?_⟩
      · rw [result_compile_of_yields yields, found]
      · rw [reports.span_eq]
        exact yields.span_le (List.mem_of_getElem? first.offends.1)
    · intro late
      obtain ⟨final, done⟩ := Reading.readSeen_of_late inside late
      rw [result_compile_of_yields yields, done]

/-- The variable is found to be unbound before the lone exclamation mark, which
is two tokens away, comes into view. -/
theorem compile_lookahead_unbound :
    ∃ error, tokenize "PRINT a\n!".toList = .error error ∧
      (compile "PRINT a\n!".toList 4).result ≠ .error (.lexical error) ∧
      ∃ tokens,
        (Feed.ofSource "PRINT a\n!".toList).items =
            tokens.map .ok ++ [.error error] ∧
          ∃ index token offence,
            FirstOffence tokens index token offence ∧
              index + offence.delay + 1 < tokens.length := by
  have failed : tokenize "PRINT a\n!".toList =
      .error ⟨.loneBang none, ⟨2, 1⟩, ⟨8, 9⟩⟩ := by
    decide +kernel
  have found : (compile "PRINT a\n!".toList 4).result =
      .error (.name (.unbound "a") ⟨6, 7⟩) := by
    decide +kernel
  refine ⟨_, failed, by rw [found]; simp, ?_⟩
  obtain ⟨tokens, items, _, otherwise⟩ :=
    (compile_lookahead "PRINT a\n!".toList 4).2 _ failed
  refine ⟨tokens, items, ?_⟩
  by_contra late
  have lexical := otherwise fun index token offence first early =>
    late ⟨index, token, offence, first, early⟩
  rw [found] at lexical
  cases lexical

end TeenyTiny
