import TeenyTiny.Fault
import TeenyTiny.Proofs.Malformed
import TeenyTiny.Proofs.Rendering

/-!
# Lexical errors

A source is cut into tokens unless a lexeme in it is malformed, and the error
tells of the first such lexeme (`tokenize_error_iff`): what is wrong with it,
which part of the source is to blame, and the position of that part, which the
message quotes.
-/

namespace TeenyTiny

/-! ## The lexeme in front of a cursor -/

theorem front_splitBlanks {text : List Char} {first : Char}
    {rest : List Char}
    (front : (splitBlanks text).2 = first :: rest) :
    isBlank first = false ∧ first ≠ '#' := by
  induction text with
  | nil =>
      cases front
  | cons c text inductionHypothesis =>
      unfold splitBlanks at front
      by_cases blank : isBlank c = true
      · rw [if_pos blank] at front
        exact inductionHypothesis front
      · rw [if_neg blank] at front
        by_cases comment : c = '#'
        · rw [if_pos comment] at front
          have isFirst : (text.dropWhile (· ≠ '\n')).head? = some first := by
            dsimp only at front
            rw [front]
            rfl
          have lineEnd := eq_false_of_head?_dropWhile isFirst
          simp only [decide_eq_false_iff_not, not_not] at lineEnd
          subst lineEnd
          exact ⟨rfl, by decide⟩
        · rw [if_neg comment] at front
          cases front
          exact ⟨by simpa using blank, comment⟩

/-- Behind the text `before` and a gap the source has a malformed lexeme, and
the error tells of it. -/
def FailsBehind (source before : List Char) (error : LexicalError) : Prop :=
  ∃ gap lead marked after fault,
    source = before ++ (gap ++ (lead ++ (marked ++ after))) ∧
      GapBefore gap (lead ++ (marked ++ after)) ∧
      Malformed fault lead marked after ∧
      error = ⟨fault,
        Position.ofOffset source (byteLength (before ++ (gap ++ lead))),
        ⟨byteLength (before ++ (gap ++ lead)),
          byteLength (before ++ (gap ++ (lead ++ marked)))⟩⟩

namespace Cursor.Stands

variable {cursor : Cursor} {source before : List Char} {error : LexicalError}

/-- A reading fails exactly before a malformed lexeme. -/
theorem next_error_iff
    (stands : cursor.Stands source before) :
    cursor.next.1 = .error error ↔ FailsBehind source before error := by
  constructor
  · intro failed
    obtain ⟨first, rest, fault, front, reading, rfl⟩ :=
      next_error_cases failed
    obtain ⟨noBlank, noComment⟩ := front_splitBlanks front
    have cut := splitBlanks_append cursor.rest
    have isGap := gapBefore_splitBlanks cursor.rest
    have blamed := Lexeme.blamed_read noBlank noComment rest fault reading
    have split := (Lexeme.read first rest).lead_append fault
    rw [Lexeme.read_append] at split
    rw [front, ← split] at cut isGap
    refine ⟨_, _, _, _, fault, ?_, isGap, blamed, ?_⟩
    · rw [cut]
      exact stands.whole
    · rw [stands.faultSpan, stands.origin]
  · rintro ⟨gap, lead, marked, after, fault, whole, isGap, malformed, rfl⟩
    obtain ⟨first, tail, front, noBlank, noComment, reading, sameLead,
      sameMarked⟩ := malformed.exists_read
    have rest : cursor.rest = gap ++ (lead ++ (marked ++ after)) := by
      rw [stands.whole] at whole
      exact List.append_cancel_left whole
    have skipped : splitBlanks cursor.rest =
        (gap, lead ++ (marked ++ after)) := by
      rw [rest]
      apply splitBlanks_gap isGap
      intro c isFirst
      rw [front] at isFirst
      cases isFirst
      exact ⟨noBlank, noComment⟩
    have span := stands.faultSpan (Lexeme.read first tail) fault
    rw [skipped, sameLead, sameMarked] at span
    rw [Cursor.next, skipped, front]
    dsimp only
    rw [Lexeme.toToken, reading]
    dsimp only
    rw [span, stands.origin]

end Cursor.Stands

/-! ## The lexemes in front -/

/-- The tokens stand one behind the other from the start of the source to the
end of the text `before`. -/
inductive Scanned (source : List Char) : List Char → List Token → Prop
  | start : Scanned source [] []
  | token {before gap slice after : List Char} {token : Token}
      {tokens : List Token}
      (scanned : Scanned source before tokens)
      (inside : token.kind ≠ .eof)
      (tile : Tile source before gap slice after token) :
      Scanned source (before ++ (gap ++ slice)) (tokens ++ [token])

namespace Cursor

variable {cursor : Cursor} {source before : List Char} {token : Token}
  {tokens earlier : List Token} {error : LexicalError}

/-- The tokens that are read before an error stand in front of it. -/
theorem Yields.scanned
    (yields : cursor.Yields tokens (some error))
    (stands : cursor.Stands source before)
    (scanned : Scanned source before earlier) :
    ∃ before', Scanned source before' (earlier ++ tokens) ∧
      FailsBehind source before' error := by
  generalize outcomeIs : some error = outcome at yields
  induction yields generalizing before earlier with
  | stop failed =>
      cases outcomeIs
      rw [List.append_nil]
      exact ⟨before, scanned, stands.next_error_iff.mp failed⟩
  | finish _ _ =>
      cases outcomeIs
  | @more _ token tokens _ read inside _ inductionHypothesis =>
      obtain ⟨gap, slice, after, tile, moved⟩ := stands.exists_tile read
      have further := inductionHypothesis moved
        (scanned.token inside tile) outcomeIs
      rwa [List.append_assoc, List.singleton_append] at further

/-- A token that stands behind a gap is read. -/
theorem Stands.next_of_tile {gap slice after : List Char}
    (stands : cursor.Stands source before)
    (inside : token.kind ≠ .eof)
    (tile : Tile source before gap slice after token) :
    cursor.next.1 = .ok token ∧
      cursor.next.2.Stands source (before ++ (gap ++ slice)) := by
  have whole := tile.whole
  rw [stands.whole] at whole
  have front := List.append_cancel_left whole
  have isGap := tile.isGap
  rw [tile.spelled] at front isGap
  obtain ⟨found, read, kind, text, rest⟩ :=
    next_spelling front inside tile.admits isGap tile.ends
  obtain ⟨otherGap, otherSlice, otherAfter, other, moved⟩ :=
    stands.exists_tile read
  -- Both tiles have the same slice and the same text behind it, and so they
  -- are the same.
  have sameSlice : otherSlice = slice := by
    rw [other.spelled, tile.spelled, kind, text]
  have sameAfter : otherAfter = after := by
    have behind := moved.whole
    rw [other.whole, rest] at behind
    simpa using behind
  subst sameSlice sameAfter
  have sameGap : otherGap = gap := by
    have both := other.whole
    rw [tile.whole] at both
    have gaps := List.append_cancel_left both
    exact (List.append_cancel_right gaps).symm
  subst sameGap
  have sameToken : found = token := by
    obtain ⟨foundKind, foundText, foundStart, foundStop⟩ := found
    obtain ⟨tokenKind, tokenText, tokenStart, tokenStop⟩ := token
    have start := other.start.trans tile.start.symm
    have stop := other.stop.trans tile.stop.symm
    cases kind
    cases text
    cases start
    cases stop
    rfl
  subst sameToken
  exact ⟨read, moved⟩

end Cursor

/-- Tokens that stand in front are read before anything else. -/
theorem Scanned.exists_cursor {source before : List Char}
    {tokens : List Token}
    (scanned : Scanned source before tokens) :
    ∃ cursor : Cursor, cursor.Stands source before ∧
      ∀ more outcome, cursor.Yields more outcome →
        (Cursor.ofSource source).Yields (tokens ++ more) outcome := by
  induction scanned with
  | start =>
      exact ⟨_, Cursor.stands_ofSource source, fun _ _ yields => yields⟩
  | @token _ _ _ _ token tokens _ inside tile inductionHypothesis =>
      obtain ⟨cursor, stands, leads⟩ := inductionHypothesis
      obtain ⟨read, moved⟩ := stands.next_of_tile inside tile
      refine ⟨cursor.next.2, moved, ?_⟩
      intro more outcome yields
      rw [List.append_assoc, List.singleton_append]
      exact leads (token :: more) outcome (.more read inside yields)

/-! ## Errors of a source -/

/-- All messages but that of an open string end in the position. -/
theorem LexicalError.message_cases (error : LexicalError) :
    error.fault = .openString ∧ error.message = "unterminated string" ∨
      error.fault ≠ .openString ∧
        ∃ what, error.message = what ++ " at " ++ error.position.text := by
  obtain ⟨fault, position, span⟩ := error
  cases fault with
  | openString =>
      exact Or.inl ⟨rfl, rfl⟩
  | badNumber found | badString found | loneBang found | strayChar found =>
      exact Or.inr ⟨by simp, _, rfl⟩

/-- A source has an error exactly if some lexeme in it is malformed.  The error
tells of the first one, and its message quotes the position at which the part to
blame starts. -/
theorem tokenize_error_iff (source : List Char) (error : LexicalError) :
    (tokenize source = .error error ↔
        ∃ before tokens, Scanned source before tokens ∧
          FailsBehind source before error) ∧
      (tokenize source = .error error →
        error.fault = .openString ∧ error.message = "unterminated string" ∨
          error.fault ≠ .openString ∧
            ∃ what, error.message = what ++ " at " ++
              (Position.ofOffset source error.span.start).text) := by
  have finds : tokenize source = .error error →
      ∃ before tokens, Scanned source before tokens ∧
        FailsBehind source before error := by
    intro failed
    obtain ⟨tokens, yields⟩ := yields_of_tokenize_error failed
    obtain ⟨before, scanned, fails⟩ :=
      yields.scanned (Cursor.stands_ofSource source) .start
    exact ⟨before, _, scanned, fails⟩
  refine ⟨⟨finds, ?_⟩, ?_⟩
  · rintro ⟨before, tokens, scanned, fails⟩
    obtain ⟨cursor, stands, leads⟩ := scanned.exists_cursor
    have stops : cursor.Yields [] (some error) :=
      .stop (stands.next_error_iff.mpr fails)
    exact (leads [] _ stops).tokens_eq
  · intro failed
    obtain ⟨_, _, _, _, _, _, _, _, _, _, _, rfl⟩ := finds failed
    exact LexicalError.message_cases _

/-- The percent sign is to blame, which the cursor has not passed yet, and its
offset counts the letter of two bytes before it twice. -/
theorem tokenize_error_percent :
    ∃ error, tokenize "PRINT \"né%\"".toList = .error error ∧
      error.fault = .badString '%' ∧ error.span = ⟨10, 11⟩ ∧
      (∃ before tokens, Scanned "PRINT \"né%\"".toList before tokens ∧
        FailsBehind "PRINT \"né%\"".toList before error) ∧
      ∃ what, error.message = what ++ " at " ++
        (Position.ofOffset "PRINT \"né%\"".toList 10).text := by
  have failed : tokenize "PRINT \"né%\"".toList =
      .error ⟨.badString '%', ⟨1, 10⟩, ⟨10, 11⟩⟩ := by
    decide +kernel
  obtain ⟨describes, quotes⟩ := tokenize_error_iff "PRINT \"né%\"".toList _
  refine ⟨_, failed, rfl, rfl, describes.mp failed, ?_⟩
  rcases quotes failed with ⟨impossible, _⟩ | ⟨_, quoted⟩
  · cases impossible
  · exact quoted

end TeenyTiny
