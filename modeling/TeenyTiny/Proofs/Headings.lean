import TeenyTiny.Proofs.Pointing
import TeenyTiny.Proofs.ReportLines
import TeenyTiny.Report.Basic

/-!
# Positions in reports

A report of a lexical error shows two positions: one in its heading, and one in
the message that it quotes.  They are counted apart.  The message counts line
feeds, and the heading counts everything that Unicode takes for the end of a
line.  So they agree exactly if no line end stands before the error but line
feeds, with or without a carriage return in front (`compile_heading_iff`).
-/

namespace TeenyTiny

/-! ## Positions as texts -/

namespace Position

theorem toList_text (position : Position) :
    position.text.toList =
      Nat.toDigits 10 position.line ++
        ':' :: Nat.toDigits 10 position.column := by
  have text : position.text =
      position.line.repr ++ ":" ++ position.column.repr :=
    rfl
  rw [text, String.toList_append, String.toList_append, Nat.toList_repr,
    Nat.toList_repr, List.append_assoc]
  rfl

theorem notMem_toDigits {c : Char}
    (other : c.isDigit = false)
    (number : Nat) :
    c ∉ Nat.toDigits 10 number := by
  intro member
  have digit :=
    Nat.isDigit_of_mem_toDigits (by decide) (Nat.le_refl 10) member
  rw [other] at digit
  cases digit

theorem blank_notMem_text (position : Position) :
    ' ' ∉ position.text.toList := by
  rw [toList_text, List.mem_append, List.mem_cons]
  intro member
  rcases member with inLine | isColon | inColumn
  · exact notMem_toDigits (by decide) _ inLine
  · exact absurd isColon (by decide)
  · exact notMem_toDigits (by decide) _ inColumn

theorem text_injective {position other : Position}
    (same : position.text = other.text) :
    position = other := by
  have letters := congrArg String.toList same
  rw [toList_text, toList_text,
    List.append_cons_inj_of_notMem (notMem_toDigits (by decide) _)
      (notMem_toDigits (by decide) _)] at letters
  obtain ⟨lines, _, columns⟩ := letters
  have line := congrArg (Nat.ofDigitChars 10 · 0) lines
  have column := congrArg (Nat.ofDigitChars 10 · 0) columns
  simp only [Nat.ofDigitChars_ten_toDigits] at line column
  obtain ⟨_, _⟩ := position
  obtain ⟨_, _⟩ := other
  cases line
  cases column
  rfl

end Position

/-! ## The position in a message -/

/-- A message that ends in a position quotes that of the error. -/
theorem LexicalError.position_of_message {error : LexicalError}
    {what : String} {position : Position}
    (quotes : error.message = what ++ " at " ++ position.text) :
    error.fault ≠ .openString ∧ position = error.position := by
  have split : ∀ (what : String) (position : Position),
      (what ++ " at " ++ position.text).toList =
        (what.toList ++ [' ', 'a', 't']) ++ ' ' :: position.text.toList := by
    intro what position
    simp [String.toList_append]
  have letters := congrArg String.toList quotes
  rw [split] at letters
  rcases error.message_cases with ⟨_, message⟩ | ⟨closed, other, message⟩
  · -- The last word of this message is no position.
    rw [message] at letters
    have word : "unterminated string".toList =
        "unterminated".toList ++ ' ' :: "string".toList := by
      decide
    rw [word] at letters
    have same := eq_of_append_cons_of_notMem letters (by decide)
      position.blank_notMem_text
    rw [Position.toList_text] at same
    have colon : ':' ∈ "string".toList := by
      rw [same]
      simp
    exact absurd colon (by decide)
  · refine ⟨closed, Position.text_injective (String.toList_injective ?_)⟩
    rw [message, split] at letters
    exact (eq_of_append_cons_of_notMem letters
      error.position.blank_notMem_text position.blank_notMem_text).symm

/-! ## The position in a heading -/

/-- The location in the heading of a report: on its second line, what stands
behind the colon up to the next blank. -/
def headingLocation (report : String) : String :=
  let second := (report.toList.dropWhile (· ≠ '\n')).tail
  String.ofList ((second.dropWhile (· ≠ ':')).tail.takeWhile (· ≠ ' '))

theorem Report.exists_heading
    (line : SourceLine) (mark : Report.Mark) (message : String) :
    ∃ heading others, Report.excerpt line mark message = heading :: others ∧
      (renderRow false heading).toList =
        List.replicate ((toString line.number).length + 2) ' ' ++
          ("╭─[ <unknown>".toList ++
            ':' :: ((Position.text ⟨line.number, mark.start + 1⟩).toList ++
              [' ', ']', '\n'])) := by
  refine ⟨_, _, rfl, ?_⟩
  have text : Position.text ⟨line.number, mark.start + 1⟩ =
      toString line.number ++ ":" ++ toString (mark.start + 1) :=
    rfl
  rw [text]
  simp [renderRow, Piece.render, Piece.spaces, Piece.bare, Piece.inked,
    String.toList_append]

theorem toList_headline (stage : Stage) :
    (renderRow false (Report.headline stage)).toList =
      ("Error: ".toList ++ stage.title.toList) ++ ['\n'] := by
  cases stage <;> rfl

/-- The heading of a report shows the line and the column of the span. -/
theorem headingLocation_report {span : Span} {source : List Char}
    (inside : span.stop ≤ byteLength source)
    (stage : Stage) (message file : String) :
    headingLocation
        ((Diagnostic.source stage message span).report false source file) =
      Position.text
        ⟨(SourceLine.ofOffset source span.start).number,
          (SourceLine.ofOffset source span.start).column span.start + 1⟩ := by
  generalize lineIs : SourceLine.ofOffset source span.start = line
  obtain ⟨heading, others, rows, headingText⟩ := Report.exists_heading line
    ⟨line.column span.start, line.column span.stop⟩ message
  have report :
      ((Diagnostic.source stage message span).report false source file).toList =
        ("Error: ".toList ++ stage.title.toList) ++
          '\n' :: ((renderRow false heading).toList ++
            (String.join (others.map (renderRow false))).toList) := by
    simp only [Diagnostic.report, Report.rows, if_pos inside, lineIs, rows,
      List.map_cons, String.join_cons, String.toList_append, toList_headline,
      List.append_assoc, List.singleton_append]
  have firstLine : ∀ c ∈ "Error: ".toList ++ stage.title.toList,
      decide (c ≠ '\n') = true := by
    apply List.all_eq_true.mp
    cases stage <;> decide
  have lead : ∀ c ∈
      List.replicate ((toString line.number).length + 2) ' ' ++
        "╭─[ <unknown>".toList, decide (c ≠ ':') = true := by
    intro c member
    rcases List.mem_append.mp member with isSpace | inText
    · rw [List.eq_of_mem_replicate isSpace]
      rfl
    · exact List.all_eq_true.mp
        (by decide : "╭─[ <unknown>".toList.all (· ≠ ':') = true) c inText
  have location : ∀ c ∈
      (Position.text ⟨line.number, line.column span.start + 1⟩).toList,
        decide (c ≠ ' ') = true := by
    intro c member
    apply decide_eq_true
    intro isBlank
    rw [isBlank] at member
    exact Position.blank_notMem_text _ member
  apply String.toList_injective
  rw [headingLocation, report, String.toList_ofList,
    dropWhile_append_of_stop firstLine (by simp), List.tail_cons, headingText]
  simp only [List.append_assoc, List.cons_append, List.nil_append]
  rw [← List.append_assoc, dropWhile_append_of_stop lead (by simp),
    List.tail_cons, takeWhile_append_of_stop location (by simp)]

/-! ## Places of malformed lexemes -/

namespace Malformed

variable {fault : LexicalFault} {lead marked after : List Char}

/-- Behind a part that has been read there is no carriage return, and where
nothing has been read there is no line feed. -/
theorem lead_cases
    (malformed : Malformed fault lead marked after) :
    (∃ init c, lead = init ++ [c] ∧ c ≠ '\r') ∨
      lead = [] ∧ (marked ++ after).head? ≠ some '\n' := by
  cases malformed with
  | @noFraction digits _ _ _ _ =>
      exact Or.inl ⟨digits, '.', rfl, by decide⟩
  | @secondPoint digits fraction _ _ _ nonempty areDigits =>
      rcases List.eq_nil_or_concat fraction with rfl | ⟨init, c, rfl⟩
      · exact absurd rfl nonempty
      · rw [List.concat_eq_append] at areDigits ⊢
        refine Or.inl ⟨digits ++ '.' :: init, c, by simp, ?_⟩
        intro isReturn
        have digit := areDigits c (by simp)
        rw [isReturn] at digit
        cases digit
  | @forbidden body _ _ isBody _ =>
      rcases List.eq_nil_or_concat body with rfl | ⟨init, c, rfl⟩
      · exact Or.inl ⟨[], '"', rfl, by decide⟩
      · rw [List.concat_eq_append] at isBody ⊢
        refine Or.inl ⟨'"' :: init, c, by simp, ?_⟩
        intro isReturn
        obtain ⟨_, allowed⟩ := isBody c (by simp)
        rw [isReturn] at allowed
        exact allowed (by decide)
  | unclosed _ =>
      exact Or.inr ⟨rfl, by simp⟩
  | loneBang _ =>
      exact Or.inr ⟨rfl, by simp⟩
  | stray _ _ starts =>
      refine Or.inr ⟨rfl, ?_⟩
      intro feeds
      cases feeds
      exact starts .newline "\n" rfl rfl

/-- No fault lies between a carriage return and its line feed. -/
theorem uncut
    (malformed : Malformed fault lead marked after)
    {before front : List Char}
    (isReturn : before ++ lead = front ++ ['\r']) :
    (marked ++ after).head? ≠ some '\n' := by
  rcases malformed.lead_cases with ⟨init, c, rfl, other⟩ | ⟨_, noFeed⟩
  · rw [← List.append_assoc] at isReturn
    obtain ⟨_, last⟩ := List.append_inj' isReturn rfl
    cases last
    exact absurd rfl other
  · exact noFeed

/-- A fault that lies at the end of the source stands behind a point. -/
theorem goesOn
    (malformed : Malformed fault lead marked after)
    (nothing : marked ++ after = [])
    {before front : List Char} {c : Char}
    (last : before ++ lead = front ++ [c]) :
    isLineEnd c = false := by
  cases malformed with
  | noFraction _ _ _ =>
      rw [← List.append_assoc] at last
      obtain ⟨_, same⟩ := List.append_inj' last rfl
      cases same
      rfl
  | secondPoint _ _ _ _ | forbidden _ _ | unclosed _ | loneBang _
  | stray _ _ _ =>
      cases nothing

end Malformed

/-! ## Headings and messages -/

theorem tokenize_of_compile
    {source : List Char} {width : Nat} {error : LexicalError}
    (failed : (compile source width).result = .error (.lexical error)) :
    tokenize source = .error error := by
  cases tokenized : tokenize source with
  | ok tokens =>
      cases pointsAt_of_tokenize tokenized failed
  | error other =>
      obtain ⟨tokens, yields⟩ := yields_of_tokenize_error tokenized
      cases pointsAt_of_yields yields failed
      rfl

/-- The heading of the report of an error, next to the position of the error. -/
theorem FailsBehind.exists_heading
    {source before : List Char} {error : LexicalError}
    (fails : FailsBehind source before error)
    (file : String) :
    ∃ column,
      headingLocation
          ((Fault.lexical error).diagnostic.report false source file) =
        Position.text
          ⟨error.position.line +
              foreignLineEnds (startingBefore source error.span.start),
            column⟩ ∧
      (foreignLineEnds (startingBefore source error.span.start) = 0 →
        column = error.position.column) := by
  have fits := fails.fits
  obtain ⟨gap, lead, marked, after, fault, whole, _, malformed, errorIs⟩ :=
    fails
  have split : source = (before ++ (gap ++ lead)) ++ (marked ++ after) := by
    rw [whole]
    simp only [List.append_assoc]
  have start : error.span.start = byteLength (before ++ (gap ++ lead)) := by
    rw [errorIs]
  have placed : error.position =
      Position.ofOffset source (byteLength (before ++ (gap ++ lead))) := by
    rw [errorIs]
  have front : startingBefore source
      (byteLength (before ++ (gap ++ lead))) = before ++ (gap ++ lead) := by
    rw [split]
    exact startingBefore_append _ _
  have reported := reported_position
    (before ++ (gap ++ lead)) (marked ++ after)
    (fun front isReturn =>
      malformed.uncut ((List.append_assoc before gap lead).trans isReturn))
    (fun nothing front c last =>
      malformed.goesOn nothing
        ((List.append_assoc before gap lead).trans last))
  rw [← split, ← placed] at reported
  obtain ⟨line, column⟩ := reported
  have heading :=
    headingLocation_report fits.inside .lexer error.message file
  rw [start, line] at heading
  rw [start, front]
  exact ⟨_, heading, column⟩

/-- If the message of a lexical error ends in a position, then the heading of
the report shows a line that is further down by the foreign line ends before the
error, and it shows the position of the message if and only if there are
none. -/
theorem compile_heading_iff
    {source : List Char} {width : Nat} {fault : Fault}
    {what : String} {position : Position}
    (failed : (compile source width).result = .error fault)
    (lexical : fault.stage = .lexer)
    (quotes : fault.message = what ++ " at " ++ position.text)
    (file : String) :
    (∃ column,
      headingLocation (fault.diagnostic.report false source file) =
        Position.text
          ⟨position.line +
              foreignLineEnds (startingBefore source fault.span.start),
            column⟩) ∧
      (headingLocation (fault.diagnostic.report false source file) =
          position.text ↔
        foreignLineEnds (startingBefore source fault.span.start) = 0) := by
  cases fault with
  | grammar _ _ | name _ _ =>
      cases lexical
  | lexical error =>
      obtain ⟨_, rfl⟩ := LexicalError.position_of_message quotes
      obtain ⟨tokens, yields⟩ :=
        yields_of_tokenize_error (tokenize_of_compile failed)
      obtain ⟨_, _, fails⟩ :=
        yields.scanned (Cursor.stands_ofSource source) .start
      obtain ⟨column, heading, native⟩ := fails.exists_heading file
      refine ⟨⟨column, heading⟩, ?_⟩
      rw [heading]
      change _ ↔ foreignLineEnds (startingBefore source error.span.start) = 0
      constructor
      · intro same
        have line := congrArg Position.line (Position.text_injective same)
        dsimp only at line
        exact Nat.add_eq_left.mp line
      · intro noForeign
        rw [noForeign, native noForeign, Nat.add_zero]

/-- A source in which a carriage return stands alone. -/
def returningSource : List Char :=
  "PRINT 1\r@\n".toList

/-- The message puts the error on the first line, and the heading on the
second. -/
theorem compile_heading_iff_returning :
    ∃ fault, (compile returningSource 4).result = .error fault ∧
      fault.message = "unknown token '@' at 1:9" ∧
      headingLocation
          (fault.diagnostic.report false returningSource "main.teeny") ≠
        "1:9" ∧
      ∃ column,
        headingLocation
            (fault.diagnostic.report false returningSource "main.teeny") =
          Position.text ⟨2, column⟩ := by
  have failed : (compile returningSource 4).result =
      .error (.lexical ⟨.strayChar '@', ⟨1, 9⟩, ⟨8, 9⟩⟩) := by
    decide +kernel
  have quotes : (Fault.lexical ⟨.strayChar '@', ⟨1, 9⟩, ⟨8, 9⟩⟩).message =
      "unknown token '@'" ++ " at " ++ Position.text ⟨1, 9⟩ := by
    decide +kernel
  have foreign : foreignLineEnds (startingBefore returningSource 8) = 1 := by
    decide +kernel
  obtain ⟨further, same⟩ :=
    compile_heading_iff failed rfl quotes "main.teeny"
  rw [Fault.span, foreign] at further same
  refine ⟨_, failed, quotes, ?_, further⟩
  intro agrees
  cases same.mp agrees

end TeenyTiny
