import TeenyTiny.Proofs.Closed

/-!
# What the printed strings look like

A string behind `PRINT` becomes the format of a call without arguments.  C
decodes the escapes of the literal (`literalValue`), and the call writes the
format up to its first NUL, with `%` as the start of a conversion
(`formatOutput`).  No character of a string is an escape, a quote or a `%`, so
the string comes out as it stands, and the end of the line behind it; but a NUL
is no forbidden character, and it ends what is written
(`compile_prints_strings`).
-/

namespace TeenyTiny

/-! ## Calls that print a format -/

/-- The escapes of one letter, with the characters that they stand for. -/
def letterEscapes : List (Char × Char) :=
  [('n', '\n'), ('t', '\t'), ('r', '\r'), ('a', '\x07'), ('b', '\x08'),
    ('f', '\x0c'), ('v', '\x0b'), ('\\', '\\'), ('"', '"'), ('\x27', '\x27'),
    ('?', '?')]

/-- The characters of a literal behind its opening quote.  The first quote that
is not escaped has to be the last character, and escapes by number are not
read. -/
def literalBody : List Char → Option (List Char)
  | [] => none
  | ['"'] => some []
  | '"' :: _ :: _ => none
  | ['\\'] => none
  | '\\' :: letter :: rest =>
      match letterEscapes.lookup letter, literalBody rest with
      | some c, some text => some (c :: text)
      | _, _ => none
  | c :: rest => (literalBody rest).map (c :: ·)

/-- The text that a string literal stands for. -/
def literalValue : List Char → Option (List Char)
  | '"' :: rest => literalBody rest
  | _ => none

/-- What a format writes that gets no arguments.  A conversion would need
one. -/
def formatOutput : List Char → Option (List Char)
  | [] => some []
  | '%' :: '%' :: rest => (formatOutput rest).map ('%' :: ·)
  | c :: rest =>
      if c = '\x00' then some []
      else if c = '%' then none
      else (formatOutput rest).map (c :: ·)

/-- What a call writes that gets nothing but the literal. -/
def callOutput (literal : String) : Option (List Char) :=
  (literalValue literal.toList).bind formatOutput

/-- The line of a call that gets nothing but the literal. -/
def formatLine (literal : String) : List CToken :=
  [.word "printf", .mark "(", .literal literal, .mark ")", .mark ";"]

/-- The literal of a line that is such a call. -/
def formatCall? : List CToken → Option String
  | [.word "printf", .mark "(", .literal literal, .mark ")", .mark ";"] =>
      some literal
  | _ => none

/-- The literals of all such calls in a text, in order. -/
def formatCalls (text : String) : List String :=
  (cLines text).filterMap formatCall?

theorem formatCall?_eq_none_iff {line : List CToken} :
    formatCall? line = none ↔ ∀ literal, line ≠ formatLine literal := by
  constructor
  · rintro none literal rfl
    cases none
  · intro other
    unfold formatCall?
    split
    · rename_i literal
      exact absurd rfl (other literal)
    · rfl

/-! ## The output of a string -/

/-- A reader that passes every character of a text passes the text. -/
theorem append_of_passes {read : List Char → Option (List Char)}
    {text : List Char}
    (passes : ∀ c ∈ text, ∀ rest, read (c :: rest) = (read rest).map (c :: ·))
    (rest : List Char) :
    read (text ++ rest) = (read rest).map (text ++ ·) := by
  induction text with
  | nil =>
      simp
  | cons first text inductionHypothesis =>
      rw [List.forall_mem_cons] at passes
      rw [List.cons_append, passes.1, inductionHypothesis passes.2,
        Option.map_map]
      rfl

theorem literalBody_cons {c : Char}
    (plain : Lexeme.isStringChar c = true)
    (rest : List Char) :
    literalBody (c :: rest) = (literalBody rest).map (c :: ·) := by
  have noQuote : c ≠ '"' := by
    rintro rfl
    exact absurd plain (by decide)
  have noEscape : c ≠ '\\' := by
    rintro rfl
    exact absurd plain (by decide)
  rw [literalBody] <;> simp [noQuote, noEscape]

theorem formatOutput_cons {c : Char}
    (plain : Lexeme.isStringChar c = true)
    (visible : c ≠ '\x00')
    (rest : List Char) :
    formatOutput (c :: rest) = (formatOutput rest).map (c :: ·) := by
  have noConversion : c ≠ '%' := by
    rintro rfl
    exact absurd plain (by decide)
  rw [formatOutput] <;> simp [visible, noConversion]

section Strings

variable {text : String}

theorem literalValue_printed
    (plain : ∀ c ∈ text.toList, Lexeme.isStringChar c = true) :
    literalValue ("\"" ++ text ++ "\\n\"").toList =
      some (text.toList ++ ['\n']) := by
  have whole : ("\"" ++ text ++ "\\n\"").toList =
      '"' :: (text.toList ++ ['\\', 'n', '"']) := by
    simp
  rw [whole, literalValue,
    append_of_passes fun c member => literalBody_cons (plain c member)]
  rfl

/-- A string without NUL is written as it stands, with the end of the line
behind it. -/
theorem callOutput_verbatim
    (plain : ∀ c ∈ text.toList, Lexeme.isStringChar c = true)
    (visible : '\x00' ∉ text.toList) :
    callOutput ("\"" ++ text ++ "\\n\"") = some (text.toList ++ ['\n']) := by
  have passes : ∀ c ∈ text.toList, ∀ rest,
      formatOutput (c :: rest) = (formatOutput rest).map (c :: ·) := by
    intro c member
    exact formatOutput_cons (plain c member)
      (ne_of_mem_of_not_mem member visible)
  rw [callOutput, literalValue_printed plain, Option.bind_some,
    append_of_passes passes]
  rfl

/-- Of a string with a NUL, only what stands before it is written. -/
theorem callOutput_truncated
    (plain : ∀ c ∈ text.toList, Lexeme.isStringChar c = true)
    (hidden : '\x00' ∈ text.toList) :
    callOutput ("\"" ++ text ++ "\\n\"") =
      some (text.toList.takeWhile (· ≠ '\x00')) := by
  obtain ⟨front, rest, cut, first⟩ := List.eq_append_cons_of_mem hidden
  have visible : ∀ c ∈ front, c ≠ '\x00' := by
    intro c member
    exact ne_of_mem_of_not_mem member first
  have passes : ∀ c ∈ front, ∀ rest,
      formatOutput (c :: rest) = (formatOutput rest).map (c :: ·) := by
    intro c member
    exact formatOutput_cons (plain c (by simp [cut, member]))
      (visible c member)
  have shown : text.toList.takeWhile (· ≠ '\x00') = front := by
    rw [cut, List.takeWhile_append_of_pos (by simpa using visible)]
    simp
  have stops : formatOutput ('\x00' :: rest ++ ['\n']) = some [] := by
    simp [formatOutput]
  rw [callOutput, literalValue_printed plain, Option.bind_some, shown, cut,
    List.append_assoc, append_of_passes passes, stops]
  simp

example : callOutput "\"a\x00b\\n\"" = some ['a'] := by
  decide

end Strings

/-! ## The strings of a program -/

mutual

/-- The texts that a statement prints. -/
def Statement.texts : Statement → List String
  | .printText text => [text]
  | .block _ _ body => Statement.textsAll body
  | _ => []

def Statement.textsAll : List Statement → List String
  | [] => []
  | statement :: rest => statement.texts ++ Statement.textsAll rest

end

mutual

theorem Statement.formatCalls_cLines : (statement : Statement) →
    statement.cLines.filterMap formatCall? =
      statement.texts.map fun text => "\"" ++ text ++ "\\n\""
  | .printText _ => rfl
  | .input _ | .printValue _ | .assign _ _ => by
      simp [Statement.cLines, Statement.texts, formatCall?_eq_none_iff,
        formatLine]
  | .label _ => by
      simp [Statement.cLines, Statement.texts, formatCall?_eq_none_iff,
        formatLine, labelLine]
  | .jump _ => by
      simp [Statement.cLines, Statement.texts, formatCall?_eq_none_iff,
        formatLine, jumpLine]
  | .block kind test body => by
      have opener : formatCall? (.word kind.cWord :: .mark "(" ::
          (test.cTokens ++ [.mark ")", .mark "\x7b"])) = none := by
        rw [formatCall?_eq_none_iff]
        cases kind <;> simp [formatLine, Block.cWord]
      have closer : formatCall? [.mark "\x7d"] = none := rfl
      rw [Statement.cLines, List.filterMap_cons_none opener,
        List.filterMap_append, Statement.formatCalls_cLinesAll body,
        List.filterMap_cons_none closer, List.filterMap_nil, List.append_nil]
      rfl

theorem Statement.formatCalls_cLinesAll : (statements : List Statement) →
    (Statement.cLinesAll statements).filterMap formatCall? =
      (Statement.textsAll statements).map fun text =>
        "\"" ++ text ++ "\\n\""
  | [] => rfl
  | statement :: rest => by
      rw [Statement.cLinesAll, Statement.textsAll, List.filterMap_append,
        List.map_append, statement.formatCalls_cLines,
        Statement.formatCalls_cLinesAll rest]

end

/-- The texts of the string tokens, in order. -/
def stringTexts (tokens : List Token) : List String :=
  (tokens.filter fun token => token.kind = .string).map (·.text)

section Tokens

variable {tokens : List Token}

theorem stringTexts_append (tokens more : List Token) :
    stringTexts (tokens ++ more) = stringTexts tokens ++ stringTexts more := by
  simp [stringTexts]

theorem stringTexts_cons_of_ne {token : Token}
    (other : token.kind ≠ .string) :
    stringTexts (token :: tokens) = stringTexts tokens := by
  simp [stringTexts, other]

theorem stringTexts_eq_nil
    (others : ∀ token ∈ tokens, token.kind ≠ .string) :
    stringTexts tokens = [] := by
  simpa [stringTexts, List.filter_eq_nil_iff] using others

theorem Blank.stringTexts
    (blank : Blank tokens) :
    stringTexts tokens = [] := by
  apply stringTexts_eq_nil
  intro token member
  simp [blank token member]

theorem Expr.SpelledBy.stringTexts {expr : Expr}
    (spelled : expr.SpelledBy tokens) :
    stringTexts tokens = [] :=
  stringTexts_eq_nil fun token member =>
    (spelled.standsInExpr token member).ne_string

theorem Comparison.SpelledBy.stringTexts {test : Comparison}
    (spelled : test.SpelledBy tokens) :
    stringTexts tokens = [] :=
  stringTexts_eq_nil fun token member =>
    (spelled.standsInExpr token member).ne_string

theorem Statement.SpelledBy.stringTexts {statement : Statement}
    (spelled : statement.SpelledBy tokens) :
    stringTexts tokens = statement.texts := by
  cases spelled with
  | printText wordKind textKind =>
      simp [TeenyTiny.stringTexts, wordKind, textKind, Statement.texts]
  | printValue wordKind spelled =>
      rw [stringTexts_cons_of_ne (by simp [wordKind]), spelled.stringTexts]
      rfl
  | label wordKind nameKind | jump wordKind nameKind
  | input wordKind nameKind =>
      exact stringTexts_eq_nil (by simp [wordKind, nameKind])
  | assign wordKind nameKind equalsKind spelled =>
      rw [stringTexts_cons_of_ne (by simp [wordKind]),
        stringTexts_cons_of_ne (by simp [nameKind]),
        stringTexts_cons_of_ne (by simp [equalsKind]), spelled.stringTexts]
      rfl

/-- The strings among the tokens are the texts that the tree prints. -/
theorem Program.SpelledBy.stringTexts {program : Program}
    (spelled : program.SpelledBy tokens) :
    stringTexts tokens = Statement.textsAll program := by
  induction spelled with
  | nil =>
      rfl
  | simple spelled ends _ inductionHypothesis =>
      rw [stringTexts_append, stringTexts_append, spelled.stringTexts,
        ends.2.stringTexts, inductionHypothesis]
      rfl
  | block openerKind testSpelled dividerKind ends _ closerKind closes _
      bodyHypothesis restHypothesis =>
      rw [stringTexts_cons_of_ne (by simp [openerKind]), stringTexts_append,
        testSpelled.stringTexts,
        stringTexts_cons_of_ne (by simp [dividerKind]), stringTexts_append,
        ends.2.stringTexts, stringTexts_append, bodyHypothesis,
        stringTexts_cons_of_ne (by simp [closerKind]), stringTexts_append,
        closes.2.stringTexts, restHypothesis]
      rfl

theorem Program.WrittenAs.stringTexts {program : Program}
    (written : program.WrittenAs tokens) :
    stringTexts tokens = Statement.textsAll program := by
  obtain ⟨blank, body, last, rfl, isBlank, spelled, kind⟩ := written
  have ends : TeenyTiny.stringTexts [last] = [] :=
    stringTexts_eq_nil (by simp [kind])
  rw [stringTexts_append, stringTexts_append, isBlank.stringTexts,
    spelled.stringTexts, ends, List.append_nil]
  rfl

theorem isStringChar_of_stringTexts {text : String} {c : Char}
    (admits : ∀ token ∈ tokens, token.kind.Admits token.text)
    (member : text ∈ stringTexts tokens)
    (inside : c ∈ text.toList) :
    Lexeme.isStringChar c = true := by
  obtain ⟨token, found, rfl⟩ := List.mem_map.mp member
  rw [List.mem_filter, decide_eq_true_eq] at found
  have admitted := admits token found.1
  rw [found.2] at admitted
  exact admitted c inside

end Tokens

/-! ## Compiled strings -/

theorem cLines_lines {program : Program}
    (admitted : Statement.AllAdmitted program)
    (width : Nat) :
    cLines (CLine.renderAll width program.lines) =
      openingTokens ++ program.variables.map declarationLine ++
        (Statement.cLinesAll program ++ closingTokens) ++ [[]] := by
  apply cLines_renderAll
  · exact List.rel_append
      (lexes_headerLines (Program.isName_of_variables admitted))
      (lexes_bodyLines admitted)
  · rw [List.forall_mem_append]
    exact ⟨newline_notMem_header _, newline_notMem_body program⟩

theorem formatCalls_lines {program : Program}
    (admitted : Statement.AllAdmitted program)
    (width : Nat) :
    formatCalls (CLine.renderAll width program.lines) =
      (Statement.textsAll program).map fun text =>
        "\"" ++ text ++ "\\n\"" := by
  have declarations : ∀ names : List String,
      (names.map declarationLine).filterMap formatCall? = [] := by
    intro names
    simp [List.filterMap_eq_nil_iff, formatCall?_eq_none_iff, formatLine,
      declarationLine]
  have opening : openingTokens.filterMap formatCall? = [] := by
    decide
  have closing : closingTokens.filterMap formatCall? = [] := by
    decide
  have last : [[]].filterMap formatCall? = [] := by
    decide
  rw [formatCalls, cLines_lines admitted]
  simp only [List.filterMap_append, opening, declarations, closing, last,
    Statement.formatCalls_cLinesAll, List.nil_append, List.append_nil]

/-- The calls of a compiled source that get nothing but a literal are those of
its strings, in order.  A call writes its string as it stands and the end of the
line, unless the string has a NUL: then it writes what stands before the first
one. -/
theorem compile_prints_strings
    {source : List Char} {width : Nat} {text : String}
    (accepted : (compile source width).result = .ok text) :
    ∃ tokens, tokenize source = .ok tokens ∧
      List.Forall₂
        (fun literal string =>
          ('\x00' ∉ string.toList →
            callOutput literal = some (string.toList ++ ['\n'])) ∧
          ('\x00' ∈ string.toList →
            callOutput literal =
              some (string.toList.takeWhile (· ≠ '\x00'))))
        (formatCalls text) (stringTexts tokens) := by
  obtain ⟨body, last, final, tokenized, finished, _, rfl⟩ :=
    exists_finished_of_compile accepted
  have written := finished.writtenAs
  have admits : ∀ token ∈ body ++ [last], token.kind.Admits token.text :=
    fun token member => admits_of_tokenize tokenized member
  refine ⟨body ++ [last], tokenized, ?_⟩
  rw [Reading.text_write_empty, finished.names_eq_variables, ← Program.lines,
    formatCalls_lines (written.admitted admits), ← written.stringTexts,
    List.forall₂_map_left_iff, List.forall₂_same]
  intro string member
  have plain : ∀ c ∈ string.toList, Lexeme.isStringChar c = true :=
    fun c inside => isStringChar_of_stringTexts admits member inside
  exact ⟨callOutput_verbatim plain, callOutput_truncated plain⟩

/-- A source with a NUL in one of its strings. -/
def truncatingSource : List Char :=
  "PRINT \"a\x00b\"\nPRINT \"caf\u00e9 ?\"\n".toList

theorem compile_prints_strings_truncating :
    ∃ text, (compile truncatingSource 2).result = .ok text ∧
      ∃ tokens, tokenize truncatingSource = .ok tokens ∧
        List.Forall₂
          (fun literal string =>
            ('\x00' ∉ string.toList →
              callOutput literal = some (string.toList ++ ['\n'])) ∧
            ('\x00' ∈ string.toList →
              callOutput literal =
                some (string.toList.takeWhile (· ≠ '\x00'))))
          (formatCalls text) (stringTexts tokens) := by
  have accepted : (compile truncatingSource 2).result =
      .ok ("#include <stdio.h>\nint main(void) \x7b\n" ++
        "  printf(\"a\x00b\\n\");\n  printf(\"caf\u00e9 ?\\n\");\n" ++
        "  return 0;\n\x7d\n") := by
    decide +kernel
  exact ⟨_, accepted, compile_prints_strings accepted⟩

end TeenyTiny
