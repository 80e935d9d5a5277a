import TeenyTiny.Proofs.Closed

/-!
# Braces and indentation

The lines of a program are nested: between a line that ends in an opening brace
and the closing brace that belongs to it, all lines are one level deeper
(`Nested`).  So whoever reads the text of a compiled program from the top and
counts braces at the ends and in place of lines knows how far each line is
indented (`compile_nested`).  Braces inside of lines, in printed strings too, do
not count.
-/

namespace TeenyTiny

/-! ## Texts line by line -/

/-- The lines of a text.  A line ends at `\n`, and what stands behind the last
end is a line only if there is something. -/
def textLines : List Char → List (List Char)
  | [] => []
  | c :: rest =>
      if c = '\n' then [] :: textLines rest
      else
        match textLines rest with
        | [] => [[c]]
        | line :: more => (c :: line) :: more

/-- The text with the given lines, each of which has its end. -/
def joinLines (lines : List (List Char)) : List Char :=
  lines.flatMap (· ++ ['\n'])

/-- The number of spaces in front of a line. -/
def leadingSpaces (line : List Char) : Nat :=
  (line.takeWhile (· = ' ')).length

/-- The line without the spaces in front. -/
def unindented (line : List Char) : List Char :=
  line.dropWhile (· = ' ')

/-- The lines with the depths at which they stand.  A line that is nothing but
a closing brace is one less deep than the line before it, and the lines behind
one that ends in an opening brace are one deeper. -/
def withDepths : Int → List (List Char) → List (Int × List Char)
  | _, [] => []
  | depth, line :: rest =>
      let here := if unindented line = ['\x7d'] then depth - 1 else depth
      (here, line) ::
        withDepths (if line.getLast? = some '\x7b' then here + 1 else here) rest

example :
    withDepths 0 (textLines "a \x7b\n b \x7b \x7d\n \x7d\n\x7b\x7d".toList) =
    [(0, "a \x7b".toList), (1, " b \x7b \x7d".toList), (0, " \x7d".toList),
      (0, "\x7b\x7d".toList)] := by
  decide

section Texts

variable {line : List Char} {lines : List (List Char)}

theorem textLines_append
    (inLine : '\n' ∉ line)
    (rest : List Char) :
    textLines (line ++ '\n' :: rest) = line :: textLines rest := by
  induction line with
  | nil =>
      rw [List.nil_append, textLines, if_pos rfl]
  | cons first line inductionHypothesis =>
      rw [List.mem_cons, not_or] at inLine
      have noEnd : first ≠ '\n' := fun same => inLine.1 same.symm
      rw [List.cons_append, textLines, if_neg noEnd,
        inductionHypothesis inLine.2]

theorem textLines_joinLines
    (inLine : ∀ line ∈ lines, '\n' ∉ line) :
    textLines (joinLines lines) = lines := by
  induction lines with
  | nil =>
      rfl
  | cons line lines inductionHypothesis =>
      rw [List.forall_mem_cons] at inLine
      have whole : joinLines (line :: lines) =
          line ++ '\n' :: joinLines lines := by
        simp [joinLines]
      rw [whole, textLines_append inLine.1, inductionHypothesis inLine.2]

theorem getLast?_joinLines
    (nonempty : lines ≠ []) :
    (joinLines lines).getLast? = some '\n' := by
  obtain ⟨front, line, rfl⟩ := List.eq_nil_or_concat lines |>.resolve_left
    nonempty
  simp [joinLines]

theorem leadingSpaces_append {text : List Char}
    (solid : text.head? ≠ some ' ')
    (count : Nat) :
    leadingSpaces (List.replicate count ' ' ++ text) = count := by
  have cut : (List.replicate count ' ' ++ text).takeWhile (· = ' ') =
      List.replicate count ' ' := by
    apply takeWhile_append_of_stop
    · simp
    · rintro c first
      rw [first] at solid
      simpa using solid
  rw [leadingSpaces, cut, List.length_replicate]

theorem unindented_append {text : List Char}
    (solid : text.head? ≠ some ' ')
    (count : Nat) :
    unindented (List.replicate count ' ' ++ text) = text := by
  apply dropWhile_append_of_stop
  · simp
  · rintro c first
    rw [first] at solid
    simpa using solid

end Texts

/-! ## Lines of listings -/

namespace CLine

/-- The characters of a line without its end. -/
def chars (width : Nat) (line : CLine) : List Char :=
  List.replicate (line.level * width) ' ' ++ line.text.toList

theorem toList_render (width : Nat) (line : CLine) :
    (line.render width).toList = line.chars width ++ ['\n'] := by
  simp [render, chars]

theorem toList_renderAll (width : Nat) (lines : List CLine) :
    (renderAll width lines).toList = joinLines (lines.map (chars width)) := by
  induction lines with
  | nil =>
      rfl
  | cons line lines inductionHypothesis =>
      simp [inductionHypothesis, toList_render, joinLines]

/-- The text of the line is all of the line but the spaces in front. -/
structure Solid (line : CLine) : Prop where
  starts : line.text.toList.head? ≠ some ' '
  inLine : '\n' ∉ line.text.toList

theorem Solid.newline_notMem_chars {line : CLine}
    (solid : line.Solid) (width : Nat) :
    '\n' ∉ line.chars width := by
  simp [chars, solid.inLine]

theorem Solid.unindented_chars {line : CLine}
    (solid : line.Solid) (width : Nat) :
    unindented (line.chars width) = line.text.toList :=
  unindented_append solid.starts _

theorem Solid.leadingSpaces_chars {line : CLine}
    (solid : line.Solid) (width : Nat) :
    leadingSpaces (line.chars width) = line.level * width :=
  leadingSpaces_append solid.starts _

theorem textLines_renderAll {lines : List CLine}
    (solid : ∀ line ∈ lines, line.Solid)
    (width : Nat) :
    textLines (renderAll width lines).toList = lines.map (chars width) := by
  rw [toList_renderAll, textLines_joinLines]
  intro shown member
  obtain ⟨line, inside, rfl⟩ := List.mem_map.mp member
  exact (solid line inside).newline_notMem_chars width

/-! ## Nested lines -/

/-- The character can start a line that is no closing brace. -/
def isWordStart (c : Char) : Bool :=
  c != ' ' && c != '\x7d'

/-- The line starts with a word or another sign than a closing brace, and it
ends in the given character. -/
structure Worded (line : CLine) (last : Char) : Prop where
  starts : line.text.toList.head?.any isWordStart = true
  ends : line.text.toList.getLast? = some last
  inLine : '\n' ∉ line.text.toList

/-- The line that closes a block at the level. -/
def closer (level : Nat) : CLine :=
  ⟨level, "\x7d"⟩

end CLine

open CLine

/-- The lines stand at the level, but for those in blocks, which are one level
deeper. -/
inductive Nested : Nat → List CLine → Prop
  | nil {level : Nat} : Nested level []
  | plain {line : CLine} {last : Char} {rest : List CLine}
      (worded : line.Worded last)
      (noBlock : last ≠ '\x7b')
      (restNested : Nested line.level rest) :
      Nested line.level (line :: rest)
  | block {opener : CLine} {body rest : List CLine}
      (worded : opener.Worded '\x7b')
      (bodyNested : Nested (opener.level + 1) body)
      (restNested : Nested opener.level rest) :
      Nested opener.level (opener :: (body ++ closer opener.level :: rest))

section Nesting

variable {level : Nat} {line : CLine} {lines : List CLine} {last : Char}

theorem CLine.Worded.head?_eq
    (worded : line.Worded last) :
    ∃ first, line.text.toList.head? = some first ∧ first ≠ ' ' ∧
      first ≠ '\x7d' := by
  obtain ⟨first, starts, visible⟩ :=
    (Option.any_eq_true ..).mp worded.starts
  rw [isWordStart, Bool.and_eq_true, bne_iff_ne, bne_iff_ne] at visible
  exact ⟨first, starts, visible⟩

theorem CLine.Worded.solid
    (worded : line.Worded last) :
    line.Solid := by
  obtain ⟨first, starts, noSpace, _⟩ := worded.head?_eq
  refine ⟨?_, worded.inLine⟩
  rw [starts]
  simpa using noSpace

theorem toList_closer (level : Nat) :
    (closer level).text.toList = ['\x7d'] :=
  (rfl : "\x7d".toList = ['\x7d'])

theorem solid_closer (level : Nat) : (closer level).Solid := by
  constructor <;> rw [toList_closer] <;> decide

theorem Nested.solid
    (nested : Nested level lines) :
    ∀ line ∈ lines, line.Solid := by
  induction nested with
  | nil =>
      simp
  | plain worded _ _ inductionHypothesis =>
      rw [List.forall_mem_cons]
      exact ⟨worded.solid, inductionHypothesis⟩
  | block worded _ _ bodyHypothesis restHypothesis =>
      rw [List.forall_mem_cons, List.forall_mem_append, List.forall_mem_cons]
      exact ⟨worded.solid, bodyHypothesis, solid_closer _, restHypothesis⟩

theorem Nested.level_le
    (nested : Nested level lines) :
    ∀ line ∈ lines, level ≤ line.level := by
  induction nested with
  | nil =>
      simp
  | plain _ _ _ inductionHypothesis =>
      rw [List.forall_mem_cons]
      exact ⟨Nat.le_refl _, inductionHypothesis⟩
  | block _ _ _ bodyHypothesis restHypothesis =>
      rw [List.forall_mem_cons, List.forall_mem_append, List.forall_mem_cons]
      refine ⟨Nat.le_refl _, ?_, Nat.le_refl _, restHypothesis⟩
      intro line member
      exact Nat.le_of_succ_le (bodyHypothesis line member)

theorem Nested.append {more : List CLine}
    (nested : Nested level lines)
    (moreNested : Nested level more) :
    Nested level (lines ++ more) := by
  induction nested with
  | nil =>
      exact moreNested
  | plain worded noBlock _ inductionHypothesis =>
      exact .plain worded noBlock (inductionHypothesis moreNested)
  | block worded bodyNested _ _ restHypothesis =>
      rw [List.cons_append, List.append_assoc]
      exact .block worded bodyNested (restHypothesis moreNested)

/-! ## Depths -/

theorem withDepths_worded {width : Nat}
    (worded : line.Worded last)
    (depth : Int) (rest : List (List Char)) :
    withDepths depth (line.chars width :: rest) =
      (depth, line.chars width) ::
        withDepths (if last = '\x7b' then depth + 1 else depth) rest := by
  obtain ⟨first, starts, _, noBrace⟩ := worded.head?_eq
  have noCloser : unindented (line.chars width) ≠ ['\x7d'] := by
    rw [worded.solid.unindented_chars]
    intro same
    rw [same] at starts
    cases starts
    exact noBrace rfl
  have ends : (line.chars width).getLast? = some last := by
    rw [chars, List.getLast?_append, worded.ends, Option.some_or]
  simp only [withDepths, noCloser, ends, if_false, Option.some.injEq]

theorem withDepths_closer {width : Nat}
    (depth : Int) (rest : List (List Char)) :
    withDepths (depth + 1) ((closer level).chars width :: rest) =
      (depth, (closer level).chars width) :: withDepths depth rest := by
  have closes : unindented ((closer level).chars width) = ['\x7d'] := by
    rw [(solid_closer level).unindented_chars, toList_closer]
  have ends : ((closer level).chars width).getLast? = some '\x7d' := by
    rw [chars, toList_closer, List.getLast?_concat]
  have noOpener : ¬ some '\x7d' = some '\x7b' := by
    decide
  simp only [withDepths, closes, ends, noOpener, if_true, if_false,
    Int.add_sub_cancel]

/-- Nested lines are read at their levels, and behind them the depth is that
before them. -/
theorem Nested.withDepths_append {width : Nat}
    (nested : Nested level lines)
    (rest : List (List Char)) :
    withDepths level (lines.map (chars width) ++ rest) =
      lines.map (fun line => ((line.level : Int), line.chars width)) ++
        withDepths level rest := by
  induction nested generalizing rest with
  | nil =>
      rfl
  | plain worded noBlock _ inductionHypothesis =>
      rw [List.map_cons, List.cons_append, withDepths_worded worded,
        if_neg noBlock, inductionHypothesis]
      rfl
  | block worded _ _ bodyHypothesis restHypothesis =>
      rw [List.map_cons, List.cons_append, withDepths_worded worded,
        if_pos rfl, List.map_append, List.append_assoc, List.map_cons,
        List.cons_append]
      rw [← Int.natCast_succ, bodyHypothesis, Int.natCast_succ,
        withDepths_closer, restHypothesis]
      simp [closer]

end Nesting

/-! ## Expressions on one line -/

theorem IsName.newline_notMem {name : List Char}
    (named : IsName name) :
    '\n' ∉ name := by
  cases named with
  | intro letter others =>
      rw [List.mem_cons, not_or]
      constructor
      · rintro rfl
        exact absurd letter (by decide)
      · intro member
        exact absurd (others _ member) (by decide)

theorem Operand.newline_notMem_cText {operand : Operand}
    (admitted : operand.Admitted) :
    '\n' ∉ operand.cText.toList := by
  rcases operand with digits | name
  · obtain ⟨first, tail, spelled, digit, decimal⟩ :=
      exists_decimalText admitted
    rw [Operand.cText, spelled, List.mem_cons, not_or]
    constructor
    · rintro rfl
      exact absurd digit (by decide)
    · intro member
      rcases decimal _ member with noDigit | noPoint
      · exact absurd noDigit (by decide)
      · exact absurd noPoint (by decide)
  · exact IsName.newline_notMem admitted

theorem Factor.newline_notMem_cText {factor : Factor}
    (admitted : factor.operand.Admitted) :
    '\n' ∉ factor.cText.toList := by
  obtain ⟨sign, operand⟩ := factor
  have inLine := Operand.newline_notMem_cText admitted
  cases sign with
  | none =>
      exact inLine
  | some op =>
      have signInLine : '\n' ∉ (Operator.text op).toList := by
        cases op <;> decide
      rw [Factor.cText, String.toList_append, List.mem_append, not_or]
      exact ⟨signInLine, inLine⟩

/-- A chain is on one line if its operators and its operands are. -/
theorem Chain.newline_notMem_cText {Op Arg : Type}
    {opText : Op → String} {argText : Arg → String} {property : Arg → Prop}
    (ops : ∀ op, '\n' ∉ (opText op).toList)
    (args : ∀ arg, property arg → '\n' ∉ (argText arg).toList)
    {chain : Chain Op Arg}
    (all : chain.All property) :
    '\n' ∉ (chain.cText opText argText).toList := by
  induction chain with
  | first arg =>
      exact args arg all
  | join left op right inductionHypothesis =>
      have leftInLine := inductionHypothesis all.1
      have rightInLine := args right all.2
      simp [Chain.cText, leftInLine, ops op, rightInLine]

theorem Term.newline_notMem_cText {term : Term}
    (admitted : term.Admitted) :
    '\n' ∉ term.cText.toList := by
  refine Chain.newline_notMem_cText ?_ ?_ admitted
  · intro op
    cases op <;> decide
  · intro factor
    exact Factor.newline_notMem_cText

theorem Expr.newline_notMem_cText {expr : Expr}
    (admitted : expr.Admitted) :
    '\n' ∉ expr.cText.toList := by
  refine Chain.newline_notMem_cText ?_ ?_ admitted
  · intro op
    cases op <;> decide
  · intro term
    exact Term.newline_notMem_cText

theorem Comparison.newline_notMem_cText {test : Comparison}
    (admitted : test.Admitted) :
    '\n' ∉ test.cText.toList := by
  refine Chain.newline_notMem_cText ?_ ?_ admitted
  · intro op
    cases op <;> decide
  · intro expr
    exact Expr.newline_notMem_cText

/-! ## Lines of statements -/

/-- The text can start a line that is no closing brace. -/
structure Begins (text : String) : Prop where
  starts : text.toList.head?.any isWordStart = true
  inLine : '\n' ∉ text.toList

section Beginnings

variable {level : Nat} {text : String}

theorem begins_name
    (named : IsName text.toList) :
    Begins text := by
  refine ⟨?_, named.newline_notMem⟩
  generalize text.toList = letters at named
  cases named with
  | @intro first _ letter _ =>
      have noSpace : first ≠ ' ' := by
        rintro rfl
        exact absurd letter (by decide)
      have noBrace : first ≠ '\x7d' := by
        rintro rfl
        exact absurd letter (by decide)
      simp [isWordStart, noSpace, noBrace]

theorem Begins.append {more : String}
    (begins : Begins text)
    (inLine : '\n' ∉ more.toList) :
    Begins (text ++ more) := by
  obtain ⟨starts, textInLine⟩ := begins
  constructor
  · cases spelled : text.toList with
    | nil =>
        rw [spelled] at starts
        cases starts
    | cons first tail =>
        rw [spelled] at starts
        simpa [spelled] using starts
  · simp [textInLine, inLine]

theorem Begins.worded {back : String} {last : Char}
    (begins : Begins text)
    (inLine : '\n' ∉ back.toList)
    (ends : back.toList.getLast? = some last) :
    Worded ⟨level, text ++ back⟩ last := by
  obtain ⟨starts, allInLine⟩ := begins.append inLine
  refine ⟨starts, ?_, allInLine⟩
  rw [String.toList_append, List.getLast?_append, ends, Option.some_or]

end Beginnings

/-! ## Programs -/

theorem nested_single {level : Nat} {text : String}
    (worded : Worded ⟨level, text⟩ ';') :
    Nested level [⟨level, text⟩] :=
  .plain worded (by decide) .nil

mutual

/-- The lines of a statement are nested. -/
theorem Statement.nested : (statement : Statement) → (level : Nat) →
    statement.Admitted → Nested level (statement.lines level)
  | .printText text, level, admitted => by
      have inLine : '\n' ∉ text.toList := by
        intro member
        exact absurd (admitted _ member) (by decide)
      have front : Begins "printf(\"" := ⟨by decide, by decide⟩
      exact nested_single ((front.append inLine).worded (by decide) rfl)
  | .printValue value, level, admitted => by
      have front : Begins "printf(\"%.2f\\n\", (float)(" :=
        ⟨by decide, by decide⟩
      rw [Statement.lines, ← Expr.cText_eq]
      exact nested_single
        ((front.append (Expr.newline_notMem_cText admitted)).worded
          (by decide) rfl)
  | .label name, level, admitted =>
      nested_single ((begins_name admitted).worded (by decide) rfl)
  | .jump name, level, admitted => by
      have front : Begins "goto " := ⟨by decide, by decide⟩
      exact nested_single
        ((front.append (IsName.newline_notMem admitted)).worded
          (by decide) rfl)
  | .assign name value, level, admitted => by
      have front : Begins (name ++ " = ") :=
        (begins_name admitted.1).append (by decide)
      rw [Statement.lines, ← Expr.cText_eq]
      exact nested_single
        ((front.append (Expr.newline_notMem_cText admitted.2)).worded
          (by decide) rfl)
  | .input name, level, admitted => by
      have front : Begins "if (0 == scanf(\"%f\", &" :=
        ⟨by decide, by decide⟩
      have skips : Begins "scanf(\"%*s\")" := ⟨by decide, by decide⟩
      have opens : Worded ⟨level,
          "if (0 == scanf(\"%f\", &" ++ name ++ ")) \x7b"⟩ '\x7b' :=
        (front.append (IsName.newline_notMem admitted)).worded (by decide) rfl
      have inside : Nested (level + 1)
          [⟨level + 1, name ++ " = 0;"⟩,
            ⟨level + 1, "scanf(\"%*s\");"⟩] :=
        (nested_single ((begins_name admitted).worded (by decide) rfl)).append
          (nested_single (@Begins.worded _ _ ";" _ skips (by decide) rfl))
      exact .block opens inside .nil
  | .block kind test body, level, admitted => by
      have front : Begins (kind.cWord ++ " (") := by
        cases kind <;> exact ⟨by decide, by decide⟩
      rw [Statement.lines, ← Comparison.cText_eq]
      have opens : Worded
          ⟨level, kind.cWord ++ " (" ++ test.cText ++ ") \x7b"⟩ '\x7b' :=
        (front.append (Comparison.newline_notMem_cText admitted.1)).worded
          (by decide) rfl
      exact .block opens (Statement.nestedAll body (level + 1) admitted.2) .nil

theorem Statement.nestedAll : (statements : List Statement) →
    (level : Nat) → Statement.AllAdmitted statements →
      Nested level (Statement.linesAll level statements)
  | [], _, _ => .nil
  | statement :: rest, level, admitted =>
      (statement.nested level admitted.1).append
        (Statement.nestedAll rest level admitted.2)

end

namespace Program

/-- The lines between the braces of the function. -/
def innerLines (program : Program) : List CLine :=
  program.variables.map (fun name => ⟨1, "float " ++ name ++ ";"⟩) ++
    (program.statementLines ++ [⟨1, "return 0;"⟩])

theorem lines_eq (program : Program) :
    program.lines =
      ⟨0, "#include <stdio.h>"⟩ :: ⟨0, "int main(void) \x7b"⟩ ::
        (program.innerLines ++ [closer 0]) := by
  simp [lines, headerLines, bodyLines, innerLines, statementLines, closer]

theorem nested_declarations {names : List String}
    (named : ∀ name ∈ names, IsName name.toList) :
    Nested 1 (names.map fun name => ⟨1, "float " ++ name ++ ";"⟩) := by
  have front : Begins "float " := ⟨by decide, by decide⟩
  induction names with
  | nil =>
      exact .nil
  | cons name names inductionHypothesis =>
      rw [List.forall_mem_cons] at named
      exact .plain
        ((front.append named.1.newline_notMem).worded (by decide) rfl)
        (by decide) (inductionHypothesis named.2)

variable {program : Program}

theorem nested_innerLines
    (admitted : Statement.AllAdmitted program) :
    Nested 1 program.innerLines := by
  have returns : Worded ⟨1, "return 0;"⟩ ';' := by
    constructor <;> decide
  rw [innerLines, statementLines, ← Statement.linesAll_eq_flatMap]
  exact (nested_declarations (isName_of_variables admitted)).append
    ((Statement.nestedAll program 1 admitted).append (nested_single returns))

/-- The lines of a whole program are nested. -/
theorem nested_lines
    (admitted : Statement.AllAdmitted program) :
    Nested 0 program.lines := by
  have includes : Worded ⟨0, "#include <stdio.h>"⟩ '>' := by
    constructor <;> decide
  have opens : Worded ⟨0, "int main(void) \x7b"⟩ '\x7b' := by
    constructor <;> decide
  rw [lines_eq]
  exact .plain includes (by decide)
    (.block opens (nested_innerLines admitted) .nil)

end Program

/-! ## Compiled programs -/

/-- An accepted source is written as one program, and compiled to its lines. -/
theorem exists_program_of_compile
    {source : List Char} {width : Nat} {text : String}
    (accepted : (compile source width).result = .ok text) :
    ∃ tokens, ∃ program : Program,
      tokenize source = .ok tokens ∧ program.WrittenAs tokens ∧
        (∀ other : Program, other.WrittenAs tokens → other = program) ∧
        Statement.AllAdmitted program ∧
        text = renderAll width program.lines := by
  obtain ⟨body, last, final, tokenized, finished, _, rfl⟩ :=
    exists_finished_of_compile accepted
  have written := finished.writtenAs
  have admitted := written.admitted fun token member =>
    admits_of_tokenize tokenized member
  refine ⟨body ++ [last], final.program, tokenized, written,
    fun _ => finished.program_unique, admitted, ?_⟩
  rw [Reading.text_write_empty, finished.names_eq_variables]
  rfl

/-- Count the depth while reading a compiled program line by line: one more
behind each line that ends in an opening brace, one less at each line that is a
closing brace.  Each line has as many spaces in front as its depth asks for, the
depth is at least one inside the function, and it is zero again at the closing
brace that ends the text. -/
theorem compile_nested
    {source : List Char} {width : Nat} {text : String}
    (accepted : (compile source width).result = .ok text) :
    text.toList.getLast? = some '\n' ∧
      (∀ entry ∈ withDepths 0 (textLines text.toList),
        (leadingSpaces entry.2 : Int) = entry.1 * width) ∧
      ∃ inner,
        withDepths 0 (textLines text.toList) =
            (0, "#include <stdio.h>".toList) ::
              (0, "int main(void) \x7b".toList) :: (inner ++ [(0, ['\x7d'])]) ∧
          ∀ entry ∈ inner, 1 ≤ entry.1 := by
  obtain ⟨_, program, _, _, _, admitted, rfl⟩ :=
    exists_program_of_compile accepted
  have nested := Program.nested_lines admitted
  have shown : withDepths 0 (textLines (renderAll width program.lines).toList) =
      program.lines.map fun line => ((line.level : Int), line.chars width) := by
    have read := @Nested.withDepths_append _ _ width nested []
    rw [textLines_renderAll nested.solid]
    simpa [withDepths] using read
  refine ⟨?_, ?_, ?_⟩
  · rw [toList_renderAll]
    apply getLast?_joinLines
    simp [Program.lines_eq]
  · rw [shown]
    intro entry member
    obtain ⟨line, inside, rfl⟩ := List.mem_map.mp member
    rw [(nested.solid line inside).leadingSpaces_chars]
    exact Int.natCast_mul ..
  · refine ⟨program.innerLines.map fun line =>
      ((line.level : Int), line.chars width), ?_, ?_⟩
    · rw [shown, Program.lines_eq]
      simp [chars, closer]
    · intro entry member
      obtain ⟨line, inside, rfl⟩ := List.mem_map.mp member
      have deep := (Program.nested_innerLines admitted).level_le line inside
      exact Int.ofNat_le.mpr deep

/-- A source with braces in its strings, also where lines of C would have
them. -/
def bracedSource : List Char :=
  ("WHILE 1 > 0 REPEAT\nINPUT a\nPRINT \"  \x7d \x7b\"\nENDWHILE\n" ++
    "PRINT \"\x7d\"\n").toList

theorem compile_nested_braced :
    ∃ text, (compile bracedSource 3).result = .ok text ∧
      text.toList.getLast? = some '\n' ∧
      (∀ entry ∈ withDepths 0 (textLines text.toList),
        (leadingSpaces entry.2 : Int) = entry.1 * (3 : Nat)) ∧
      ∃ inner,
        withDepths 0 (textLines text.toList) =
            (0, "#include <stdio.h>".toList) ::
              (0, "int main(void) \x7b".toList) :: (inner ++ [(0, ['\x7d'])]) ∧
          ∀ entry ∈ inner, 1 ≤ entry.1 := by
  have accepted : (compile bracedSource 3).result =
      .ok ("#include <stdio.h>\nint main(void) \x7b\n   float a;\n" ++
        "   while (1 > 0) \x7b\n      if (0 == scanf(\"%f\", &a)) \x7b\n" ++
        "         a = 0;\n         scanf(\"%*s\");\n      \x7d\n" ++
        "      printf(\"  \x7d \x7b\\n\");\n   \x7d\n" ++
        "   printf(\"\x7d\\n\");\n   return 0;\n\x7d\n") := by
    decide +kernel
  exact ⟨_, accepted, compile_nested accepted⟩

end TeenyTiny
