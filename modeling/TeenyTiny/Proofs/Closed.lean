import Mathlib.Data.List.Count
import Mathlib.Data.List.Nodup
import TeenyTiny.Proofs.Acceptance
import TeenyTiny.Proofs.Listing
import TeenyTiny.Proofs.TreeNames

/-!
# Programs in C are closed

All variables that the body of a compiled program uses are declared in its
header, each once, and every jump has its one label (`compile_closed`).  What a
line uses is told from its tokens alone, since a variable may have any name, be
it that of a function or a keyword of C.
-/

namespace TeenyTiny

open CToken

/-! ## Variables in a line -/

/-- Whether the tokens show that the word before them is no variable.  Behind a
function or a keyword there is an opening bracket, another word or a number,
behind a label a colon, and behind the type of a cast the bracket that closes it
and the one that opens its operand. -/
def CToken.announces : List CToken → Bool
  | .mark "(" :: _ => true
  | .mark ":" :: _ => true
  | .mark ")" :: .mark "(" :: _ => true
  | .word _ :: _ => true
  | .number _ :: _ => true
  | _ => false

/-- The words that stand for variables.  The flag tells whether a word stands
before the tokens, as it does before the label of a jump. -/
def CToken.usesFrom (behindWord : Bool) : List CToken → List String
  | [] => []
  | .word name :: rest =>
      if behindWord || announces rest then usesFrom true rest
      else name :: usesFrom true rest
  | _ :: rest => usesFrom false rest

/-- The variables that a line uses: its operands, and the variables that it
gives values. -/
def variableUses (line : List CToken) : List String :=
  usesFrom false line

example : (cLines "goto = while * 2;\ngoto goto;\nprintf(\"a\", (float)(if));"
    ).map variableUses = [["goto", "while"], [], ["if"]] := by
  decide +kernel

section Expressions

variable {rest : List CToken}

theorem usesFrom_true
    (quiet : announces rest = false) :
    usesFrom true rest = usesFrom false rest := by
  cases rest with
  | nil =>
      rfl
  | cons token rest =>
      cases token with
      | word _ => cases quiet
      | _ => rfl

theorem Factor.usesFrom_cTokens (factor : Factor)
    (quiet : announces rest = false) :
    usesFrom false (factor.cTokens ++ rest) =
      factor.operand.variables ++ usesFrom false rest := by
  have operand : usesFrom false (factor.operand.cToken :: rest) =
      factor.operand.variables ++ usesFrom false rest := by
    rcases factor.operand with digits | name
    · rfl
    · simp [Operand.cToken, Operand.variables, usesFrom, quiet,
        usesFrom_true quiet]
  obtain ⟨sign, _⟩ := factor
  cases sign <;> exact operand

theorem Chain.usesFrom_cTokens {Op Arg : Type} {opText : Op → String}
    {argTokens : Arg → List CToken} {names : Arg → List String}
    (ops : ∀ op rest, announces (.mark (opText op) :: rest) = false)
    (args : ∀ arg rest, announces rest = false →
      usesFrom false (argTokens arg ++ rest) =
        names arg ++ usesFrom false rest)
    (chain : Chain Op Arg)
    (quiet : announces rest = false) :
    usesFrom false (chain.cTokens opText argTokens ++ rest) =
      chain.gather names ++ usesFrom false rest := by
  induction chain generalizing rest with
  | first arg =>
      exact args arg rest quiet
  | join left op right inductionHypothesis =>
      rw [Chain.cTokens, List.append_assoc, List.cons_append,
        inductionHypothesis (ops op _), Chain.gather, List.append_assoc,
        ← args right rest quiet]
      rfl

theorem Expr.usesFrom_cTokens (expr : Expr)
    (quiet : announces rest = false) :
    usesFrom false (expr.cTokens ++ rest) =
      expr.variables ++ usesFrom false rest := by
  refine Chain.usesFrom_cTokens ?_ ?_ expr quiet
  · intro op rest
    cases op <;> rfl
  · intro term rest quiet
    refine Chain.usesFrom_cTokens ?_ ?_ term quiet
    · intro op rest
      cases op <;> rfl
    · intro factor rest quiet
      exact factor.usesFrom_cTokens quiet

theorem Comparison.usesFrom_cTokens (test : Comparison)
    (quiet : announces rest = false) :
    usesFrom false (test.cTokens ++ rest) =
      test.variables ++ usesFrom false rest := by
  refine Chain.usesFrom_cTokens ?_ ?_ _ quiet
  · intro op rest
    cases op <;> rfl
  · intro expr rest quiet
    exact expr.usesFrom_cTokens quiet

end Expressions

/-! ## Lines of statements -/

mutual

/-- The lines of a statement use what it reads and what it gives values. -/
theorem Statement.uses : (statement : Statement) →
    ∀ line ∈ statement.cLines, ∀ name ∈ variableUses line,
      name ∈ statement.reads ∨ name ∈ statement.targets
  | .printText text => by
      simp [Statement.cLines, variableUses, usesFrom, announces]
  | .printValue value => by
      have uses := value.usesFrom_cTokens
        (rfl : announces [.mark ")", .mark ")", .mark ";"] = false)
      rw [Statement.cLines, List.forall_mem_singleton]
      intro name member
      simp only [variableUses, usesFrom, announces, uses, Bool.false_or,
        if_true, List.append_nil] at member
      exact Or.inl member
  | .label name => by
      simp [Statement.cLines, labelLine, variableUses, usesFrom, announces]
  | .jump name => by
      simp [Statement.cLines, jumpLine, variableUses, usesFrom, announces]
  | .assign name value => by
      have uses := value.usesFrom_cTokens
        (rfl : announces [.mark ";"] = false)
      have target : announces
          (.mark "=" :: (value.cTokens ++ [.mark ";"])) = false :=
        rfl
      rw [Statement.cLines, List.forall_mem_singleton]
      intro used member
      simp only [variableUses, usesFrom, target, uses, Bool.or_self,
        Bool.false_eq_true, if_false, List.append_nil, List.mem_cons]
        at member
      rcases member with rfl | member
      · exact Or.inr (List.mem_singleton_self used)
      · exact Or.inl member
  | .input name => by
      simp [Statement.cLines, variableUses, usesFrom, announces,
        Statement.targets]
  | .block kind test body => by
      have uses := test.usesFrom_cTokens
        (rfl : announces [.mark ")", .mark "\x7b"] = false)
      rw [Statement.cLines, List.forall_mem_cons, List.forall_mem_append,
        List.forall_mem_singleton, Statement.reads, Statement.targets]
      refine ⟨?_, ?_, ?_⟩
      · intro name member
        simp only [variableUses, usesFrom, announces, uses, Bool.false_or,
          if_true, List.append_nil] at member
        exact Or.inl (List.mem_append_left _ member)
      · intro line inside name member
        exact (Statement.usesAll body line inside name member).imp_left
          (List.mem_append_right _)
      · simp [variableUses, usesFrom]

theorem Statement.usesAll : (statements : List Statement) →
    ∀ line ∈ Statement.cLinesAll statements, ∀ name ∈ variableUses line,
      name ∈ Statement.readsAll statements ∨
        name ∈ Statement.targetsAll statements
  | [] => by simp [Statement.cLinesAll]
  | statement :: rest => by
      rw [Statement.cLinesAll, List.forall_mem_append, Statement.readsAll,
        Statement.targetsAll]
      constructor
      · intro line inside name member
        exact (statement.uses line inside name member).imp
          (List.mem_append_left _) (List.mem_append_left _)
      · intro line inside name member
        exact (Statement.usesAll rest line inside name member).imp
          (List.mem_append_right _) (List.mem_append_right _)

end

mutual

/-- A statement has a label line for each of its labels and no other. -/
theorem Statement.count_labelLine (name : String) : (statement : Statement) →
    statement.cLines.count (labelLine name) =
      (statement.namesBehind .labelKw).count name
  | .printText _ | .printValue _ | .assign _ _ | .input _ => by
      simp [Statement.cLines, labelLine, Statement.namesBehind]
  | .label other => by
      by_cases same : other = name <;>
        simp [Statement.cLines, labelLine, Statement.namesBehind, same]
  | .jump _ => by
      simp [Statement.cLines, labelLine, jumpLine, Statement.namesBehind]
  | .block _ _ body => by
      have inside := Statement.count_labelLineAll name body
      rw [labelLine] at inside ⊢
      simp [Statement.cLines, Statement.namesBehind, inside]

theorem Statement.count_labelLineAll (name : String) :
    (statements : List Statement) →
      (Statement.cLinesAll statements).count (labelLine name) =
        (Statement.namesBehindAll .labelKw statements).count name
  | [] => rfl
  | statement :: rest => by
      rw [Statement.cLinesAll, Statement.namesBehindAll, List.count_append,
        List.count_append, Statement.count_labelLine name statement,
        Statement.count_labelLineAll name rest]

end

mutual

/-- A jump line comes from a jump. -/
theorem Statement.mem_jumpLine (name : String) : (statement : Statement) →
    jumpLine name ∈ statement.cLines →
      name ∈ statement.namesBehind .gotoKw
  | .printText _ | .printValue _ | .assign _ _ | .input _ => by
      simp [Statement.cLines, jumpLine]
  | .label _ => by simp [Statement.cLines, labelLine, jumpLine]
  | .jump _ => by simp [Statement.cLines, jumpLine, Statement.namesBehind]
  | .block _ _ body => by
      have inside := Statement.mem_jumpLineAll name body
      simpa [Statement.cLines, jumpLine, Statement.namesBehind] using inside

theorem Statement.mem_jumpLineAll (name : String) :
    (statements : List Statement) →
      jumpLine name ∈ Statement.cLinesAll statements →
        name ∈ Statement.namesBehindAll .gotoKw statements
  | [] => by simp [Statement.cLinesAll]
  | statement :: rest => by
      intro member
      rw [Statement.cLinesAll, List.mem_append] at member
      rw [Statement.namesBehindAll, List.mem_append]
      exact member.imp (Statement.mem_jumpLine name statement)
        (Statement.mem_jumpLineAll name rest)

end

mutual

/-- The variables that get values have names of sources. -/
theorem Statement.isName_of_targets : (statement : Statement) →
    statement.Admitted → ∀ name ∈ statement.targets, IsName name.toList
  | .printText _, _ | .printValue _, _ | .label _, _ | .jump _, _ => by
      simp [Statement.targets]
  | .assign _ _, admitted => by simpa [Statement.targets] using admitted.1
  | .input _, admitted => by
      have named := admitted
      rw [Statement.Admitted] at named
      simpa [Statement.targets] using named
  | .block _ _ body, admitted => Statement.isName_of_targetsAll body admitted.2

theorem Statement.isName_of_targetsAll : (statements : List Statement) →
    Statement.AllAdmitted statements →
      ∀ name ∈ Statement.targetsAll statements, IsName name.toList
  | [], _ => by simp [Statement.targetsAll]
  | statement :: rest, admitted => by
      rw [Statement.targetsAll, List.forall_mem_append]
      exact ⟨statement.isName_of_targets admitted.1,
        Statement.isName_of_targetsAll rest admitted.2⟩

end

theorem Program.isName_of_variables {program : Program}
    (admitted : Statement.AllAdmitted program) :
    ∀ name ∈ program.variables, IsName name.toList := by
  intro name member
  exact Statement.isName_of_targetsAll program admitted name
    (Program.mem_variables.mp member)

/-! ## Pages -/

/-- The tokens of the lines before the declarations. -/
def openingTokens : List (List CToken) :=
  [[.mark "#", .word "include", .mark "<", .word "stdio", .mark ".",
      .word "h", .mark ">"],
    [.word "int", .word "main", .mark "(", .word "void", .mark ")",
      .mark "\x7b"]]

/-- The tokens of the lines behind the statements. -/
def closingTokens : List (List CToken) :=
  [[.word "return", .number "0", .mark ";"], [.mark "\x7d"]]

theorem lexes_headerLines {names : List String}
    (named : ∀ name ∈ names, IsName name.toList) :
    List.Forall₂ CLine.Lexes (headerLines names)
      (openingTokens ++ names.map declarationLine) := by
  have declarations : List.Forall₂ CLine.Lexes
      (names.map fun name => ⟨1, "float " ++ name ++ ";"⟩)
      (names.map declarationLine) := by
    rw [List.forall₂_map_left_iff, List.forall₂_map_right_iff,
      List.forall₂_same]
    intro name member
    exact lexes_declaration (named name member)
  exact .cons lexes_include (.cons lexes_main declarations)

theorem newline_notMem_header (names : List String) :
    ∀ line ∈ openingTokens ++ names.map declarationLine,
      .newline ∉ line := by
  rw [List.forall_mem_append]
  exact ⟨by decide, by simp [declarationLine]⟩

theorem lexes_bodyLines {program : Program}
    (admitted : Statement.AllAdmitted program) :
    List.Forall₂ CLine.Lexes (program.bodyLines 0)
      (Statement.cLinesAll program ++ closingTokens) := by
  rw [Program.bodyLines, ← Statement.linesAll_eq_flatMap]
  exact List.rel_append (Statement.lexesAll program 1 admitted)
    (.cons lexes_return (.cons lexes_close .nil))

theorem newline_notMem_body (program : Program) :
    ∀ line ∈ Statement.cLinesAll program ++ closingTokens,
      .newline ∉ line := by
  rw [List.forall_mem_append]
  exact ⟨Statement.newline_notMem_all program, by decide⟩

namespace Page.Holds

variable {page : Page} {width : Nat} {names : List String}

theorem cLines_header {lines : List CLine}
    (holds : page.Holds width names lines)
    (named : ∀ name ∈ names, IsName name.toList) :
    cLines page.header =
      openingTokens ++ names.map declarationLine ++ [[]] := by
  rw [holds.header]
  exact cLines_renderAll (lexes_headerLines named)
    (newline_notMem_header names) width

theorem cLines_body {program : Program}
    (holds : page.Holds width names program.statementLines)
    (admitted : Statement.AllAdmitted program) :
    cLines page.body =
      Statement.cLinesAll program ++ closingTokens ++ [[]] := by
  rw [holds.body]
  exact cLines_renderAll (lexes_bodyLines admitted)
    (newline_notMem_body program) width

end Page.Holds

theorem count_declarationLine {names : List String} {name : String}
    (nodup : names.Nodup)
    (member : name ∈ names) :
    (openingTokens ++ names.map declarationLine ++ [[]]).count
      (declarationLine name) = 1 := by
  have injective : Function.Injective declarationLine := by
    intro first second same
    simpa [declarationLine] using same
  have once := List.count_eq_one_of_mem nodup member
  have opening : openingTokens.count (declarationLine name) = 0 := by
    rw [List.count_eq_zero]
    simp [openingTokens, declarationLine]
  have nothing : [[]].count (declarationLine name) = 0 := rfl
  rw [List.count_append, List.count_append,
    List.count_map_of_injective _ _ injective, once, opening, nothing]

theorem count_labelLine_body (program : Program) (name : String) :
    (Statement.cLinesAll program ++ closingTokens ++ [[]]).count
        (labelLine name) =
      (Statement.namesBehindAll .labelKw program).count name := by
  have closing : closingTokens.count (labelLine name) = 0 := by
    rw [List.count_eq_zero]
    simp [closingTokens, labelLine]
  have nothing : [[]].count (labelLine name) = 0 := rfl
  rw [List.count_append, List.count_append,
    Statement.count_labelLineAll name program, closing, nothing,
    Nat.add_zero]

/-- The lines of a body use what the program reads and what it gives values. -/
theorem uses_body {program : Program} {line : List CToken} {name : String}
    (inBody : line ∈ Statement.cLinesAll program ++ closingTokens ++ [[]])
    (used : name ∈ variableUses line) :
    name ∈ Statement.readsAll program ∨
      name ∈ Statement.targetsAll program := by
  rw [List.append_assoc, List.mem_append] at inBody
  rcases inBody with inside | outside
  · exact Statement.usesAll program line inside name used
  · have none : ∀ line ∈ closingTokens ++ [[]], variableUses line = [] := by
      decide
    rw [none line outside] at used
    cases used

theorem mem_jumpLine_body {program : Program} {name : String}
    (inBody : jumpLine name ∈
      Statement.cLinesAll program ++ closingTokens ++ [[]]) :
    name ∈ Statement.namesBehindAll .gotoKw program := by
  rw [List.append_assoc, List.mem_append] at inBody
  rcases inBody with inside | outside
  · exact Statement.mem_jumpLineAll name program inside
  · simp [closingTokens, jumpLine] at outside

/-- In the page of an accepted source, every variable that a line of the body
uses has exactly one declaration in the header, every jump in the body has
exactly one line with its label there, and no label comes twice. -/
theorem compile_closed
    {source : List Char} {width : Nat} {text : String}
    (accepted : (compile source width).result = .ok text) :
    ∃ page, (compileOnto source (.empty width)).result = .ok page ∧
      text = page.header ++ page.body ∧
      (∀ line ∈ cLines page.body, ∀ name ∈ variableUses line,
        (cLines page.header).count (declarationLine name) = 1) ∧
      (∀ name, jumpLine name ∈ cLines page.body →
        (cLines page.body).count (labelLine name) = 1) ∧
      ∀ name, (cLines page.body).count (labelLine name) ≤ 1 := by
  obtain ⟨body, last, final, tokenized, finished, resolved, page, filled, holds,
    done⟩ := exists_fills_of_compile accepted
  have inside := inside_of_tokenize tokenized
  have written := finished.writtenAs
  obtain ⟨_, bound, nodup⟩ :=
    (correct_concat_iff inside finished.kind).mp finished.correct
  have admitted := written.admitted fun token member =>
    admits_of_tokenize tokenized member
  have named : ∀ name ∈ final.program.variables, IsName name.toList := by
    intro name member
    exact Statement.isName_of_targetsAll final.program admitted name
      (Program.mem_variables.mp member)
  have count : ∀ name, (cLines page.body).count (labelLine name) =
      (namesAfter .labelKw (body ++ [last])).count name := by
    intro name
    rw [holds.cLines_body admitted, count_labelLine_body,
      written.namesAfter_eq rfl]
  rw [done] at accepted
  cases accepted
  refine ⟨page, filled, rfl, ?_, ?_, ?_⟩
  · intro line inBody name used
    rw [holds.cLines_body admitted] at inBody
    rw [holds.cLines_header named]
    apply count_declarationLine final.program.nodup_variables
    rcases uses_body inBody used with read | target
    · exact mem_variables_of_reads written bound read
    · exact Program.mem_variables.mpr target
  · intro name jumps
    rw [holds.cLines_body admitted] at jumps
    have jumped := mem_jumpLine_body jumps
    rw [← written.namesAfter_eq rfl] at jumped
    rw [count]
    exact List.count_eq_one_of_mem nodup (resolved name jumped)
  · intro name
    rw [count]
    exact List.nodup_iff_count_le_one.mp nodup name

/-- A source whose names are words that C uses for other things. -/
def borrowingSource : List Char :=
  ("INPUT scanf\nLABEL goto\nIF scanf > 0 THEN\nLET goto = scanf * 2\n" ++
    "PRINT goto - 1\nGOTO goto\nENDIF\nPRINT \"goto end;\"\n").toList

theorem compile_closed_borrowing :
    ∃ text, (compile borrowingSource 2).result = .ok text ∧
      ∃ page, (compileOnto borrowingSource (.empty 2)).result = .ok page ∧
        text = page.header ++ page.body ∧
        (∀ line ∈ cLines page.body, ∀ name ∈ variableUses line,
          (cLines page.header).count (declarationLine name) = 1) ∧
        (∀ name, jumpLine name ∈ cLines page.body →
          (cLines page.body).count (labelLine name) = 1) ∧
        ∀ name, (cLines page.body).count (labelLine name) ≤ 1 := by
  have accepted : (compile borrowingSource 2).result =
      .ok ("#include <stdio.h>\nint main(void) \x7b\n  float scanf;\n" ++
        "  float goto;\n  if (0 == scanf(\"%f\", &scanf)) \x7b\n" ++
        "    scanf = 0;\n    scanf(\"%*s\");\n  \x7d\n  goto:;\n" ++
        "  if (scanf > 0) \x7b\n    goto = scanf * 2;\n" ++
        "    printf(\"%.2f\\n\", (float)(goto - 1));\n    goto goto;\n" ++
        "  \x7d\n  printf(\"goto end;\\n\");\n  return 0;\n\x7d\n") := by
    decide +kernel
  exact ⟨_, accepted, compile_closed accepted⟩

end TeenyTiny
