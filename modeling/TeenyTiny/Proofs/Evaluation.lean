import TeenyTiny.Proofs.Nesting
import TeenyTiny.Proofs.Truncation

/-!
# Expressions of compiled programs

The expressions of a source stand in the lines that it is compiled to.  What C
computes for those of numbers is their exact value, as long as no quotient of
integers is cut off (`compile_evaluates`).
-/

namespace TeenyTiny

/-! ## Expressions of a program -/

mutual

/-- The expressions that stand in a statement. -/
def Statement.values : Statement → List Expr
  | .printValue value => [value]
  | .assign _ value => [value]
  | .block _ test body =>
      (Chain.join test.left test.op test.right).operands ++
        Statement.valuesAll body
  | _ => []

def Statement.valuesAll : List Statement → List Expr
  | [] => []
  | statement :: rest => statement.values ++ Statement.valuesAll rest

end

section Values

variable {value : Expr}

mutual

theorem Statement.admitted_of_values : (statement : Statement) →
    statement.Admitted → value ∈ statement.values → value.Admitted
  | .printValue _, admitted, member => by
      rw [List.mem_singleton.mp member]
      exact admitted
  | .assign _ _, admitted, member => by
      rw [List.mem_singleton.mp member]
      exact admitted.2
  | .block _ test body, admitted, member => by
      rcases List.mem_append.mp member with tested | inside
      · exact (Chain.all_iff _).mp admitted.1 value tested
      · exact Statement.admitted_of_valuesAll body admitted.2 inside
  | .printText _, _, member | .label _, _, member | .jump _, _, member
  | .input _, _, member => by
      cases member

theorem Statement.admitted_of_valuesAll : (statements : List Statement) →
    Statement.AllAdmitted statements → value ∈ Statement.valuesAll statements →
      value.Admitted
  | [], _, member => by
      cases member
  | statement :: rest, admitted, member => by
      rcases List.mem_append.mp member with here | later
      · exact statement.admitted_of_values admitted.1 here
      · exact Statement.admitted_of_valuesAll rest admitted.2 later

end

theorem Chain.infix_cText {Op Arg : Type} {opText : Op → String}
    {argText : Arg → String} {chain : Chain Op Arg} {arg : Arg}
    (member : arg ∈ chain.operands) :
    (argText arg).toList <:+: (chain.cText opText argText).toList := by
  induction chain with
  | first other =>
      rw [List.mem_singleton.mp member]
      exact List.infix_rfl
  | join left op right inductionHypothesis =>
      simp only [Chain.cText, String.toList_append]
      rcases List.mem_append.mp member with before | last
      · simp only [List.append_assoc]
        exact (inductionHypothesis before).trans (List.prefix_append ..).isInfix
      · rw [List.mem_singleton.mp last]
        exact (List.suffix_append ..).isInfix

theorem infix_line (front text behind : String) :
    text.toList <:+: (front ++ text ++ behind).toList := by
  rw [String.toList_append, String.toList_append]
  exact List.infix_append ..

mutual

/-- The expressions of a statement stand in its lines. -/
theorem Statement.exists_line_of_values : (statement : Statement) →
    (level : Nat) → value ∈ statement.values →
      ∃ line ∈ statement.lines level,
        value.cText.toList <:+: line.text.toList
  | .printValue _, level, member => by
      rw [List.mem_singleton.mp member, Statement.lines, ← Expr.cText_eq]
      exact ⟨_, List.mem_singleton_self _, infix_line ..⟩
  | .assign _ _, level, member => by
      rw [List.mem_singleton.mp member, Statement.lines, ← Expr.cText_eq]
      exact ⟨_, List.mem_singleton_self _, infix_line ..⟩
  | .block _ test body, level, member => by
      rw [Statement.lines, ← Comparison.cText_eq]
      rcases List.mem_append.mp member with tested | inside
      · have stands : value.cText.toList <:+: test.cText.toList :=
          Chain.infix_cText tested
        exact ⟨_, List.mem_cons_self, stands.trans (infix_line ..)⟩
      · obtain ⟨line, found, stands⟩ :=
          Statement.exists_line_of_valuesAll body (level + 1) inside
        exact ⟨line, by simp [found], stands⟩
  | .printText _, _, member | .label _, _, member | .jump _, _, member
  | .input _, _, member => by
      cases member

theorem Statement.exists_line_of_valuesAll : (statements : List Statement) →
    (level : Nat) → value ∈ Statement.valuesAll statements →
      ∃ line ∈ Statement.linesAll level statements,
        value.cText.toList <:+: line.text.toList
  | [], _, member => by
      cases member
  | statement :: rest, level, member => by
      rcases List.mem_append.mp member with here | later
      · obtain ⟨line, found, stands⟩ :=
          statement.exists_line_of_values level here
        exact ⟨line, List.mem_append_left _ found, stands⟩
      · obtain ⟨line, found, stands⟩ :=
          Statement.exists_line_of_valuesAll rest level later
        exact ⟨line, List.mem_append_right _ found, stands⟩

end

theorem Program.exists_line_of_values {program : Program}
    (member : value ∈ Statement.valuesAll program) :
    ∃ line ∈ program.lines, value.cText.toList <:+: line.text.toList := by
  obtain ⟨line, found, stands⟩ :=
    Statement.exists_line_of_valuesAll program 1 member
  rw [Statement.linesAll_eq_flatMap] at found
  refine ⟨line, ?_, stands⟩
  rw [Program.lines_eq, Program.innerLines, Program.statementLines]
  simp [found]

end Values

/-! ## Compiled expressions -/

/-- Let an accepted source have an expression of numbers with an exact value.
Its text stands in a line of the compiled program, and C's grammar gives the
text one tree.  C computes a value for the tree, and this is the exact one if
all quotients of integers come out even.  For a single term it is the exact one
only then, or if that is zero. -/
theorem compile_evaluates
    {source : List Char} {width : Nat} {text : String}
    (accepted : (compile source width).result = .ok text) :
    ∃ tokens, ∃ program : Program,
      tokenize source = .ok tokens ∧ program.WrittenAs tokens ∧
        (∀ other : Program, other.WrittenAs tokens → other = program) ∧
        text = CLine.renderAll width program.lines ∧
        ∀ value ∈ Statement.valuesAll program, ∀ exact,
          value.exactValue? = some exact →
            (∃ line ∈ program.lines,
              value.cText.toList <:+: line.text.toList) ∧
            ∃ tree result,
              (∀ other, ParsedAs 0 (cTokens value.cText.toList) other ↔
                other = tree) ∧
              tree.value? = some result ∧
              (value.dividesEvenly = true → result.toRat = exact) ∧
              ∀ term : Term, value = .first term →
                (result.toRat = exact ↔
                  term.dividesEvenly = true ∨ exact = 0) := by
  obtain ⟨tokens, program, tokenized, written, alone, allAdmitted, rendered⟩ :=
    exists_program_of_compile accepted
  refine ⟨tokens, program, tokenized, written, alone, rendered, ?_⟩
  intro value member exact defined
  have admitted : value.Admitted :=
    Statement.admitted_of_valuesAll program allAdmitted member
  obtain ⟨result, read, even⟩ := Expr.exists_value admitted defined
  refine ⟨Program.exists_line_of_values member, value.toC, result,
    Expr.parsedAs_cText_iff admitted, read, even, ?_⟩
  rintro term rfl
  obtain ⟨termResult, termRead, computed⟩ :=
    Term.exists_computed admitted defined
  have same : termResult = result :=
    Option.some.inj (termRead.symm.trans read)
  rw [← same]
  exact computed.eq_iff

/-- The quotient of seven and two. -/
def sevenHalves : Expr :=
  .first (.join (.first ⟨none, .number "7"⟩) .divide ⟨none, .number "2"⟩)

def sevenHalvesTokens : List Token :=
  [⟨.number, "7", ⟨6, 7⟩⟩] ++ ⟨.slash, "/", ⟨8, 9⟩⟩ ::
    [⟨.number, "2", ⟨10, 11⟩⟩]

/-- C computes three for it. -/
theorem compile_evaluates_sevenHalves :
    ∃ text tokens,
      (compile "PRINT 7 / 2\n".toList 4).result = .ok text ∧
        tokenize "PRINT 7 / 2\n".toList = .ok tokens ∧
        Program.WrittenAs [.printValue sevenHalves] tokens ∧
        text = CLine.renderAll 4 (Program.lines [.printValue sevenHalves]) ∧
        sevenHalves.exactValue? = some (7 / 2) ∧
        ∃ tree result,
          (∀ other, ParsedAs 0 (cTokens sevenHalves.cText.toList) other ↔
            other = tree) ∧
          tree.value? = some result ∧ result.toRat = 3 ∧
          result.toRat ≠ 7 / 2 := by
  have accepted : (compile "PRINT 7 / 2\n".toList 4).result =
      .ok ("#include <stdio.h>\nint main(void) \x7b\n" ++
        "    printf(\"%.2f\\n\", (float)(7 / 2));\n    return 0;\n\x7d\n") := by
    decide +kernel
  have cut : tokenize "PRINT 7 / 2\n".toList =
      .ok ([] ++ ((⟨.keyword .printKw, "PRINT", ⟨0, 5⟩⟩ :: sevenHalvesTokens ++
        ([⟨.newline, "\n", ⟨11, 12⟩⟩] ++ [])) ++
          [⟨.eof, "", ⟨12, 12⟩⟩])) := by
    decide +kernel
  have number : ∀ token : Token, token.kind = .number →
      Factor.SpelledBy ⟨none, .number token.text⟩ [token] :=
    fun _ kind => .plain (.number kind)
  have spelled : sevenHalves.SpelledBy sevenHalvesTokens :=
    .first (.join (.first (number ⟨.number, "7", ⟨6, 7⟩⟩ rfl)) rfl
      (number ⟨.number, "2", ⟨10, 11⟩⟩ rfl))
  have defined : sevenHalves.exactValue? = some (7 / 2) := by
    decide +kernel
  have uneven : ¬ (Term.dividesEvenly (.join (.first ⟨none, .number "7"⟩)
      .divide ⟨none, .number "2"⟩) = true ∨ (7 / 2 : ℚ) = 0) := by
    decide +kernel
  have three : sevenHalves.toC.value? = some (.whole 3) := by
    decide +kernel
  have parsed : ParsedAs 0 (cTokens sevenHalves.cText.toList)
      sevenHalves.toC := by
    have same : cTokens sevenHalves.cText.toList = sevenHalves.cTokens := by
      decide +kernel
    rw [same]
    exact sevenHalves.parsedAs
  obtain ⟨tokens, program, tokenized, _, alone, rendered, evaluates⟩ :=
    compile_evaluates accepted
  have written : Program.WrittenAs [.printValue sevenHalves] tokens := by
    rw [cut] at tokenized
    cases tokenized
    exact ⟨[], _, _, rfl, nofun, .simple (.printValue rfl spelled)
      (.cons rfl nofun) .nil, rfl⟩
  cases alone _ written
  obtain ⟨_, tree, result, grammar, value, _, sharp⟩ :=
    evaluates sevenHalves List.mem_cons_self (7 / 2) defined
  have computes : result.toRat = 3 := by
    have same : some (CValue.whole 3) = some result := by
      rw [← three, (grammar _).mp parsed, value]
    cases same
    rfl
  exact ⟨_, tokens, accepted, tokenized, written, rendered, defined, tree,
    result, grammar, value, computes, fun same =>
      uneven ((sharp _ rfl).mp same)⟩

end TeenyTiny
