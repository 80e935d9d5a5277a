import TeenyTiny.Proofs.Closed
import TeenyTiny.Proofs.Declarations

/-!
# Names that C reserves

Names of variables and labels go into the compiled program as they are.  C takes
them there unless one is a reserved word or a variable hides a function that the
body calls, and the tokens of the source tell whether that is so
(`compile_legalNames_iff`).
-/

namespace TeenyTiny

open CToken

/-- The reserved words of C11. -/
def reservedWords : List String :=
  ["auto", "break", "case", "char", "const", "continue", "default", "do",
    "double", "else", "enum", "extern", "float", "for", "goto", "if", "inline",
    "int", "long", "register", "restrict", "return", "short", "signed",
    "sizeof", "static", "struct", "switch", "typedef", "union", "unsigned",
    "void", "volatile", "while", "_Alignas", "_Alignof", "_Atomic", "_Bool",
    "_Complex", "_Generic", "_Imaginary", "_Noreturn", "_Static_assert",
    "_Thread_local"]

/-! ## Calls -/

/-- The functions that the tokens call.  A function is a word in front of an
opening bracket, where reserved words stand as well. -/
def CToken.calls : List CToken → List String
  | [] => []
  | .word name :: rest =>
      if rest.head? = some (.mark "(") ∧ name ∉ reservedWords then
        name :: calls rest
      else
        calls rest
  | _ :: rest => calls rest

/-- The functions that the lines call. -/
def callees (lines : List (List CToken)) : List String :=
  lines.flatMap calls

/-- The function that a statement with the keyword calls. -/
def Keyword.callee? : Keyword → Option String
  | printKw => some "printf"
  | inputKw => some "scanf"
  | _ => none

def Token.callee? (token : Token) : Option String :=
  match token.kind with
  | .keyword own => own.callee?
  | _ => none

/-- The functions that the statements of the tokens call. -/
def calledNames (tokens : List Token) : List String :=
  tokens.filterMap Token.callee?

section Expressions

theorem calls_eq_nil {tokens : List CToken}
    (absent : .mark "(" ∉ tokens) :
    calls tokens = [] := by
  fun_induction calls tokens with
  | case1 =>
      rfl
  | case2 name rest called _ =>
      have bracket := List.mem_of_head? called.1
      exact absurd (List.mem_cons_of_mem _ bracket) absent
  | case3 name rest _ inductionHypothesis =>
      exact inductionHypothesis fun member =>
        absent (List.mem_cons_of_mem _ member)
  | case4 token rest _ inductionHypothesis =>
      exact inductionHypothesis fun member =>
        absent (List.mem_cons_of_mem _ member)

theorem Operator.bracket_ne {Op : Type} [Operator Op] (op : Op) :
    .mark "(" ≠ CToken.mark (text op) := by
  rw [text]
  cases kind op <;> simp [Kind.symbol]

theorem Expr.bracket_notMem (expr : Expr) : .mark "(" ∉ expr.cTokens := by
  apply Chain.notMem_cTokens Operator.bracket_ne
  intro term
  apply Chain.notMem_cTokens Operator.bracket_ne
  rintro ⟨sign, operand⟩
  have noBracket : .mark "(" ∉ [operand.cToken] := by
    cases operand <;> simp [Operand.cToken]
  cases sign with
  | none =>
      exact noBracket
  | some sign =>
      exact List.not_mem_cons_of_ne_of_not_mem (Operator.bracket_ne sign)
        noBracket

theorem Comparison.bracket_notMem (test : Comparison) :
    .mark "(" ∉ test.cTokens :=
  Chain.notMem_cTokens Operator.bracket_ne Expr.bracket_notMem _

end Expressions

/-! ## Calls of statements -/

section Statements

variable {tokens : List Token} {name : String}

theorem calledNames_append (front back : List Token) :
    calledNames (front ++ back) = calledNames front ++ calledNames back :=
  List.filterMap_append

theorem calledNames_eq_nil
    (plain : ∀ token ∈ tokens, token.IsPlain) :
    calledNames tokens = [] := by
  rw [calledNames, List.filterMap_eq_nil_iff]
  intro token member
  unfold Token.callee?
  split
  · rename_i word kind
    exact absurd kind (plain token member word)
  · rfl

theorem calledNames_cons {token : Token} {word : Keyword}
    (kind : token.kind = .keyword word) :
    calledNames (token :: tokens) =
      word.callee?.toList ++ calledNames tokens := by
  have called : token.callee? = word.callee? := by
    simp [Token.callee?, kind]
  cases found : word.callee? <;>
    simp [calledNames, called, found]

theorem callees_append (lines more : List (List CToken)) :
    callees (lines ++ more) = callees lines ++ callees more :=
  List.flatMap_append

theorem Statement.SpelledBy.mem_calledNames {statement : Statement}
    (spelled : statement.SpelledBy tokens) :
    name ∈ calledNames tokens ↔ name ∈ callees statement.cLines := by
  cases spelled with
  | printText wordKind textKind =>
      rw [calledNames_cons wordKind, calledNames_eq_nil]
      · rfl
      · simp [Token.IsPlain, textKind]
  | @printValue _ value _ wordKind spelled =>
      have quiet : calls (value.cTokens ++
          [.mark ")", .mark ")", .mark ";"]) = [] :=
        calls_eq_nil (by simp [value.bracket_notMem])
      rw [calledNames_cons wordKind, calledNames_eq_nil spelled.isPlain]
      simp [Statement.cLines, callees, calls, quiet, Keyword.callee?,
        reservedWords]
  | label wordKind nameKind | jump wordKind nameKind =>
      rw [calledNames_cons wordKind, calledNames_eq_nil]
      · rfl
      · simp [Token.IsPlain, nameKind]
  | @assign word target equals value valueTokens wordKind nameKind equalsKind
      spelled =>
      have quiet : calls (.word target.text :: .mark "=" ::
          (value.cTokens ++ [.mark ";"])) = [] :=
        calls_eq_nil (by simp [value.bracket_notMem])
      rw [calledNames_cons wordKind, calledNames_eq_nil]
      · simp [Statement.cLines, callees, quiet, Keyword.callee?]
      · rw [List.forall_mem_cons, List.forall_mem_cons]
        exact ⟨by simp [Token.IsPlain, nameKind],
          by simp [Token.IsPlain, equalsKind], spelled.isPlain⟩
  | input wordKind nameKind =>
      rw [calledNames_cons wordKind, calledNames_eq_nil]
      · simp [Statement.cLines, callees, calls, Keyword.callee?, reservedWords]
      · simp [Token.IsPlain, nameKind]

/-- The lines of a program call the functions that its keywords stand for. -/
theorem Program.SpelledBy.mem_calledNames {program : Program}
    (spelled : program.SpelledBy tokens) :
    name ∈ calledNames tokens ↔
      name ∈ callees (Statement.cLinesAll program) := by
  induction spelled with
  | nil =>
      rfl
  | simple spelled ends _ inductionHypothesis =>
      rw [calledNames_append, calledNames_append,
        calledNames_eq_nil ends.2.isPlain, List.nil_append, List.mem_append,
        spelled.mem_calledNames, inductionHypothesis, Statement.cLinesAll,
        callees_append, List.mem_append]
  | @block kind test bodyTree _ opener divider closer testTokens lineEnd body
      closeEnd rest openerKind testSpelled dividerKind ends _ closerKind
      closes _ bodyHypothesis restHypothesis =>
      have silent : kind.opener.callee? = none ∧ kind.divider.callee? = none ∧
          kind.closer.callee? = none := by
        cases kind <;> exact ⟨rfl, rfl, rfl⟩
      have reserved : kind.cWord ∈ reservedWords := by
        cases kind <;> decide
      have quiet : calls (test.cTokens ++ [.mark ")", .mark "\x7b"]) = [] :=
        calls_eq_nil (by simp [test.bracket_notMem])
      have source : calledNames (opener :: (testTokens ++ divider ::
            (lineEnd ++ (body ++ closer :: (closeEnd ++ rest))))) =
          calledNames body ++ calledNames rest := by
        simp only [calledNames_cons openerKind, calledNames_append,
          calledNames_cons dividerKind, calledNames_cons closerKind,
          calledNames_eq_nil testSpelled.isPlain,
          calledNames_eq_nil ends.2.isPlain,
          calledNames_eq_nil closes.2.isPlain, silent, Option.toList_none,
          List.nil_append]
      rw [source, List.mem_append, bodyHypothesis, restHypothesis]
      have target : callees (Statement.cLines (.block kind test bodyTree)) =
          callees (Statement.cLinesAll bodyTree) := by
        simp [Statement.cLines, callees, calls, reserved, quiet]
      rw [Statement.cLinesAll, callees_append, target, List.mem_append]

theorem Program.WrittenAs.mem_calledNames {program : Program}
    (written : program.WrittenAs tokens) :
    name ∈ calledNames tokens ↔
      name ∈ callees (Statement.cLinesAll program) := by
  obtain ⟨blank, body, last, rfl, isBlank, spelled, kind⟩ := written
  have ending : calledNames [last] = [] := by
    apply calledNames_eq_nil
    simp [Token.IsPlain, kind]
  rw [calledNames_append, calledNames_append, calledNames_eq_nil
    isBlank.isPlain, ending, List.nil_append, List.append_nil,
    spelled.mem_calledNames]

end Statements

/-! ## Pages -/

/-- C takes the names of the page: no variable and no label has a reserved word
for its name, and no variable has that of a function that the body calls. -/
structure Page.LegalNames (page : Page) : Prop where
  declared : ∀ name, declarationLine name ∈ cLines page.header →
    name ∉ reservedWords ∧ name ∉ callees (cLines page.body)
  labelled : ∀ name, labelLine name ∈ cLines page.body → name ∉ reservedWords

namespace Page.Holds

variable {page : Page} {width : Nat} {names : List String} {name : String}

theorem mem_declarationLine {lines : List CLine}
    (holds : page.Holds width names lines)
    (named : ∀ name ∈ names, IsName name.toList) :
    declarationLine name ∈ cLines page.header ↔ name ∈ names := by
  have opening : declarationLine name ∉ openingTokens := by
    simp [openingTokens, declarationLine]
  have ending : declarationLine name ∉ [[]] := by
    simp [declarationLine]
  have same : ∀ other, declarationLine other = declarationLine name ↔
      other = name := by
    simp [declarationLine]
  simp only [holds.cLines_header named, List.mem_append, List.mem_map, opening,
    ending, same, exists_eq_right, false_or, or_false]

theorem mem_labelLine {program : Program}
    (holds : page.Holds width names program.statementLines)
    (admitted : Statement.AllAdmitted program) :
    labelLine name ∈ cLines page.body ↔
      name ∈ Statement.namesBehindAll .labelKw program := by
  rw [holds.cLines_body admitted, ← List.count_pos_iff, count_labelLine_body,
    List.count_pos_iff]

theorem mem_callees {program : Program}
    (holds : page.Holds width names program.statementLines)
    (admitted : Statement.AllAdmitted program) :
    name ∈ callees (cLines page.body) ↔
      name ∈ callees (Statement.cLinesAll program) := by
  have closing : callees (closingTokens ++ [[]]) = [] := by
    decide
  rw [holds.cLines_body admitted, List.append_assoc, callees_append, closing,
    List.append_nil]

end Page.Holds

/-- C takes the names of an accepted source if and only if none of its variables
and labels is a reserved word and none of its variables has the name of a
function that its statements call. -/
theorem compile_legalNames_iff
    {source : List Char} {width : Nat} {text : String}
    (accepted : (compile source width).result = .ok text) :
    ∃ tokens page,
      tokenize source = .ok tokens ∧
        (compileOnto source (.empty width)).result = .ok page ∧
        text = page.header ++ page.body ∧
        (page.LegalNames ↔
          (∀ name ∈ targetNames tokens,
            name ∉ reservedWords ∧ name ∉ calledNames tokens) ∧
          ∀ name ∈ namesAfter .labelKw tokens, name ∉ reservedWords) := by
  obtain ⟨body, last, final, tokenized, finished, _, page, filled, holds,
    done⟩ := exists_fills_of_compile accepted
  have written := finished.writtenAs
  have admitted := written.admitted fun token member =>
    admits_of_tokenize tokenized member
  have declared : ∀ name, declarationLine name ∈ cLines page.header ↔
      name ∈ targetNames (body ++ [last]) := by
    intro name
    rw [holds.mem_declarationLine (Program.isName_of_variables admitted),
      Program.mem_variables, written.targetNames_eq]
  have labelled : ∀ name, labelLine name ∈ cLines page.body ↔
      name ∈ namesAfter .labelKw (body ++ [last]) := by
    intro name
    rw [holds.mem_labelLine admitted, written.namesAfter_eq rfl]
  have called : ∀ name, name ∈ callees (cLines page.body) ↔
      name ∈ calledNames (body ++ [last]) := by
    intro name
    rw [holds.mem_callees admitted, written.mem_calledNames]
  rw [done] at accepted
  cases accepted
  refine ⟨body ++ [last], page, tokenized, filled, rfl, ?_, ?_⟩
  · intro legal
    refine ⟨fun name target => ?_, fun name label => ?_⟩
    · rw [← called]
      exact legal.declared name ((declared name).mpr target)
    · exact legal.labelled name ((labelled name).mpr label)
  · rintro ⟨targets, labels⟩
    refine ⟨fun name line => ?_, fun name line => ?_⟩
    · rw [called]
      exact targets name ((declared name).mp line)
    · exact labels name ((labelled name).mp line)

/-- A variable can have the name of a type. -/
theorem compile_legalNames_iff_int :
    (compile "LET int = 1\n".toList 4).result =
        .ok ("#include <stdio.h>\nint main(void) \x7b\n    float int;\n" ++
          "    int = 1;\n    return 0;\n\x7d\n") ∧
      ∃ page,
        (compileOnto "LET int = 1\n".toList (.empty 4)).result = .ok page ∧
        ¬ page.LegalNames := by
  have accepted : (compile "LET int = 1\n".toList 4).result =
      .ok ("#include <stdio.h>\nint main(void) \x7b\n    float int;\n" ++
        "    int = 1;\n    return 0;\n\x7d\n") := by
    decide +kernel
  have targets : (tokenize "LET int = 1\n".toList).map targetNames =
      .ok ["int"] := by
    decide +kernel
  obtain ⟨tokens, page, tokenized, filled, _, legal_iff⟩ :=
    compile_legalNames_iff accepted
  rw [tokenized] at targets
  have named : targetNames tokens = ["int"] := Except.ok.inj targets
  refine ⟨accepted, page, filled, fun legal => ?_⟩
  have free := (legal_iff.mp legal).1 "int" (by simp [named])
  exact free.1 (by decide)

end TeenyTiny
