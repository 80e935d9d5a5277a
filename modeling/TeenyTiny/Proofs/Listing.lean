import Mathlib.Data.List.Forall2
import TeenyTiny.Proofs.ExpressionTokens
import TeenyTiny.Proofs.Lines

/-!
# The lines of a program in C, token by token

C cuts the lines of a statement into the tokens that one expects from its tree
(`Statement.lexes`), provided that its names, numbers and texts are what sources
have in their place.  So the tokens of a listing are known line by line
(`cLines_renderAll`).
-/

namespace TeenyTiny

open CToken

/-- The tokens of a text in C, line by line. -/
def cLines (text : String) : List (List CToken) :=
  (cTokens text.toList).splitOn .newline

/-! ## Trees of sources -/

mutual

/-- The names, numbers and texts of the statement are what sources have in
their place. -/
def Statement.Admitted : Statement → Prop
  | .printText text => ∀ c ∈ text.toList, Lexeme.isStringChar c = true
  | .printValue value => value.Admitted
  | .label name => IsName name.toList
  | .jump name => IsName name.toList
  | .assign name value => IsName name.toList ∧ value.Admitted
  | .input name => IsName name.toList
  | .block _ test body => test.Admitted ∧ Statement.AllAdmitted body

def Statement.AllAdmitted : List Statement → Prop
  | [] => True
  | statement :: rest => statement.Admitted ∧ Statement.AllAdmitted rest

end

section Spelling

variable {tokens : List Token}

theorem Statement.SpelledBy.admitted {statement : Statement}
    (spelled : statement.SpelledBy tokens)
    (admits : ∀ token ∈ tokens, token.kind.Admits token.text) :
    statement.Admitted := by
  have named : ∀ token ∈ tokens, token.kind = .ident →
      IsName token.text.toList := by
    intro token member kind
    have admitted := admits token member
    rw [kind] at admitted
    exact admitted.1
  cases spelled with
  | @printText _ text _ textKind =>
      have admitted := admits text (by simp)
      rwa [textKind] at admitted
  | printValue _ spelled =>
      exact spelled.admitted fun token member =>
        admits token (List.mem_cons_of_mem _ member)
  | @label _ name _ nameKind | @jump _ name _ nameKind
  | @input _ name _ nameKind =>
      exact named name (by simp) nameKind
  | @assign _ name _ _ _ _ nameKind _ spelled =>
      refine ⟨named name (by simp) nameKind, spelled.admitted ?_⟩
      intro token member
      exact admits token (by simp [member])

/-- Programs that are read from sources are admitted. -/
theorem Program.SpelledBy.admitted {program : Program}
    (spelled : program.SpelledBy tokens)
    (admits : ∀ token ∈ tokens, token.kind.Admits token.text) :
    Statement.AllAdmitted program := by
  induction spelled with
  | nil =>
      trivial
  | simple spelled _ _ inductionHypothesis =>
      rw [List.forall_mem_append, List.forall_mem_append] at admits
      exact ⟨spelled.admitted admits.1, inductionHypothesis admits.2.2⟩
  | block _ testSpelled _ _ _ _ _ _ bodyHypothesis restHypothesis =>
      simp only [List.forall_mem_append, List.forall_mem_cons] at admits
      obtain ⟨_, test, _, _, body, _, _, rest⟩ := admits
      exact ⟨⟨testSpelled.admitted test, bodyHypothesis body⟩,
        restHypothesis rest⟩

theorem Program.WrittenAs.admitted {program : Program}
    (written : program.WrittenAs tokens)
    (admits : ∀ token ∈ tokens, token.kind.Admits token.text) :
    Statement.AllAdmitted program := by
  obtain ⟨blank, body, last, rfl, _, spelled, _⟩ := written
  rw [List.forall_mem_append, List.forall_mem_append] at admits
  exact spelled.admitted admits.2.1

end Spelling

/-! ## Lines -/

/-- The line that declares a variable. -/
def declarationLine (name : String) : List CToken :=
  [.word "float", .word name, .mark ";"]

/-- The line of a label. -/
def labelLine (name : String) : List CToken :=
  [.word name, .mark ":", .mark ";"]

/-- The line of a jump to a label. -/
def jumpLine (name : String) : List CToken :=
  [.word "goto", .word name, .mark ";"]

mutual

/-- The lines of a statement. -/
def Statement.cLines : Statement → List (List CToken)
  | .printText text =>
      [[.word "printf", .mark "(", .literal ("\"" ++ text ++ "\\n\""),
        .mark ")", .mark ";"]]
  | .printValue value =>
      [.word "printf" :: .mark "(" :: .literal "\"%.2f\\n\"" :: .mark "," ::
        .mark "(" :: .word "float" :: .mark ")" :: .mark "(" ::
          (value.cTokens ++ [.mark ")", .mark ")", .mark ";"])]
  | .label name => [labelLine name]
  | .jump name => [jumpLine name]
  | .assign name value =>
      [.word name :: .mark "=" :: (value.cTokens ++ [.mark ";"])]
  | .input name =>
      [[.word "if", .mark "(", .number "0", .mark "==", .word "scanf",
          .mark "(", .literal "\"%f\"", .mark ",", .mark "&", .word name,
          .mark ")", .mark ")", .mark "\x7b"],
        [.word name, .mark "=", .number "0", .mark ";"],
        [.word "scanf", .mark "(", .literal "\"%*s\"", .mark ")", .mark ";"],
        [.mark "\x7d"]]
  | .block kind test body =>
      (.word kind.cWord :: .mark "(" ::
          (test.cTokens ++ [.mark ")", .mark "\x7b"])) ::
        (Statement.cLinesAll body ++ [[.mark "\x7d"]])

def Statement.cLinesAll : List Statement → List (List CToken)
  | [] => []
  | statement :: rest => statement.cLines ++ Statement.cLinesAll rest

end

/-- The line is cut into the tokens. -/
def CLine.Lexes (line : CLine) (tokens : List CToken) : Prop :=
  ∀ rest, cTokens (line.text.toList ++ '\n' :: rest) =
    tokens ++ .newline :: cTokens rest

section Literals

theorem literalTail_append {text : List Char}
    (plain : ∀ c ∈ text, c ≠ '"' ∧ c ≠ '\\')
    (rest : List Char) :
    literalTail (text ++ rest) = text ++ literalTail rest := by
  induction text with
  | nil =>
      rfl
  | cons first text inductionHypothesis =>
      rw [List.forall_mem_cons] at plain
      obtain ⟨⟨noQuote, noEscape⟩, others⟩ := plain
      have passes : literalTail (first :: (text ++ rest)) =
          first :: literalTail (text ++ rest) := by
        rw [literalTail]
        · exact noQuote
        · exact fun _ _ escape _ => noEscape escape
      rw [List.cons_append, passes, inductionHypothesis others]
      rfl

/-- A string literal that ends a line of output. -/
theorem cTokens_literal {text : List Char} {more rest : List Char}
    (plain : ∀ c ∈ text, c ≠ '"' ∧ c ≠ '\\')
    (ends : literalTail (more ++ rest) = more) :
    cTokens ('"' :: (text ++ (more ++ rest))) =
      .literal (String.ofList ('"' :: (text ++ more))) :: cTokens rest := by
  have cut : front '"' ((text ++ more) ++ rest) = (.literal, text ++ more) := by
    have whole := literalTail_append plain (more ++ rest)
    rw [ends] at whole
    rw [List.append_assoc, ← whole]
    rfl
  have read := cTokens_of_front (by decide) cut
  rwa [List.append_assoc] at read

end Literals

section Texts

variable {level : Nat} {name text : String} {rest : List Char}

theorem cTokens_zero
    (detached : Detached rest) :
    cTokens ('0' :: rest) = .number "0" :: cTokens rest :=
  @cTokens_number '0' [] rest (by decide) (by simp) detached

theorem lexes_printText
    (plain : ∀ c ∈ text.toList, Lexeme.isStringChar c = true) :
    CLine.Lexes ⟨level, "printf(\"" ++ text ++ "\\n\");"⟩
      [.word "printf", .mark "(", .literal ("\"" ++ text ++ "\\n\""),
        .mark ")", .mark ";"] := by
  intro rest
  have inside : ∀ c ∈ text.toList, c ≠ '"' ∧ c ≠ '\\' := by
    intro c member
    have allowed := plain c member
    simp only [Lexeme.isStringChar, Bool.and_eq_true, decide_eq_true_eq]
      at allowed
    obtain ⟨⟨⟨⟨⟨noQuote, _⟩, _⟩, _⟩, noEscape⟩, _⟩ := allowed
    exact ⟨noQuote, noEscape⟩
  have whole : ("printf(\"" ++ text ++ "\\n\");").toList ++ '\n' :: rest =
      "printf".toList ++ '(' :: '"' :: (text.toList ++
        (['\\', 'n', '"'] ++ ')' :: ';' :: '\n' :: rest)) := by
    simp only [String.toList_append, List.append_assoc]
    rfl
  have literal : String.ofList ('"' :: (text.toList ++ ['\\', 'n', '"'])) =
      "\"" ++ text ++ "\\n\"" := by
    apply String.toList_inj.mp
    simp
  rw [whole, cTokens_name (by decide) (detached_cons (by decide)),
    cTokens_separator (by decide), cTokens_literal inside rfl, literal,
    cTokens_separator (by decide), cTokens_separator (by decide),
    cTokens_newline]
  rfl

theorem lexes_printValue {value : Expr}
    (admitted : value.Admitted) :
    CLine.Lexes ⟨level, "printf(\"%.2f\\n\", (float)(" ++
        " ".intercalate value.words ++ "));"⟩
      (.word "printf" :: .mark "(" :: .literal "\"%.2f\\n\"" ::
        .mark "," :: .mark "(" :: .word "float" :: .mark ")" :: .mark "(" ::
          (value.cTokens ++ [.mark ")", .mark ")", .mark ";"])) := by
  intro rest
  have whole : ("printf(\"%.2f\\n\", (float)(" ++
        " ".intercalate value.words ++ "));").toList ++ '\n' :: rest =
      "printf".toList ++ '(' :: '"' :: ("%.2f".toList ++
        (['\\', 'n', '"'] ++ ',' :: ' ' :: '(' :: ("float".toList ++
          ')' :: '(' :: (value.cText.toList ++
            ')' :: ')' :: ';' :: '\n' :: rest)))) := by
    rw [← Expr.cText_eq]
    simp only [String.toList_append, List.append_assoc]
    rfl
  rw [whole, cTokens_name (by decide) (detached_cons (by decide)),
    cTokens_separator (by decide), cTokens_literal (by simp) rfl,
    cTokens_separator (by decide), cTokens_space,
    cTokens_separator (by decide),
    cTokens_name (by decide) (detached_cons (by decide)),
    cTokens_separator (by decide), cTokens_separator (by decide),
    Expr.cTokens_cText admitted (detached_cons (by decide)),
    cTokens_separator (by decide), cTokens_separator (by decide),
    cTokens_separator (by decide), cTokens_newline]
  simp

theorem lexes_label
    (named : IsName name.toList) :
    CLine.Lexes ⟨level, name ++ ":;"⟩ (labelLine name) := by
  intro rest
  have whole : (name ++ ":;").toList ++ '\n' :: rest =
      name.toList ++ ':' :: ';' :: '\n' :: rest := by
    simp only [String.toList_append, List.append_assoc]
    rfl
  rw [whole, cTokens_name named (detached_cons (by decide)),
    cTokens_mark (by decide) (unmarked_cons (by decide)),
    cTokens_separator (by decide), cTokens_newline]
  rfl

theorem lexes_jump
    (named : IsName name.toList) :
    CLine.Lexes ⟨level, "goto " ++ name ++ ";"⟩ (jumpLine name) := by
  intro rest
  have whole : ("goto " ++ name ++ ";").toList ++ '\n' :: rest =
      "goto".toList ++ ' ' :: (name.toList ++ ';' :: '\n' :: rest) := by
    simp only [String.toList_append, List.append_assoc]
    rfl
  rw [whole, cTokens_name (by decide) (detached_cons (by decide)),
    cTokens_space, cTokens_name named (detached_cons (by decide)),
    cTokens_separator (by decide), cTokens_newline]
  rfl

theorem lexes_assign {value : Expr}
    (named : IsName name.toList)
    (admitted : value.Admitted) :
    CLine.Lexes ⟨level, name ++ " = " ++ " ".intercalate value.words ++ ";"⟩
      (.word name :: .mark "=" :: (value.cTokens ++ [.mark ";"])) := by
  intro rest
  have whole : (name ++ " = " ++ " ".intercalate value.words ++ ";").toList ++
        '\n' :: rest =
      name.toList ++ ' ' :: '=' :: ' ' ::
        (value.cText.toList ++ ';' :: '\n' :: rest) := by
    rw [← Expr.cText_eq]
    simp only [String.toList_append, List.append_assoc]
    rfl
  rw [whole, cTokens_name named (detached_cons (by decide)), cTokens_space,
    cTokens_mark (by decide) (unmarked_cons (by decide)), cTokens_space,
    Expr.cTokens_cText admitted (detached_cons (by decide)),
    cTokens_separator (by decide), cTokens_newline]
  simp

theorem lexes_scan
    (named : IsName name.toList) :
    CLine.Lexes ⟨level, "if (0 == scanf(\"%f\", &" ++ name ++ ")) \x7b"⟩
      [.word "if", .mark "(", .number "0", .mark "==", .word "scanf",
        .mark "(", .literal "\"%f\"", .mark ",", .mark "&", .word name,
        .mark ")", .mark ")", .mark "\x7b"] := by
  intro rest
  have whole : ("if (0 == scanf(\"%f\", &" ++ name ++ ")) \x7b").toList ++
        '\n' :: rest =
      "if".toList ++ ' ' :: '(' :: '0' :: ' ' ::
        ((Operator.text CompareOp.equal).toList ++ ' ' :: ("scanf".toList ++
          '(' :: '"' :: ("%f".toList ++ (['"'] ++ ',' :: ' ' :: '&' ::
            (name.toList ++
              ')' :: ')' :: ' ' :: '\x7b' :: '\n' :: rest))))) := by
    simp only [String.toList_append, List.append_assoc]
    rfl
  rw [whole, cTokens_name (by decide) (detached_cons (by decide)),
    cTokens_space, cTokens_separator (by decide),
    cTokens_zero (detached_cons (by decide)), cTokens_space,
    Operator.cTokens_text CompareOp.equal (unmarked_cons (by decide)),
    cTokens_space,
    cTokens_name (by decide) (detached_cons (by decide)),
    cTokens_separator (by decide), cTokens_literal (by simp) rfl,
    cTokens_separator (by decide), cTokens_space,
    cTokens_mark (by decide) (named.unmarked _),
    cTokens_name named (detached_cons (by decide)),
    cTokens_separator (by decide), cTokens_separator (by decide),
    cTokens_space, cTokens_separator (by decide), cTokens_newline]
  rfl

theorem lexes_clear
    (named : IsName name.toList) :
    CLine.Lexes ⟨level, name ++ " = 0;"⟩
      [.word name, .mark "=", .number "0", .mark ";"] := by
  intro rest
  have whole : (name ++ " = 0;").toList ++ '\n' :: rest =
      name.toList ++ ' ' :: '=' :: ' ' :: '0' :: ';' :: '\n' :: rest := by
    simp only [String.toList_append, List.append_assoc]
    rfl
  rw [whole, cTokens_name named (detached_cons (by decide)), cTokens_space,
    cTokens_mark (by decide) (unmarked_cons (by decide)), cTokens_space,
    cTokens_zero (detached_cons (by decide)), cTokens_separator (by decide),
    cTokens_newline]
  rfl

theorem lexes_skip :
    CLine.Lexes ⟨level, "scanf(\"%*s\");"⟩
      [.word "scanf", .mark "(", .literal "\"%*s\"", .mark ")",
        .mark ";"] := by
  intro rest
  have whole : "scanf(\"%*s\");".toList ++ '\n' :: rest =
      "scanf".toList ++ '(' :: '"' :: ("%*s".toList ++
        (['"'] ++ ')' :: ';' :: '\n' :: rest)) := by
    rfl
  rw [whole, cTokens_name (by decide) (detached_cons (by decide)),
    cTokens_separator (by decide), cTokens_literal (by simp) rfl,
    cTokens_separator (by decide), cTokens_separator (by decide),
    cTokens_newline]
  rfl

theorem lexes_close : CLine.Lexes ⟨level, "\x7d"⟩ [.mark "\x7d"] := by
  intro rest
  have whole : "\x7d".toList ++ '\n' :: rest = '\x7d' :: '\n' :: rest := rfl
  rw [whole, cTokens_separator (by decide), cTokens_newline]
  rfl

theorem lexes_open {test : Comparison}
    (kind : Block)
    (admitted : test.Admitted) :
    CLine.Lexes
      ⟨level, kind.cWord ++ " (" ++ " ".intercalate test.words ++ ") \x7b"⟩
      (.word kind.cWord :: .mark "(" ::
        (test.cTokens ++ [.mark ")", .mark "\x7b"])) := by
  intro rest
  have whole : (kind.cWord ++ " (" ++ " ".intercalate test.words ++
        ") \x7b").toList ++ '\n' :: rest =
      kind.cWord.toList ++ ' ' :: '(' :: (test.cText.toList ++
        ')' :: ' ' :: '\x7b' :: '\n' :: rest) := by
    rw [← Comparison.cText_eq]
    simp only [String.toList_append, List.append_assoc]
    rfl
  have named : IsName kind.cWord.toList := by
    cases kind <;> decide
  rw [whole, cTokens_name named (detached_cons (by decide)), cTokens_space,
    cTokens_separator (by decide),
    Comparison.cTokens_cText admitted (detached_cons (by decide)),
    cTokens_separator (by decide), cTokens_space,
    cTokens_separator (by decide), cTokens_newline]
  simp

theorem lexes_return :
    CLine.Lexes ⟨level, "return 0;"⟩
      [.word "return", .number "0", .mark ";"] := by
  intro rest
  have whole : "return 0;".toList ++ '\n' :: rest =
      "return".toList ++ ' ' :: '0' :: ';' :: '\n' :: rest := rfl
  rw [whole, cTokens_name (by decide) (detached_cons (by decide)),
    cTokens_space, cTokens_zero (detached_cons (by decide)),
    cTokens_separator (by decide), cTokens_newline]
  rfl

theorem lexes_declaration
    (named : IsName name.toList) :
    CLine.Lexes ⟨level, "float " ++ name ++ ";"⟩ (declarationLine name) := by
  intro rest
  have whole : ("float " ++ name ++ ";").toList ++ '\n' :: rest =
      "float".toList ++ ' ' :: (name.toList ++ ';' :: '\n' :: rest) := by
    simp only [String.toList_append, List.append_assoc]
    rfl
  rw [whole, cTokens_name (by decide) (detached_cons (by decide)),
    cTokens_space, cTokens_name named (detached_cons (by decide)),
    cTokens_separator (by decide), cTokens_newline]
  rfl

theorem lexes_include :
    CLine.Lexes ⟨level, "#include <stdio.h>"⟩
      [.mark "#", .word "include", .mark "<", .word "stdio", .mark ".",
        .word "h", .mark ">"] := by
  intro rest
  have whole : "#include <stdio.h>".toList ++ '\n' :: rest =
      '#' :: ("include".toList ++ ' ' :: '<' :: ("stdio".toList ++
        '.' :: ("h".toList ++ '>' :: '\n' :: rest))) := rfl
  -- A point would continue a number, so the lemma about names does not apply.
  have library : cTokens ("stdio".toList ++ '.' ::
        ("h".toList ++ '>' :: '\n' :: rest)) =
      .word "stdio" :: cTokens ('.' :: ("h".toList ++ '>' :: '\n' :: rest)) :=
    @cTokens_of_front 's' .word "tdio".toList _ (by decide) rfl
  have point : cTokens ('.' :: ("h".toList ++ '>' :: '\n' :: rest)) =
      .mark "." :: cTokens ("h".toList ++ '>' :: '\n' :: rest) :=
    @cTokens_of_front '.' .mark [] _ (by decide) rfl
  rw [whole, cTokens_mark (by decide) (IsName.unmarked (by decide) _),
    cTokens_name (by decide) (detached_cons (by decide)), cTokens_space,
    cTokens_mark (by decide) (IsName.unmarked (by decide) _),
    library, point,
    cTokens_name (by decide) (detached_cons (by decide)),
    cTokens_mark (by decide) (unmarked_cons (by decide)), cTokens_newline]
  rfl

theorem lexes_main :
    CLine.Lexes ⟨level, "int main(void) \x7b"⟩
      [.word "int", .word "main", .mark "(", .word "void", .mark ")",
        .mark "\x7b"] := by
  intro rest
  have whole : "int main(void) \x7b".toList ++ '\n' :: rest =
      "int".toList ++ ' ' :: ("main".toList ++ '(' :: ("void".toList ++
        ')' :: ' ' :: '\x7b' :: '\n' :: rest)) := rfl
  rw [whole, cTokens_name (by decide) (detached_cons (by decide)),
    cTokens_space, cTokens_name (by decide) (detached_cons (by decide)),
    cTokens_separator (by decide),
    cTokens_name (by decide) (detached_cons (by decide)),
    cTokens_separator (by decide), cTokens_space,
    cTokens_separator (by decide), cTokens_newline]
  rfl

end Texts

/-! ## Listings -/

section Listings

mutual

/-- The lines of a statement are cut into the tokens that its tree gives. -/
theorem Statement.lexes : (statement : Statement) → (level : Nat) →
    statement.Admitted →
      List.Forall₂ CLine.Lexes (statement.lines level) statement.cLines
  | .printText _, _, admitted => .cons (lexes_printText admitted) .nil
  | .printValue _, _, admitted => .cons (lexes_printValue admitted) .nil
  | .label _, _, admitted => .cons (lexes_label admitted) .nil
  | .jump _, _, admitted => .cons (lexes_jump admitted) .nil
  | .assign _ _, _, admitted =>
      .cons (lexes_assign admitted.1 admitted.2) .nil
  | .input _, _, admitted =>
      .cons (lexes_scan admitted) <| .cons (lexes_clear admitted) <|
        .cons lexes_skip <| .cons lexes_close .nil
  | .block kind _ body, level, admitted => by
      refine .cons (lexes_open kind admitted.1) ?_
      exact List.rel_append (Statement.lexesAll body (level + 1) admitted.2)
        (.cons lexes_close .nil)

theorem Statement.lexesAll :
    (statements : List Statement) → (level : Nat) →
      Statement.AllAdmitted statements →
        List.Forall₂ CLine.Lexes (Statement.linesAll level statements)
          (Statement.cLinesAll statements)
  | [], _, _ => .nil
  | statement :: rest, level, admitted =>
      List.rel_append (statement.lexes level admitted.1)
        (Statement.lexesAll rest level admitted.2)

end

theorem Chain.notMem_cTokens {Op Arg : Type} {opText : Op → String}
    {argTokens : Arg → List CToken} {token : CToken}
    (ops : ∀ op, token ≠ .mark (opText op))
    (args : ∀ arg, token ∉ argTokens arg)
    (chain : Chain Op Arg) :
    token ∉ chain.cTokens opText argTokens := by
  induction chain with
  | first arg =>
      exact args arg
  | join left op right inductionHypothesis =>
      simp [Chain.cTokens, inductionHypothesis, ops op, args right]

theorem Expr.newline_notMem (expr : Expr) : .newline ∉ expr.cTokens := by
  apply Chain.notMem_cTokens nofun
  intro term
  apply Chain.notMem_cTokens nofun
  rintro ⟨sign, operand⟩
  cases sign <;> cases operand <;> simp [Factor.cTokens, Operand.cToken]

theorem Comparison.newline_notMem (test : Comparison) :
    .newline ∉ test.cTokens :=
  Chain.notMem_cTokens nofun Expr.newline_notMem _

mutual

theorem Statement.newline_notMem : (statement : Statement) →
    ∀ line ∈ statement.cLines, .newline ∉ line
  | .printText _ | .input _ => by simp [Statement.cLines]
  | .printValue value | .assign _ value => by
      simp [Statement.cLines, value.newline_notMem]
  | .label _ => by simp [Statement.cLines, labelLine]
  | .jump _ => by simp [Statement.cLines, jumpLine]
  | .block _ test body => by
      have inside := Statement.newline_notMem_all body
      simp only [Statement.cLines, List.forall_mem_cons,
        List.forall_mem_append]
      exact ⟨by simp [test.newline_notMem], inside, by simp⟩

theorem Statement.newline_notMem_all : (statements : List Statement) →
    ∀ line ∈ Statement.cLinesAll statements, .newline ∉ line
  | [] => by simp [Statement.cLinesAll]
  | statement :: rest => by
      rw [Statement.cLinesAll, List.forall_mem_append]
      exact ⟨statement.newline_notMem, Statement.newline_notMem_all rest⟩

end

theorem cTokens_replicate_space (count : Nat) (rest : List Char) :
    cTokens (List.replicate count ' ' ++ rest) = cTokens rest := by
  induction count with
  | zero =>
      rfl
  | succ count inductionHypothesis =>
      rw [List.replicate_succ, List.cons_append, cTokens_space,
        inductionHypothesis]

/-- The lines of a listing are cut one by one, and the text ends with the end
of a line. -/
theorem cLines_renderAll {lines : List CLine} {tokens : List (List CToken)}
    (lexes : List.Forall₂ CLine.Lexes lines tokens)
    (inLine : ∀ line ∈ tokens, .newline ∉ line)
    (width : Nat) :
    cLines (CLine.renderAll width lines) = tokens ++ [[]] := by
  induction lexes with
  | nil =>
      simp [cLines, List.splitOn_nil]
  | @cons line lineTokens lines tokens lexed _ inductionHypothesis =>
      rw [List.forall_mem_cons] at inLine
      have whole : (CLine.renderAll width (line :: lines)).toList =
          List.replicate (line.level * width) ' ' ++
            (line.text.toList ++
              '\n' :: (CLine.renderAll width lines).toList) := by
        simp [CLine.render]
      have further := inductionHypothesis inLine.2
      rw [cLines] at further ⊢
      rw [whole, cTokens_replicate_space, lexed,
        List.splitOn_append_cons_self_of_not_mem inLine.1, further]
      rfl

end Listings

end TeenyTiny
