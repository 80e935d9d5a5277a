import TeenyTiny.Program.CText

/-!
# A program in C, line by line

The translation of a program as a list of lines, each with its level of
indentation.  A statement is translated by itself: its lines depend on the
statement and its level alone.  Writing on a page comes to the same
(`Statement.write_eq`), although the page keeps track of the level and of where
lines start.
-/

namespace TeenyTiny

/-! ## Lines -/

/-- A line of a program in C. -/
structure CLine where
  level : Nat
  text : String
  deriving DecidableEq, Repr

namespace CLine

/-- The line with its spaces in front, `width` for each level, and its end. -/
def render (width : Nat) (line : CLine) : String :=
  String.ofList (List.replicate (line.level * width) ' ') ++ line.text ++ "\n"

/-- The lines one below the other. -/
def renderAll (width : Nat) (lines : List CLine) : String :=
  String.join (lines.map (render width))

@[simp]
theorem renderAll_nil (width : Nat) : renderAll width [] = "" :=
  rfl

@[simp]
theorem renderAll_cons (width : Nat) (line : CLine) (rest : List CLine) :
    renderAll width (line :: rest) =
      line.render width ++ renderAll width rest := by
  simp [renderAll]

theorem renderAll_append (width : Nat) (lines more : List CLine) :
    renderAll width (lines ++ more) =
      renderAll width lines ++ renderAll width more := by
  simp [renderAll]

end CLine

/-! ## Expressions word by word -/

/-- The operands of a chain with its operators between them. -/
def Chain.words {Op Arg : Type}
    (opText : Op → String) (argWords : Arg → List String) :
    Chain Op Arg → List String
  | .first arg => argWords arg
  | .join left op right =>
      left.words opText argWords ++ opText op :: argWords right

/-- The factors of a term, each with its sign, and the operators. -/
def Term.words (term : Term) : List String :=
  Chain.words Operator.text (fun factor : Factor => [factor.cText]) term

def Expr.words (expr : Expr) : List String :=
  Chain.words Operator.text Term.words expr

def Comparison.words (test : Comparison) : List String :=
  Chain.words Operator.text Expr.words
    (.join test.left test.op test.right)

namespace Chain

variable {Op Arg : Type} {opText : Op → String} {argText : Arg → String}
  {argWords : Arg → List String}

theorem words_ne_nil
    (nonempty : ∀ arg, argWords arg ≠ [])
    (chain : Chain Op Arg) :
    chain.words opText argWords ≠ [] := by
  cases chain with
  | first arg =>
      exact nonempty arg
  | join left op right =>
      exact List.append_ne_nil_of_right_ne_nil _ (List.cons_ne_nil _ _)

/-- A chain is written as its words with single spaces between them. -/
theorem cText_eq
    (nonempty : ∀ arg, argWords arg ≠ [])
    (written : ∀ arg, argText arg = " ".intercalate (argWords arg))
    (chain : Chain Op Arg) :
    chain.cText opText argText =
      " ".intercalate (chain.words opText argWords) := by
  induction chain with
  | first arg =>
      exact written arg
  | join left op right inductionHypothesis =>
      rw [cText, words, inductionHypothesis, written,
        String.intercalate_append_of_ne_nil (words_ne_nil nonempty left)
          (List.cons_ne_nil _ _),
        String.intercalate_cons_of_ne_nil (nonempty right)]
      simp only [String.append_assoc]

end Chain

theorem Term.words_ne_nil (term : Term) : term.words ≠ [] :=
  Chain.words_ne_nil (fun _ => List.cons_ne_nil _ _) term

theorem Term.cText_eq (term : Term) :
    term.cText = " ".intercalate term.words :=
  Chain.cText_eq (fun _ => List.cons_ne_nil _ _)
    (fun _ => String.intercalate_singleton.symm) term

theorem Expr.words_ne_nil (expr : Expr) : expr.words ≠ [] :=
  Chain.words_ne_nil Term.words_ne_nil expr

theorem Expr.cText_eq (expr : Expr) :
    expr.cText = " ".intercalate expr.words :=
  Chain.cText_eq Term.words_ne_nil Term.cText_eq expr

theorem Comparison.cText_eq (test : Comparison) :
    test.cText = " ".intercalate test.words :=
  Chain.cText_eq Expr.words_ne_nil Expr.cText_eq _

/-! ## Statements line by line -/

mutual

/-- The lines of a statement at the given level. -/
def Statement.lines (level : Nat) : Statement → List CLine
  | .printText text =>
      [⟨level, "printf(\"" ++ text ++ "\\n\");"⟩]
  | .printValue value =>
      [⟨level, "printf(\"%.2f\\n\", (float)(" ++
        " ".intercalate value.words ++ "));"⟩]
  | .label name =>
      [⟨level, name ++ ":;"⟩]
  | .jump name =>
      [⟨level, "goto " ++ name ++ ";"⟩]
  | .assign name value =>
      [⟨level, name ++ " = " ++ " ".intercalate value.words ++ ";"⟩]
  | .input name =>
      [⟨level, "if (0 == scanf(\"%f\", &" ++ name ++ ")) \x7b"⟩,
        ⟨level + 1, name ++ " = 0;"⟩,
        ⟨level + 1, "scanf(\"%*s\");"⟩,
        ⟨level, "\x7d"⟩]
  | .block kind test body =>
      ⟨level, kind.cWord ++ " (" ++ " ".intercalate test.words ++ ") \x7b"⟩ ::
        (Statement.linesAll (level + 1) body ++ [⟨level, "\x7d"⟩])

/-- The lines of statements that stand one after the other. -/
def Statement.linesAll (level : Nat) : List Statement → List CLine
  | [] => []
  | statement :: rest =>
      statement.lines level ++ Statement.linesAll level rest

end

/-- Neighbours do not matter. -/
theorem Statement.linesAll_eq_flatMap
    (level : Nat) (statements : List Statement) :
    Statement.linesAll level statements =
      statements.flatMap (Statement.lines level) := by
  induction statements with
  | nil =>
      rfl
  | cons statement rest inductionHypothesis =>
      rw [Statement.linesAll, inductionHypothesis, List.flatMap_cons]

/-! ## Lines on a page -/

namespace Page

/-- Adds a line to the body.  The spaces in front of it are left out if the
page stands inside a line. -/
def addLine (page : Page) (line : CLine) : Page :=
  { page with
    body := page.body ++
      ((if page.atLineStart then page.pad line.level else "") ++
        line.text ++ "\n")
    atLineStart := true }

def addLines (page : Page) (lines : List CLine) : Page :=
  lines.foldl addLine page

theorem addLines_append (page : Page) (lines more : List CLine) :
    page.addLines (lines ++ more) = (page.addLines lines).addLines more :=
  List.foldl_append

@[simp]
theorem addLines_cons (page : Page) (line : CLine) (rest : List CLine) :
    page.addLines (line :: rest) = (page.addLine line).addLines rest :=
  rfl

@[simp]
theorem addLines_nil (page : Page) : page.addLines [] = page :=
  rfl

theorem level_addLines (page : Page) (lines : List CLine) :
    (page.addLines lines).level = page.level := by
  induction lines generalizing page with
  | nil =>
      rfl
  | cons line rest inductionHypothesis =>
      exact inductionHypothesis (page.addLine line)

theorem indent_addLines (page : Page) (lines : List CLine) :
    page.indent.addLines lines = (page.addLines lines).indent := by
  induction lines generalizing page with
  | nil =>
      rfl
  | cons line rest inductionHypothesis =>
      exact inductionHypothesis (page.addLine line)

/-- A piece of text is a line at the current level if it does not end a line
by itself. -/
theorem writeLine_eq (page : Page) {text : String} {last : Char}
    (ends : text.toList.getLast? = some last)
    (inside : last ≠ '\n') :
    page.writeLine text = page.addLine ⟨page.level, text⟩ := by
  have nonempty : text ≠ "" := by
    rintro rfl
    cases ends
  simp [writeLine, write, addLine, nonempty, ends, inside, pad,
    String.append_assoc]

theorem writeLine_append (page : Page) (front : String) {back : String}
    {last : Char}
    (ends : back.toList.getLast? = some last)
    (inside : last ≠ '\n') :
    page.writeLine (front ++ back) =
      page.addLine ⟨page.level, front ++ back⟩ := by
  apply writeLine_eq page _ inside
  rw [String.toList_append, List.getLast?_append, ends, Option.some_or]

/-- A block of lines is one level deeper than the lines around it. -/
theorem writeLine_dedent (page : Page) {text : String} {last : Char}
    (lines : List CLine)
    (ends : text.toList.getLast? = some last)
    (inside : last ≠ '\n') :
    (page.indent.addLines lines).dedent.writeLine text =
      page.addLines (lines ++ [⟨page.level, text⟩]) := by
  have outside : (page.indent.addLines lines).dedent = page.addLines lines := by
    rw [indent_addLines]
    rfl
  rw [outside, writeLine_eq _ ends inside, level_addLines, addLines_append]
  rfl

end Page

mutual

/-- Writing a statement adds its lines. -/
theorem Statement.write_eq : (statement : Statement) → (page : Page) →
    statement.write page = page.addLines (statement.lines page.level)
  | .printText text, page => by
      have ends : "\\n\");".toList.getLast? = some ';' := rfl
      rw [Statement.write, Page.writeLine_append page _ ends (by decide)]
      rfl
  | .printValue value, page => by
      have ends : "));".toList.getLast? = some ';' := rfl
      rw [Statement.write, Page.writeLine_append page _ ends (by decide),
        Expr.cText_eq]
      rfl
  | .label name, page => by
      have ends : ":;".toList.getLast? = some ';' := rfl
      rw [Statement.write, Page.writeLine_append page _ ends (by decide)]
      rfl
  | .jump name, page => by
      have ends : ";".toList.getLast? = some ';' := rfl
      rw [Statement.write, Page.writeLine_append page _ ends (by decide)]
      rfl
  | .assign name value, page => by
      have ends : ";".toList.getLast? = some ';' := rfl
      rw [Statement.write, Page.writeLine_append page _ ends (by decide),
        Expr.cText_eq]
      rfl
  | .input name, page => by
      have scans : ")) \x7b".toList.getLast? = some '\x7b' := rfl
      have clears : " = 0;".toList.getLast? = some ';' := rfl
      have skips : "scanf(\"%*s\");".toList.getLast? = some ';' := rfl
      have closes : "\x7d".toList.getLast? = some '\x7d' := rfl
      simp only [Statement.write,
        Page.writeLine_append _ _ scans (by decide),
        Page.writeLine_append _ _ clears (by decide),
        Page.writeLine_eq _ skips (by decide),
        Page.writeLine_eq _ closes (by decide)]
      rfl
  | .block kind test body, page => by
      have opens : ") \x7b".toList.getLast? = some '\x7b' := rfl
      have closes : "\x7d".toList.getLast? = some '\x7d' := rfl
      simp only [Statement.write, Page.writeLine_append _ _ opens (by decide),
        Statement.writeAll_eq body]
      rw [Page.writeLine_dedent _ _ closes (by decide),
        Comparison.cText_eq]
      rfl

theorem Statement.writeAll_eq :
    (statements : List Statement) → (page : Page) →
      Statement.writeAll statements page =
        page.addLines (Statement.linesAll page.level statements)
  | [], page => rfl
  | statement :: rest, page => by
      rw [Statement.writeAll, Statement.write_eq statement page,
        Statement.writeAll_eq rest, Page.level_addLines, Statement.linesAll,
        Page.addLines_append]

end

/-! ## Whole programs -/

/-- The lines before the statements, with a declaration of each variable. -/
def headerLines (names : List String) : List CLine :=
  [⟨0, "#include <stdio.h>"⟩, ⟨0, "int main(void) \x7b"⟩] ++
    names.map fun name => ⟨1, "float " ++ name ++ ";"⟩

/-- The lines of the statements and those that end the function, which stands
at the given level. -/
def Program.bodyLines (level : Nat) (program : Program) : List CLine :=
  program.flatMap (Statement.lines (level + 1)) ++
    [⟨level + 1, "return 0;"⟩, ⟨level, "\x7d"⟩]

namespace Page

theorem headerLine_eq (page : Page) (level : Nat) (text : String) :
    page.headerLine level text =
      page.addHeader (CLine.render page.width ⟨level, text⟩) :=
  rfl

theorem addHeader_addHeader (page : Page) (text more : String) :
    (page.addHeader text).addHeader more = page.addHeader (text ++ more) := by
  simp [addHeader, String.append_assoc]

theorem foldl_headerLine (page : Page) (lines : List CLine) :
    lines.foldl (fun page line => page.headerLine line.level line.text) page =
      page.addHeader (CLine.renderAll page.width lines) := by
  induction lines generalizing page with
  | nil =>
      simp [addHeader]
  | cons line rest inductionHypothesis =>
      rw [List.foldl_cons, inductionHypothesis, headerLine_eq,
        addHeader_addHeader, CLine.renderAll_cons]
      rfl

end Page

/-- Declaring the variables adds the header. -/
theorem Variables.write_eq (bound : Variables) (page : Page) :
    bound.write page =
      page.addHeader
        (CLine.renderAll page.width (headerLines bound.names)) := by
  rw [← Page.foldl_headerLine, headerLines, List.foldl_append,
    List.foldl_map]
  rfl

/-- Writing a program adds its lines. -/
theorem Program.write_eq (program : Program) (page : Page) :
    program.write page = page.addLines (program.bodyLines page.level) := by
  have returns : "return 0;".toList.getLast? = some ';' := rfl
  have closes : "\x7d".toList.getLast? = some '\x7d' := rfl
  rw [Program.write, Statement.writeAll_eq, Statement.linesAll_eq_flatMap,
    Page.writeLine_eq _ returns (by decide), Page.level_addLines]
  have closed := page.writeLine_dedent
    (program.flatMap (Statement.lines page.indent.level) ++
      [⟨page.indent.level, "return 0;"⟩]) closes (by decide)
  rw [Page.addLines_append, List.append_assoc] at closed
  exact closed

/-! ## The finished text -/

namespace Page

variable {page : Page}

theorem header_addLines (page : Page) (lines : List CLine) :
    (page.addLines lines).header = page.header := by
  induction lines generalizing page with
  | nil =>
      rfl
  | cons line rest inductionHypothesis =>
      exact inductionHypothesis (page.addLine line)

theorem body_addLine
    (fresh : page.atLineStart = true)
    (line : CLine) :
    (page.addLine line).body = page.body ++ line.render page.width := by
  simp [addLine, fresh, CLine.render, pad]

/-- Lines on a page that stands at the start of a line are indented, the first
one too. -/
theorem body_addLines
    (fresh : page.atLineStart = true)
    (lines : List CLine) :
    (page.addLines lines).body =
      page.body ++ CLine.renderAll page.width lines := by
  induction lines generalizing page with
  | nil =>
      simp
  | cons line rest inductionHypothesis =>
      have freshAgain : (page.addLine line).atLineStart = true := rfl
      rw [addLines_cons, inductionHypothesis freshAgain,
        body_addLine fresh, CLine.renderAll_cons, String.append_assoc]
      rfl

end Page

/-- The text of a whole program is made of its lines. -/
theorem Reading.text_write_empty (reading : Reading) (width : Nat) :
    (reading.write (.empty width)).text =
      CLine.renderAll width
        (headerLines reading.bound.names ++ reading.program.bodyLines 0) := by
  have fresh : (reading.bound.write (.empty width)).atLineStart = true := by
    rw [Variables.write_eq]
    rfl
  rw [Reading.write, Program.write_eq, Page.text, Page.header_addLines,
    Page.body_addLines fresh, Variables.write_eq, CLine.renderAll_append]
  simp [Page.addHeader, Page.empty]

end TeenyTiny
