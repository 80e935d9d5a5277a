import TeenyTiny.Program.Statement
import TeenyTiny.Token.Basic

/-!
# The grammar of programs

Which lists of tokens spell which program, one constructor for each alternative
of a rule:

    program    := statement*
    statement  := PRINT (string | expression) nl
                | IF comparison THEN nl statement* ENDIF nl
                | WHILE comparison REPEAT nl statement* ENDWHILE nl
                | LABEL ident nl
                | GOTO ident nl
                | LET ident = expression nl
                | INPUT ident nl
    comparison := expression ((== | != | < | <= | > | >=) expression)+
    expression := term ((+ | -) term)*
    term       := unary ((* | /) unary)*
    unary      := (+ | -)? primary
    primary    := number | ident
    nl         := newline+

Only the kinds of the tokens decide whether there is such a program.  Their
texts go into the tree, and what names stand for does not matter here.
-/

namespace TeenyTiny

/-! ## Expressions -/

/-- The tokens are the operand. -/
inductive Operand.SpelledBy : Operand → List Token → Prop
  | number {token : Token} (kind : token.kind = .number) :
      SpelledBy (.number token.text) [token]
  | name {token : Token} (kind : token.kind = .ident) :
      SpelledBy (.variable token.text) [token]

/-- The tokens are the sign of the factor, if it has one, and its operand. -/
inductive Factor.SpelledBy : Factor → List Token → Prop
  | plain {operand : Operand} {tokens : List Token}
      (spelled : operand.SpelledBy tokens) :
      SpelledBy ⟨none, operand⟩ tokens
  | signed {op : AddOp} {operand : Operand}
      {sign : Token} {tokens : List Token}
      (kind : sign.kind = Operator.kind op)
      (spelled : operand.SpelledBy tokens) :
      SpelledBy ⟨some op, operand⟩ (sign :: tokens)

/-- The tokens are the operands of the chain with its operators between them. -/
inductive Chain.SpelledBy {Op Arg : Type}
    (opKind : Op → Kind) (ArgSpelled : Arg → List Token → Prop) :
    Chain Op Arg → List Token → Prop
  | first {arg : Arg} {tokens : List Token}
      (spelled : ArgSpelled arg tokens) :
      SpelledBy opKind ArgSpelled (.first arg) tokens
  | join {left : Chain Op Arg} {op : Op} {right : Arg}
      {leftTokens rightTokens : List Token} {opToken : Token}
      (leftSpelled : SpelledBy opKind ArgSpelled left leftTokens)
      (kind : opToken.kind = opKind op)
      (rightSpelled : ArgSpelled right rightTokens) :
      SpelledBy opKind ArgSpelled (.join left op right)
        (leftTokens ++ opToken :: rightTokens)

/-- The tokens are factors with `*` and `/` between them. -/
def Term.SpelledBy (term : Term) (tokens : List Token) : Prop :=
  Chain.SpelledBy Operator.kind Factor.SpelledBy term tokens

/-- The tokens are terms with `+` and `-` between them. -/
def Expr.SpelledBy (expr : Expr) (tokens : List Token) : Prop :=
  Chain.SpelledBy Operator.kind Term.SpelledBy expr tokens

/-- The tokens are two or more expressions with comparison operators between
them. -/
def Comparison.SpelledBy
    (comparison : Comparison) (tokens : List Token) : Prop :=
  Chain.SpelledBy Operator.kind Expr.SpelledBy
    (.join comparison.left comparison.op comparison.right) tokens

/-! ## Statements -/

/-- All tokens end lines. -/
def Blank (tokens : List Token) : Prop :=
  ∀ token ∈ tokens, token.kind = .newline

/-- One or more ends of lines. -/
def LineEnd (tokens : List Token) : Prop :=
  tokens ≠ [] ∧ Blank tokens

theorem Blank.cons {token : Token} {blank : List Token}
    (kind : token.kind = .newline)
    (isBlank : Blank blank) :
    Blank (token :: blank) := by
  intro other member
  rcases List.mem_cons.mp member with rfl | later
  · exact kind
  · exact isBlank other later

theorem LineEnd.cons {token : Token} {blank : List Token}
    (kind : token.kind = .newline)
    (isBlank : Blank blank) :
    LineEnd (token :: blank) :=
  ⟨List.cons_ne_nil token blank, isBlank.cons kind⟩

theorem LineEnd.exists_cons {lineEnd : List Token}
    (isEnd : LineEnd lineEnd) :
    ∃ token blank,
      lineEnd = token :: blank ∧ token.kind = .newline ∧ Blank blank := by
  obtain ⟨nonempty, blank⟩ := isEnd
  cases lineEnd with
  | nil =>
      exact absurd rfl nonempty
  | cons token more =>
      exact ⟨token, more, rfl, blank token (by simp), fun other member =>
        blank other (List.mem_cons_of_mem token member)⟩

/-- The tokens are a statement that is no block, up to the end of its line. -/
inductive Statement.SpelledBy : Statement → List Token → Prop
  | printText {word text : Token}
      (wordKind : word.kind = .keyword .printKw)
      (textKind : text.kind = .string) :
      SpelledBy (.printText text.text) [word, text]
  | printValue {word : Token} {value : Expr} {tokens : List Token}
      (wordKind : word.kind = .keyword .printKw)
      (spelled : value.SpelledBy tokens) :
      SpelledBy (.printValue value) (word :: tokens)
  | label {word name : Token}
      (wordKind : word.kind = .keyword .labelKw)
      (nameKind : name.kind = .ident) :
      SpelledBy (.label name.text) [word, name]
  | jump {word name : Token}
      (wordKind : word.kind = .keyword .gotoKw)
      (nameKind : name.kind = .ident) :
      SpelledBy (.jump name.text) [word, name]
  | assign {word name equals : Token} {value : Expr} {tokens : List Token}
      (wordKind : word.kind = .keyword .letKw)
      (nameKind : name.kind = .ident)
      (equalsKind : equals.kind = .eq)
      (spelled : value.SpelledBy tokens) :
      SpelledBy (.assign name.text value) (word :: name :: equals :: tokens)
  | input {word name : Token}
      (wordKind : word.kind = .keyword .inputKw)
      (nameKind : name.kind = .ident) :
      SpelledBy (.input name.text) [word, name]

/-- The tokens are the statements of the program, each with the end of its
line. -/
inductive Program.SpelledBy : Program → List Token → Prop
  | nil : SpelledBy [] []
  | simple {statement : Statement} {rest : Program}
      {tokens lineEnd restTokens : List Token}
      (spelled : statement.SpelledBy tokens)
      (ends : LineEnd lineEnd)
      (restSpelled : SpelledBy rest restTokens) :
      SpelledBy (statement :: rest) (tokens ++ (lineEnd ++ restTokens))
  | block {kind : Block} {test : Comparison} {body rest : Program}
      {opener divider closer : Token}
      {testTokens lineEnd bodyTokens closeEnd restTokens : List Token}
      (openerKind : opener.kind = .keyword kind.opener)
      (testSpelled : test.SpelledBy testTokens)
      (dividerKind : divider.kind = .keyword kind.divider)
      (ends : LineEnd lineEnd)
      (bodySpelled : SpelledBy body bodyTokens)
      (closerKind : closer.kind = .keyword kind.closer)
      (closes : LineEnd closeEnd)
      (restSpelled : SpelledBy rest restTokens) :
      SpelledBy (.block kind test body :: rest)
        (opener :: (testTokens ++ divider :: (lineEnd ++
          (bodyTokens ++ closer :: (closeEnd ++ restTokens)))))

/-! ## Whole sources -/

/-- The tokens of a source that holds the program: it may start with empty
lines, and the end of the source comes last. -/
def Program.WrittenAs (program : Program) (tokens : List Token) : Prop :=
  ∃ blank body last,
    tokens = blank ++ (body ++ [last]) ∧
      Blank blank ∧ program.SpelledBy body ∧ last.kind = .eof

/-- Some program is written as the tokens. -/
def Grammatical (tokens : List Token) : Prop :=
  ∃ program : Program, program.WrittenAs tokens

/-- The tokens start some grammatical source. -/
def Viable (tokens : List Token) : Prop :=
  ∃ rest, Grammatical (tokens ++ rest)

end TeenyTiny
