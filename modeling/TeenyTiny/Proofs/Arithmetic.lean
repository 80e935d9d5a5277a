import Mathlib.Data.List.Basic
import TeenyTiny.Proofs.CGrammar
import TeenyTiny.Proofs.ExpressionTokens

/-!
# Arithmetic keeps its structure

An expression is written in C as the tokens that it was read from, and C's
grammar gives them the tree that they have in the source
(`readSeen_arithmetic`).
-/

namespace TeenyTiny

/-! ## The tree of an expression in C -/

def Operand.toC : Operand → CExpr
  | .number digits => .number (decimalText digits)
  | .variable name => .name name

def Factor.toC (factor : Factor) : CExpr :=
  match factor.sign with
  | some sign => .unary (Operator.text sign) factor.operand.toC
  | none => factor.operand.toC

def Chain.toC {Op Arg : Type} (opText : Op → String) (argToC : Arg → CExpr) :
    Chain Op Arg → CExpr
  | .first arg => argToC arg
  | .join left op right =>
      .binary (opText op) (left.toC opText argToC) (argToC right)

def Term.toC (term : Term) : CExpr :=
  Chain.toC Operator.text Factor.toC term

def Expr.toC (expr : Expr) : CExpr :=
  Chain.toC Operator.text Term.toC expr

theorem Operand.parsedAs (operand : Operand) (rank : Nat) :
    ParsedAs rank [operand.cToken] operand.toC := by
  cases operand with
  | number _ => exact .number
  | _ => exact .name

theorem Factor.parsedAs (factor : Factor) :
    ParsedAs unaryRank factor.cTokens factor.toC := by
  obtain ⟨sign, operand⟩ := factor
  cases sign with
  | none =>
      exact operand.parsedAs unaryRank
  | some op =>
      have isUnary : Operator.text op ∈ unaryMarks := by
        cases op <;> decide
      exact .unary isUnary (operand.parsedAs unaryRank)

/-- A chain is parsed from left to right if its operators have one rank and its
operands only higher ones. -/
theorem Chain.parsedAs {Op Arg : Type} {opText : Op → String}
    {argTokens : Arg → List CToken} {argToC : Arg → CExpr} {rank : Nat}
    (ops : ∀ op, binaryRank (opText op) = some rank)
    (args : ∀ arg, ParsedAs (rank + 1) (argTokens arg) (argToC arg))
    (chain : Chain Op Arg) :
    ParsedAs rank (chain.cTokens opText argTokens)
      (chain.toC opText argToC) := by
  induction chain with
  | first arg =>
      exact (args arg).lower (Nat.le_succ rank)
  | join left op right inductionHypothesis =>
      exact .binary (ops op) (Nat.le_refl rank) inductionHypothesis (args right)

theorem Term.parsedAs (term : Term) :
    ParsedAs 10 term.cTokens term.toC := by
  apply Chain.parsedAs
  · intro op
    cases op <;> rfl
  · exact Factor.parsedAs

theorem Expr.parsedAs_sum (expr : Expr) :
    ParsedAs 9 expr.cTokens expr.toC := by
  apply Chain.parsedAs
  · intro op
    cases op <;> rfl
  · exact Term.parsedAs

theorem Expr.parsedAs (expr : Expr) :
    ParsedAs 0 expr.cTokens expr.toC :=
  expr.parsedAs_sum.lower (Nat.zero_le 9)

/-! ## Expressions that are being read -/

/-- The tokens are the chain and the operator behind it. -/
def Chain.Open.SpelledBy {Op Arg : Type}
    (opKind : Op → Kind) (ArgSpelled : Arg → List Token → Prop)
    (started : Chain.Open Op Arg) (tokens : List Token) : Prop :=
  match started with
  | none => tokens = []
  | some (left, op) =>
      ∃ leftTokens opToken, tokens = leftTokens ++ [opToken] ∧
        left.SpelledBy opKind ArgSpelled leftTokens ∧
        opToken.kind = opKind op

theorem Chain.Open.SpelledBy.extend {Op Arg : Type}
    {opKind : Op → Kind} {ArgSpelled : Arg → List Token → Prop}
    {started : Chain.Open Op Arg} {arg : Arg} {tokens argTokens : List Token}
    (spelled : started.SpelledBy opKind ArgSpelled tokens)
    (argSpelled : ArgSpelled arg argTokens) :
    (Chain.extend started arg).SpelledBy opKind ArgSpelled
      (tokens ++ argTokens) := by
  cases started with
  | none =>
      cases spelled
      exact .first argSpelled
  | some left =>
      obtain ⟨leftTokens, opToken, rfl, leftSpelled, kind⟩ := spelled
      rw [List.append_assoc]
      exact .join leftSpelled kind argSpelled

/-- The tokens are the sign before an operand, if it has one. -/
def SignSpelledBy (sign : Option AddOp) (tokens : List Token) : Prop :=
  match sign with
  | none => tokens = []
  | some op => ∃ token, tokens = [token] ∧ token.kind = Operator.kind op

theorem SignSpelledBy.factor {sign : Option AddOp} {operand : Operand}
    {signTokens tokens : List Token}
    (signed : SignSpelledBy sign signTokens)
    (spelled : operand.SpelledBy tokens) :
    Factor.SpelledBy ⟨sign, operand⟩ (signTokens ++ tokens) := by
  cases sign with
  | none =>
      cases signed
      exact .plain spelled
  | some op =>
      obtain ⟨token, rfl, kind⟩ := signed
      exact .signed kind spelled

/-- What has been read of an expression for the goal. -/
inductive Phase.HasRead (goal : Goal) : Phase → List Token → Prop
  | operand {phase : Phase} {prior : Prior} {sign : Option AddOp}
      {sumTokens productTokens signTokens : List Token}
      (placed : phase.operandPlace = some (goal, prior, sign))
      (sum : prior.sum.SpelledBy Operator.kind Term.SpelledBy sumTokens)
      (product :
        prior.product.SpelledBy Operator.kind Factor.SpelledBy productTokens)
      (signed : SignSpelledBy sign signTokens) :
      HasRead goal phase (sumTokens ++ (productTokens ++ signTokens))
  | operator {sum : Chain.Open AddOp Term} {term : Term}
      {sumTokens termTokens : List Token}
      (sumSpelled : sum.SpelledBy Operator.kind Term.SpelledBy sumTokens)
      (termSpelled : term.SpelledBy termTokens) :
      HasRead goal (.operator goal sum term) (sumTokens ++ termTokens)

theorem Phase.hasRead_nil {phase : Phase} {goal : Goal}
    (starts : phase.factorPlace = some (goal, .none)) :
    phase.HasRead goal [] :=
  .operand (operandPlace_of_factorPlace starts) rfl rfl rfl

/-- Whether tokens of the kind are operands or operators of arithmetic. -/
def Kind.isArithmetic : Kind → Bool
  | .number | .ident | .plus | .minus | .star | .slash => true
  | _ => false

namespace Reading

variable {reading next final : Reading} {goal : Goal} {token : Token}
  {before tokens : List Token}

theorem Move.hasRead_of_operandPlace
    {prior : Prior} {sign : Option AddOp}
    {sumTokens productTokens signTokens : List Token}
    (placed : reading.phase.operandPlace = some (goal, prior, sign))
    (sum : prior.sum.SpelledBy Operator.kind Term.SpelledBy sumTokens)
    (product :
      prior.product.SpelledBy Operator.kind Factor.SpelledBy productTokens)
    (signed : SignSpelledBy sign signTokens)
    (move : Move reading token next)
    (arithmetic : token.kind.isArithmetic = true) :
    next.phase.HasRead goal
      (sumTokens ++ (productTokens ++ signTokens) ++ [token]) := by
  cases move with
  | sign otherPlaced kind =>
      have asOperand := Phase.operandPlace_of_factorPlace otherPlaced
      rw [placed] at asOperand
      cases asOperand
      cases signed
      rw [List.append_nil, List.append_assoc]
      exact .operand rfl sum product ⟨token, rfl, kind⟩
  | operand otherPlaced spelled =>
      rw [placed] at otherPlaced
      cases otherPlaced
      have whole := product.extend (signed.factor spelled)
      rw [List.append_assoc, List.append_assoc]
      exact .operator sum whole
  | text _ kind =>
      rw [kind] at arithmetic
      cases arithmetic
  | finish _ kind =>
      rw [kind] at arithmetic
      cases arithmetic
  | blank phase _ | word phase _ _ | close phase _ _ | name phase _
  | target phase _ | equals phase _ | multiply phase _ | add phase _
  | compare phase _ | divide phase _ | enter phase _ =>
      rw [phase] at placed
      cases placed

theorem Move.hasRead_of_operator
    {sum : Chain.Open AddOp Term} {term : Term}
    {sumTokens termTokens : List Token}
    (phase : reading.phase = .operator goal sum term)
    (sumSpelled : sum.SpelledBy Operator.kind Term.SpelledBy sumTokens)
    (termSpelled : term.SpelledBy termTokens)
    (move : Move reading token next)
    (arithmetic : token.kind.isArithmetic = true) :
    next.phase.HasRead goal (sumTokens ++ termTokens ++ [token]) := by
  cases move with
  | @multiply _ _ _ op other kind =>
      rw [phase] at other
      cases other
      have product : Chain.Open.SpelledBy Operator.kind Factor.SpelledBy
          (some (term, op)) (termTokens ++ [token]) :=
        ⟨termTokens, token, rfl, termSpelled, kind⟩
      rw [List.append_assoc, ← List.append_nil (termTokens ++ [token])]
      exact .operand rfl sumSpelled product rfl
  | @add _ _ _ op other kind =>
      rw [phase] at other
      cases other
      have longer : Chain.Open.SpelledBy Operator.kind Term.SpelledBy
          (some (Chain.extend sum term, op))
          (sumTokens ++ termTokens ++ [token]) :=
        ⟨_, token, rfl, sumSpelled.extend termSpelled, kind⟩
      have whole : Phase.HasRead goal
          (.factor goal ⟨some (Chain.extend sum term, op), none⟩)
          (sumTokens ++ termTokens ++ [token] ++ ([] ++ [])) :=
        .operand rfl longer rfl rfl
      rwa [List.append_nil, List.append_nil] at whole
  | @compare _ _ _ _ op _ kind =>
      rw [kind] at arithmetic
      cases op <;> cases arithmetic
  | divide _ kind | finish _ kind =>
      rw [kind] at arithmetic
      cases arithmetic
  | sign placed _ | operand placed _ =>
      rw [phase] at placed
      cases placed
  | blank other _ | word other _ _ | close other _ _ | text other _
  | name other _ | target other _ | equals other _ | enter other _ =>
      rw [phase] at other
      cases other

/-- One more token of arithmetic goes on with the expression. -/
theorem Move.hasRead
    (hasRead : reading.phase.HasRead goal tokens)
    (move : Move reading token next)
    (arithmetic : token.kind.isArithmetic = true) :
    next.phase.HasRead goal (tokens ++ [token]) := by
  generalize phase : reading.phase = current at hasRead
  cases hasRead with
  | operand placed sum product signed =>
      rw [← phase] at placed
      exact move.hasRead_of_operandPlace placed sum product signed arithmetic
  | operator sum term =>
      exact move.hasRead_of_operator phase sum term arithmetic

theorem readSeen_cons_concat
    (reading : Reading) (token after : Token) (rest : List Token) :
    reading.readSeen (token :: (rest ++ [after])) =
      (reading.step token ((rest ++ [after]).headD after)).andThen
        (·.readSeen (rest ++ [after])) := by
  cases rest <;> rfl

/-- Tokens of arithmetic go on with the expression. -/
theorem hasRead_of_readSeen {after : Token}
    (hasRead : reading.phase.HasRead goal before)
    (arithmetic : ∀ token ∈ tokens, token.kind.isArithmetic = true)
    (read : (reading.readSeen (tokens ++ [after])).result = .ok final) :
    final.phase.HasRead goal (before ++ tokens) := by
  induction tokens generalizing reading before with
  | nil =>
      cases read
      rwa [List.append_nil]
  | cons token rest inductionHypothesis =>
      rw [List.forall_mem_cons] at arithmetic
      have inside : token.kind ≠ .eof := by
        intro kind
        rw [kind] at arithmetic
        cases arithmetic.1
      rw [List.cons_append, readSeen_cons_concat, Traced.result_andThen] at read
      cases done :
          (reading.step token ((rest ++ [after]).headD after)).result with
      | error fault =>
          rw [done] at read
          cases read
      | ok next =>
          rw [done] at read
          obtain ⟨move, _⟩ := move_of_step inside done
          have further := inductionHypothesis
            (move.hasRead hasRead arithmetic.1) arithmetic.2 read
          rwa [List.append_assoc] at further

end Reading

/-- In the tokens of a source, let some be read as an expression from its start
on.  They spell the expression.  C cuts its text into the same tokens, with the
numbers in decimal, and C's grammar gives these the one tree that they have in
the source. -/
theorem readSeen_arithmetic
    {source : List Char} {before tokens after : List Token} {next : Token}
    {reading final : Reading} {goal : Goal}
    {sum : Chain.Open AddOp Term} {term : Term}
    (tokenized : tokenize source = .ok (before ++ (tokens ++ next :: after)))
    (arithmetic : ∀ token ∈ tokens, token.kind.isArithmetic = true)
    (starts : reading.phase.factorPlace = some (goal, .none))
    (read : (reading.readSeen (tokens ++ [next])).result = .ok final)
    (ends : final.phase = .operator goal sum term) :
    Expr.SpelledBy (Chain.extend sum term) tokens ∧
      cTokens (Expr.cText (Chain.extend sum term)).toList =
        tokens.map Token.cToken ∧
      ∀ value : Expr, value.SpelledBy tokens →
        ∀ tree, ParsedAs 0 (tokens.map Token.cToken) tree ↔
          tree = value.toC := by
  have spelled : Expr.SpelledBy (Chain.extend sum term) tokens := by
    have hasRead := Reading.hasRead_of_readSeen
      (Phase.hasRead_nil starts) arithmetic read
    rw [ends, List.nil_append] at hasRead
    cases hasRead with
    | operand placed _ _ _ => cases placed
    | operator sumSpelled termSpelled => exact sumSpelled.extend termSpelled
  have admits : ∀ token ∈ tokens, token.kind.Admits token.text := by
    intro token member
    apply admits_of_tokenize tokenized
    simp [member]
  refine ⟨spelled, ?_, ?_⟩
  · have cut := Expr.cTokens_cText (spelled.admitted admits) detached_nil
    rwa [List.append_nil, cTokens_nil, List.append_nil,
      spelled.cTokens_eq admits] at cut
  · intro value valueSpelled tree
    rw [← valueSpelled.cTokens_eq admits]
    constructor
    · intro parsed
      exact parsed.unique value.parsedAs
    · rintro rfl
      exact value.parsedAs

/-- A source with signs behind operators and zeros in front. -/
def signedSource : List Char :=
  "PRINT -a*03+4.50/ +a- -01\n".toList

/-- The reading of that source behind its keyword, with the variable bound. -/
def signedReading : Reading :=
  ⟨.print, [], [], ⟨["a"]⟩, .empty⟩

/-- Its expression. -/
def signedTokens : List Token :=
  [⟨.minus, "-", ⟨6, 7⟩⟩, ⟨.ident, "a", ⟨7, 8⟩⟩, ⟨.star, "*", ⟨8, 9⟩⟩,
    ⟨.number, "03", ⟨9, 11⟩⟩, ⟨.plus, "+", ⟨11, 12⟩⟩,
    ⟨.number, "4.50", ⟨12, 16⟩⟩, ⟨.slash, "/", ⟨16, 17⟩⟩,
    ⟨.plus, "+", ⟨18, 19⟩⟩, ⟨.ident, "a", ⟨19, 20⟩⟩, ⟨.minus, "-", ⟨20, 21⟩⟩,
    ⟨.minus, "-", ⟨22, 23⟩⟩, ⟨.number, "01", ⟨23, 25⟩⟩]

theorem readSeen_arithmetic_signed :
    ∃ before next after sum term,
      tokenize signedSource = .ok (before ++ (signedTokens ++ next :: after)) ∧
        (∃ final : Reading,
          (signedReading.readSeen (signedTokens ++ [next])).result =
              .ok final ∧
            final.phase = .operator .print sum term) ∧
        Expr.SpelledBy (Chain.extend sum term) signedTokens ∧
        cTokens (Expr.cText (Chain.extend sum term)).toList =
          signedTokens.map Token.cToken ∧
        ∀ value : Expr, value.SpelledBy signedTokens →
          ∀ tree, ParsedAs 0 (signedTokens.map Token.cToken) tree ↔
            tree = value.toC := by
  have tokenized : tokenize signedSource =
      .ok ([⟨.keyword .printKw, "PRINT", ⟨0, 5⟩⟩] ++ (signedTokens ++
        ⟨.newline, "\n", ⟨25, 26⟩⟩ :: [⟨.eof, "", ⟨26, 26⟩⟩])) := by
    decide +kernel
  have read : (signedReading.readSeen
      (signedTokens ++ [⟨.newline, "\n", ⟨25, 26⟩⟩])).result =
        .ok ⟨.operator .print
          (some (.join
            (.first (.join (.first ⟨some .minus, .variable "a"⟩) .multiply
              ⟨none, .number "03"⟩))
            .plus
            (.join (.first ⟨none, .number "4.50"⟩) .divide
              ⟨some .plus, .variable "a"⟩), .minus))
          (.first ⟨some .minus, .number "01"⟩), [], [], ⟨["a"]⟩, .empty⟩ := by
    rfl
  exact ⟨_, _, _, _, _, tokenized, ⟨_, read, rfl⟩,
    readSeen_arithmetic tokenized (by decide) rfl read rfl⟩

end TeenyTiny
