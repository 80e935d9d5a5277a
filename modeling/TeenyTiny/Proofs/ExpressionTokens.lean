import TeenyTiny.Proofs.CTokens

/-!
# Tokens of expressions in C

C cuts the text of an expression into its operands, signs and operators
(`Expr.cTokens_cText`).  These are the tokens that the expression was read from,
with its numbers in decimal (`Expr.SpelledBy.cTokens_eq`).
-/

namespace TeenyTiny

open CToken

/-! ## Trees -/

/-- The operand is written as a name or a number. -/
def Operand.Admitted : Operand → Prop
  | .number digits => IsNumber digits.toList
  | .variable name => IsName name.toList

/-- All operands of the chain have the property. -/
def Chain.All {Op Arg : Type} (property : Arg → Prop) :
    Chain Op Arg → Prop
  | .first arg => property arg
  | .join left _ right => left.All property ∧ property right

/-- All operands of the term are written as names and numbers. -/
def Term.Admitted (term : Term) : Prop :=
  Chain.All (fun factor : Factor => factor.operand.Admitted) term

def Expr.Admitted (expr : Expr) : Prop :=
  Chain.All Term.Admitted expr

def Comparison.Admitted (test : Comparison) : Prop :=
  Chain.All Expr.Admitted (.join test.left test.op test.right)

def Operand.cToken : Operand → CToken
  | .number digits => .number (decimalText digits)
  | .variable name => .word name

def Factor.cTokens (factor : Factor) : List CToken :=
  match factor.sign with
  | some sign => [.mark (Operator.text sign), factor.operand.cToken]
  | none => [factor.operand.cToken]

/-- The tokens of the operands of a chain, and its operators between them. -/
def Chain.cTokens {Op Arg : Type}
    (opText : Op → String) (argTokens : Arg → List CToken) :
    Chain Op Arg → List CToken
  | .first arg => argTokens arg
  | .join left op right =>
      left.cTokens opText argTokens ++ .mark (opText op) :: argTokens right

def Term.cTokens (term : Term) : List CToken :=
  Chain.cTokens Operator.text Factor.cTokens term

def Expr.cTokens (expr : Expr) : List CToken :=
  Chain.cTokens Operator.text Term.cTokens expr

def Comparison.cTokens (test : Comparison) : List CToken :=
  Chain.cTokens Operator.text Expr.cTokens
    (.join test.left test.op test.right)

section Texts

variable {rest : List Char}

theorem Operand.exists_cText {operand : Operand}
    (admitted : operand.Admitted) :
    ∃ first tail, operand.cText.toList = first :: tail ∧
      first.isAlphanum = true := by
  rcases operand with digits | name
  · obtain ⟨first, tail, spelled, digit, _⟩ := exists_decimalText admitted
    exact ⟨first, tail, spelled, by simp [Char.isAlphanum, digit]⟩
  · have named : IsName name.toList := admitted
    generalize letters : name.toList = text at named
    cases named with
    | @intro first tail letter _ =>
        exact ⟨first, tail, letters, by simp [Char.isAlphanum, letter]⟩

theorem Operand.cTokens_cText {operand : Operand}
    (admitted : operand.Admitted)
    (detached : Detached rest) :
    TeenyTiny.cTokens (operand.cText.toList ++ rest) =
      operand.cToken :: TeenyTiny.cTokens rest := by
  rcases operand with digits | name
  · obtain ⟨first, tail, spelled, digit, decimal⟩ := exists_decimalText admitted
    have whole : decimalText digits = String.ofList (first :: tail) := by
      rw [← spelled, String.ofList_toList]
    rw [Operand.cText, spelled, List.cons_append,
      cTokens_number digit decimal detached, Operand.cToken, whole]
  · exact cTokens_name admitted detached

theorem Kind.cTokens_symbol {kind : Kind}
    (isOperator : kind.band = .operator)
    (unmarked : Unmarked rest) :
    TeenyTiny.cTokens (kind.symbol.toList ++ rest) =
      .mark kind.symbol :: TeenyTiny.cTokens rest := by
  cases kind with
  | eq | plus | minus | star | slash | lt | gt =>
      exact cTokens_mark (by decide) unmarked
  | eqEq =>
      exact @cTokens_of_front '=' .mark ['='] rest (by decide) rfl
  | bangEq =>
      exact @cTokens_of_front '!' .mark ['='] rest (by decide) rfl
  | ltEq =>
      exact @cTokens_of_front '<' .mark ['='] rest (by decide) rfl
  | gtEq =>
      exact @cTokens_of_front '>' .mark ['='] rest (by decide) rfl
  | _ =>
      cases isOperator

/-- An operator keeps apart from what stands behind it. -/
theorem Operator.cTokens_text {Op : Type} [Operator Op] (op : Op)
    (unmarked : Unmarked rest) :
    TeenyTiny.cTokens ((text op).toList ++ rest) =
      .mark (text op) :: TeenyTiny.cTokens rest :=
  Kind.cTokens_symbol (band_kind op) unmarked

theorem Factor.cTokens_cText {factor : Factor}
    (admitted : factor.operand.Admitted)
    (detached : Detached rest) :
    TeenyTiny.cTokens (factor.cText.toList ++ rest) =
      factor.cTokens ++ TeenyTiny.cTokens rest := by
  obtain ⟨sign, operand⟩ := factor
  cases sign with
  | none =>
      exact operand.cTokens_cText admitted detached
  | some op =>
      obtain ⟨first, tail, spelled, alphanumeric⟩ :=
        Operand.exists_cText admitted
      have unmarked : Unmarked (operand.cText.toList ++ rest) := by
        rw [spelled]
        exact unmarked_of_isAlphanum alphanumeric
      rw [Factor.cText, String.toList_append, List.append_assoc,
        Operator.cTokens_text op unmarked,
        Operand.cTokens_cText admitted detached]
      rfl

/-- A chain is cut into its operands and operators if each operand is cut as
it should be and each operator has a space behind it. -/
theorem Chain.cTokens_cText {Op Arg : Type}
    {opText : Op → String} {argText : Arg → String}
    {argTokens : Arg → List CToken} {property : Arg → Prop}
    (ops : ∀ op rest, TeenyTiny.cTokens ((opText op).toList ++ ' ' :: rest) =
      .mark (opText op) :: TeenyTiny.cTokens (' ' :: rest))
    (args : ∀ arg rest, property arg → Detached rest →
      TeenyTiny.cTokens ((argText arg).toList ++ rest) =
        argTokens arg ++ TeenyTiny.cTokens rest)
    {chain : Chain Op Arg}
    (all : chain.All property)
    (detached : Detached rest) :
    TeenyTiny.cTokens ((chain.cText opText argText).toList ++ rest) =
      chain.cTokens opText argTokens ++ TeenyTiny.cTokens rest := by
  induction chain generalizing rest with
  | first arg =>
      exact args arg rest all detached
  | join left op right inductionHypothesis =>
      have spaced :
          ((Chain.join left op right).cText opText argText).toList ++ rest =
            (left.cText opText argText).toList ++
              ' ' :: ((opText op).toList ++
                ' ' :: ((argText right).toList ++ rest)) := by
        simp [Chain.cText, String.toList_append]
      rw [spaced, inductionHypothesis all.1 (detached_cons (by decide)),
        cTokens_space, ops, cTokens_space, args right rest all.2 detached,
        Chain.cTokens, List.append_assoc, List.cons_append]

theorem Term.cTokens_cText {term : Term}
    (admitted : term.Admitted)
    (detached : Detached rest) :
    TeenyTiny.cTokens (term.cText.toList ++ rest) =
      term.cTokens ++ TeenyTiny.cTokens rest :=
  Chain.cTokens_cText
    (fun op _ => Operator.cTokens_text op (unmarked_cons (by decide)))
    (fun _ _ => Factor.cTokens_cText) admitted detached

/-- The text of an expression is cut into its operands, signs and
operators. -/
theorem Expr.cTokens_cText {expr : Expr}
    (admitted : expr.Admitted)
    (detached : Detached rest) :
    TeenyTiny.cTokens (expr.cText.toList ++ rest) =
      expr.cTokens ++ TeenyTiny.cTokens rest :=
  Chain.cTokens_cText
    (fun op _ => Operator.cTokens_text op (unmarked_cons (by decide)))
    (fun _ _ => Term.cTokens_cText) admitted detached

theorem Comparison.cTokens_cText {test : Comparison}
    (admitted : test.Admitted)
    (detached : Detached rest) :
    TeenyTiny.cTokens (test.cText.toList ++ rest) =
      test.cTokens ++ TeenyTiny.cTokens rest :=
  Chain.cTokens_cText
    (fun op _ => Operator.cTokens_text op (unmarked_cons (by decide)))
    (fun _ _ => Expr.cTokens_cText) admitted detached

end Texts

/-! ## Source tokens -/

/-- The token of C that a token of an expression is written as. -/
def Token.cToken (token : Token) : CToken :=
  match token.kind with
  | .number => .number (decimalText token.text)
  | .ident => .word token.text
  | _ => .mark token.text

section Spelling

variable {tokens : List Token}

theorem Operand.SpelledBy.admitted {operand : Operand}
    (spelled : operand.SpelledBy tokens)
    (admits : ∀ token ∈ tokens, token.kind.Admits token.text) :
    operand.Admitted := by
  cases spelled with
  | @number token kind =>
      have admitted := admits token (List.mem_singleton_self token)
      rwa [kind] at admitted
  | @name token kind =>
      have admitted := admits token (List.mem_singleton_self token)
      rw [kind] at admitted
      exact admitted.1

theorem Factor.SpelledBy.admitted {factor : Factor}
    (spelled : factor.SpelledBy tokens)
    (admits : ∀ token ∈ tokens, token.kind.Admits token.text) :
    factor.operand.Admitted := by
  cases spelled with
  | plain spelled =>
      exact spelled.admitted admits
  | signed _ spelled =>
      exact spelled.admitted fun token member =>
        admits token (List.mem_cons_of_mem _ member)

theorem Chain.SpelledBy.all {Op Arg : Type} {opKind : Op → Kind}
    {ArgSpelled : Arg → List Token → Prop} {property : Arg → Prop}
    (args : ∀ arg argTokens, ArgSpelled arg argTokens →
      (∀ token ∈ argTokens, token.kind.Admits token.text) → property arg)
    {chain : Chain Op Arg}
    (spelled : chain.SpelledBy opKind ArgSpelled tokens)
    (admits : ∀ token ∈ tokens, token.kind.Admits token.text) :
    chain.All property := by
  induction spelled with
  | first spelled =>
      exact args _ _ spelled admits
  | join _ _ spelled inductionHypothesis =>
      rw [List.forall_mem_append, List.forall_mem_cons] at admits
      exact ⟨inductionHypothesis admits.1, args _ _ spelled admits.2.2⟩

theorem Term.SpelledBy.admitted {term : Term}
    (spelled : term.SpelledBy tokens)
    (admits : ∀ token ∈ tokens, token.kind.Admits token.text) :
    term.Admitted := by
  refine Chain.SpelledBy.all ?_ spelled admits
  intro factor spelling spelled admits
  exact spelled.admitted admits

theorem Expr.SpelledBy.admitted {expr : Expr}
    (spelled : expr.SpelledBy tokens)
    (admits : ∀ token ∈ tokens, token.kind.Admits token.text) :
    expr.Admitted := by
  refine Chain.SpelledBy.all ?_ spelled admits
  intro term spelling spelled admits
  exact spelled.admitted admits

theorem Comparison.SpelledBy.admitted {test : Comparison}
    (spelled : test.SpelledBy tokens)
    (admits : ∀ token ∈ tokens, token.kind.Admits token.text) :
    test.Admitted := by
  refine Chain.SpelledBy.all ?_ spelled admits
  intro expr spelling spelled admits
  exact spelled.admitted admits

theorem Kind.Admits.eq_symbol {kind : Kind} {text : String}
    (admits : kind.Admits text)
    (isOperator : kind.band = .operator) :
    text = kind.symbol := by
  cases kind <;> first | exact admits | cases isOperator

theorem Operator.cToken_eq {Op : Type} [Operator Op] {op : Op} {token : Token}
    (kind : token.kind = Operator.kind op)
    (admits : token.kind.Admits token.text) :
    token.cToken = .mark (text op) := by
  have isOperator : token.kind.band = .operator := by
    rw [kind, band_kind]
  have marked : token.cToken = .mark token.text := by
    rw [Token.cToken]
    split
    · rename_i isNumber
      rw [isNumber] at isOperator
      cases isOperator
    · rename_i isName
      rw [isName] at isOperator
      cases isOperator
    · rfl
  rw [marked, admits.eq_symbol isOperator, text, kind]

theorem Factor.SpelledBy.cTokens_eq {factor : Factor}
    (spelled : factor.SpelledBy tokens)
    (admits : ∀ token ∈ tokens, token.kind.Admits token.text) :
    factor.cTokens = tokens.map Token.cToken := by
  cases spelled with
  | plain spelled =>
      cases spelled with
      | number kind => simp [Factor.cTokens, Operand.cToken, Token.cToken, kind]
      | name kind => simp [Factor.cTokens, Operand.cToken, Token.cToken, kind]
  | @signed op _ sign _ kind spelled =>
      have written :=
        Operator.cToken_eq kind (admits sign (List.mem_cons_self ..))
      rw [List.map_cons, written]
      cases spelled with
      | number kind => simp [Factor.cTokens, Operand.cToken, Token.cToken, kind]
      | name kind => simp [Factor.cTokens, Operand.cToken, Token.cToken, kind]

theorem Chain.SpelledBy.cTokens_eq {Op Arg : Type}
    {opKind : Op → Kind} {opText : Op → String}
    {ArgSpelled : Arg → List Token → Prop} {argTokens : Arg → List CToken}
    (ops : ∀ op (token : Token), token.kind = opKind op →
      token.kind.Admits token.text → token.cToken = .mark (opText op))
    (args : ∀ arg spelling, ArgSpelled arg spelling →
      (∀ token ∈ spelling, token.kind.Admits token.text) →
        argTokens arg = spelling.map Token.cToken)
    {chain : Chain Op Arg}
    (spelled : chain.SpelledBy opKind ArgSpelled tokens)
    (admits : ∀ token ∈ tokens, token.kind.Admits token.text) :
    chain.cTokens opText argTokens = tokens.map Token.cToken := by
  induction spelled with
  | first spelled =>
      exact args _ _ spelled admits
  | join _ kind spelled inductionHypothesis =>
      rw [List.forall_mem_append, List.forall_mem_cons] at admits
      rw [Chain.cTokens, inductionHypothesis admits.1,
        args _ _ spelled admits.2.2, List.map_append, List.map_cons,
        ops _ _ kind admits.2.1]

theorem Term.SpelledBy.cTokens_eq {term : Term}
    (spelled : term.SpelledBy tokens)
    (admits : ∀ token ∈ tokens, token.kind.Admits token.text) :
    term.cTokens = tokens.map Token.cToken := by
  refine Chain.SpelledBy.cTokens_eq ?_ ?_ spelled admits
  · intro op token kind admits
    exact Operator.cToken_eq kind admits
  · intro factor spelling spelled admits
    exact spelled.cTokens_eq admits

/-- The tokens of an expression in C are those that it was read from. -/
theorem Expr.SpelledBy.cTokens_eq {expr : Expr}
    (spelled : expr.SpelledBy tokens)
    (admits : ∀ token ∈ tokens, token.kind.Admits token.text) :
    expr.cTokens = tokens.map Token.cToken := by
  refine Chain.SpelledBy.cTokens_eq ?_ ?_ spelled admits
  · intro op token kind admits
    exact Operator.cToken_eq kind admits
  · intro term spelling spelled admits
    exact spelled.cTokens_eq admits

end Spelling

end TeenyTiny
