import TeenyTiny.Reading.Basic
import TeenyTiny.Traced

/-!
# Reading one token

The grammar as a machine that takes one token at a time:

    program    := statement*
    statement  := PRINT (string | expression) nl
                | IF comparison THEN nl statement* ENDIF nl
                | WHILE comparison REPEAT nl statement* ENDWHILE nl
                | LABEL ident nl
                | GOTO ident nl
                | LET ident = expression nl
                | INPUT ident nl
    comparison := expression ((== | != | < | <= | > | >=) expression)+
    expression := term ((+ | -) term)*
    term       := unary ((* | /) unary)*
    unary      := (+ | -)? primary
    primary    := number | ident
    nl         := newline+

Names are checked on the way.  A variable has to be bound where it is read, and
an assignment binds its variable after its expression.  What a name does takes
effect when the token after it has its turn.
-/

namespace TeenyTiny

namespace Reading

/-- Refuses a token in whose place something else is wanted. -/
def refuse {Result : Type} (wanted : Wanted) (token : Token) :
    Traced Fault Result :=
  .fail (.grammar (.unexpected wanted token.kind) token.span)

def require (kind : Kind) (token : Token) : Traced Fault Unit :=
  if token.kind = kind then .done () else refuse (.kind kind) token

/-- Takes a token as the end of a line, behind which the reading is as given. -/
def endLine (reading : Reading) (token : Token) : Traced Fault Reading := do
  .enter .newline
  require .newline token
  return reading

/-! ## Names -/

/-- Binds a variable, and notes it the first time. -/
def bindVariable (reading : Reading) (name : String) : Traced Fault Reading :=
  if reading.bound.contains name then .done reading
  else do
    .note (.newVariable name)
    return { reading with bound := reading.bound.bind name }

def declareLabel (reading : Reading) (name : Token) : Traced Fault Reading := do
  let labels ← .ofExcept (reading.labels.declare name.text name.span)
  .note (.newLabel name.text)
  return { reading with labels }

/-- Completes a statement that is a keyword and a name. -/
def finishNamed (reading : Reading) (use : NameUse) (name token : Token) :
    Traced Fault Reading := do
  match use with
  | .label =>
      let reading ← reading.declareLabel name
      (reading.push (.label name.text)).endLine token
  | .jump =>
      let labels := reading.labels.jump name.text name.span
      ({ reading with labels }.push (.jump name.text)).endLine token
  | .input =>
      let reading ← reading.bindVariable name.text
      (reading.push (.input name.text)).endLine token

/-! ## Expressions -/

/-- The grammar rules that start where a factor starts. -/
def rulesAtFactor : Goal → Prior → List Rule
  | _, ⟨_, some _⟩ => [.unary]
  | _, ⟨some _, none⟩ => [.term, .unary]
  | .test _ none, ⟨none, none⟩ => [.comparison, .expression, .term, .unary]
  | _, ⟨none, none⟩ => [.expression, .term, .unary]

/-- The operand that a token stands for. -/
def operandOf (reading : Reading) (token : Token) : Traced Fault Operand :=
  match token.kind with
  | .number => .done (.number token.text)
  | .ident =>
      if reading.bound.contains token.text then .done (.variable token.text)
      else .fail (.name (.unbound token.text) token.span)
  | _ => refuse .operand token

def readOperand (reading : Reading) (goal : Goal) (prior : Prior)
    (sign : Option AddOp) (token : Token) : Traced Fault Reading := do
  .enter (.primary token.text)
  let operand ← reading.operandOf token
  return reading.goTo
    (.operator goal prior.sum (Chain.extend prior.product ⟨sign, operand⟩))

def readFactor (reading : Reading) (goal : Goal) (prior : Prior)
    (token : Token) : Traced Fault Reading := do
  .enterAll (rulesAtFactor goal prior)
  match Operator.ofKind? AddOp token.kind with
  | some sign => return reading.goTo (.signed goal prior sign)
  | none => reading.readOperand goal prior none token

/-- Takes a token as the one behind a whole expression. -/
def finishExpr (reading : Reading) (goal : Goal) (value : Expr)
    (token : Token) : Traced Fault Reading := do
  match goal with
  | .print => (reading.push (.printValue value)).endLine token
  | .assign name =>
      let reading ← reading.bindVariable name
      (reading.push (.assign name value)).endLine token
  | .test block earlier =>
      match Operator.ofKind? CompareOp token.kind, earlier with
      | some op, _ =>
          let left := Chain.extend earlier value
          return reading.goTo (.factor (.test block (some (left, op))) .none)
      | none, none => refuse .comparison token
      | none, some (left, op) =>
          require (.keyword block.divider) token
          return reading.goTo (.opened block ⟨left, op, value⟩)

/-- Takes a token as the one behind a factor. -/
def readOperator (reading : Reading) (goal : Goal)
    (sum : Chain.Open AddOp Term) (term : Term) (token : Token) :
    Traced Fault Reading :=
  match Operator.ofKind? MulOp token.kind,
    Operator.ofKind? AddOp token.kind with
  | some op, _ => .done (reading.goTo (.factor goal ⟨sum, some (term, op)⟩))
  | none, some op =>
      .done (reading.goTo
        (.factor goal ⟨some (Chain.extend sum term, op), none⟩))
  | none, none => reading.finishExpr goal (Chain.extend sum term) token

/-! ## Statements -/

/-- The grammar rule that a keyword starts, and what may come after it. -/
def statementAt : Keyword → Option (Rule × Phase)
  | .printKw => some (.print, .print)
  | .ifKw => some (.branch, .factor (.test .branch none) .none)
  | .whileKw => some (.loop, .factor (.test .loop none) .none)
  | .labelKw => some (.label, .name .label)
  | .gotoKw => some (.jump, .name .jump)
  | .letKw => some (.assign, .target)
  | .inputKw => some (.input, .name .input)
  | .thenKw | .endifKw | .repeatKw | .endwhileKw => none

def refuseStatement (token next : Token) : Traced Fault Reading :=
  let fault :=
    if token.kind = .ident ∧ next.kind = .eq then .bareAssignment token.text
    else .noStatement token.kind token.text
  .fail (.grammar fault token.span)

def readKeyword (reading : Reading) (word : Keyword) (token next : Token) :
    Traced Fault Reading :=
  match statementAt word with
  | some (rule, phase) => do
      .enter rule
      return reading.goTo phase
  | none => refuseStatement token next

/-- Takes a token as the start of a statement or the end of a block.  Empty
lines are skipped. -/
def readStart (reading : Reading) (token next : Token) : Traced Fault Reading :=
  match token.kind, reading.frames with
  | .newline, _ => .done reading
  | .eof, [] => .done reading
  | .eof, frame :: _ => refuse (.kind (.keyword frame.block.closer)) token
  | .keyword word, [] => reading.readKeyword word token next
  | .keyword word, frame :: outer =>
      if word = frame.block.closer then .done (reading.closeBlock frame outer)
      else reading.readKeyword word token next
  | _, _ => refuseStatement token next

/-- Reads one token, of which the one after it can be seen. -/
def step (reading : Reading) (token next : Token) : Traced Fault Reading := do
  match reading.phase with
  | .start => reading.readStart token next
  | .print =>
      if token.kind = .string then
        return reading.goTo (.complete (.printText token.text))
      else reading.readFactor .print .none token
  | .name use =>
      require .ident token
      return reading.goTo (.named use token)
  | .named use name => reading.finishNamed use name token
  | .target =>
      require .ident token
      return reading.goTo (.equals token.text)
  | .equals name =>
      require .eq token
      return reading.goTo (.factor (.assign name) .none)
  | .factor goal prior => reading.readFactor goal prior token
  | .signed goal prior sign => reading.readOperand goal prior (some sign) token
  | .operator goal sum term => reading.readOperator goal sum term token
  | .opened block test => (reading.openBlock block test).endLine token
  | .complete statement => (reading.push statement).endLine token

end Reading

end TeenyTiny
