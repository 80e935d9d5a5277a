import TeenyTiny.Proofs.Declarations
import TeenyTiny.Proofs.Derivation
import TeenyTiny.Proofs.Layout

/-!
# Logs of accepted sources

A reading has a log of its own: the rules and the names of the part of the
program that it holds (`Reading.log`).  Each move adds to this log what its step
notes, but for names that are known already (`Reading.Logged`).  At the end of
an accepted source the log is therefore that of its parse tree: the rules in the
order in which their texts start, each name where it is first bound or declared,
and the two numbers behind them (`compile_log`).
-/

namespace TeenyTiny

/-! ## Events of traced computations -/

namespace Traced

variable {Failure Result Next : Type}

@[simp]
theorem events_pure (result : Result) :
    (pure result : Traced Failure Result).events = [] :=
  rfl

@[simp]
theorem events_done (result : Result) :
    (done result : Traced Failure Result).events = [] :=
  rfl

@[simp]
theorem events_done_bind (result : Result)
    (next : Result → Traced Failure Next) :
    ((done result : Traced Failure Result) >>= next).events =
      (next result).events :=
  rfl

@[simp]
theorem events_note_bind (event : Event)
    (next : Unit → Traced Failure Next) :
    ((note event : Traced Failure Unit) >>= next).events =
      event :: (next ()).events :=
  rfl

@[simp]
theorem events_enter_bind (rule : Rule)
    (next : Unit → Traced Failure Next) :
    ((enter rule : Traced Failure Unit) >>= next).events =
      .entered rule :: (next ()).events :=
  rfl

@[simp]
theorem events_enterAll_bind (rules : List Rule)
    (next : Unit → Traced Failure Next) :
    ((enterAll rules : Traced Failure Unit) >>= next).events =
      rules.map .entered ++ (next ()).events :=
  rfl

/-- What is noted behind a result stands behind what was noted before it. -/
theorem events_andThen {traced : Traced Failure Result} {result : Result}
    (done : traced.result = .ok result)
    (next : Result → Traced Failure Next) :
    (traced.andThen next).events = traced.events ++ (next result).events := by
  simp only [andThen, done]

end Traced

/-! ## The log of a part of a program -/

/-- The rule of a statement that is a keyword and a name. -/
def NameUse.rule : NameUse → Rule
  | .label => .label
  | .jump => .jump
  | .input => .input

/-- The rules that are entered in front of the terms of an expression. -/
def Goal.rules : Goal → List Rule
  | .print => [.print]
  | .assign _ => [.assign]
  | .test block none => [block.rule, .comparison]
  | .test block (some (left, _)) =>
      block.rule :: Chain.rules .comparison Expr.rules left

/-- The rules that are entered in front of an expression.  A comparison is
entered together with the first of its expressions. -/
def Goal.rulesOutside : Goal → List Rule
  | .test block none => [block.rule]
  | goal => goal.rules

/-- The rules that are entered in front of a factor. -/
def rulesBefore (goal : Goal) : Prior → List Rule
  | ⟨sum, some (term, _)⟩ =>
      goal.rules ++ Expr.rules (Chain.extend sum term)
  | ⟨some (sum, _), none⟩ => goal.rules ++ Expr.rules sum
  | ⟨none, none⟩ => goal.rulesOutside

/-- The rules of a block up to the end of its first line. -/
def Block.openingRules (block : Block) (test : Comparison) : List Rule :=
  block.rule :: test.rules

/-- The log of the part of a statement that has been read. -/
def Phase.log : Phase → List Event
  | .start => []
  | .print => [.entered .print]
  | .name use | .named use _ => [.entered use.rule]
  | .target | .equals _ => [.entered .assign]
  | .factor goal prior => (rulesBefore goal prior).map .entered
  | .signed goal prior _ =>
      (rulesBefore goal prior ++ Reading.rulesAtFactor goal prior).map .entered
  | .operator goal sum term =>
      (goal.rules ++ Expr.rules (Chain.extend sum term)).map .entered
  | .opened block test => (block.openingRules test).map .entered
  | .complete statement => statement.log

theorem Phase.log_of_factorPlace {phase : Phase} {goal : Goal} {prior : Prior}
    (placed : phase.factorPlace = some (goal, prior)) :
    phase.log = (rulesBefore goal prior).map .entered := by
  cases phase <;> cases placed <;> rfl

/-- The log of the statements around open blocks and of the first lines of
these. -/
def Frame.logAll : List Frame → List Event
  | [] => []
  | frame :: outer =>
      Frame.logAll outer ++ (Statement.logAll frame.before.reverse ++
        ((frame.block.openingRules frame.test).map .entered ++
          [.entered .newline]))

namespace Reading

/-- The log of all that stands in front of the statement that is read. -/
def logBefore (reading : Reading) : List Event :=
  Frame.logAll reading.frames ++ Statement.logAll reading.statements.reverse

/-- The log of the part of a program that has been read, as if all names in it
were new where they are bound or declared. -/
def log (reading : Reading) : List Event :=
  reading.logBefore ++ reading.phase.log

section Shapes

variable {reading : Reading}

theorem log_push (statement : Statement) :
    (reading.push statement).log =
      reading.logBefore ++ (statement.log ++ [.entered .newline]) := by
  simp [log, logBefore, push, Phase.log, Statement.logAll_concat]

theorem log_openBlock (block : Block) (test : Comparison) :
    (reading.openBlock block test).log =
      reading.logBefore ++ ((block.openingRules test).map .entered ++
        [.entered .newline]) := by
  simp [log, logBefore, openBlock, Phase.log, Frame.logAll, Statement.logAll]

/-- To close a block is to see its parts as one statement. -/
theorem log_closeBlock {frame : Frame} {outer : List Frame}
    (frames : reading.frames = frame :: outer) :
    (reading.closeBlock frame outer).log = reading.logBefore := by
  simp [log, logBefore, closeBlock, Phase.log, frames, Frame.logAll,
    Statement.log, Block.openingRules]

end Shapes

/-! ## Rules of expressions -/

/-- Up to a factor and through it, the rules are those of the expression with
the factor at its end. -/
theorem rulesBefore_append (goal : Goal) (prior : Prior)
    (sign : Option AddOp) (operand : Operand) :
    rulesBefore goal prior ++
        (rulesAtFactor goal prior ++ [.primary operand.sourceText]) =
      goal.rules ++ Expr.rules (Chain.extend prior.sum
        (Chain.extend prior.product ⟨sign, operand⟩)) := by
  have factor : Factor.rules ⟨sign, operand⟩ =
      [.unary, .primary operand.sourceText] := rfl
  obtain ⟨sum, product⟩ := prior
  rcases product with _ | ⟨term, op⟩
  · rcases sum with _ | ⟨sum, op⟩
    · -- At the start of a test, the comparison is entered with this factor.
      have fresh : rulesBefore goal ⟨none, none⟩ ++
          rulesAtFactor goal ⟨none, none⟩ =
            goal.rules ++ [.expression, .term, .unary] := by
        rcases goal with _ | _ | ⟨block, _ | earlier⟩ <;> rfl
      rw [← List.append_assoc, fresh]
      simp [Chain.extend, Expr.rules, Term.rules, Chain.rules_first, factor]
    · simp [rulesBefore, rulesAtFactor, Chain.extend, Expr.rules, Term.rules,
        Chain.rules_first, Chain.rules_join, factor]
  · rcases sum with _ | ⟨sum, op⟩ <;>
      simp [rulesBefore, rulesAtFactor, Chain.extend, Expr.rules, Term.rules,
        Chain.rules_first, Chain.rules_join, factor]

/-- An expression that is compared becomes a part of the comparison. -/
theorem rules_compare (block : Block) (earlier : Chain.Open CompareOp Expr)
    (value : Expr) :
    (Goal.test block earlier).rules ++ value.rules =
      block.rule :: Chain.rules .comparison Expr.rules
        (Chain.extend earlier value) := by
  rcases earlier with _ | ⟨left, op⟩
  · simp [Goal.rules, Chain.extend, Chain.rules_first]
  · simp [Goal.rules, Chain.extend, Chain.rules_join]

/-! ## Steps -/

@[simp]
theorem events_endLine (reading : Reading) (token : Token) :
    (reading.endLine token).events = [.entered .newline] := by
  by_cases kind : token.kind = .newline
  · simp [endLine, require, kind]
  · simp only [endLine, require, if_neg kind]
    rfl

theorem events_declareLabel_bind {reading : Reading} {name : Token}
    (fresh : reading.labels.isDeclared name.text = false)
    (next : Reading → Traced Fault Reading) :
    (reading.declareLabel name >>= next).events =
      .newLabel name.text :: (next { reading with
        labels := { reading.labels with
          declared := name.text :: reading.labels.declared } }).events := by
  have declared : reading.labels.declare name.text name.span =
      .ok { reading.labels with
        declared := name.text :: reading.labels.declared } := by
    simp [Labels.declare, fresh]
  rw [declareLabel, declared]
  rfl

@[simp]
theorem events_bindVariable_bind (reading : Reading) (name : String)
    (next : Reading → Traced Fault Reading) :
    (reading.bindVariable name >>= next).events =
      (reading.bindVariable name).events ++
        (next { reading with bound := reading.bound.bind name }).events :=
  Traced.events_andThen (result_bindVariable reading name) next

/-- What the end of a line with the statement does to the names, and what its
step notes. -/
inductive LineEnd (reading : Reading) (statement : Statement) :
    List Event → Prop
  | plain
      (part : statement.log = reading.phase.log)
      (bound : reading.settle.bound = reading.bound)
      (labels : reading.settle.labels.declared = reading.labels.declared) :
      LineEnd reading statement [.entered .newline]
  | binding {name : String}
      (part : statement.log = reading.phase.log ++ [.newVariable name])
      (bound : reading.settle.bound = reading.bound.bind name)
      (labels : reading.settle.labels.declared = reading.labels.declared) :
      LineEnd reading statement
        ((reading.bindVariable name).events ++ [.entered .newline])
  | declaring {name : String}
      (fresh : reading.labels.isDeclared name = false)
      (part : statement.log = reading.phase.log ++ [.newLabel name])
      (bound : reading.settle.bound = reading.bound)
      (labels :
        reading.settle.labels.declared = name :: reading.labels.declared) :
      LineEnd reading statement [.newLabel name, .entered .newline]

theorem lineEnd_of_allowed {reading : Reading} {statement : Statement}
    {token : Token}
    (ends : reading.phase.atLineEnd = some statement)
    (kind : token.kind = .newline)
    (allowed : ∀ fault, ¬ Misuse reading token fault)
    (after : Token) :
    LineEnd reading statement (reading.step token after).events := by
  cases phase : reading.phase with
  | named use name =>
      rw [phase] at ends
      cases ends
      cases use with
      | label =>
          have fresh := fresh_of_allowed phase allowed
          have noted : (reading.step token after).events =
              [.newLabel name.text, .entered .newline] := by
            simp [step, phase, finishNamed, events_declareLabel_bind, fresh]
          rw [noted]
          refine .declaring fresh ?_ ?_ ?_ <;> simp only [settle, phase]
          rfl
      | jump =>
          have noted : (reading.step token after).events =
              [.entered .newline] := by
            simp [step, phase, finishNamed]
          rw [noted]
          refine .plain ?_ ?_ ?_ <;> simp only [settle, phase, Labels.jump]
          rfl
      | input =>
          have noted : (reading.step token after).events =
              (reading.bindVariable name.text).events ++
                [.entered .newline] := by
            simp [step, phase, finishNamed]
          rw [noted]
          refine .binding ?_ ?_ ?_ <;> simp only [settle, phase]
          rfl
  | operator goal sum term =>
      rw [phase] at ends
      cases goal with
      | print =>
          cases ends
          have noted : (reading.step token after).events =
              [.entered .newline] := by
            simp [step, phase, readOperator, kind, Operator.ofKind?_eq_none,
              Kind.band, finishExpr]
          rw [noted]
          refine .plain ?_ ?_ ?_ <;> simp only [settle, phase]
          rfl
      | assign name =>
          cases ends
          have noted : (reading.step token after).events =
              (reading.bindVariable name).events ++ [.entered .newline] := by
            simp [step, phase, readOperator, kind, Operator.ofKind?_eq_none,
              Kind.band, finishExpr]
          rw [noted]
          refine .binding ?_ ?_ ?_ <;> simp only [settle, phase]
          rfl
      | test block earlier =>
          cases ends
  | complete statement =>
      rw [phase] at ends
      cases ends
      have noted : (reading.step token after).events =
          [.entered .newline] := by
        simp [step, phase]
      rw [noted]
      refine .plain ?_ ?_ ?_ <;> simp only [settle, phase]
      rfl
  | _ =>
      rw [phase] at ends
      cases ends

/-- The events are the log of the reading without repeated notes, and the names
that the reading knows are those of its log. -/
structure Logged (reading : Reading) (events : List Event) : Prop where
  exact : events = Event.once reading.log
  bound : ∀ name, reading.bound.contains name = true ↔
    .newVariable name ∈ reading.log
  declared : ∀ name, reading.labels.isDeclared name = true ↔
    .newLabel name ∈ reading.log

theorem logged_empty : Logged empty [] where
  exact := rfl
  bound name := by
    simp [empty, Variables.empty, Variables.contains, log, logBefore,
      Frame.logAll, Statement.logAll, Phase.log]
  declared name := by
    simp [empty, Labels.empty, Labels.isDeclared, log, logBefore,
      Frame.logAll, Statement.logAll, Phase.log]

namespace Logged

variable {reading next : Reading} {events : List Event} {token after : Token}

/-- The log grows by rules only. -/
theorem enter {rules : List Rule}
    (logged : Logged reading events)
    (grows : next.log = reading.log ++ rules.map .entered)
    (bound : next.bound = reading.bound)
    (declared : next.labels.declared = reading.labels.declared) :
    Logged next (events ++ rules.map .entered) where
  exact := by
    rw [grows, Event.once_append_entered, logged.exact]
  bound name := by
    rw [bound, logged.bound, grows]
    simp
  declared name := by
    rw [Labels.isDeclared, declared, ← Labels.isDeclared, logged.declared,
      grows]
    simp

/-- A variable is bound at the end of a line. -/
theorem bind {name : String}
    (logged : Logged reading events)
    (grows : next.log = reading.log ++
      [.newVariable name, .entered .newline])
    (bound : next.bound = reading.bound.bind name)
    (declared : next.labels.declared = reading.labels.declared) :
    Logged next (events ++ ((reading.bindVariable name).events ++
      [.entered .newline])) where
  exact := by
    have named := logged.bound name
    rw [grows, Event.once_append_line, logged.exact, bindVariable]
    by_cases known : reading.bound.contains name = true
    · simp [known, named.mp known, Event.declares]
    · have absent : ¬ Event.newVariable name ∈ reading.log :=
        fun member => known (named.mpr member)
      simp [known, absent]
  bound other := by
    rw [bound, Variables.contains_bind, logged.bound, grows]
    simp
  declared other := by
    rw [Labels.isDeclared, declared, ← Labels.isDeclared, logged.declared,
      grows]
    simp

/-- A new label is declared at the end of a line. -/
theorem declare {name : String}
    (logged : Logged reading events)
    (fresh : reading.labels.isDeclared name = false)
    (grows : next.log = reading.log ++ [.newLabel name, .entered .newline])
    (bound : next.bound = reading.bound)
    (declared :
      next.labels.declared = name :: reading.labels.declared) :
    Logged next (events ++ [.newLabel name, .entered .newline]) where
  exact := by
    have absent : ¬ Event.newLabel name ∈ reading.log := by
      rw [← logged.declared, fresh]
      exact Bool.false_ne_true
    rw [grows, Event.once_append_line, logged.exact]
    simp [absent]
  bound other := by
    rw [bound, logged.bound, grows]
    simp
  declared other := by
    have before := logged.declared other
    simp only [Labels.isDeclared, List.contains_iff_mem] at before ⊢
    rw [declared, grows]
    simp [before, or_comm]

/-- The next token stands in the same statement. -/
theorem goTo {phase : Phase} {rules : List Rule}
    (logged : Logged reading events)
    (noted : (reading.step token after).events = rules.map .entered)
    (grows : phase.log = reading.phase.log ++ rules.map .entered) :
    Logged (reading.goTo phase)
      (events ++ (reading.step token after).events) := by
  rw [noted]
  refine logged.enter ?_ rfl rfl
  rw [log, log, List.append_assoc, ← grows]
  rfl

/-- Nothing is noted inside of the rules that are entered already. -/
theorem silent {phase : Phase}
    (logged : Logged reading events)
    (noted : (reading.step token after).events = [])
    (same : phase.log = reading.phase.log) :
    Logged (reading.goTo phase)
      (events ++ (reading.step token after).events) := by
  refine logged.goTo (noted.trans List.map_nil.symm) ?_
  rw [same, List.map_nil, List.append_nil]

section Factors

variable {goal : Goal} {prior : Prior}

theorem sign {op : AddOp}
    (logged : Logged reading events)
    (placed : reading.phase.factorPlace = some (goal, prior))
    (kind : token.kind = Operator.kind op) :
    Logged (reading.goTo (.signed goal prior op))
      (events ++ (reading.step token after).events) := by
  have noText : Operator.kind op ≠ .string := Operator.kind_ne op (by decide)
  have noted : (reading.step token after).events =
      (rulesAtFactor goal prior).map .entered := by
    cases phase : reading.phase <;> rw [phase] at placed <;> cases placed <;>
      simp [step, phase, noText, readFactor, kind]
  refine logged.goTo noted ?_
  rw [Phase.log_of_factorPlace placed, ← List.map_append]
  rfl

/-- Behind an operand, the rules are those of the expression up to it. -/
theorem operand {sign : Option AddOp} {operand : Operand}
    (logged : Logged reading events)
    (placed : reading.phase.operandPlace = some (goal, prior, sign))
    (spelled : operand.SpelledBy [token])
    (allowed : ∀ fault, ¬ Misuse reading token fault) :
    Logged
      (reading.goTo (.operator goal prior.sum
        (Chain.extend prior.product ⟨sign, operand⟩)))
      (events ++ (reading.step token after).events) := by
  have isOperand := operandOf_of_allowed placed spelled allowed
  have text : token.text = operand.sourceText := by
    cases spelled <;> rfl
  have whole : (rulesBefore goal prior ++ (rulesAtFactor goal prior ++
      [Rule.primary operand.sourceText])).map Event.entered =
        (Phase.operator goal prior.sum
          (Chain.extend prior.product ⟨sign, operand⟩)).log := by
    rw [rulesBefore_append goal prior sign operand]
    rfl
  -- Behind a sign, the rules that start at the factor have been entered.
  rcases Phase.operandPlace_cases placed with
    ⟨unsigned, rfl⟩ | ⟨op, phase, rfl⟩
  · have noSign := noSign_of_spelledBy spelled
    have noted : (reading.step token after).events =
        (rulesAtFactor goal prior ++
          [Rule.primary operand.sourceText]).map .entered := by
      cases phase : reading.phase <;> rw [phase] at unsigned <;>
        cases unsigned <;>
        simp [step, phase, noSign, readFactor, readOperand, isOperand, text]
    refine logged.goTo noted ?_
    rw [Phase.log_of_factorPlace unsigned, ← List.map_append, whole]
  · have noted : (reading.step token after).events =
        [Rule.primary operand.sourceText].map .entered := by
      simp [step, phase, readOperand, isOperand, text]
    refine logged.goTo noted ?_
    rw [phase, Phase.log, ← List.map_append, List.append_assoc, whole]

end Factors

/-- A statement that ends has its effect on the names and on the log. -/
theorem finish {statement : Statement}
    (logged : Logged reading events)
    (ends : reading.phase.atLineEnd = some statement)
    (kind : token.kind = .newline)
    (allowed : ∀ fault, ¬ Misuse reading token fault) :
    Logged (reading.settle.push statement)
      (events ++ (reading.step token after).events) := by
  have whole : (reading.settle.push statement).log =
      reading.logBefore ++ (statement.log ++ [.entered .newline]) := by
    rw [log_push, logBefore, settle_frames, settle_statements, logBefore]
  have ended := lineEnd_of_allowed ends kind allowed after
  generalize (reading.step token after).events = noted at ended ⊢
  cases ended with
  | plain part bound labels =>
      have grows : (reading.settle.push statement).log =
          reading.log ++ [Rule.newline].map .entered := by
        rw [whole, part, log]
        simp
      exact logged.enter grows bound labels
  | @binding name part bound labels =>
      have grows : (reading.settle.push statement).log =
          reading.log ++ [.newVariable name, .entered .newline] := by
        rw [whole, part, log]
        simp
      exact logged.bind grows bound labels
  | @declaring name fresh part bound labels =>
      have grows : (reading.settle.push statement).log =
          reading.log ++ [.newLabel name, .entered .newline] := by
        rw [whole, part, log]
        simp
      exact logged.declare fresh grows bound labels

/-- The end of the first line of a block. -/
theorem openBlock {block : Block} {test : Comparison}
    (logged : Logged reading events)
    (phase : reading.phase = .opened block test) :
    Logged (reading.openBlock block test)
      (events ++ (reading.step token after).events) := by
  have noted : (reading.step token after).events =
      [Rule.newline].map .entered := by
    simp [step, phase]
  rw [noted]
  refine logged.enter ?_ rfl rfl
  rw [log_openBlock, log, phase, Phase.log, List.append_assoc]
  rfl

theorem closeBlock {frame : Frame} {outer : List Frame}
    (logged : Logged reading events)
    (phase : reading.phase = .start)
    (frames : reading.frames = frame :: outer)
    (kind : token.kind = .keyword frame.block.closer) :
    Logged (reading.closeBlock frame outer)
      (events ++ (reading.step token after).events) := by
  have noted : (reading.step token after).events =
      ([] : List Rule).map .entered := by
    simp [step, phase, readStart, kind, frames]
  rw [noted]
  refine logged.enter ?_ rfl rfl
  rw [log_closeBlock frames, log, phase, Phase.log, List.map_nil]
  simp

theorem word {word : Keyword} {rule : Rule} {next : Phase}
    (logged : Logged reading events)
    (phase : reading.phase = .start)
    (kind : token.kind = .keyword word)
    (starts : statementAt word = some (rule, next)) :
    Logged (reading.goTo next)
      (events ++ (reading.step token after).events) := by
  have noted : (reading.step token after).events =
      [rule].map .entered := by
    cases frames : reading.frames with
    | nil =>
        simp [step, phase, readStart, kind, frames, readKeyword, starts]
    | cons frame outer =>
        have other := ne_closer_of_starts starts frame.block
        simp [step, phase, readStart, kind, frames, other, readKeyword,
          starts]
  refine logged.goTo noted ?_
  rw [phase]
  cases word <;> cases starts <;> rfl

/-- A move adds to the log what its step notes. -/
theorem step
    (logged : Logged reading events)
    (move : Move reading token next)
    (allowed : ∀ fault, ¬ Misuse reading token fault)
    (after : Token) :
    Logged next (events ++ (reading.step token after).events) := by
  cases move with
  | blank phase kind =>
      have silent : (reading.step token after).events = [] := by
        simp [Reading.step, phase, readStart, kind]
      rw [silent, List.append_nil]
      exact logged
  | word phase kind starts =>
      exact logged.word phase kind starts
  | close phase frames kind =>
      exact logged.closeBlock phase frames kind
  | text phase kind =>
      refine logged.silent ?_ ?_
      · simp [Reading.step, phase, kind]
      · rw [phase]
        rfl
  | name phase kind =>
      refine logged.silent ?_ ?_
      · simp [Reading.step, phase, require, kind]
      · rw [phase]
        rfl
  | target phase kind =>
      refine logged.silent ?_ ?_
      · simp [Reading.step, phase, require, kind]
      · rw [phase]
        rfl
  | equals phase kind =>
      refine logged.silent ?_ ?_
      · simp [Reading.step, phase, require, kind]
      · rw [phase]
        rfl
  | sign placed kind =>
      exact logged.sign placed kind
  | operand placed spelled =>
      exact logged.operand placed spelled allowed
  | multiply phase kind =>
      refine logged.silent ?_ ?_
      · simp [Reading.step, phase, readOperator, kind]
      · rw [phase]
        rfl
  | add phase kind =>
      refine logged.silent ?_ ?_
      · simp [Reading.step, phase, readOperator, kind]
      · rw [phase]
        rfl
  | compare phase kind =>
      refine logged.silent ?_ ?_
      · simp [Reading.step, phase, readOperator, kind, finishExpr]
      · rw [phase, Phase.log, Phase.log, rules_compare]
        rfl
  | divide phase kind =>
      refine logged.silent ?_ ?_
      · simp [Reading.step, phase, readOperator, kind,
          Operator.ofKind?_eq_none, Kind.band, finishExpr, require]
      · rw [phase, Phase.log, Phase.log, rules_compare]
        rfl
  | enter phase kind =>
      exact logged.openBlock phase
  | finish ends kind =>
      exact logged.finish ends kind allowed

/-- A whole source adds to the log what its reading notes. -/
theorem readAll {body : List Token} {last : Token} {final : Reading}
    (logged : Logged reading events)
    (inside : ∀ token ∈ body, token.kind ≠ .eof)
    (kind : last.kind = .eof)
    (read : (reading.readAll (body ++ [last])).result = .ok final) :
    Logged final (events ++ (reading.readAll (body ++ [last])).events) := by
  induction body generalizing reading events with
  | nil =>
      obtain ⟨rfl, phase, frames⟩ := step_eof kind read
      have silent : (reading.step last last).events = [] := by
        simp [Reading.step, phase, readStart, kind, frames]
      rw [List.nil_append, Reading.readAll, silent, List.append_nil]
      exact logged
  | cons token rest inductionHypothesis =>
      rw [List.cons_append, readAll_cons] at read ⊢
      cases stepped :
          (reading.step token ((rest ++ [last]).headD token)).result with
      | error fault =>
          rw [Traced.result_andThen, stepped] at read
          cases read
      | ok moved =>
          rw [Traced.result_andThen, stepped] at read
          obtain ⟨move, allowed⟩ :=
            move_of_step (inside token List.mem_cons_self) stepped
          have further := inductionHypothesis
            (logged.step move allowed ((rest ++ [last]).headD token))
            (fun other member => inside other (List.mem_cons_of_mem _ member))
            read
          rw [Traced.events_andThen stepped, ← List.append_assoc]
          exact further

end Logged

/-- At the end of the source, the log is that of the program. -/
theorem Finished.log_eq {body : List Token} {last : Token} {final : Reading}
    (finished : Finished body last final) :
    final.log = Statement.logAll final.program := by
  rw [log, logBefore, finished.frames, finished.phase, program]
  simp [Frame.logAll, Phase.log]

end Reading

/-! ## Whole sources -/

/-- The log of a whole program: its rules and names, and the numbers of its
variables and of the bytes of its text. -/
def Program.log (program : Program) (bytes : Nat) : List Event :=
  .entered .program :: (Event.once (Statement.logAll program) ++
    [.finished program.variables.length, .generated bytes])

theorem Program.records_log (program : Program) (bytes : Nat) :
    ((program.log bytes).filter Event.isTrace).map Event.record =
      program.derivation.preorder.map Record.trace := by
  have ending : [Event.finished program.variables.length,
      .generated bytes].filter Event.isTrace = [] :=
    rfl
  rw [Program.log, List.filter_cons_of_pos (Event.isTrace_entered _),
    List.filter_append, ending, List.append_nil, Event.filter_isTrace_once,
    List.map_cons, Statement.records_logAll]
  rfl

theorem Program.filter_declares_log (program : Program) (bytes : Nat) :
    (program.log bytes).filter Event.declares =
      (Statement.declarationsAll program).eraseDups.map
        Declaration.event := by
  have ending : [Event.finished program.variables.length,
      .generated bytes].filter Event.declares = [] :=
    rfl
  rw [Program.log, List.filter_cons_of_neg (by simp), List.filter_append,
    ending, List.append_nil, Event.filter_declares_once,
    Statement.filter_declares_logAll, Declaration.eraseDups_map_event]

/-- The traces of an accepted source show the rules of its parse tree, each in
front of those that it is made of.  The records of names are those of the
variables that the source binds and of the labels that it declares, each where
it first does so.  The last two records tell the number of variables and the
number of bytes of the text in C. -/
theorem compile_log
    {source : List Char} {width : Nat} {text : String}
    (accepted : (compile source width).result = .ok text) :
    ∃ tokens, tokenize source = .ok tokens ∧
      ∃ program : Program, program.WrittenAs tokens ∧
        (∀ other : Program, other.WrittenAs tokens → other = program) ∧
        (compile source width).records.filter Record.isTrace =
          program.derivation.preorder.map Record.trace ∧
        (compile source width).records.filter Record.declares =
          (Statement.declarationsAll program).eraseDups.map
            Declaration.record ∧
        (∃ earlier, (compile source width).records =
          earlier ++ [.finished program.variables.length,
            .generated text.utf8ByteSize]) ∧
        (compile source width).events = program.log text.utf8ByteSize := by
  obtain ⟨body, last, final, tokenized, read, finished, checked⟩ :=
    exists_read_of_compile accepted
  have compiled := compile_of_yields (yields_of_tokenize tokenized) width
  have logged := Reading.logged_empty.readAll (inside_of_tokenize tokenized)
    finished.kind read
  have told : text = (final.write (.empty width)).text := by
    rw [compiled, result_compileTokens, read] at accepted
    simp only [checked] at accepted
    exact (Except.ok.inj accepted).symm
  have whole : (compile source width).events =
      final.program.log text.utf8ByteSize := by
    have noted := logged.exact
    rw [List.nil_append, finished.log_eq] at noted
    rw [compiled, events_compileTokens read checked, noted, told,
      Variables.count, finished.names_eq_variables]
    rfl
  refine ⟨body ++ [last], tokenized, final.program, finished.writtenAs,
    fun _ => finished.program_unique, ?_, ?_, ?_, whole⟩
  · rw [Traced.filter_records Event.isTrace_record, whole,
      Program.records_log]
  · rw [Traced.filter_records Event.declares_record, whole,
      Program.filter_declares_log, List.map_map]
    exact List.map_congr_left (fun name _ => name.record_event)
  · refine ⟨(.entered .program ::
      Event.once (Statement.logAll final.program)).map Event.record, ?_⟩
    rw [Traced.records, whole, Program.log, ← List.cons_append,
      List.map_append]
    rfl

/-- A source with a label and a variable of one name, which it binds twice. -/
def sharedName : List Char :=
  ("LABEL a\nINPUT a\nIF a < 2 <= a THEN\n\n" ++
    "LET b = -a + 05\nINPUT a\nENDIF\n").toList

theorem compile_log_sharedName :
    ∃ text,
      (compile sharedName 2).result = .ok text ∧
        ∃ tokens, tokenize sharedName = .ok tokens ∧
          ∃ program : Program, program.WrittenAs tokens ∧
            (∀ other : Program, other.WrittenAs tokens → other = program) ∧
            (compile sharedName 2).records.filter Record.isTrace =
              program.derivation.preorder.map Record.trace ∧
            program.derivation.preorder.map Record.trace =
              ["PROGRAM", "STATEMENT-LABEL", "NEWLINE",
                "STATEMENT-INPUT", "NEWLINE",
                "STATEMENT-IF", "COMPARISON",
                "EXPRESSION", "TERM", "UNARY", "PRIMARY (a)",
                "EXPRESSION", "TERM", "UNARY", "PRIMARY (2)",
                "EXPRESSION", "TERM", "UNARY", "PRIMARY (a)", "NEWLINE",
                "STATEMENT-LET", "EXPRESSION",
                "TERM", "UNARY", "PRIMARY (a)",
                "TERM", "UNARY", "PRIMARY (05)", "NEWLINE",
                "STATEMENT-INPUT", "NEWLINE", "NEWLINE"].map
                  (⟨"TRACE", "teenyc::parser::parser", ·⟩) ∧
            (compile sharedName 2).records.filter Record.declares =
              (Statement.declarationsAll program).eraseDups.map
                Declaration.record ∧
            (Statement.declarationsAll program).eraseDups.map
              Declaration.record =
                [⟨"DEBUG", "teenyc::parser::symbols", "declared label 'a'"⟩,
                  ⟨"DEBUG", "teenyc::parser::symbols",
                    "declared variable 'a'"⟩,
                  ⟨"DEBUG", "teenyc::parser::symbols",
                    "declared variable 'b'"⟩] ∧
            (∃ earlier, (compile sharedName 2).records =
              earlier ++ [.finished program.variables.length,
                .generated text.utf8ByteSize]) ∧
            [Record.finished program.variables.length,
              .generated text.utf8ByteSize] =
                [⟨"DEBUG", "teenyc::parser::parser",
                    "translation finished with 2 variables"⟩,
                  ⟨"DEBUG", "teenyc", "generated 252 bytes of C"⟩] ∧
            (compile sharedName 2).events = program.log text.utf8ByteSize := by
  have accepted : (compile sharedName 2).result =
      .ok ("#include <stdio.h>\nint main(void) \x7b\n" ++
        "  float a;\n  float b;\n  a:;\n" ++
        "  if (0 == scanf(\"%f\", &a)) \x7b\n    a = 0;\n" ++
        "    scanf(\"%*s\");\n  \x7d\n  if (a < 2 <= a) \x7b\n" ++
        "    b = -a + 5;\n" ++
        "    if (0 == scanf(\"%f\", &a)) \x7b\n      a = 0;\n" ++
        "      scanf(\"%*s\");\n    \x7d\n  \x7d\n" ++
        "  return 0;\n\x7d\n") := by
    decide +kernel
  obtain ⟨tokens, tokenized, program, written, only, traces, names, ⟨earlier,
    ending⟩, whole⟩ := compile_log accepted
  refine ⟨_, accepted, tokens, tokenized, program, written, only, traces, ?_,
    names, ?_, ⟨earlier, ending⟩, ?_, whole⟩
  · rw [← traces]
    decide +kernel
  · rw [← names]
    decide +kernel
  · have shown : (compile sharedName 2).records =
        (compile sharedName 2).records.take 35 ++
          [⟨"DEBUG", "teenyc::parser::parser",
              "translation finished with 2 variables"⟩,
            ⟨"DEBUG", "teenyc", "generated 252 bytes of C"⟩] := by
      decide +kernel
    rw [ending] at shown
    obtain ⟨_, last⟩ := List.append_inj' shown (by simp)
    exact last

end TeenyTiny
