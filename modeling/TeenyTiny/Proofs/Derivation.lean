import Mathlib.Data.List.Basic
import TeenyTiny.Proofs.Records
import TeenyTiny.Proofs.Regions

/-!
# Derivations

The parse tree of a program as a tree of grammar rules, and what a log of
reading it holds: the rules in the order in which their texts start, and a note
at the end of each statement that binds a variable or declares a label.  Of
notes that say the same, a log has the first only (`Event.once`).
-/

namespace TeenyTiny

/-! ## Trees of rules -/

/-- A rule of the grammar as a log shows it, with the rules that its text is
made of. -/
inductive Derivation where
  | node (shown : String) (parts : List Derivation)

namespace Derivation

mutual

/-- The rules of a tree, each in front of those that it is made of. -/
def preorder : Derivation → List String
  | node shown parts => shown :: preorderAll parts

def preorderAll : List Derivation → List String
  | [] => []
  | tree :: rest => tree.preorder ++ preorderAll rest

end

theorem preorderAll_append (trees more : List Derivation) :
    preorderAll (trees ++ more) = preorderAll trees ++ preorderAll more := by
  induction trees with
  | nil =>
      rfl
  | cons tree rest inductionHypothesis =>
      rw [List.cons_append, preorderAll, preorderAll, inductionHypothesis,
        List.append_assoc]

/-- One end of a line or more. -/
def lineEnd : Derivation :=
  node "NEWLINE" []

end Derivation

/-- The text of an operand in its source. -/
def Operand.sourceText : Operand → String
  | .number digits => digits
  | .variable name => name

/-- The tree of a chain, with the trees of its operands as parts. -/
def Chain.derivation {Op Arg : Type} (shown : String)
    (part : Arg → Derivation) (chain : Chain Op Arg) : Derivation :=
  .node shown (chain.operands.map part)

def Factor.derivation (factor : Factor) : Derivation :=
  .node "UNARY" [.node ("PRIMARY (" ++ factor.operand.sourceText ++ ")") []]

def Term.derivation (term : Term) : Derivation :=
  Chain.derivation "TERM" Factor.derivation term

def Expr.derivation (expr : Expr) : Derivation :=
  Chain.derivation "EXPRESSION" Term.derivation expr

def Comparison.derivation (test : Comparison) : Derivation :=
  Chain.derivation "COMPARISON" Expr.derivation
    (.join test.left test.op test.right)

mutual

/-- The tree of a statement with the end of its line. -/
def Statement.derivation : Statement → Derivation
  | .printText _ => .node "STATEMENT-PRINT" [.lineEnd]
  | .printValue value =>
      .node "STATEMENT-PRINT" [value.derivation, .lineEnd]
  | .label _ => .node "STATEMENT-LABEL" [.lineEnd]
  | .jump _ => .node "STATEMENT-GOTO" [.lineEnd]
  | .assign _ value => .node "STATEMENT-LET" [value.derivation, .lineEnd]
  | .input _ => .node "STATEMENT-INPUT" [.lineEnd]
  | .block .branch test body =>
      .node "STATEMENT-IF" (test.derivation :: .lineEnd ::
        (Statement.derivations body ++ [.lineEnd]))
  | .block .loop test body =>
      .node "STATEMENT-WHILE" (test.derivation :: .lineEnd ::
        (Statement.derivations body ++ [.lineEnd]))

def Statement.derivations : List Statement → List Derivation
  | [] => []
  | statement :: rest =>
      statement.derivation :: Statement.derivations rest

end

/-- The tree of a whole program. -/
def Program.derivation (program : Program) : Derivation :=
  .node "PROGRAM" (Statement.derivations program)

/-! ## Declarations -/

/-- A name that a statement binds or declares. -/
inductive Declaration where
  | variable (name : String)
  | label (name : String)
  deriving DecidableEq, Repr

namespace Declaration

/-- The note of a new name. -/
def event : Declaration → Event
  | .variable name => .newVariable name
  | .label name => .newLabel name

/-- What a log shows of a new name. -/
def record : Declaration → Record
  | .variable name => .declaredVariable name
  | .label name => .declaredLabel name

theorem record_event (declaration : Declaration) :
    declaration.event.record = declaration.record := by
  cases declaration <;> rfl

theorem event_injective : Function.Injective event := by
  intro one other same
  cases one <;> cases other <;> cases same <;> rfl

/-- Different names have different notes. -/
theorem eraseDups_map_event (declarations : List Declaration) :
    (declarations.map event).eraseDups =
      declarations.eraseDups.map event := by
  induction declarations using List.reverseRecOn with
  | nil =>
      rfl
  | append_singleton declarations last inductionHypothesis =>
      have known : last.event ∈ declarations.map event ↔
          last ∈ declarations :=
        List.mem_map_of_injective event_injective
      rw [List.map_append, List.map_singleton, eraseDups_concat,
        eraseDups_concat, inductionHypothesis]
      by_cases member : last ∈ declarations
      · simp [known, member]
      · simp [known, member]

end Declaration

mutual

/-- The names that a statement binds or declares. -/
def Statement.declarations : Statement → List Declaration
  | .label name => [.label name]
  | .assign name _ => [.variable name]
  | .input name => [.variable name]
  | .block _ _ body => Statement.declarationsAll body
  | _ => []

def Statement.declarationsAll : List Statement → List Declaration
  | [] => []
  | statement :: rest =>
      statement.declarations ++ Statement.declarationsAll rest

end

/-! ## Rules of expressions -/

/-- The rules of a chain, with those of each operand behind the chain's. -/
def Chain.rules {Op Arg : Type} (rule : Rule) (part : Arg → List Rule)
    (chain : Chain Op Arg) : List Rule :=
  rule :: chain.operands.flatMap part

def Factor.rules (factor : Factor) : List Rule :=
  [.unary, .primary factor.operand.sourceText]

def Term.rules (term : Term) : List Rule :=
  Chain.rules .term Factor.rules term

def Expr.rules (expr : Expr) : List Rule :=
  Chain.rules .expression Term.rules expr

def Comparison.rules (test : Comparison) : List Rule :=
  Chain.rules .comparison Expr.rules (.join test.left test.op test.right)

namespace Chain

variable {Op Arg : Type} (rule : Rule) (part : Arg → List Rule)

theorem rules_first (arg : Arg) :
    rules rule part (first arg : Chain Op Arg) = rule :: part arg := by
  simp [rules, operands]

/-- One more operand puts its rules behind those of the chain. -/
theorem rules_join (left : Chain Op Arg) (op : Op) (arg : Arg) :
    rules rule part (join left op arg) =
      rules rule part left ++ part arg := by
  simp [rules, operands]

/-- The rules of a chain are those of its tree if this holds of its
operands. -/
theorem names_rules {part : Arg → List Rule} {tree : Arg → Derivation}
    (same : ∀ arg, (part arg).map Rule.name = (tree arg).preorder)
    (chain : Chain Op Arg) :
    (rules rule part chain).map Rule.name =
      (derivation rule.name tree chain).preorder := by
  rw [rules, derivation, Derivation.preorder, List.map_cons]
  congr 1
  induction chain.operands with
  | nil =>
      rfl
  | cons arg rest inductionHypothesis =>
      rw [List.flatMap_cons, List.map_append, same, inductionHypothesis,
        List.map_cons, Derivation.preorderAll]

end Chain

theorem Factor.names_rules (factor : Factor) :
    factor.rules.map Rule.name = factor.derivation.preorder :=
  rfl

theorem Expr.names_rules (expr : Expr) :
    expr.rules.map Rule.name = expr.derivation.preorder :=
  Chain.names_rules .expression
    (Chain.names_rules .term Factor.names_rules) expr

theorem Comparison.names_rules (test : Comparison) :
    test.rules.map Rule.name = test.derivation.preorder :=
  Chain.names_rules .comparison Expr.names_rules _

/-- The rule of a block. -/
def Block.rule : Block → Rule
  | .branch => .branch
  | .loop => .loop

/-! ## Logs of statements -/

mutual

/-- The log of reading a statement up to the end of its line, as if all names
that it binds or declares were new. -/
def Statement.log : Statement → List Event
  | .printText _ => [.entered .print]
  | .printValue value =>
      .entered .print :: value.rules.map .entered
  | .label name => [.entered .label, .newLabel name]
  | .jump _ => [.entered .jump]
  | .assign name value =>
      .entered .assign :: (value.rules.map .entered ++
        [.newVariable name])
  | .input name => [.entered .input, .newVariable name]
  | .block kind test body =>
      .entered kind.rule :: (test.rules.map .entered ++
        .entered .newline :: Statement.logAll body)

/-- The log of reading statements with the ends of their lines. -/
def Statement.logAll : List Statement → List Event
  | [] => []
  | statement :: rest =>
      statement.log ++ .entered .newline :: Statement.logAll rest

end

theorem Statement.logAll_concat
    (statements : List Statement) (statement : Statement) :
    Statement.logAll (statements ++ [statement]) =
      Statement.logAll statements ++
        (statement.log ++ [.entered .newline]) := by
  induction statements with
  | nil =>
      rfl
  | cons first rest inductionHypothesis =>
      simp [Statement.logAll, inductionHypothesis]

/-! ## Parts of a log -/

@[simp]
theorem Event.isTrace_entered (rule : Rule) :
    (Event.entered rule).isTrace = true :=
  rfl

@[simp]
theorem Event.declares_entered (rule : Rule) :
    (Event.entered rule).declares = false :=
  rfl

theorem Event.isTrace_of_declares {event : Event}
    (declares : event.declares = true) :
    event.isTrace = false := by
  cases event <;> cases declares <;> rfl

section Entered

variable (rules : List Rule)

/-- Rules that are entered are shown by their names. -/
theorem records_entered :
    ((rules.map Event.entered).filter Event.isTrace).map Event.record =
      (rules.map Rule.name).map Record.trace := by
  have whole : (rules.map Event.entered).filter Event.isTrace =
      rules.map Event.entered := by
    rw [List.filter_eq_self]
    intro event member
    obtain ⟨rule, _, rfl⟩ := List.mem_map.mp member
    rfl
  rw [whole, List.map_map, List.map_map]
  rfl

theorem filter_declares_entered :
    (rules.map Event.entered).filter Event.declares = [] := by
  rw [List.filter_eq_nil_iff]
  intro event member
  obtain ⟨rule, _, rfl⟩ := List.mem_map.mp member
  simp

end Entered

mutual

/-- The traces of a statement show the rules of its tree. -/
theorem Statement.records_log : (statement : Statement) →
    ((statement.log ++ [Event.entered .newline]).filter
      Event.isTrace).map Event.record =
        statement.derivation.preorder.map Record.trace
  | .printText _ | .label _ | .jump _ | .input _ => rfl
  | .printValue value => by
      simp [Statement.log, List.filter_cons, records_entered,
        Expr.names_rules, Statement.derivation, Derivation.preorder,
        Derivation.preorderAll, Derivation.lineEnd, Rule.name]
  | .assign name value => by
      have noTrace : (Event.newVariable name).isTrace = false := rfl
      simp [Statement.log, List.filter_cons, records_entered,
        Expr.names_rules, Statement.derivation, Derivation.preorder,
        Derivation.preorderAll, Derivation.lineEnd, Rule.name, noTrace]
  | .block kind test body => by
      have inside := Statement.records_logAll body
      cases kind <;>
        simp [Statement.log, List.filter_cons, records_entered,
          Comparison.names_rules, Statement.derivation, Derivation.preorder,
          Derivation.preorderAll, Derivation.preorderAll_append,
          Derivation.lineEnd, Block.rule, Rule.name, inside]

theorem Statement.records_logAll : (statements : List Statement) →
    ((Statement.logAll statements).filter Event.isTrace).map Event.record =
      (Derivation.preorderAll
        (Statement.derivations statements)).map Record.trace
  | [] => rfl
  | statement :: rest => by
      have first := Statement.records_log statement
      have others := Statement.records_logAll rest
      rw [Statement.derivations, Derivation.preorderAll, List.map_append,
        ← first, ← others, ← List.map_append, ← List.filter_append,
        List.append_assoc]
      rfl

end

mutual

/-- The other events of a statement are the notes of its names. -/
theorem Statement.filter_declares_log : (statement : Statement) →
    statement.log.filter Event.declares =
      statement.declarations.map Declaration.event
  | .printText _ | .label _ | .jump _ | .input _ => rfl
  | .printValue value => by
      simp [Statement.log, filter_declares_entered, Statement.declarations]
  | .assign name value => by
      have declares : (Event.newVariable name).declares = true := rfl
      simp [Statement.log, filter_declares_entered, Statement.declarations,
        declares, Declaration.event]
  | .block kind test body => by
      have inside := Statement.filter_declares_logAll body
      simp [Statement.log, filter_declares_entered, Statement.declarations,
        inside]

theorem Statement.filter_declares_logAll : (statements : List Statement) →
    (Statement.logAll statements).filter Event.declares =
      (Statement.declarationsAll statements).map Declaration.event
  | [] => rfl
  | statement :: rest => by
      have first := Statement.filter_declares_log statement
      have others := Statement.filter_declares_logAll rest
      simp [Statement.logAll, Statement.declarationsAll, first, others]

end

/-! ## Repeated notes -/

namespace Event

/-- The events without repeated notes of names: of these, the first stays. -/
def once (events : List Event) : List Event :=
  events.foldl
    (fun noted event =>
      if event.declares = true ∧ event ∈ noted then noted
      else noted ++ [event])
    []

theorem once_concat (events : List Event) (event : Event) :
    once (events ++ [event]) =
      if event.declares = true ∧ event ∈ once events then once events
      else once events ++ [event] := by
  rw [once, List.foldl_append]
  rfl

/-- A rule that is entered is noted each time. -/
theorem once_append_entered (events : List Event) (rules : List Rule) :
    once (events ++ rules.map entered) = once events ++ rules.map entered := by
  induction rules using List.reverseRecOn with
  | nil =>
      simp
  | append_singleton rules rule inductionHypothesis =>
      rw [List.map_append, List.map_singleton, ← List.append_assoc,
        once_concat, inductionHypothesis]
      simp

theorem mem_once (events : List Event) (event : Event) :
    event ∈ once events ↔ event ∈ events := by
  induction events using List.reverseRecOn with
  | nil =>
      rfl
  | append_singleton events last inductionHypothesis =>
      rw [once_concat, List.mem_append, ← inductionHypothesis,
        List.mem_singleton]
      by_cases known : last.declares = true ∧ last ∈ once events
      · rw [if_pos known]
        constructor
        · exact Or.inl
        · rintro (member | rfl)
          · exact member
          · exact known.2
      · rw [if_neg known, List.mem_append, List.mem_singleton]

/-- A note at the end of a line is kept if it is new. -/
theorem once_append_line (events : List Event) (event : Event) :
    once (events ++ [event, .entered .newline]) =
      (if event.declares = true ∧ event ∈ events then once events
        else once events ++ [event]) ++ [.entered .newline] := by
  have line := once_append_entered (events ++ [event]) [.newline]
  rw [List.append_assoc, once_concat events event] at line
  simp only [mem_once] at line
  exact line

theorem filter_isTrace_once (events : List Event) :
    (once events).filter isTrace = events.filter isTrace := by
  induction events using List.reverseRecOn with
  | nil =>
      rfl
  | append_singleton events last inductionHypothesis =>
      rw [once_concat, List.filter_append, ← inductionHypothesis]
      by_cases known : last.declares = true ∧ last ∈ once events
      · rw [if_pos known]
        simp [isTrace_of_declares known.1]
      · rw [if_neg known, List.filter_append]

theorem filter_declares_once (events : List Event) :
    (once events).filter declares = (events.filter declares).eraseDups := by
  induction events using List.reverseRecOn with
  | nil =>
      rfl
  | append_singleton events last inductionHypothesis =>
      rw [once_concat, List.filter_append]
      cases declares : last.declares with
      | false =>
          simp [declares, inductionHypothesis]
      | true =>
          have whole : [last].filter Event.declares = [last] := by
            simp [declares]
          rw [whole, eraseDups_concat, ← inductionHypothesis]
          by_cases known : last ∈ events
          · simp [mem_once, known, declares]
          · simp [mem_once, known, declares]

end Event

end TeenyTiny
