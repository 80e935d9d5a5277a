import TeenyTiny.Proofs.Lines
import TeenyTiny.Proofs.Verdict

/-!
# Translation follows the parse tree

The text that a source is compiled to is the translation of its parse tree,
line by line (`compile_eq_renderAll`).  The source has no other parse tree, and
its variables are declared in the order in which the tree first gives them
values.
-/

namespace TeenyTiny

/-! ## Variables of a program -/

mutual

/-- The variables that a statement gives values, in the order of the text. -/
def Statement.targets : Statement → List String
  | .assign name _ => [name]
  | .input name => [name]
  | .block _ _ body => Statement.targetsAll body
  | _ => []

/-- The variables that statements give values. -/
def Statement.targetsAll : List Statement → List String
  | [] => []
  | statement :: rest => statement.targets ++ Statement.targetsAll rest

end

theorem Statement.targetsAll_append (statements more : List Statement) :
    Statement.targetsAll (statements ++ more) =
      Statement.targetsAll statements ++ Statement.targetsAll more := by
  induction statements with
  | nil =>
      rfl
  | cons statement rest inductionHypothesis =>
      simp [Statement.targetsAll, inductionHypothesis]

/-- The variables of a program, each once, in the order in which they are first
given values. -/
def Program.variables (program : Program) : List String :=
  (Statement.targetsAll program).eraseDups

/-- All lines of a program in C. -/
def Program.lines (program : Program) : List CLine :=
  headerLines program.variables ++ program.bodyLines 0

/-! ## Variables of a reading -/

/-- The variables that a statement gives values which is read but for the end
of its line. -/
def Phase.targets : Phase → List String
  | .complete statement => statement.targets
  | _ => []

/-- The variables given values by the statements before the open blocks.  The
frames come with the innermost first, the variables in the order of the text. -/
def Frame.targetsAll : List Frame → List String
  | [] => []
  | frame :: outer =>
      Frame.targetsAll outer ++ Statement.targetsAll frame.before.reverse

namespace Reading

/-- The variables that have been given values. -/
def targets (reading : Reading) : List String :=
  Frame.targetsAll reading.frames ++
    (Statement.targetsAll reading.statements.reverse ++
      reading.phase.targets)

section Moves

variable {reading next : Reading} {token : Token}

theorem targets_goTo {phase : Phase}
    (before : reading.phase.targets = [])
    (after : phase.targets = []) :
    (reading.goTo phase).targets = reading.targets := by
  simp [targets, goTo, before, after]

theorem targets_push (reading : Reading) (statement : Statement) :
    (reading.push statement).targets =
      Frame.targetsAll reading.frames ++
        (Statement.targetsAll reading.statements.reverse ++
          statement.targets) := by
  simp [targets, push, Phase.targets, Statement.targetsAll,
    Statement.targetsAll_append]

/-- The end of a line binds the variable that its statement gives a value. -/
theorem targets_finish {statement : Statement}
    (ends : reading.phase.atLineEnd = some statement) :
    ((reading.settle.push statement).targets = reading.targets ∧
        (reading.settle.push statement).bound = reading.bound) ∨
      ∃ name,
        (reading.settle.push statement).targets = reading.targets ++ [name] ∧
          (reading.settle.push statement).bound =
            reading.bound.bind name := by
  rw [targets_push, settle_frames, settle_statements]
  obtain ⟨phase, statements, frames, bound, labels⟩ := reading
  cases phase with
  | named use token =>
      cases ends
      cases use with
      | label =>
          exact Or.inl ⟨rfl, rfl⟩
      | jump =>
          exact Or.inl ⟨rfl, rfl⟩
      | input =>
          refine Or.inr ⟨token.text, ?_, rfl⟩
          simp [targets, Phase.targets, NameUse.statement, Statement.targets]
  | operator goal sum term =>
      cases goal with
      | print =>
          cases ends
          exact Or.inl ⟨rfl, rfl⟩
      | assign name =>
          cases ends
          refine Or.inr ⟨name, ?_, rfl⟩
          simp [targets, Phase.targets, Statement.targets]
      | test =>
          cases ends
  | complete statement =>
      cases ends
      exact Or.inl ⟨rfl, rfl⟩
  | _ =>
      cases ends

theorem targets_of_operandPlace {place : Goal × Prior × Option AddOp}
    (placed : reading.phase.operandPlace = some place) :
    reading.phase.targets = [] := by
  cases phase : reading.phase <;> rw [phase] at placed <;> cases placed <;>
    rfl

/-- A move binds a variable exactly when it is given a value. -/
theorem Move.targets_cases
    (move : Move reading token next) :
    (next.targets = reading.targets ∧ next.bound = reading.bound) ∨
      ∃ name, next.targets = reading.targets ++ [name] ∧
        next.bound = reading.bound.bind name := by
  -- Only the end of a line binds a variable.  Blocks that open and close carry
  -- statements from one place to another and keep their order.
  cases move with
  | finish ends _ =>
      exact targets_finish ends
  | blank _ _ =>
      exact Or.inl ⟨rfl, rfl⟩
  | @word word _ _ phase _ starts =>
      refine Or.inl ⟨targets_goTo (by rw [phase]; rfl) ?_, rfl⟩
      cases word <;> cases starts <;> rfl
  | close phase frames _ =>
      refine Or.inl ⟨?_, rfl⟩
      simp [targets, closeBlock, phase, frames, Phase.targets,
        Frame.targetsAll, Statement.targets]
  | enter phase _ =>
      refine Or.inl ⟨?_, rfl⟩
      simp [targets, openBlock, phase, Phase.targets, Frame.targetsAll,
        Statement.targetsAll]
  | sign placed _ =>
      have asOperand := Phase.operandPlace_of_factorPlace placed
      exact Or.inl ⟨targets_goTo (targets_of_operandPlace asOperand) rfl, rfl⟩
  | operand placed _ =>
      exact Or.inl ⟨targets_goTo (targets_of_operandPlace placed) rfl, rfl⟩
  | text phase _ | name phase _ | target phase _ | equals phase _
  | multiply phase _ | add phase _ | compare phase _ | divide phase _ =>
      exact Or.inl ⟨targets_goTo (by rw [phase]; rfl) rfl, rfl⟩

end Moves

/-- The bound variables are those that have been given values, each once. -/
theorem Reached.names_eq {before : List Token} {reading : Reading}
    (reached : Reached before reading) :
    reading.bound.names = reading.targets.eraseDups := by
  induction reached with
  | empty =>
      rfl
  | @move _ reading _ _ _ move _ inductionHypothesis =>
      rcases move.targets_cases with ⟨targets, bound⟩ | ⟨name, targets, bound⟩
      · rw [targets, bound, inductionHypothesis]
      · rw [targets, bound, List.eraseDups_append, ← inductionHypothesis]
        have known : name ∈ reading.bound.names ↔ name ∈ reading.targets := by
          rw [inductionHypothesis, List.mem_eraseDups]
        by_cases given : name ∈ reading.targets
        · simp [Variables.bind, Variables.contains, known, given,
            List.removeAll]
        · simp [Variables.bind, Variables.contains, known, given,
            List.removeAll, List.eraseDups_cons]

/-- All variables of a program are bound at its end. -/
theorem Finished.names_eq_variables
    {body : List Token} {last : Token} {final : Reading}
    (finished : Finished body last final) :
    final.bound.names = final.program.variables := by
  rw [finished.reached.names_eq, Program.variables, targets, finished.phase,
    finished.frames]
  simp [Frame.targetsAll, Phase.targets, program]

end Reading

end TeenyTiny
