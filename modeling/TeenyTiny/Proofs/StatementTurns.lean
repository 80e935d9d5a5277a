import TeenyTiny.Proofs.Completion
import TeenyTiny.Proofs.Turns

/-!
# Statements in turns

A statement is entered in one turn of a reading and left in a later one.  It is
never entered at the end of a line or of the source
(`Turn.EntersStatement.kind_ne`).  While it is read, the blocks around it stay
as they are (`Reading.Amid.of_move`).  So a reading that finds no fault leaves
every statement that it enters (`Turn.Takes.exists_leaves`), and it takes at
least three tokens for each (`Turn.Takes.three_le_of_leaves`).
-/

namespace TeenyTiny

/-! ## Where no statement starts -/

/-- The fault is that no statement starts with a token. -/
def Fault.deniesStatement : Fault → Bool
  | .grammar (.noStatement _ _) _ => true
  | .grammar (.bareAssignment _) _ => true
  | _ => false

namespace Traced

/-- The computation finds no such fault. -/
def NeverDenies {Result : Type} (traced : Traced Fault Result) : Prop :=
  ∀ fault, traced.result = .error fault → fault.deniesStatement = false

variable {Result Next : Type} {traced : Traced Fault Result}

theorem NeverDenies.of_ok {result : Result}
    (done : traced.result = .ok result) :
    traced.NeverDenies := by
  intro fault failed
  rw [done] at failed
  cases failed

theorem NeverDenies.of_error {fault : Fault}
    (failed : traced.result = .error fault)
    (other : fault.deniesStatement = false) :
    traced.NeverDenies := by
  intro found same
  rw [failed] at same
  cases same
  exact other

theorem NeverDenies.bind {next : Result → Traced Fault Next}
    (first : traced.NeverDenies)
    (second : ∀ result, (next result).NeverDenies) :
    (traced >>= next).NeverDenies := by
  intro fault failed
  rw [result_bind] at failed
  cases done : traced.result with
  | error found =>
      rw [done] at failed
      cases failed
      exact first fault done
  | ok result =>
      rw [done] at failed
      exact second result fault failed

end Traced

namespace Reading

section Refusals

variable (reading : Reading) (token : Token)

theorem neverDenies_refuse {Result : Type} (wanted : Wanted) :
    (refuse wanted token : Traced Fault Result).NeverDenies :=
  .of_error rfl rfl

theorem neverDenies_require (kind : Kind) :
    (require kind token).NeverDenies := by
  unfold require
  split
  · exact .of_ok rfl
  · exact neverDenies_refuse token _

theorem neverDenies_endLine :
    (reading.endLine token).NeverDenies := by
  apply Traced.NeverDenies.bind (.of_ok rfl)
  intro _
  apply Traced.NeverDenies.bind (neverDenies_require token .newline)
  intro _
  exact .of_ok rfl

theorem neverDenies_declareLabel :
    (reading.declareLabel token).NeverDenies := by
  apply Traced.NeverDenies.bind
  · intro fault failed
    rw [Traced.result_ofExcept, Labels.declare] at failed
    split at failed
    · cases failed
      rfl
    · cases failed
  · intro _
    exact .of_ok rfl

theorem neverDenies_finishNamed (use : NameUse) (name : Token) :
    (reading.finishNamed use name token).NeverDenies := by
  cases use with
  | label =>
      apply Traced.NeverDenies.bind (neverDenies_declareLabel reading name)
      intro _
      exact neverDenies_endLine _ token
  | jump =>
      exact neverDenies_endLine _ token
  | input =>
      apply Traced.NeverDenies.bind (.of_ok (result_bindVariable _ _))
      intro _
      exact neverDenies_endLine _ token

theorem neverDenies_operandOf :
    (reading.operandOf token).NeverDenies := by
  unfold operandOf
  split
  · exact .of_ok rfl
  · split
    · exact .of_ok rfl
    · exact .of_error rfl rfl
  · exact neverDenies_refuse token _

theorem neverDenies_readOperand
    (goal : Goal) (prior : Prior) (sign : Option AddOp) :
    (reading.readOperand goal prior sign token).NeverDenies := by
  apply Traced.NeverDenies.bind (.of_ok rfl)
  intro _
  apply Traced.NeverDenies.bind (neverDenies_operandOf reading token)
  intro _
  exact .of_ok rfl

theorem neverDenies_readFactor (goal : Goal) (prior : Prior) :
    (reading.readFactor goal prior token).NeverDenies := by
  apply Traced.NeverDenies.bind (.of_ok rfl)
  intro _
  split
  · exact .of_ok rfl
  · exact neverDenies_readOperand reading token goal prior none

theorem neverDenies_finishExpr (goal : Goal) (value : Expr) :
    (reading.finishExpr goal value token).NeverDenies := by
  cases goal with
  | print =>
      exact neverDenies_endLine _ token
  | assign name =>
      apply Traced.NeverDenies.bind (.of_ok (result_bindVariable _ _))
      intro _
      exact neverDenies_endLine _ token
  | test block earlier =>
      unfold finishExpr
      dsimp only
      split
      · exact .of_ok rfl
      · exact neverDenies_refuse token _
      · apply Traced.NeverDenies.bind (neverDenies_require token _)
        intro _
        exact .of_ok rfl

theorem neverDenies_readOperator
    (goal : Goal) (sum : Chain.Open AddOp Term) (term : Term) :
    (reading.readOperator goal sum term token).NeverDenies := by
  unfold readOperator
  split
  · exact .of_ok rfl
  · exact .of_ok rfl
  · exact neverDenies_finishExpr reading token goal _

variable {reading}

/-- Inside a statement nothing else is taken for the start of one. -/
theorem neverDenies_step (next : Token)
    (inside : reading.phase ≠ .start) :
    (reading.step token next).NeverDenies := by
  unfold step
  split
  · contradiction
  · split
    · exact .of_ok rfl
    · exact neverDenies_readFactor reading token _ _
  · apply Traced.NeverDenies.bind (neverDenies_require token _)
    intro _
    exact .of_ok rfl
  · exact neverDenies_finishNamed reading token _ _
  · apply Traced.NeverDenies.bind (neverDenies_require token _)
    intro _
    exact .of_ok rfl
  · apply Traced.NeverDenies.bind (neverDenies_require token _)
    intro _
    exact .of_ok rfl
  · exact neverDenies_readFactor reading token _ _
  · exact neverDenies_readOperand reading token _ _ _
  · exact neverDenies_readOperator reading token _ _ _
  · exact neverDenies_endLine _ token
  · exact neverDenies_endLine _ token

end Refusals

/-! ## Entering a statement -/

/-- Where a statement may start, a token of this kind is none's first: it ends
a line, the source or the innermost block. -/
def PassesBy (reading : Reading) (kind : Kind) : Prop :=
  kind = .newline ∨ kind = .eof ∨
    ∃ frame outer, reading.frames = frame :: outer ∧
      kind = .keyword frame.block.closer

variable {reading : Reading} {token next : Token}

theorem readStart_of_passesBy
    (passes : reading.PassesBy token.kind) :
    (reading.readStart token next).events = [] ∧
      (reading.readStart token next).NeverDenies := by
  rcases passes with kind | kind | ⟨frame, outer, frames, kind⟩
  · simp only [readStart, kind]
    exact ⟨rfl, .of_ok rfl⟩
  · cases frames : reading.frames with
    | nil =>
        simp only [readStart, kind, frames]
        exact ⟨rfl, .of_ok rfl⟩
    | cons frame outer =>
        simp only [readStart, kind, frames]
        exact ⟨rfl, neverDenies_refuse token _⟩
  · simp only [readStart, kind, frames, if_true]
    exact ⟨rfl, .of_ok rfl⟩

/-- A keyword starts its statement, and every other token is refused as the
start of one. -/
theorem readStart_of_not_passesBy
    (starts : ¬ reading.PassesBy token.kind) :
    (∃ word rule phase, token.kind = .keyword word ∧
        statementAt word = some (rule, phase) ∧
        reading.readStart token next =
          ⟨[.entered rule], .ok (reading.goTo phase)⟩) ∨
      reading.readStart token next = refuseStatement token next := by
  have ofKeyword : ∀ word, token.kind = .keyword word →
      reading.readStart token next = reading.readKeyword word token next →
      (∃ word rule phase, token.kind = .keyword word ∧
          statementAt word = some (rule, phase) ∧
          reading.readStart token next =
            ⟨[.entered rule], .ok (reading.goTo phase)⟩) ∨
        reading.readStart token next = refuseStatement token next := by
    intro word kind same
    rw [same, readKeyword]
    cases known : statementAt word with
    | none =>
        exact Or.inr rfl
    | some start =>
        exact Or.inl ⟨word, start.1, start.2, kind, known, rfl⟩
  rw [PassesBy, not_or, not_or] at starts
  obtain ⟨notNewline, notEof, notCloser⟩ := starts
  cases kind : token.kind with
  | newline =>
      exact absurd kind notNewline
  | eof =>
      exact absurd kind notEof
  | keyword word =>
      rw [← kind]
      apply ofKeyword word kind
      cases frames : reading.frames with
      | nil =>
          simp only [readStart, kind, frames]
      | cons frame outer =>
          have other : word ≠ frame.block.closer := by
            intro closes
            rw [closes] at kind
            exact notCloser ⟨frame, outer, frames, kind⟩
          simp only [readStart, kind, frames, if_neg other]
  | _ =>
      exact Or.inr (by simp only [readStart, kind])

end Reading

namespace Turn

/-- A statement is entered in the turn: where one may start, its rule is
entered or the token is refused as the start of one. -/
def EntersStatement (turn : Turn) : Prop :=
  turn.reading.phase = .start ∧
    ((∃ rule, .entered rule ∈ turn.step.events) ∨
      ∃ fault, turn.step.result = .error fault ∧
        fault.deniesStatement = true)

variable {turn : Turn} {reading : Reading}

theorem step_of_start
    (phase : turn.reading.phase = .start) :
    turn.step =
      turn.reading.readStart turn.window.current turn.window.next := by
  simp only [step, Reading.step, phase]

theorem entersStatement_iff (turn : Turn) :
    turn.EntersStatement ↔
      turn.reading.phase = .start ∧
        ¬ turn.reading.PassesBy turn.window.current.kind := by
  constructor
  · intro enters
    obtain ⟨phase, effect⟩ := enters
    refine ⟨phase, ?_⟩
    intro passes
    rw [step_of_start phase] at effect
    obtain ⟨silent, accepts⟩ := Reading.readStart_of_passesBy passes
    rcases effect with ⟨rule, member⟩ | ⟨fault, failed, denies⟩
    · rw [silent] at member
      cases member
    · rw [accepts fault failed] at denies
      cases denies
  · intro starts
    obtain ⟨phase, starts⟩ := starts
    refine ⟨phase, ?_⟩
    rw [step_of_start phase]
    rcases Reading.readStart_of_not_passesBy starts with
      ⟨_, rule, _, _, _, same⟩ | same
    · rw [same]
      exact Or.inl ⟨rule, List.mem_singleton_self _⟩
    · rw [same]
      refine Or.inr ⟨_, rfl, ?_⟩
      split <;> rfl

/-- No other fault says that a statement is missing. -/
theorem entersStatement_of_denies {fault : Fault}
    (failed : turn.step.result = .error fault)
    (denies : fault.deniesStatement = true) :
    turn.EntersStatement := by
  refine ⟨?_, Or.inr ⟨fault, failed, denies⟩⟩
  by_contra inside
  have accepts := Reading.neverDenies_step turn.window.current
    turn.window.next inside fault failed
  rw [denies] at accepts
  cases accepts

theorem EntersStatement.kind_ne
    (enters : turn.EntersStatement) :
    turn.window.current.kind ≠ .newline ∧
      turn.window.current.kind ≠ .eof := by
  have starts := (entersStatement_iff turn).mp enters
  constructor
  · intro kind
    exact starts.2 (Or.inl kind)
  · intro kind
    exact starts.2 (Or.inr (Or.inl kind))

theorem EntersStatement.exists_word
    (enters : turn.EntersStatement)
    (done : turn.step.result = .ok reading) :
    ∃ word rule phase, Reading.statementAt word = some (rule, phase) ∧
      reading = turn.reading.goTo phase := by
  obtain ⟨phase, starts⟩ := (entersStatement_iff turn).mp enters
  rw [step_of_start phase] at done
  rcases Reading.readStart_of_not_passesBy starts with
    ⟨word, rule, phase, _, known, same⟩ | same
  · rw [same] at done
    cases done
    exact ⟨word, rule, phase, known, rfl⟩
  · rw [same] at done
    cases done

end Turn

/-! ## In the midst of a statement -/

namespace Reading

/-- The reading stands behind one statement more than the one that entered it,
in the same blocks. -/
structure Appends (entered reading : Reading) : Prop where
  phase : reading.phase = .start
  frames : reading.frames = entered.frames
  statements :
    ∃ statement, reading.statements = statement :: entered.statements

/-- The reading has not yet come to the end of a statement that was entered:
its line goes on, or a block of it is open. -/
inductive Amid (entered reading : Reading) : Prop
  | line
      (phase : reading.phase ≠ .start)
      (frames : reading.frames = entered.frames)
      (statements : reading.statements = entered.statements)
  | block (inner : List Frame) (frame : Frame)
      (frames : reading.frames = inner ++ frame :: entered.frames)
      (before : frame.before = entered.statements)

variable {entered reading next : Reading} {token : Token}

theorem Amid.of_same_frames
    (amid : Amid entered reading)
    (inside : next.phase ≠ .start)
    (frames : next.frames = reading.frames)
    (statements : next.statements = reading.statements) :
    Amid entered next := by
  cases amid with
  | line _ sameFrames sameStatements =>
      exact .line inside (frames.trans sameFrames)
        (statements.trans sameStatements)
  | block inner frame openFrames before =>
      exact .block inner frame (frames.trans openFrames) before

/-- At the start of a statement inside, a token leaves the outer one open or
closes its own block. -/
theorem Amid.of_move_start
    (amid : Amid entered reading)
    (phase : reading.phase = .start)
    (move : Move reading token next) :
    Amid entered next := by
  cases amid with
  | line inside _ _ =>
      exact absurd phase inside
  | block inner frame openFrames before =>
      cases move with
      | blank _ _ =>
          exact .block inner frame openFrames before
      | word _ _ _ =>
          exact .block inner frame openFrames before
      | close _ frames _ =>
          rw [openFrames] at frames
          cases inner with
          | nil =>
              cases frames
              exact .line (by simp [closeBlock]) rfl before
          | cons innermost inner =>
              cases frames
              exact .block inner frame rfl before
      | _ =>
          simp_all [Phase.factorPlace, Phase.operandPlace, Phase.atLineEnd]

/-- A token leads on inside the statement or completes it. -/
theorem Amid.of_move
    (amid : Amid entered reading)
    (move : Move reading token next) :
    Amid entered next ∨ Appends entered next := by
  by_cases phase : reading.phase = .start
  · exact Or.inl (amid.of_move_start phase move)
  · rcases move.inside_cases phase with
      ⟨later, inside, rfl⟩ | ⟨block, test, _, _, rfl⟩ |
        ⟨statement, _, _, rfl⟩
    · exact Or.inl (amid.of_same_frames inside rfl rfl)
    · cases amid with
      | line _ frames statements =>
          refine Or.inl
            (.block [] ⟨block, test, reading.statements⟩ ?_ statements)
          rw [← frames]
          rfl
      | block inner frame frames before =>
          refine Or.inl
            (.block (⟨block, test, reading.statements⟩ :: inner) frame ?_
              before)
          rw [List.cons_append, ← frames]
          rfl
    · cases amid with
      | line _ frames statements =>
          refine Or.inr ⟨rfl, ?_, statement, ?_⟩
          · exact (settle_frames reading).trans frames
          · rw [← statements, ← settle_statements reading]
            rfl
      | block inner frame frames before =>
          refine Or.inl (.block inner frame ?_ before)
          rw [← frames, ← settle_frames reading]
          rfl

/-- The source does not end in the midst of a statement. -/
theorem Amid.not_ended
    (amid : Amid entered reading)
    (phase : reading.phase = .start) :
    reading.frames ≠ [] := by
  cases amid with
  | line inside _ _ =>
      exact absurd phase inside
  | block inner frame frames _ =>
      rw [frames]
      simp

/-- Behind its keyword no statement is at the end of a line yet. -/
theorem statementAt_phase {word : Keyword} {rule : Rule} {phase : Phase}
    (starts : statementAt word = some (rule, phase)) :
    phase ≠ .start ∧ (∀ block test, phase ≠ .opened block test) ∧
      phase.atLineEnd = none := by
  cases word <;> cases starts <;> simp [Phase.atLineEnd]

theorem Move.phase_ne_start_of_word
    {word : Keyword} {rule : Rule}
    (move : Move reading token next)
    (starts : statementAt word = some (rule, reading.phase)) :
    next.phase ≠ .start := by
  obtain ⟨inside, notOpened, goesOn⟩ := statementAt_phase starts
  rcases move.inside_cases inside with
    ⟨later, inside, rfl⟩ | ⟨block, test, opened, _, _⟩ |
      ⟨statement, ends, _, _⟩
  · exact inside
  · exact absurd opened (notOpened block test)
  · rw [goesOn] at ends
    cases ends

end Reading

/-! ## Leaving a statement -/

namespace Turn

/-- The statement that is entered in one turn is left in the other: it is
complete, and the line ends behind it have been read. -/
structure Leaves (entered left : Turn) : Prop where
  appends : entered.reading.Appends left.reading
  behind : left.window.current.kind ≠ .newline

variable {turn entered left : Turn} {turns : List Turn}
  {pulls count : Nat} {outcome : Except Fault Reading} {final : Reading}

/-- At the start of a statement, line ends are skipped up to another token. -/
theorem Takes.exists_behind
    (takes : Takes turn turns pulls (.ok final))
    (phase : turn.reading.phase = .start) :
    ∃ (count : Nat) (later : Turn), turns[count]? = some later ∧
      later.reading = turn.reading ∧
      later.window.current.kind ≠ .newline := by
  generalize outcomeIs : Except.ok final = outcome at takes
  induction takes with
  | fault _ | stuck _ _ _ =>
      cases outcomeIs
  | @finish turn _ _ ends =>
      refine ⟨0, turn, rfl, rfl, ?_⟩
      rw [ends]
      simp
  | @more turn reading token turns _ _ done inside _ _
      inductionHypothesis =>
      by_cases line : turn.window.current.kind = .newline
      · have same : turn.reading = reading := by
          rw [step_of_start phase] at done
          simp only [Reading.readStart, line] at done
          cases done
          rfl
        subst same
        obtain ⟨count, later, found, sameReading, behind⟩ :=
          inductionHypothesis phase outcomeIs
        exact ⟨count + 1, later, found, sameReading, behind⟩
      · exact ⟨0, turn, rfl, rfl, line⟩

/-- If no fault is found, the statement that is being read is left. -/
theorem Takes.exists_leaves_of_amid
    (takes : Takes turn turns pulls (.ok final))
    (amid : entered.reading.Amid turn.reading) :
    ∃ (count : Nat) (left : Turn),
      turns[count]? = some left ∧ entered.Leaves left := by
  generalize outcomeIs : Except.ok final = outcome at takes
  induction takes with
  | fault _ | stuck _ _ _ =>
      cases outcomeIs
  | @finish turn _ done ends =>
      obtain ⟨_, phase, frames⟩ := Reading.step_eof ends done
      exact absurd frames (amid.not_ended phase)
  | @more turn reading token turns _ _ done inside _ takes
      inductionHypothesis =>
      obtain ⟨move, _⟩ := Reading.move_of_step inside done
      rcases amid.of_move move with further | appends
      · obtain ⟨count, left, found, leaves⟩ :=
          inductionHypothesis further outcomeIs
        exact ⟨count + 1, left, found, leaves⟩
      · cases outcomeIs
        obtain ⟨count, left, found, sameReading, behind⟩ :=
          takes.exists_behind appends.phase
        refine ⟨count + 1, left, found, ?_, behind⟩
        rw [sameReading]
        exact appends

/-- If no fault is found, a statement that is entered is left. -/
theorem Takes.exists_leaves
    (takes : Takes turn turns pulls (.ok final))
    (enters : turn.EntersStatement) :
    ∃ (count : Nat) (left : Turn),
      turns[count]? = some left ∧ turn.Leaves left := by
  cases takes with
  | finish _ ends =>
      exact absurd ends enters.kind_ne.2
  | more done inside _ takes =>
      obtain ⟨word, rule, phase, known, rfl⟩ := enters.exists_word done
      have amid : turn.reading.Amid (turn.reading.goTo phase) :=
        .line (Reading.statementAt_phase known).1 rfl rfl
      obtain ⟨count, left, found, leaves⟩ :=
        takes.exists_leaves_of_amid amid
      exact ⟨count + 1, left, found, leaves⟩

/-- A statement has a keyword, something behind it and the end of its line. -/
theorem Takes.three_le_of_leaves
    (takes : Takes turn turns pulls outcome)
    (enters : turn.EntersStatement)
    (found : turns[count]? = some left)
    (leaves : turn.Leaves left) :
    3 ≤ count := by
  by_contra few
  have small : count = 0 ∨ count = 1 ∨ count = 2 := by omega
  rcases small with rfl | rfl | rfl
  · -- The statement is not there yet.
    rw [takes.getElem?_zero] at found
    cases found
    obtain ⟨statement, statements⟩ := leaves.appends.statements
    have lengths := congrArg List.length statements
    rw [List.length_cons] at lengths
    omega
  · obtain ⟨done, _⟩ := takes.step_of_next found
    obtain ⟨word, rule, phase, known, same⟩ := enters.exists_word done
    have atStart := leaves.appends.phase
    rw [same] at atStart
    exact (Reading.statementAt_phase known).1 atStart
  · have long : 1 < turns.length := by
      have := (List.getElem?_eq_some_iff.mp found).1
      omega
    have second := List.getElem?_eq_getElem long
    obtain ⟨done, _⟩ := takes.step_of_next second
    obtain ⟨word, rule, phase, known, same⟩ := enters.exists_word done
    obtain ⟨_, further⟩ := takes.drop second
    have third : (turns.drop 1)[1]? = some left := by
      rw [List.getElem?_drop]
      exact found
    obtain ⟨doneThere, inside⟩ := further.step_of_next third
    obtain ⟨move, _⟩ := Reading.move_of_step inside doneThere
    have known : Reading.statementAt word =
        some (rule, turns[1].reading.phase) := by
      rw [same]
      exact known
    exact move.phase_ne_start_of_word known leaves.appends.phase

end Turn

end TeenyTiny
