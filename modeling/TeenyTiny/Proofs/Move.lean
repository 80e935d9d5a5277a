import TeenyTiny.Proofs.Grammar
import TeenyTiny.Reading.Step

/-!
# What one token does to a reading

`Reading.step` decides about one token.  This module says once and for all what
it can decide:

* a name is misused, as `Misuse` lists;
* the reading goes on, as `Move` lists, one constructor for each way;
* the source ends where a program may end;
* the token breaks the grammar, and the fault points at that token.

`Move` does not look at names, so it is the grammar alone, one token at a time.
-/

namespace TeenyTiny

/-! ## Results of traced computations -/

namespace Traced

variable {Failure Result Next : Type}

@[simp]
theorem result_done (result : Result) :
    (done result : Traced Failure Result).result = .ok result :=
  rfl

@[simp]
theorem result_fail (failure : Failure) :
    (fail failure : Traced Failure Result).result = .error failure :=
  rfl

@[simp]
theorem result_pure (result : Result) :
    (pure result : Traced Failure Result).result = .ok result :=
  rfl

@[simp]
theorem result_note (event : Event) :
    (note event : Traced Failure Unit).result = .ok () :=
  rfl

@[simp]
theorem result_enter (rule : Rule) :
    (enter rule : Traced Failure Unit).result = .ok () :=
  rfl

@[simp]
theorem result_enterAll (rules : List Rule) :
    (enterAll rules : Traced Failure Unit).result = .ok () :=
  rfl

@[simp]
theorem result_ofExcept (result : Except Failure Result) :
    (ofExcept result).result = result :=
  rfl

@[simp]
theorem result_andThen
    (traced : Traced Failure Result) (next : Result → Traced Failure Next) :
    (traced.andThen next).result =
      match traced.result with
      | .error failure => .error failure
      | .ok result => (next result).result := by
  unfold andThen
  cases traced.result <;> rfl

@[simp]
theorem result_bind
    (traced : Traced Failure Result) (next : Result → Traced Failure Next) :
    (traced >>= next).result =
      match traced.result with
      | .error failure => .error failure
      | .ok result => (next result).result :=
  result_andThen traced next

end Traced

/-! ## Kinds of operators -/

namespace Operator

variable {Op : Type} [Operator Op]

@[simp]
theorem ofKind?_kind (op : Op) :
    ofKind? Op (kind op) = some op := by
  have isFound : (ofKind? Op (kind op)).isSome = true := by
    rw [ofKind?, List.find?_isSome]
    exact ⟨op, mem_all op, by simp⟩
  obtain ⟨found, read⟩ := Option.isSome_iff_exists.mp isFound
  have same := List.find?_some read
  rw [read, kind_injective found op (of_decide_eq_true same)]

theorem kind_of_ofKind? {given : Kind} {op : Op}
    (read : ofKind? Op given = some op) :
    given = kind op := by
  have same := List.find?_some read
  exact (of_decide_eq_true same).symm

theorem kind_ne (op : Op) {other : Kind}
    (noOperator : other.band ≠ .operator) :
    kind op ≠ other := by
  rintro rfl
  exact noOperator (band_kind op)

theorem ofKind?_eq_none {given : Kind}
    (noOperator : ¬ given.band = .operator) :
    ofKind? Op given = none := by
  rw [ofKind?, List.find?_eq_none]
  intro op _
  simpa using kind_ne op noOperator

end Operator

@[simp]
theorem AddOp.ofKind?_mulOp (op : AddOp) :
    Operator.ofKind? MulOp (Operator.kind op) = none := by
  cases op <;> rfl

@[simp]
theorem CompareOp.ofKind?_mulOp (op : CompareOp) :
    Operator.ofKind? MulOp (Operator.kind op) = none := by
  cases op <;> rfl

@[simp]
theorem CompareOp.ofKind?_addOp (op : CompareOp) :
    Operator.ofKind? AddOp (Operator.kind op) = none := by
  cases op <;> rfl

/-! ## Places in a statement -/

/-- The statement that a keyword and a name make. -/
def NameUse.statement : NameUse → String → Statement
  | .label, name => .label name
  | .jump, name => .jump name
  | .input, name => .input name

namespace Phase

/-- The expression of which a factor may start here. -/
def factorPlace : Phase → Option (Goal × Prior)
  | .print => some (.print, .none)
  | .factor goal prior => some (goal, prior)
  | _ => none

/-- The expression of which an operand may stand here, and the sign before
it. -/
def operandPlace : Phase → Option (Goal × Prior × Option AddOp)
  | .print => some (.print, .none, none)
  | .factor goal prior => some (goal, prior, none)
  | .signed goal prior sign => some (goal, prior, some sign)
  | _ => none

theorem operandPlace_of_factorPlace {phase : Phase} {goal : Goal}
    {prior : Prior}
    (placed : phase.factorPlace = some (goal, prior)) :
    phase.operandPlace = some (goal, prior, none) := by
  cases phase <;> cases placed <;> rfl

theorem operandPlace_cases {phase : Phase} {goal : Goal} {prior : Prior}
    {sign : Option AddOp}
    (placed : phase.operandPlace = some (goal, prior, sign)) :
    (phase.factorPlace = some (goal, prior) ∧ sign = none) ∨
      ∃ op, phase = .signed goal prior op ∧ sign = some op := by
  cases phase <;> cases placed
  · exact Or.inl ⟨rfl, rfl⟩
  · exact Or.inl ⟨rfl, rfl⟩
  · exact Or.inr ⟨_, rfl, rfl⟩

/-- The statement that is complete if the line ends here. -/
def atLineEnd : Phase → Option Statement
  | .named use token => some (use.statement token.text)
  | .operator .print sum term => some (.printValue (Chain.extend sum term))
  | .operator (.assign assigned) sum term =>
      some (.assign assigned (Chain.extend sum term))
  | .complete statement => some statement
  | _ => none

end Phase

namespace Reading

/-- The names as they are once the statement that ends here has had its
effect on them. -/
def settle (reading : Reading) : Reading :=
  match reading.phase with
  | .named .label name =>
      { reading with
        labels :=
          { reading.labels with
            declared := name.text :: reading.labels.declared } }
  | .named .jump name =>
      { reading with labels := reading.labels.jump name.text name.span }
  | .named .input name =>
      { reading with bound := reading.bound.bind name.text }
  | .operator (.assign name) _ _ =>
      { reading with bound := reading.bound.bind name }
  | _ => reading

/-! ## Misused names -/

/-- The fault of a name that shows when the token has its turn. -/
inductive Misuse (reading : Reading) (token : Token) : Fault → Prop
  | unbound {place : Goal × Prior × Option AddOp}
      (placed : reading.phase.operandPlace = some place)
      (kind : token.kind = .ident)
      (missing : reading.bound.contains token.text = false) :
      Misuse reading token (.name (.unbound token.text) token.span)
  | repeated {name : Token}
      (phase : reading.phase = .named .label name)
      (declared : reading.labels.isDeclared name.text = true) :
      Misuse reading token (.name (.repeatedLabel name.text) name.span)

/-! ## Moves -/

/-- The token may come next as far as the grammar goes, and the reading goes on
as given. -/
inductive Move (reading : Reading) (token : Token) : Reading → Prop
  | blank
      (phase : reading.phase = .start)
      (kind : token.kind = .newline) :
      Move reading token reading
  | word {word : Keyword} {rule : Rule} {next : Phase}
      (phase : reading.phase = .start)
      (kind : token.kind = .keyword word)
      (starts : statementAt word = some (rule, next)) :
      Move reading token (reading.goTo next)
  | close {frame : Frame} {outer : List Frame}
      (phase : reading.phase = .start)
      (frames : reading.frames = frame :: outer)
      (kind : token.kind = .keyword frame.block.closer) :
      Move reading token (reading.closeBlock frame outer)
  | text
      (phase : reading.phase = .print)
      (kind : token.kind = .string) :
      Move reading token (reading.goTo (.complete (.printText token.text)))
  | name {use : NameUse}
      (phase : reading.phase = .name use)
      (kind : token.kind = .ident) :
      Move reading token (reading.goTo (.named use token))
  | target
      (phase : reading.phase = .target)
      (kind : token.kind = .ident) :
      Move reading token (reading.goTo (.equals token.text))
  | equals {name : String}
      (phase : reading.phase = .equals name)
      (kind : token.kind = .eq) :
      Move reading token (reading.goTo (.factor (.assign name) .none))
  | sign {goal : Goal} {prior : Prior} {op : AddOp}
      (placed : reading.phase.factorPlace = some (goal, prior))
      (kind : token.kind = Operator.kind op) :
      Move reading token (reading.goTo (.signed goal prior op))
  | operand {goal : Goal} {prior : Prior} {sign : Option AddOp}
      {operand : Operand}
      (placed : reading.phase.operandPlace = some (goal, prior, sign))
      (spelled : operand.SpelledBy [token]) :
      Move reading token
        (reading.goTo (.operator goal prior.sum
          (Chain.extend prior.product ⟨sign, operand⟩)))
  | multiply {goal : Goal} {sum : Chain.Open AddOp Term} {term : Term}
      {op : MulOp}
      (phase : reading.phase = .operator goal sum term)
      (kind : token.kind = Operator.kind op) :
      Move reading token (reading.goTo (.factor goal ⟨sum, some (term, op)⟩))
  | add {goal : Goal} {sum : Chain.Open AddOp Term} {term : Term}
      {op : AddOp}
      (phase : reading.phase = .operator goal sum term)
      (kind : token.kind = Operator.kind op) :
      Move reading token
        (reading.goTo
          (.factor goal ⟨some (Chain.extend sum term, op), none⟩))
  | compare {block : Block} {earlier : Chain.Open CompareOp Expr}
      {sum : Chain.Open AddOp Term} {term : Term} {op : CompareOp}
      (phase : reading.phase = .operator (.test block earlier) sum term)
      (kind : token.kind = Operator.kind op) :
      Move reading token
        (reading.goTo
          (.factor
            (.test block
              (some (Chain.extend earlier (Chain.extend sum term), op)))
            .none))
  | divide {block : Block} {left : Chain CompareOp Expr} {op : CompareOp}
      {sum : Chain.Open AddOp Term} {term : Term}
      (phase :
        reading.phase = .operator (.test block (some (left, op))) sum term)
      (kind : token.kind = .keyword block.divider) :
      Move reading token
        (reading.goTo (.opened block ⟨left, op, Chain.extend sum term⟩))
  | enter {block : Block} {test : Comparison}
      (phase : reading.phase = .opened block test)
      (kind : token.kind = .newline) :
      Move reading token (reading.openBlock block test)
  | finish {statement : Statement}
      (ends : reading.phase.atLineEnd = some statement)
      (kind : token.kind = .newline) :
      Move reading token (reading.settle.push statement)

/-! ## Results of the parts of a step -/

section Results

variable {reading next : Reading} {token after : Token} {fault : Fault}

@[simp]
theorem result_endLine (reading : Reading) (token : Token) :
    (reading.endLine token).result =
      if token.kind = .newline then .ok reading
      else
        .error (.grammar (.unexpected (.kind .newline) token.kind)
          token.span) := by
  by_cases kind : token.kind = .newline <;>
    simp [endLine, require, refuse, kind]

@[simp]
theorem result_bindVariable (reading : Reading) (name : String) :
    (reading.bindVariable name).result =
      .ok { reading with bound := reading.bound.bind name } := by
  by_cases bound : reading.bound.contains name = true <;>
    simp [bindVariable, Variables.bind, bound]

/-- No block ends with a word that starts a statement. -/
@[simp]
theorem statementAt_closer (block : Block) :
    statementAt block.closer = none := by
  cases block <;> rfl

theorem ne_closer_of_starts {word : Keyword} {start : Rule × Phase}
    (starts : statementAt word = some start) (block : Block) :
    word ≠ block.closer := by
  rintro rfl
  rw [statementAt_closer] at starts
  cases starts

theorem result_step_word {word : Keyword} {rule : Rule} {phase : Phase}
    (atStart : reading.phase = .start)
    (kind : token.kind = .keyword word)
    (starts : statementAt word = some (rule, phase)) :
    (reading.step token after).result = .ok (reading.goTo phase) := by
  cases frames : reading.frames with
  | nil =>
      simp [step, atStart, readStart, kind, frames, readKeyword, starts]
  | cons frame outer =>
      have other := ne_closer_of_starts starts frame.block
      simp [step, atStart, readStart, kind, frames, other, readKeyword,
        starts]

theorem result_step_sign {goal : Goal} {prior : Prior} {op : AddOp}
    (placed : reading.phase.factorPlace = some (goal, prior))
    (kind : token.kind = Operator.kind op) :
    (reading.step token after).result =
      .ok (reading.goTo (.signed goal prior op)) := by
  have noText : Operator.kind op ≠ .string := Operator.kind_ne op (by decide)
  cases phase : reading.phase <;> rw [phase] at placed <;> cases placed <;>
    simp [step, phase, noText, readFactor, kind]

/-- Unless its name is misused, an operand is taken as it is spelled. -/
theorem operandOf_of_allowed {place : Goal × Prior × Option AddOp}
    {operand : Operand}
    (placed : reading.phase.operandPlace = some place)
    (spelled : operand.SpelledBy [token])
    (allowed : ∀ fault, ¬ Misuse reading token fault) :
    reading.operandOf token = .done operand := by
  cases spelled with
  | number kind =>
      simp [operandOf, kind]
  | name kind =>
      cases bound : reading.bound.contains token.text with
      | false =>
          exact absurd (Misuse.unbound placed kind bound) (allowed _)
      | true =>
          simp [operandOf, kind, bound]

/-- An operand is neither a text nor a sign. -/
theorem noSign_of_spelledBy {operand : Operand}
    (spelled : operand.SpelledBy [token]) :
    token.kind ≠ .string ∧ Operator.ofKind? AddOp token.kind = none := by
  cases spelled with
  | number kind => simp [kind, Operator.ofKind?_eq_none, Kind.band]
  | name kind => simp [kind, Operator.ofKind?_eq_none, Kind.band]

theorem result_step_operand {goal : Goal} {prior : Prior}
    {sign : Option AddOp} {operand : Operand}
    (placed : reading.phase.operandPlace = some (goal, prior, sign))
    (spelled : operand.SpelledBy [token])
    (allowed : ∀ fault, ¬ Misuse reading token fault) :
    (reading.step token after).result =
      .ok (reading.goTo (.operator goal prior.sum
        (Chain.extend prior.product ⟨sign, operand⟩))) := by
  have isOperand := operandOf_of_allowed placed spelled allowed
  have noSign := noSign_of_spelledBy spelled
  cases phase : reading.phase <;> rw [phase] at placed <;> cases placed <;>
    simp [step, phase, noSign, readFactor, readOperand, isOperand]

/-- Unless it is misused, a label that is declared is new. -/
theorem fresh_of_allowed {name : Token}
    (phase : reading.phase = .named .label name)
    (allowed : ∀ fault, ¬ Misuse reading token fault) :
    reading.labels.isDeclared name.text = false := by
  cases declared : reading.labels.isDeclared name.text with
  | false =>
      rfl
  | true =>
      exact absurd (Misuse.repeated phase declared) (allowed _)

theorem result_step_finish {statement : Statement}
    (ends : reading.phase.atLineEnd = some statement)
    (kind : token.kind = .newline)
    (allowed : ∀ fault, ¬ Misuse reading token fault) :
    (reading.step token after).result =
      .ok (reading.settle.push statement) := by
  cases phase : reading.phase with
  | named use name =>
      rw [phase] at ends
      cases ends
      cases use with
      | label =>
          have fresh := fresh_of_allowed phase allowed
          simp [step, phase, finishNamed, declareLabel, Labels.declare,
            fresh, kind, settle, NameUse.statement]
      | jump =>
          simp [step, phase, finishNamed, kind, settle, NameUse.statement]
      | input =>
          simp [step, phase, finishNamed, kind, settle, NameUse.statement]
  | operator goal sum term =>
      rw [phase] at ends
      cases goal <;> cases ends <;>
        simp [step, phase, readOperator, kind, Operator.ofKind?_eq_none,
          Kind.band, finishExpr, settle]
  | complete statement =>
      rw [phase] at ends
      cases ends
      simp [step, phase, kind, settle]
  | _ =>
      rw [phase] at ends
      cases ends

end Results

/-! ## What a step decides -/

section Decisions

variable {reading next : Reading} {token after : Token} {fault : Fault}

/-- A misused name stops the reading before anything else is looked at. -/
theorem step_of_misuse
    (misuse : Misuse reading token fault) (after : Token) :
    (reading.step token after).result = .error fault := by
  cases misuse with
  | unbound placed kind missing =>
      cases phase : reading.phase <;> rw [phase] at placed <;>
        cases placed <;>
        simp [step, phase, kind, readFactor, readOperand, operandOf,
          Operator.ofKind?_eq_none, Kind.band, missing]
  | repeated phase declared =>
      simp [step, phase, finishNamed, declareLabel, Labels.declare,
        declared]

/-- Unless a name is misused, a token that may come next is read. -/
theorem step_of_move
    (move : Move reading token next)
    (allowed : ∀ fault, ¬ Misuse reading token fault)
    (after : Token) :
    (reading.step token after).result = .ok next := by
  cases move with
  | blank phase kind =>
      simp [step, phase, readStart, kind]
  | word phase kind starts =>
      exact result_step_word phase kind starts
  | close phase frames kind =>
      simp [step, phase, readStart, kind, frames]
  | text phase kind =>
      simp [step, phase, kind]
  | name phase kind =>
      simp [step, phase, require, kind]
  | target phase kind =>
      simp [step, phase, require, kind]
  | equals phase kind =>
      simp [step, phase, require, kind]
  | sign placed kind =>
      exact result_step_sign placed kind
  | operand placed spelled =>
      exact result_step_operand placed spelled allowed
  | multiply phase kind =>
      simp [step, phase, readOperator, kind]
  | add phase kind =>
      simp [step, phase, readOperator, kind]
  | compare phase kind =>
      simp [step, phase, readOperator, kind, finishExpr]
  | divide phase kind =>
      simp [step, phase, readOperator, kind, Operator.ofKind?_eq_none,
        Kind.band, finishExpr, require]
  | enter phase kind =>
      simp [step, phase, kind]
  | finish ends kind =>
      exact result_step_finish ends kind allowed

/-- The end of the source is read where a program may end. -/
theorem step_of_end
    (phase : reading.phase = .start)
    (frames : reading.frames = [])
    (kind : token.kind = .eof)
    (after : Token) :
    (reading.step token after).result = .ok reading := by
  simp [step, phase, readStart, kind, frames]

/-- What stands where an operand may stand is an operand or is refused. -/
theorem operand_cases {goal : Goal} {prior : Prior} {sign : Option AddOp}
    (placed : reading.phase.operandPlace = some (goal, prior, sign)) :
    (∃ next, Move reading token next) ∨
      ∃ fault, (reading.operandOf token).result =
        .error (.grammar fault token.span) := by
  by_cases number : token.kind = .number
  · exact Or.inl ⟨_, .operand placed (.number number)⟩
  · by_cases name : token.kind = .ident
    · exact Or.inl ⟨_, .operand placed (.name name)⟩
    · refine Or.inr ⟨.unexpected .operand token.kind, ?_⟩
      unfold operandOf
      split
      · contradiction
      · contradiction
      · rfl

/-- What stands where a factor may start is a sign, an operand or is
refused. -/
theorem factor_cases {goal : Goal} {prior : Prior}
    (starts : reading.phase.factorPlace = some (goal, prior))
    (placed : reading.phase.operandPlace = some (goal, prior, none)) :
    (∃ next, Move reading token next) ∨
      ∃ fault, (reading.readFactor goal prior token).result =
        .error (.grammar fault token.span) := by
  cases sign : Operator.ofKind? AddOp token.kind with
  | some op =>
      exact Or.inl ⟨_, .sign starts (Operator.kind_of_ofKind? sign)⟩
  | none =>
      rcases operand_cases placed with move | ⟨fault, refused⟩
      · exact Or.inl move
      · refine Or.inr ⟨fault, ?_⟩
        simp [readFactor, sign, readOperand, refused]

/-- What stands behind an expression goes on with its statement or is
refused. -/
theorem value_cases {goal : Goal} {sum : Chain.Open AddOp Term} {term : Term}
    (phase : reading.phase = .operator goal sum term) :
    (∃ next, Move reading token next) ∨
      ∃ fault,
        (reading.finishExpr goal (Chain.extend sum term) token).result =
          .error (.grammar fault token.span) := by
  cases goal with
  | print =>
      by_cases kind : token.kind = .newline
      · exact Or.inl ⟨_, .finish (by rw [phase]; rfl) kind⟩
      · exact Or.inr ⟨_, by simp [finishExpr, kind]; rfl⟩
  | assign name =>
      by_cases kind : token.kind = .newline
      · exact Or.inl ⟨_, .finish (by rw [phase]; rfl) kind⟩
      · exact Or.inr ⟨_, by simp [finishExpr, kind]; rfl⟩
  | test block earlier =>
      cases compare : Operator.ofKind? CompareOp token.kind with
      | some op =>
          exact Or.inl
            ⟨_, .compare phase (Operator.kind_of_ofKind? compare)⟩
      | none =>
          cases earlier with
          | none =>
              exact Or.inr ⟨_, by simp only [finishExpr, compare]; rfl⟩
          | some left =>
              by_cases kind : token.kind = .keyword block.divider
              · exact Or.inl ⟨_, .divide phase kind⟩
              · exact Or.inr
                  ⟨_, by simp [finishExpr, compare, require, kind]; rfl⟩

/-- What stands at the start of a statement starts one, ends a block or the
source, or is refused. -/
theorem start_cases
    (token after : Token)
    (phase : reading.phase = .start) :
    (∃ next, Move reading token next) ∨
      (token.kind = .eof ∧ reading.frames = []) ∨
      ∃ fault, (reading.readStart token after).result =
        .error (.grammar fault token.span) := by
  unfold readStart
  split
  · exact Or.inl ⟨_, .blank phase ‹_›⟩
  · exact Or.inr (Or.inl ⟨‹_›, ‹_›⟩)
  · exact Or.inr (Or.inr ⟨_, rfl⟩)
  · rename_i word kind _
    cases starts : statementAt word with
    | some start =>
        exact Or.inl ⟨_, .word phase kind starts⟩
    | none =>
        exact Or.inr (Or.inr ⟨_, by simp only [readKeyword, starts]; rfl⟩)
  · rename_i word frame outer kind frames
    by_cases closes : word = frame.block.closer
    · subst closes
      exact Or.inl ⟨_, .close phase frames kind⟩
    · rw [if_neg closes]
      cases starts : statementAt word with
      | some start =>
          exact Or.inl ⟨_, .word phase kind starts⟩
      | none =>
          exact Or.inr (Or.inr ⟨_, by simp only [readKeyword, starts]; rfl⟩)
  · exact Or.inr (Or.inr ⟨_, rfl⟩)

/-- A step finds a misused name, moves, reads the end of the source, or finds
that the token breaks the grammar. -/
theorem step_cases (reading : Reading) (token after : Token) :
    (∃ fault, Misuse reading token fault) ∨
      (∃ next, Move reading token next) ∨
      (reading.phase = .start ∧ reading.frames = [] ∧ token.kind = .eof) ∨
      ∃ fault, (reading.step token after).result =
        .error (.grammar fault token.span) := by
  cases phase : reading.phase with
  | start =>
      rcases start_cases token after phase with
        move | ⟨kind, frames⟩ | ⟨fault, refused⟩
      · exact Or.inr (Or.inl move)
      · exact Or.inr (Or.inr (Or.inl ⟨rfl, frames, kind⟩))
      · exact Or.inr (Or.inr (Or.inr ⟨fault, by simp [step, phase, refused]⟩))
  | print =>
      by_cases kind : token.kind = .string
      · exact Or.inr (Or.inl ⟨_, .text phase kind⟩)
      · rcases factor_cases (by rw [phase]; rfl) (by rw [phase]; rfl) with
          move | ⟨fault, refused⟩
        · exact Or.inr (Or.inl move)
        · exact Or.inr (Or.inr (Or.inr
            ⟨fault, by simp [step, phase, kind, refused]⟩))
  | name use =>
      by_cases kind : token.kind = .ident
      · exact Or.inr (Or.inl ⟨_, .name phase kind⟩)
      · exact Or.inr (Or.inr (Or.inr
          ⟨_, by simp [step, phase, require, kind]; rfl⟩))
  | named use name =>
      by_cases repeated :
          use = .label ∧ reading.labels.isDeclared name.text = true
      · obtain ⟨rfl, declared⟩ := repeated
        exact Or.inl ⟨_, .repeated phase declared⟩
      · by_cases kind : token.kind = .newline
        · exact Or.inr (Or.inl ⟨_, .finish (by rw [phase]; rfl) kind⟩)
        · refine Or.inr (Or.inr (Or.inr
            ⟨.unexpected (.kind .newline) token.kind, ?_⟩))
          cases use <;>
            simp_all [step, finishNamed, declareLabel, Labels.declare]
  | target =>
      by_cases kind : token.kind = .ident
      · exact Or.inr (Or.inl ⟨_, .target phase kind⟩)
      · exact Or.inr (Or.inr (Or.inr
          ⟨_, by simp [step, phase, require, kind]; rfl⟩))
  | equals name =>
      by_cases kind : token.kind = .eq
      · exact Or.inr (Or.inl ⟨_, .equals phase kind⟩)
      · exact Or.inr (Or.inr (Or.inr
          ⟨_, by simp [step, phase, require, kind]; rfl⟩))
  | factor goal prior =>
      rcases factor_cases (by rw [phase]; rfl) (by rw [phase]; rfl) with
        move | ⟨fault, refused⟩
      · exact Or.inr (Or.inl move)
      · exact Or.inr (Or.inr (Or.inr ⟨fault, by simp [step, phase, refused]⟩))
  | signed goal prior sign =>
      rcases operand_cases (by rw [phase]; rfl) with
        move | ⟨fault, refused⟩
      · exact Or.inr (Or.inl move)
      · exact Or.inr (Or.inr (Or.inr
          ⟨fault, by simp [step, phase, readOperand, refused]⟩))
  | operator goal sum term =>
      cases multiplies : Operator.ofKind? MulOp token.kind with
      | some op =>
          exact Or.inr (Or.inl
            ⟨_, .multiply phase (Operator.kind_of_ofKind? multiplies)⟩)
      | none =>
          cases adds : Operator.ofKind? AddOp token.kind with
          | some op =>
              exact Or.inr (Or.inl
                ⟨_, .add phase (Operator.kind_of_ofKind? adds)⟩)
          | none =>
              rcases value_cases phase with move | ⟨fault, refused⟩
              · exact Or.inr (Or.inl move)
              · exact Or.inr (Or.inr (Or.inr ⟨fault, by
                  simp [step, phase, readOperator, multiplies, adds,
                    refused]⟩))
  | opened block test =>
      by_cases kind : token.kind = .newline
      · exact Or.inr (Or.inl ⟨_, .enter phase kind⟩)
      · exact Or.inr (Or.inr (Or.inr
          ⟨_, by simp [step, phase, kind]; rfl⟩))
  | complete statement =>
      by_cases kind : token.kind = .newline
      · exact Or.inr (Or.inl ⟨_, .finish (by rw [phase]; rfl) kind⟩)
      · exact Or.inr (Or.inr (Or.inr
          ⟨_, by simp [step, phase, kind]; rfl⟩))

/-- A token other than the end of the source is read only by a move, and only
where no name is misused. -/
theorem move_of_step
    (inside : token.kind ≠ .eof)
    (done : (reading.step token after).result = .ok next) :
    Move reading token next ∧ ∀ fault, ¬ Misuse reading token fault := by
  have allowed : ∀ fault, ¬ Misuse reading token fault := by
    intro fault misuse
    rw [step_of_misuse misuse after] at done
    cases done
  rcases step_cases reading token after with
    ⟨fault, misuse⟩ | ⟨other, move⟩ | ⟨_, _, kind⟩ | ⟨fault, refused⟩
  · exact absurd misuse (allowed fault)
  · have moved := step_of_move move allowed after
    rw [done] at moved
    cases moved
    exact ⟨move, allowed⟩
  · exact absurd kind inside
  · rw [refused] at done
    cases done

end Decisions

end Reading

end TeenyTiny
