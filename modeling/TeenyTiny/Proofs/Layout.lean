import Mathlib.Data.List.Basic
import TeenyTiny.Diagnostic
import TeenyTiny.Proofs.TokenList

/-!
# Layout does not matter

Where a token stands in the source is told in the span of a fault and nowhere
else, and an empty line is skipped wherever it may stand.  So two sources whose
tokens differ in their places and in empty lines only are compiled to the same
text, or refused with the same message (`compile_eq_of_layout`).

Both halves are shown on the way from one token to the next.  Forgetting places
before a step or behind it comes to the same (`Reading.step_unplaced`), and a
reading that stands at the start of a line is not changed by an empty one
(`Reading.readAll_withoutEmptyLines`).
-/

namespace TeenyTiny

/-! ## Forgetting places -/

/-- The token without its place in the source. -/
def Token.unplaced (token : Token) : Token :=
  { token with span := ⟨0, 0⟩ }

/-- The fault without its place.  A malformed lexeme keeps its own, which its
message quotes. -/
def Fault.unplaced : Fault → Fault
  | .lexical error => .lexical error
  | .grammar fault _ => .grammar fault ⟨0, 0⟩
  | .name fault _ => .name fault ⟨0, 0⟩

def Labels.unplaced (labels : Labels) : Labels :=
  { labels with
    targets := labels.targets.map fun target => (target.1, ⟨0, 0⟩) }

def Phase.unplaced : Phase → Phase
  | .named use token => .named use token.unplaced
  | phase => phase

def Reading.unplaced (reading : Reading) : Reading :=
  { reading with
    phase := reading.phase.unplaced
    labels := reading.labels.unplaced }

/-- A result without places, or the fault without its place. -/
def unplace {Result : Type} (forget : Result → Result) :
    Except Fault Result → Except Fault Result
  | .ok result => .ok (forget result)
  | .error fault => .error fault.unplaced

@[simp]
theorem unplace_ok {Result : Type} (forget : Result → Result)
    (result : Result) :
    unplace forget (.ok result) = .ok (forget result) :=
  rfl

@[simp]
theorem unplace_error {Result : Type} (forget : Result → Result)
    (fault : Fault) :
    unplace forget (.error fault) = .error fault.unplaced :=
  rfl

/-- The stage and the message of a fault do not depend on its place. -/
theorem Fault.stage_message_of_unplaced {fault other : Fault}
    (same : fault.unplaced = other.unplaced) :
    fault.stage = other.stage ∧ fault.message = other.message := by
  cases fault <;> cases other <;> cases same <;> exact ⟨rfl, rfl⟩

/-! ## Names without places -/

namespace Labels

theorem insertTarget_unplaced
    (name : String) (span : Span) (targets : List (String × Span)) :
    (insertTarget name span targets).map (fun target => (target.1, ⟨0, 0⟩)) =
      insertTarget name ⟨0, 0⟩
        (targets.map fun target => (target.1, ⟨0, 0⟩)) := by
  induction targets with
  | nil =>
      rfl
  | cons target rest inductionHypothesis =>
      simp only [insertTarget, List.map_cons]
      split
      · rfl
      · split
        · rfl
        · rw [List.map_cons, inductionHypothesis]

theorem jump_unplaced (labels : Labels) (name : String) (span : Span) :
    (labels.jump name span).unplaced =
      labels.unplaced.jump name ⟨0, 0⟩ := by
  simp only [jump, unplaced, insertTarget_unplaced]

theorem check_unplaced (labels : Labels) :
    labels.unplaced.check = unplace id labels.check := by
  have unresolved : labels.unplaced.unresolved =
      labels.unresolved.map fun target => (target.1, ⟨0, 0⟩) := by
    simp only [Labels.unresolved, unplaced, List.filter_map]
    rfl
  unfold check
  rw [unresolved]
  cases labels.unresolved with
  | nil =>
      rfl
  | cons target rest =>
      simp [unplace, Fault.unplaced]

end Labels

/-! ## One step without places -/

namespace Reading

variable (reading : Reading) (token after : Token)

theorem result_endLine_unplaced :
    (reading.unplaced.endLine token.unplaced).result =
      unplace unplaced (reading.endLine token).result := by
  simp only [result_endLine, Token.unplaced]
  split <;> rfl

theorem result_operandOf_unplaced :
    (reading.unplaced.operandOf token.unplaced).result =
      unplace id (reading.operandOf token).result := by
  simp only [operandOf, Token.unplaced, unplaced]
  split
  · rfl
  · by_cases bound : reading.bound.contains token.text = true <;>
      simp [bound, Fault.unplaced]
  · rfl

theorem goTo_unplaced (phase : Phase) :
    (reading.goTo phase).unplaced = reading.unplaced.goTo phase.unplaced :=
  rfl

theorem push_unplaced (statement : Statement) :
    (reading.push statement).unplaced = reading.unplaced.push statement :=
  rfl

theorem result_readOperand_unplaced
    (goal : Goal) (prior : Prior) (sign : Option AddOp) :
    (reading.unplaced.readOperand goal prior sign token.unplaced).result =
      unplace unplaced (reading.readOperand goal prior sign token).result := by
  simp only [readOperand, Traced.result_bind, Traced.result_enter,
    Traced.result_pure, result_operandOf_unplaced]
  cases (reading.operandOf token).result with
  | error fault =>
      rfl
  | ok operand =>
      simp [goTo_unplaced, Phase.unplaced]

theorem result_readFactor_unplaced (goal : Goal) (prior : Prior) :
    (reading.unplaced.readFactor goal prior token.unplaced).result =
      unplace unplaced (reading.readFactor goal prior token).result := by
  simp only [readFactor, Traced.result_bind, Traced.result_enterAll]
  cases sign : Operator.ofKind? AddOp token.kind with
  | some op =>
      simp [Token.unplaced, sign, goTo_unplaced, Phase.unplaced]
  | none =>
      have unsigned : Operator.ofKind? AddOp token.unplaced.kind = none := sign
      simp only [unsigned, result_readOperand_unplaced]

theorem result_require_unplaced (kind : Kind) :
    (require kind token.unplaced).result =
      unplace id (require kind token).result := by
  simp only [require, Token.unplaced]
  by_cases found : token.kind = kind
  · simp [found]
  · simp only [found]
    rfl

theorem result_declareLabel_unplaced (name : Token) :
    (reading.unplaced.declareLabel name.unplaced).result =
      unplace unplaced (reading.declareLabel name).result := by
  have declared : reading.unplaced.labels.isDeclared name.unplaced.text =
      reading.labels.isDeclared name.text :=
    rfl
  simp only [declareLabel, Labels.declare, declared, Traced.result_bind,
    Traced.result_ofExcept]
  by_cases known : reading.labels.isDeclared name.text = true
  · simp [known, Fault.unplaced, Token.unplaced]
  · simp only [known]
    rfl

/-- What a name does, it does wherever it stands. -/
theorem result_finishNamed_unplaced (use : NameUse) (name : Token) :
    (reading.unplaced.finishNamed use name.unplaced token.unplaced).result =
      unplace unplaced (reading.finishNamed use name token).result := by
  cases use with
  | label =>
      simp only [finishNamed, Traced.result_bind,
        result_declareLabel_unplaced]
      cases (reading.declareLabel name).result with
      | error fault =>
          rfl
      | ok declared =>
          exact result_endLine_unplaced (declared.push (.label name.text)) token
  | jump =>
      have jumped :
          { reading.unplaced with
            labels := reading.unplaced.labels.jump name.text ⟨0, 0⟩ } =
          unplaced { reading with
            labels := reading.labels.jump name.text name.span } := by
        simp only [unplaced, Labels.jump_unplaced]
      have ended := result_endLine_unplaced
        (push { reading with
          labels := reading.labels.jump name.text name.span }
          (.jump name.text)) token
      rw [push_unplaced, ← jumped] at ended
      exact ended
  | input =>
      simp only [finishNamed, Traced.result_bind, result_bindVariable]
      exact result_endLine_unplaced
        (push { reading with bound := reading.bound.bind name.text }
          (.input name.text)) token

theorem result_finishExpr_unplaced (goal : Goal) (value : Expr) :
    (reading.unplaced.finishExpr goal value token.unplaced).result =
      unplace unplaced (reading.finishExpr goal value token).result := by
  cases goal with
  | print =>
      exact result_endLine_unplaced (reading.push (.printValue value)) token
  | assign name =>
      simp only [finishExpr, Traced.result_bind, result_bindVariable]
      exact result_endLine_unplaced
        (push { reading with bound := reading.bound.bind name }
          (.assign name value)) token
  | test block earlier =>
      cases compare : Operator.ofKind? CompareOp token.kind with
      | some op =>
          have compared :
              Operator.ofKind? CompareOp token.unplaced.kind = some op :=
            compare
          simp [finishExpr, compare, compared, goTo_unplaced, Phase.unplaced]
      | none =>
          have noOperator :
              Operator.ofKind? CompareOp token.unplaced.kind = none :=
            compare
          cases earlier with
          | none =>
              simp only [finishExpr, compare, noOperator]
              rfl
          | some left =>
              simp only [finishExpr, compare, noOperator, Traced.result_bind,
                result_require_unplaced]
              cases (require (.keyword block.divider) token).result <;> rfl

theorem result_refuseStatement_unplaced :
    (refuseStatement token.unplaced after.unplaced).result =
      unplace unplaced (refuseStatement token after).result := by
  simp only [refuseStatement, Token.unplaced]
  rfl

theorem statementAt_unplaced {word : Keyword} {rule : Rule} {phase : Phase}
    (starts : statementAt word = some (rule, phase)) :
    phase.unplaced = phase := by
  cases word <;> cases starts <;> rfl

theorem result_readKeyword_unplaced (word : Keyword) :
    (reading.unplaced.readKeyword word token.unplaced after.unplaced).result =
      unplace unplaced (reading.readKeyword word token after).result := by
  unfold readKeyword
  cases starts : statementAt word with
  | none =>
      exact result_refuseStatement_unplaced token after
  | some start =>
      obtain ⟨rule, phase⟩ := start
      simp [goTo_unplaced, statementAt_unplaced starts]

theorem result_readStart_unplaced :
    (reading.unplaced.readStart token.unplaced after.unplaced).result =
      unplace unplaced (reading.readStart token after).result := by
  have kind : token.unplaced.kind = token.kind := rfl
  have frames : reading.unplaced.frames = reading.frames := rfl
  unfold readStart
  rw [kind, frames]
  split
  · rfl
  · rfl
  · rfl
  · exact result_readKeyword_unplaced reading token after _
  · split
    · rfl
    · exact result_readKeyword_unplaced reading token after _
  · exact result_refuseStatement_unplaced token after

/-- Forgetting places before a step or behind it comes to the same. -/
theorem step_unplaced :
    (reading.unplaced.step token.unplaced after.unplaced).result =
      unplace unplaced (reading.step token after).result := by
  obtain ⟨phase, statements, frames, bound, labels⟩ := reading
  cases phase with
  | start =>
      exact result_readStart_unplaced _ token after
  | print =>
      by_cases text : token.kind = .string
      · have unplacedText : token.unplaced.kind = .string := text
        simp only [step, text, if_true, unplaced, Phase.unplaced, unplacedText]
        rfl
      · have noText : token.unplaced.kind ≠ .string := text
        simp only [step, text, noText, if_false, unplaced, Phase.unplaced]
        exact result_readFactor_unplaced
          ⟨.print, statements, frames, bound, labels⟩ token .print .none
  | name use =>
      simp only [step, unplaced, Phase.unplaced, Traced.result_bind,
        result_require_unplaced]
      cases (require .ident token).result <;> rfl
  | named use name =>
      exact result_finishNamed_unplaced _ token use name
  | target =>
      simp only [step, unplaced, Phase.unplaced, Traced.result_bind,
        result_require_unplaced]
      cases (require .ident token).result <;> rfl
  | equals name =>
      simp only [step, unplaced, Phase.unplaced, Traced.result_bind,
        result_require_unplaced]
      cases (require .eq token).result <;> rfl
  | factor goal prior =>
      exact result_readFactor_unplaced _ token goal prior
  | signed goal prior sign =>
      exact result_readOperand_unplaced _ token goal prior (some sign)
  | operator goal sum term =>
      have kind : token.unplaced.kind = token.kind := rfl
      simp only [step, readOperator, unplaced, Phase.unplaced, kind]
      cases Operator.ofKind? MulOp token.kind with
      | some op =>
          rfl
      | none =>
          cases Operator.ofKind? AddOp token.kind with
          | some op =>
              rfl
          | none =>
              exact result_finishExpr_unplaced
                ⟨.operator goal sum term, statements, frames, bound, labels⟩
                token goal (Chain.extend sum term)
  | opened block test =>
      exact result_endLine_unplaced
        (openBlock ⟨_, statements, frames, bound, labels⟩ block test) token
  | complete statement =>
      exact result_endLine_unplaced
        (push ⟨_, statements, frames, bound, labels⟩ statement) token

/-! ## Whole lists of tokens -/

theorem readAll_cons (rest : List Token) :
    reading.readAll (token :: rest) =
      (reading.step token (rest.headD token)).andThen (·.readAll rest) := by
  cases rest with
  | nil =>
      exact (Traced.andThen_done _).symm
  | cons next rest =>
      rfl

theorem readAll_unplaced (tokens : List Token) :
    (reading.unplaced.readAll (tokens.map Token.unplaced)).result =
      unplace unplaced (reading.readAll tokens).result := by
  induction tokens generalizing reading with
  | nil =>
      rfl
  | cons token rest inductionHypothesis =>
      have next : (rest.map Token.unplaced).headD token.unplaced =
          (rest.headD token).unplaced := by
        cases rest <;> rfl
      rw [List.map_cons, readAll_cons, readAll_cons, Traced.result_andThen,
        Traced.result_andThen, next, step_unplaced]
      cases (reading.step token (rest.headD token)).result with
      | error fault =>
          rfl
      | ok moved =>
          exact inductionHypothesis moved

/-! ## Empty lines -/

variable {reading token}

/-- The end of a line is read without a look at the next token. -/
theorem step_newline
    (kind : token.kind = .newline) (other : Token) :
    reading.step token after = reading.step token other := by
  obtain ⟨phase, statements, frames, bound, labels⟩ := reading
  cases phase with
  | start =>
      simp only [step, readStart, kind]
  | _ =>
      rfl

/-- Behind the end of a line a new one starts. -/
theorem Move.phase_of_newline {next : Reading}
    (move : Move reading token next)
    (kind : token.kind = .newline) :
    next.phase = .start := by
  cases move with
  | blank phase _ =>
      exact phase
  | enter _ _ =>
      rfl
  | finish _ _ =>
      rfl
  | @sign _ _ op _ other =>
      exact absurd (other.symm.trans kind) (Operator.kind_ne op (by decide))
  | operand _ spelled =>
      cases spelled <;> simp_all
  | @multiply _ _ _ op _ other =>
      exact absurd (other.symm.trans kind) (Operator.kind_ne op (by decide))
  | @add _ _ _ op _ other =>
      exact absurd (other.symm.trans kind) (Operator.kind_ne op (by decide))
  | @compare _ _ _ _ op _ other =>
      exact absurd (other.symm.trans kind) (Operator.kind_ne op (by decide))
  | _ =>
      simp_all

theorem phase_of_step_newline {next : Reading}
    (kind : token.kind = .newline)
    (done : (reading.step token after).result = .ok next) :
    next.phase = .start := by
  have inside : token.kind ≠ .eof := by
    rw [kind]
    decide
  obtain ⟨move, _⟩ := move_of_step inside done
  exact move.phase_of_newline kind

end Reading

/-- The tokens without the ends of empty lines.  A line is empty if nothing
stands before its end, so the ends of lines at the front are left out, and so
are all but the first of several in a row.  The flag tells whether a line starts
at the first token. -/
def withoutEmptyLines : Bool → List Token → List Token
  | _, [] => []
  | atLineStart, token :: rest =>
      if token.kind = .newline then
        if atLineStart then withoutEmptyLines true rest
        else token :: withoutEmptyLines true rest
      else token :: withoutEmptyLines false rest

theorem headD_withoutEmptyLines (tokens : List Token) (token : Token) :
    (withoutEmptyLines false tokens).headD token = tokens.headD token := by
  cases tokens with
  | nil =>
      rfl
  | cons first rest =>
      unfold withoutEmptyLines
      split <;> rfl

/-- Empty lines change nothing, not even the place of a fault. -/
theorem Reading.readAll_withoutEmptyLines
    (reading : Reading) (tokens : List Token) (atLineStart : Bool)
    (starts : atLineStart = true → reading.phase = .start) :
    (reading.readAll (withoutEmptyLines atLineStart tokens)).result =
      (reading.readAll tokens).result := by
  induction tokens generalizing reading atLineStart with
  | nil =>
      rfl
  | cons token rest inductionHypothesis =>
      rw [readAll_cons, Traced.result_andThen]
      unfold withoutEmptyLines
      by_cases kind : token.kind = .newline
      · rw [if_pos kind]
        cases atLineStart with
        | true =>
            have skipped :
                (reading.step token (rest.headD token)).result =
                  .ok reading := by
              simp [step, starts rfl, readStart, kind]
            rw [skipped]
            exact inductionHypothesis reading true starts
        | false =>
            rw [if_neg (by decide), readAll_cons, Traced.result_andThen,
              step_newline _ kind (rest.headD token)]
            cases done : (reading.step token (rest.headD token)).result with
            | error fault =>
                rfl
            | ok next =>
                have started := phase_of_step_newline _ kind done
                exact inductionHypothesis next true fun _ => started
      · rw [if_neg kind, readAll_cons, Traced.result_andThen,
          headD_withoutEmptyLines]
        cases (reading.step token (rest.headD token)).result with
        | error fault =>
            rfl
        | ok next =>
            exact inductionHypothesis next false (by simp)

/-! ## Sources -/

/-- The kinds and the texts of the tokens, without empty lines: what is left of
a source without its layout. -/
def contents (tokens : List Token) : List (Kind × String) :=
  (withoutEmptyLines true tokens).map fun token => (token.kind, token.text)

theorem map_unplaced_of_contents {tokens others : List Token}
    (same : tokens.map (fun token => (token.kind, token.text)) =
      others.map fun token => (token.kind, token.text)) :
    tokens.map Token.unplaced = others.map Token.unplaced := by
  have composed : Token.unplaced =
      (fun content : Kind × String => ⟨content.1, content.2, ⟨0, 0⟩⟩) ∘
        fun token : Token => (token.kind, token.text) :=
    rfl
  rw [composed, ← List.map_map, ← List.map_map, same]

/-- Without its place, the outcome of a reading depends on the contents of the
tokens alone. -/
theorem unplace_readAll_of_contents {tokens others : List Token}
    (same : contents tokens = contents others) :
    unplace Reading.unplaced (Reading.empty.readAll tokens).result =
      unplace Reading.unplaced (Reading.empty.readAll others).result := by
  have bare := map_unplaced_of_contents same
  rw [← Reading.readAll_withoutEmptyLines .empty tokens true fun _ => rfl,
    ← Reading.readAll_withoutEmptyLines .empty others true fun _ => rfl,
    ← Reading.readAll_unplaced, ← Reading.readAll_unplaced, bare]

/-- The text that is written does not depend on places. -/
theorem unplace_compileTokens (tokens : List Token) (width : Nat) :
    unplace id (compileTokens tokens width).result = (do
      let reading ←
        unplace Reading.unplaced (Reading.empty.readAll tokens).result
      reading.labels.check
      return (reading.write (.empty width)).text) := by
  rw [result_compileTokens]
  cases (Reading.empty.readAll tokens).result with
  | error fault =>
      rfl
  | ok reading =>
      have sameLabels : reading.unplaced.labels.check =
          unplace id reading.labels.check :=
        reading.labels.check_unplaced
      simp only [unplace_ok, bind, Except.bind, sameLabels]
      cases reading.labels.check <;> rfl

/-- If the tokens of two sources have the same contents, the sources are
compiled to the same text, or both are refused at the same stage with the same
message. -/
theorem compile_eq_of_layout
    {source other : List Char} {tokens otherTokens : List Token}
    (tokenized : tokenize source = .ok tokens)
    (otherTokenized : tokenize other = .ok otherTokens)
    (same : contents tokens = contents otherTokens)
    (width : Nat) :
    (∃ text, (compile source width).result = .ok text ∧
        (compile other width).result = .ok text) ∨
      ∃ fault otherFault,
        (compile source width).result = .error fault ∧
          (compile other width).result = .error otherFault ∧
          fault.stage = otherFault.stage ∧
          fault.message = otherFault.message := by
  have outcome : unplace id (compileTokens tokens width).result =
      unplace id (compileTokens otherTokens width).result := by
    rw [unplace_compileTokens, unplace_compileTokens,
      unplace_readAll_of_contents same]
  rw [compile_of_yields (yields_of_tokenize tokenized),
    compile_of_yields (yields_of_tokenize otherTokenized)]
  cases done : (compileTokens tokens width).result with
  | ok text =>
      cases otherDone : (compileTokens otherTokens width).result with
      | ok otherText =>
          rw [done, otherDone] at outcome
          cases outcome
          exact Or.inl ⟨text, rfl, rfl⟩
      | error fault =>
          rw [done, otherDone] at outcome
          cases outcome
  | error fault =>
      cases otherDone : (compileTokens otherTokens width).result with
      | ok otherText =>
          rw [done, otherDone] at outcome
          cases outcome
      | error otherFault =>
          rw [done, otherDone] at outcome
          injection outcome with bare
          exact Or.inr ⟨fault, otherFault, rfl, rfl,
            Fault.stage_message_of_unplaced bare⟩

/-- A source in which an assignment lacks its keyword. -/
def tightAssignment : List Char :=
  "LABEL a\nx=1\n".toList

/-- The same with blanks, comments, empty lines and carriage returns. -/
def looseAssignment : List Char :=
  "\r\n# one\nLABEL\ta # two\r\n\n x = 1\r\n".toList

theorem compile_eq_of_layout_assignment :
    ∃ tokens otherTokens,
      tokenize tightAssignment = .ok tokens ∧
        tokenize looseAssignment = .ok otherTokens ∧
        contents tokens = contents otherTokens ∧
        ∃ fault otherFault,
          (compile tightAssignment 4).result = .error fault ∧
            (compile looseAssignment 4).result = .error otherFault ∧
            fault.stage = otherFault.stage ∧
            fault.message = otherFault.message := by
  have tokenized : tokenize tightAssignment =
      .ok [⟨.keyword .labelKw, "LABEL", ⟨0, 5⟩⟩, ⟨.ident, "a", ⟨6, 7⟩⟩,
        ⟨.newline, "\n", ⟨7, 8⟩⟩, ⟨.ident, "x", ⟨8, 9⟩⟩, ⟨.eq, "=", ⟨9, 10⟩⟩,
        ⟨.number, "1", ⟨10, 11⟩⟩, ⟨.newline, "\n", ⟨11, 12⟩⟩,
        ⟨.eof, "", ⟨12, 12⟩⟩] := by
    decide +kernel
  have otherTokenized : tokenize looseAssignment =
      .ok [⟨.newline, "\n", ⟨1, 2⟩⟩, ⟨.newline, "\n", ⟨7, 8⟩⟩,
        ⟨.keyword .labelKw, "LABEL", ⟨8, 13⟩⟩, ⟨.ident, "a", ⟨14, 15⟩⟩,
        ⟨.newline, "\n", ⟨22, 23⟩⟩, ⟨.newline, "\n", ⟨23, 24⟩⟩,
        ⟨.ident, "x", ⟨25, 26⟩⟩, ⟨.eq, "=", ⟨27, 28⟩⟩,
        ⟨.number, "1", ⟨29, 30⟩⟩, ⟨.newline, "\n", ⟨31, 32⟩⟩,
        ⟨.eof, "", ⟨32, 32⟩⟩] := by
    decide +kernel
  have failed : (compile tightAssignment 4).result =
      .error (.grammar (.bareAssignment "x") ⟨8, 9⟩) := by
    decide +kernel
  refine ⟨_, _, tokenized, otherTokenized, by decide, ?_⟩
  rcases compile_eq_of_layout tokenized otherTokenized (by decide) 4 with
    ⟨_, done, _⟩ | found
  · rw [failed] at done
    cases done
  · exact found

end TeenyTiny
