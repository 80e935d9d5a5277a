import TeenyTiny.Proofs.Reads

/-!
# What a reading still asks for

`Completes` says in terms of the grammar what may come behind a reading: the
rest of the expression and of the line, more statements, and the end of every
open block.  A move takes the first token off such a rest, so whatever is read
to the end completes the reading (`completes_of_reads`).  At the empty reading
this means that only grammatical sources are read (`writtenAs_of_reads`).

Every reading can be completed (`exists_reads`), so tokens that have been read
always start some grammatical source.
-/

namespace TeenyTiny

/-! ## Growing chains -/

/-- The tokens put more operators and operands behind a chain. -/
inductive Chain.GrowsBy {Op Arg : Type}
    (opKind : Op → Kind) (ArgSpelled : Arg → List Token → Prop) :
    Chain Op Arg → Chain Op Arg → List Token → Prop
  | refl (chain : Chain Op Arg) :
      GrowsBy opKind ArgSpelled chain chain []
  | join {chain whole : Chain Op Arg} {op : Op} {arg : Arg}
      {opToken : Token} {argTokens more : List Token}
      (kind : opToken.kind = opKind op)
      (spelled : ArgSpelled arg argTokens)
      (grows : GrowsBy opKind ArgSpelled (.join chain op arg) whole more) :
      GrowsBy opKind ArgSpelled chain whole (opToken :: (argTokens ++ more))

theorem Chain.SpelledBy.grow {Op Arg : Type}
    {opKind : Op → Kind} {ArgSpelled : Arg → List Token → Prop}
    {chain whole : Chain Op Arg} {tokens more : List Token}
    (spelled : chain.SpelledBy opKind ArgSpelled tokens)
    (grows : chain.GrowsBy opKind ArgSpelled whole more) :
    whole.SpelledBy opKind ArgSpelled (tokens ++ more) := by
  induction grows generalizing tokens with
  | refl chain =>
      simpa using spelled
  | join kind argSpelled _ inductionHypothesis =>
      have joined := inductionHypothesis (spelled.join kind argSpelled)
      simpa using joined

/-! ## To the end of the line -/

/-- What the end of a line completes. -/
inductive Ending where
  | statement (statement : Statement)
  | opening (block : Block) (test : Comparison)

namespace Ending

/-- Behind the expression, the tokens are the rest of the line. -/
def AfterValue (ending : Ending) (value : Expr) (tokens : List Token) :
    Goal → Prop
  | .print => tokens = [] ∧ ending = .statement (.printValue value)
  | .assign name => tokens = [] ∧ ending = .statement (.assign name value)
  | .test block earlier =>
      ∃ test compared divider,
        tokens = compared ++ [divider] ∧
          Chain.GrowsBy Operator.kind Expr.SpelledBy
            (Chain.extend earlier value)
            (.join test.left test.op test.right) compared ∧
          divider.kind = .keyword block.divider ∧
          ending = .opening block test

/-- Behind the term up to its last factor so far, the tokens are the rest of
the line. -/
def AfterTerm (ending : Ending) (goal : Goal)
    (sum : Chain.Open AddOp Term) (term : Term) (tokens : List Token) :
    Prop :=
  ∃ wholeTerm value factors terms after,
    tokens = factors ++ (terms ++ after) ∧
      Chain.GrowsBy Operator.kind Factor.SpelledBy term wholeTerm factors ∧
      Chain.GrowsBy Operator.kind Term.SpelledBy
        (Chain.extend sum wholeTerm) value terms ∧
      ending.AfterValue value after goal

/-- The tokens are an operand and the rest of the line. -/
def AtOperand (ending : Ending) (goal : Goal) (prior : Prior)
    (sign : Option AddOp) (tokens : List Token) : Prop :=
  ∃ operand spelling after,
    tokens = spelling ++ after ∧ Operand.SpelledBy operand spelling ∧
      ending.AfterTerm goal prior.sum
        (Chain.extend prior.product ⟨sign, operand⟩) after

/-- The tokens are a factor and the rest of the line. -/
def AtFactor (ending : Ending) (goal : Goal) (prior : Prior)
    (tokens : List Token) : Prop :=
  ∃ factor spelling after,
    tokens = spelling ++ after ∧ Factor.SpelledBy factor spelling ∧
      ending.AfterTerm goal prior.sum
        (Chain.extend prior.product factor) after

/-- From the phase on, the tokens are the rest of the line, its end apart. -/
def ReachedFrom (ending : Ending) (tokens : List Token) : Phase → Prop
  | .start => False
  | .print =>
      (∃ text, tokens = [text] ∧ text.kind = .string ∧
        ending = .statement (.printText text.text)) ∨
        ending.AtFactor .print .none tokens
  | .name use =>
      ∃ name, tokens = [name] ∧ name.kind = .ident ∧
        ending = .statement (use.statement name.text)
  | .named use name =>
      tokens = [] ∧ ending = .statement (use.statement name.text)
  | .target =>
      ∃ name equals after, tokens = name :: equals :: after ∧
        name.kind = .ident ∧ equals.kind = .eq ∧
        ending.AtFactor (.assign name.text) .none after
  | .equals name =>
      ∃ equals after, tokens = equals :: after ∧ equals.kind = .eq ∧
        ending.AtFactor (.assign name) .none after
  | .factor goal prior => ending.AtFactor goal prior tokens
  | .signed goal prior sign => ending.AtOperand goal prior (some sign) tokens
  | .operator goal sum term => ending.AfterTerm goal sum term tokens
  | .opened block test => tokens = [] ∧ ending = .opening block test
  | .complete whole => tokens = [] ∧ ending = .statement whole

variable {ending : Ending} {phase : Phase} {goal : Goal} {prior : Prior}
  {tokens : List Token}

theorem AtOperand.atFactor
    (reached : ending.AtOperand goal prior none tokens) :
    ending.AtFactor goal prior tokens := by
  obtain ⟨operand, spelling, after, rfl, spelled, others⟩ := reached
  exact ⟨⟨none, operand⟩, spelling, after, rfl, .plain spelled, others⟩

/-- At the start of a term, that whole term comes first. -/
theorem AtFactor.exists_term {sum : Chain.Open AddOp Term}
    (reached : ending.AtFactor goal ⟨sum, none⟩ tokens) :
    ∃ term spelling value terms after,
      tokens = spelling ++ (terms ++ after) ∧
        Term.SpelledBy term spelling ∧
        Chain.GrowsBy Operator.kind Term.SpelledBy
          (Chain.extend sum term) value terms ∧
        ending.AfterValue value after goal := by
  obtain ⟨factor, spelling, _, rfl, spelled, term, value, factors, terms,
    after, rfl, grows, others⟩ := reached
  have termSpelled := (Chain.SpelledBy.first spelled).grow grows
  exact ⟨term, spelling ++ factors, value, terms, after, by simp,
    termSpelled, others⟩

/-- At the start of an expression, that whole expression comes first. -/
theorem AtFactor.exists_value
    (reached : ending.AtFactor goal .none tokens) :
    ∃ value spelling after,
      tokens = spelling ++ after ∧ Expr.SpelledBy value spelling ∧
        ending.AfterValue value after goal := by
  obtain ⟨term, spelling, value, terms, after, rfl, spelled, grows,
    others⟩ := reached.exists_term
  have valueSpelled := (Chain.SpelledBy.first spelled).grow grows
  exact ⟨value, spelling ++ terms, after, by simp, valueSpelled, others⟩

theorem reachedFrom_factorPlace
    (placed : phase.factorPlace = some (goal, prior))
    (reached : ending.AtFactor goal prior tokens) :
    ending.ReachedFrom tokens phase := by
  cases phase <;> cases placed
  · exact Or.inr reached
  · exact reached

theorem reachedFrom_operandPlace {sign : Option AddOp}
    (placed : phase.operandPlace = some (goal, prior, sign))
    (reached : ending.AtOperand goal prior sign tokens) :
    ending.ReachedFrom tokens phase := by
  cases phase <;> cases placed
  · exact Or.inr reached.atFactor
  · exact reached.atFactor
  · exact reached

theorem reachedFrom_atLineEnd {statement : Statement}
    (ends : phase.atLineEnd = some statement) :
    (Ending.statement statement).ReachedFrom [] phase := by
  cases phase with
  | named use name =>
      cases ends
      exact ⟨rfl, rfl⟩
  | complete whole =>
      cases ends
      exact ⟨rfl, rfl⟩
  | operator goal sum term =>
      cases goal <;> cases ends <;>
        exact ⟨term, _, [], [], [], rfl, .refl _, .refl _, rfl, rfl⟩
  | _ =>
      cases ends

/-- Inside a line, a move takes the first token off the rest of the line. -/
theorem ReachedFrom.of_move {reading next : Reading} {token : Token}
    (inside : reading.phase ≠ .start)
    (move : reading.Move token next)
    (reached : ending.ReachedFrom tokens next.phase) :
    ending.ReachedFrom (token :: tokens) reading.phase := by
  cases move with
  | blank phase _ =>
      exact absurd phase inside
  | word phase _ _ =>
      exact absurd phase inside
  | close phase _ _ =>
      exact absurd phase inside
  | text phase kind =>
      obtain ⟨rfl, rfl⟩ := reached
      rw [phase]
      exact Or.inl ⟨token, rfl, kind, rfl⟩
  | name phase kind =>
      obtain ⟨rfl, rfl⟩ := reached
      rw [phase]
      exact ⟨token, rfl, kind, rfl⟩
  | target phase kind =>
      obtain ⟨equals, after, rfl, equalsKind, others⟩ := reached
      rw [phase]
      exact ⟨token, equals, after, rfl, kind, equalsKind, others⟩
  | equals phase kind =>
      rw [phase]
      exact ⟨token, tokens, rfl, kind, reached⟩
  | sign placed kind =>
      obtain ⟨operand, spelling, after, rfl, spelled, others⟩ := reached
      exact reachedFrom_factorPlace placed
        ⟨_, token :: spelling, after, rfl, .signed kind spelled, others⟩
  | operand placed spelled =>
      exact reachedFrom_operandPlace placed
        ⟨_, [token], tokens, rfl, spelled, reached⟩
  | multiply phase kind =>
      obtain ⟨factor, spelling, _, rfl, spelled, term, value, factors, terms,
        after, rfl, grows, others⟩ := reached
      rw [phase]
      exact ⟨term, value, token :: (spelling ++ factors), terms, after,
        by simp, .join kind spelled grows, others⟩
  | add phase kind =>
      obtain ⟨term, spelling, value, terms, after, rfl, spelled, grows,
        others⟩ := AtFactor.exists_term reached
      rw [phase]
      exact ⟨_, value, [], token :: (spelling ++ terms), after, by simp,
        .refl _, .join kind spelled grows, others⟩
  | compare phase kind =>
      obtain ⟨value, spelling, _, rfl, spelled, test, compared, divider, rfl,
        grows, others⟩ := AtFactor.exists_value reached
      rw [phase]
      exact ⟨_, _, [], [], token :: (spelling ++ compared) ++ [divider],
        by simp, .refl _, .refl _, test, _, divider, rfl,
        .join kind spelled grows, others⟩
  | divide phase kind =>
      obtain ⟨rfl, rfl⟩ := reached
      rw [phase]
      exact ⟨_, _, [], [], [token], rfl, .refl _, .refl _, _, [], token, rfl,
        .refl _, kind, rfl⟩
  | enter _ _ =>
      cases reached
  | finish _ _ =>
      cases reached

end Ending

namespace Reading

/-! ## To the end of the source -/

/-- The tokens from the end of the innermost open block on. -/
def Closes :
    List Frame → List Statement → List Token → Program → Prop
  | [], statements, rest, program =>
      ∃ last, rest = [last] ∧ last.kind = .eof ∧ program = statements.reverse
  | frame :: outer, statements, rest, program =>
      ∃ closer lineEnd blank body bodyTokens after,
        rest = closer :: lineEnd :: (blank ++ (bodyTokens ++ after)) ∧
          closer.kind = .keyword frame.block.closer ∧
          lineEnd.kind = .newline ∧ Blank blank ∧
          Program.SpelledBy body bodyTokens ∧
          Closes outer
            (body.reverse ++
              .block frame.block frame.test statements.reverse ::
                frame.before)
            after program

/-- The tokens from the start of a statement on. -/
def Resumes (frames : List Frame) (statements : List Statement)
    (rest : List Token) (program : Program) : Prop :=
  ∃ blank body bodyTokens after,
    rest = blank ++ (bodyTokens ++ after) ∧ Blank blank ∧
      Program.SpelledBy body bodyTokens ∧
      Closes frames (body.reverse ++ statements) after program

/-- The tokens behind the end of a line. -/
def ResumesAfter (ending : Ending) (frames : List Frame)
    (statements : List Statement) (rest : List Token) (program : Program) :
    Prop :=
  match ending with
  | .statement statement =>
      Resumes frames (statement :: statements) rest program
  | .opening block test =>
      Resumes (⟨block, test, statements⟩ :: frames) [] rest program

/-- The tokens behind a reading. -/
def Completes (reading : Reading) (rest : List Token) (program : Program) :
    Prop :=
  (reading.phase = .start ∧
      Resumes reading.frames reading.statements rest program) ∨
    ∃ ending tokens lineEnd after,
      rest = tokens ++ lineEnd :: after ∧
        Ending.ReachedFrom ending tokens reading.phase ∧
        lineEnd.kind = .newline ∧
        ResumesAfter ending reading.frames reading.statements after program

section Resuming

variable {frames : List Frame} {statements : List Statement}
  {rest tokens : List Token} {program : Program} {token : Token}
  {ending : Ending}

theorem Closes.resumes
    (closes : Closes frames statements rest program) :
    Resumes frames statements rest program :=
  ⟨[], [], [], rest, rfl, by simp [Blank], .nil, closes⟩

theorem Resumes.blank
    (newline : token.kind = .newline)
    (resumes : Resumes frames statements rest program) :
    Resumes frames statements (token :: rest) program := by
  obtain ⟨blank, body, bodyTokens, after, rfl, isBlank, others⟩ := resumes
  exact ⟨token :: blank, body, bodyTokens, after, rfl,
    isBlank.cons newline, others⟩

theorem Resumes.statement {statement : Statement}
    (spelled : statement.SpelledBy tokens)
    (newline : token.kind = .newline)
    (resumes : Resumes frames (statement :: statements) rest program) :
    Resumes frames statements (tokens ++ token :: rest) program := by
  obtain ⟨blank, body, bodyTokens, after, rfl, isBlank, bodySpelled,
    closes⟩ := resumes
  refine ⟨[], statement :: body, tokens ++ ((token :: blank) ++ bodyTokens),
    after, by simp, by simp [Blank], ?_, ?_⟩
  · exact .simple spelled (.cons newline isBlank) bodySpelled
  · simpa using closes

theorem Resumes.close {frame : Frame} {closer : Token}
    (closerKind : closer.kind = .keyword frame.block.closer)
    (newline : token.kind = .newline)
    (resumes :
      Resumes frames
        (.block frame.block frame.test statements.reverse :: frame.before)
        rest program) :
    Resumes (frame :: frames) statements (closer :: token :: rest)
      program := by
  obtain ⟨blank, body, bodyTokens, after, rfl, others⟩ := resumes
  have closes :
      Closes (frame :: frames) statements
        (closer :: token :: (blank ++ (bodyTokens ++ after))) program :=
    ⟨closer, token, blank, body, bodyTokens, after, rfl, closerKind,
      newline, others⟩
  exact closes.resumes

theorem Resumes.opening {kind : Block} {test : Comparison}
    {opener divider : Token}
    (openerKind : opener.kind = .keyword kind.opener)
    (spelled : test.SpelledBy tokens)
    (dividerKind : divider.kind = .keyword kind.divider)
    (newline : token.kind = .newline)
    (resumes : Resumes (⟨kind, test, statements⟩ :: frames) [] rest program) :
    Resumes frames statements
      (opener :: (tokens ++ divider :: token :: rest)) program := by
  obtain ⟨blank, body, bodyTokens, _, rfl, isBlank, bodySpelled,
    closer, lineEnd, more, others, otherTokens, after, rfl, closerKind,
    lineEndKind, moreBlank, othersSpelled, closes⟩ := resumes
  refine ⟨[], .block kind test body :: others, _, after, ?_,
    by simp [Blank],
    .block openerKind spelled dividerKind (.cons newline isBlank)
      bodySpelled closerKind (.cons lineEndKind moreBlank) othersSpelled,
    ?_⟩
  · simp
  · simpa using closes

theorem resumes_of_test (block : Block) {word : Token}
    (wordKind : word.kind = .keyword block.opener)
    (newline : token.kind = .newline)
    (reached : ending.AtFactor (.test block none) .none tokens)
    (resumes : ResumesAfter ending frames statements rest program) :
    Resumes frames statements (word :: (tokens ++ token :: rest))
      program := by
  obtain ⟨value, spelling, _, rfl, spelled, test, compared, divider, rfl,
    grows, dividerKind, rfl⟩ := reached.exists_value
  have testSpelled := (Chain.SpelledBy.first spelled).grow grows
  have opened :=
    Resumes.opening wordKind testSpelled dividerKind newline resumes
  simpa using opened

/-- A whole line, from the keyword that starts it to its end. -/
theorem resumes_of_line {keyword : Keyword} {rule : Rule} {phase : Phase}
    {word : Token}
    (wordKind : word.kind = .keyword keyword)
    (starts : statementAt keyword = some (rule, phase))
    (newline : token.kind = .newline)
    (reached : ending.ReachedFrom tokens phase)
    (resumes : ResumesAfter ending frames statements rest program) :
    Resumes frames statements (word :: (tokens ++ token :: rest))
      program := by
  cases keyword <;> cases starts
  case labelKw =>
    obtain ⟨name, rfl, nameKind, rfl⟩ := reached
    exact .statement (.label wordKind nameKind) newline resumes
  case gotoKw =>
    obtain ⟨name, rfl, nameKind, rfl⟩ := reached
    exact .statement (.jump wordKind nameKind) newline resumes
  case printKw =>
    rcases reached with ⟨text, rfl, textKind, rfl⟩ | reached
    · exact .statement (.printText wordKind textKind) newline resumes
    · obtain ⟨value, spelling, _, rfl, spelled, rfl, rfl⟩ :=
        reached.exists_value
      rw [List.append_nil]
      exact .statement (.printValue wordKind spelled) newline resumes
  case inputKw =>
    obtain ⟨name, rfl, nameKind, rfl⟩ := reached
    exact .statement (.input wordKind nameKind) newline resumes
  case letKw =>
    obtain ⟨name, equals, _, rfl, nameKind, equalsKind, reached⟩ := reached
    obtain ⟨value, spelling, _, rfl, spelled, rfl, rfl⟩ :=
      reached.exists_value
    rw [List.append_nil]
    exact .statement (.assign wordKind nameKind equalsKind spelled) newline
      resumes
  case ifKw =>
    exact resumes_of_test .branch wordKind newline reached resumes
  case whileKw =>
    exact resumes_of_test .loop wordKind newline reached resumes

end Resuming

/-! ## Moves and what is asked for -/

section Completing

variable {reading next : Reading} {token : Token}
  {rest : List Token} {program : Program}

@[simp]
theorem settle_frames (reading : Reading) :
    reading.settle.frames = reading.frames := by
  unfold settle
  split <;> rfl

@[simp]
theorem settle_statements (reading : Reading) :
    reading.settle.statements = reading.statements := by
  unfold settle
  split <;> rfl

/-- Inside a line, a move changes the phase only, or the line ends. -/
theorem Move.inside_cases
    (move : Move reading token next)
    (inside : reading.phase ≠ .start) :
    (∃ phase, phase ≠ .start ∧ next = reading.goTo phase) ∨
      (∃ block test, reading.phase = .opened block test ∧
        token.kind = .newline ∧ next = reading.openBlock block test) ∨
      ∃ statement, reading.phase.atLineEnd = some statement ∧
        token.kind = .newline ∧ next = reading.settle.push statement := by
  cases move with
  | blank phase _ =>
      exact absurd phase inside
  | word phase _ _ =>
      exact absurd phase inside
  | close phase _ _ =>
      exact absurd phase inside
  | enter phase kind =>
      exact Or.inr (Or.inl ⟨_, _, phase, kind, rfl⟩)
  | finish ends kind =>
      exact Or.inr (Or.inr ⟨_, ends, kind, rfl⟩)
  | _ =>
      exact Or.inl ⟨_, by simp, rfl⟩

theorem completes_of_move_start
    (phase : reading.phase = .start)
    (move : Move reading token next)
    (completes : Completes next rest program) :
    Resumes reading.frames reading.statements (token :: rest) program := by
  cases move with
  | blank _ kind =>
      rcases completes with ⟨_, resumes⟩ | ⟨_, _, _, _, _, reached, _⟩
      · exact resumes.blank kind
      · rw [phase] at reached
        cases reached
  | @word word _ _ _ kind starts =>
      rcases completes with
        ⟨atStart, _⟩ | ⟨_, _, _, _, rfl, reached, newline, resumes⟩
      · cases word <;> cases starts <;> cases atStart
      · exact resumes_of_line kind starts newline reached resumes
  | close _ frames kind =>
      rcases completes with
        ⟨atStart, _⟩ | ⟨_, _, _, _, rfl, ⟨rfl, rfl⟩, newline, resumes⟩
      · cases atStart
      · rw [frames]
        exact .close kind newline resumes
  | _ =>
      simp_all [Phase.factorPlace, Phase.operandPlace, Phase.atLineEnd]

/-- A move takes the first token off what a reading asks for. -/
theorem Completes.of_move
    (move : Move reading token next)
    (completes : Completes next rest program) :
    Completes reading (token :: rest) program := by
  by_cases phase : reading.phase = .start
  · exact Or.inl ⟨phase, completes_of_move_start phase move completes⟩
  · refine Or.inr ?_
    rcases move.inside_cases phase with
      ⟨other, inside, rfl⟩ | ⟨block, test, opened, kind, rfl⟩ |
        ⟨statement, ends, kind, rfl⟩
    · rcases completes with
        ⟨atStart, _⟩ | ⟨ending, tokens, lineEnd, after, rfl, reached, others⟩
      · exact absurd atStart inside
      · exact ⟨ending, token :: tokens, lineEnd, after, rfl,
          .of_move phase move reached, others⟩
    · rcases completes with ⟨_, resumes⟩ | ⟨_, _, _, _, _, reached, _⟩
      · refine ⟨.opening block test, [], token, rest, rfl, ?_, kind, resumes⟩
        rw [opened]
        exact ⟨rfl, rfl⟩
      · cases reached
    · rcases completes with ⟨_, resumes⟩ | ⟨_, _, _, _, _, reached, _⟩
      · refine ⟨.statement statement, [], token, rest, rfl,
          Ending.reachedFrom_atLineEnd ends, kind, ?_⟩
        simpa [ResumesAfter, push] using resumes
      · cases reached

/-- Whatever is read to the end completes the reading. -/
theorem completes_of_reads
    (reads : Reads reading rest program) :
    Completes reading rest program := by
  induction reads with
  | @finish reading token phase frames kind =>
      refine Or.inl ⟨phase, ?_⟩
      rw [frames]
      exact Closes.resumes ⟨token, rfl, kind, rfl⟩
  | move move _ inductionHypothesis =>
      exact inductionHypothesis.of_move move

/-- The tokens that are read to a program are what it is written as. -/
theorem writtenAs_of_reads {tokens : List Token}
    (reads : Reads .empty tokens program) :
    program.WrittenAs tokens := by
  rcases completes_of_reads reads with
    ⟨_, blank, body, bodyTokens, _, rfl, isBlank, spelled, last, rfl, kind,
      rfl⟩ | ⟨_, _, _, _, _, reached, _⟩
  · refine ⟨blank, bodyTokens, last, rfl, isBlank, ?_, kind⟩
    simpa [empty] using spelled
  · cases reached

end Completing

/-! ## Every reading can be completed -/

section Existence

variable {reading next : Reading}

/-- Some token of the given kind. -/
def sample (kind : Kind) : Token :=
  ⟨kind, "", ⟨0, 0⟩⟩

theorem exists_reads_of_move (token : Token)
    (move : Move reading token next)
    (reads : ∃ rest program, Reads next rest program) :
    ∃ rest program, Reads reading rest program := by
  obtain ⟨rest, program, reads⟩ := reads
  exact ⟨token :: rest, program, .move move reads⟩

theorem exists_reads_start
    (phase : reading.phase = .start) :
    ∃ rest program, Reads reading rest program := by
  obtain ⟨_, statements, frames, bound, labels⟩ := reading
  cases phase
  induction frames generalizing statements with
  | nil =>
      exact ⟨[sample .eof], _, .finish rfl rfl rfl⟩
  | cons frame outer inductionHypothesis =>
      apply exists_reads_of_move (sample (.keyword frame.block.closer))
        (.close rfl rfl rfl)
      apply exists_reads_of_move (sample .newline) (.finish rfl rfl)
      exact inductionHypothesis _

theorem exists_reads_lineEnd {statement : Statement}
    (ends : reading.phase.atLineEnd = some statement) :
    ∃ rest program, Reads reading rest program :=
  exists_reads_of_move (sample .newline) (.finish ends rfl)
    (exists_reads_start rfl)

theorem exists_reads_divider {block : Block}
    {left : Chain CompareOp Expr × CompareOp}
    {sum : Chain.Open AddOp Term} {term : Term}
    (phase : reading.phase = .operator (.test block (some left)) sum term) :
    ∃ rest program, Reads reading rest program := by
  apply exists_reads_of_move (sample (.keyword block.divider))
    (.divide phase rfl)
  apply exists_reads_of_move (sample .newline) (.enter rfl rfl)
  exact exists_reads_start rfl

theorem exists_reads_operator {goal : Goal}
    {sum : Chain.Open AddOp Term} {term : Term}
    (phase : reading.phase = .operator goal sum term) :
    ∃ rest program, Reads reading rest program := by
  cases goal with
  | print =>
      exact exists_reads_lineEnd (by rw [phase]; rfl)
  | assign name =>
      exact exists_reads_lineEnd (by rw [phase]; rfl)
  | test block earlier =>
      cases earlier with
      | some left =>
          exact exists_reads_divider phase
      | none =>
          have kind : (sample .eqEq).kind = Operator.kind CompareOp.equal := rfl
          apply exists_reads_of_move (sample .eqEq) (.compare phase kind)
          apply exists_reads_of_move (sample .number)
            (.operand rfl (.number rfl))
          exact exists_reads_divider rfl

theorem exists_reads_operand {place : Goal × Prior × Option AddOp}
    (placed : reading.phase.operandPlace = some place) :
    ∃ rest program, Reads reading rest program :=
  exists_reads_of_move (sample .number) (.operand placed (.number rfl))
    (exists_reads_operator rfl)

theorem exists_reads_equals {name : String}
    (phase : reading.phase = .equals name) :
    ∃ rest program, Reads reading rest program :=
  exists_reads_of_move (sample .eq) (.equals phase rfl)
    (exists_reads_operand rfl)

/-- Every reading can be read to the end of some source. -/
theorem exists_reads (reading : Reading) :
    ∃ rest program, Reads reading rest program := by
  cases phase : reading.phase with
  | start =>
      exact exists_reads_start phase
  | print =>
      exact exists_reads_operand (by rw [phase]; rfl)
  | name use =>
      apply exists_reads_of_move (sample .ident) (.name phase rfl)
      exact exists_reads_lineEnd rfl
  | named use name =>
      exact exists_reads_lineEnd (by rw [phase]; rfl)
  | target =>
      apply exists_reads_of_move (sample .ident) (.target phase rfl)
      exact exists_reads_equals rfl
  | equals name =>
      exact exists_reads_equals phase
  | factor goal prior =>
      exact exists_reads_operand (by rw [phase]; rfl)
  | signed goal prior sign =>
      exact exists_reads_operand (by rw [phase]; rfl)
  | operator goal sum term =>
      exact exists_reads_operator phase
  | opened block test =>
      apply exists_reads_of_move (sample .newline) (.enter phase rfl)
      exact exists_reads_start rfl
  | complete statement =>
      exact exists_reads_lineEnd (by rw [phase]; rfl)

end Existence

end Reading

end TeenyTiny
