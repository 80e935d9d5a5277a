import TeenyTiny.Proofs.Move

/-!
# Reading what the grammar spells

`Reads` runs a reading over tokens as far as the grammar alone goes.  What a
program is written as can be read, and reading it gives that program back.

Every lemma here puts the tokens of one rule of the grammar in front of tokens
that are read already.  The names that a reading knows change on the way, so
the statements ask for all of them at once.
-/

namespace TeenyTiny

namespace Reading

/-- From the reading on, the grammar lets the tokens be read up to the end of
the source, and the program is then complete. -/
inductive Reads : Reading → List Token → Program → Prop
  | finish {reading : Reading} {token : Token}
      (phase : reading.phase = .start)
      (frames : reading.frames = [])
      (kind : token.kind = .eof) :
      Reads reading [token] reading.program
  | move {reading next : Reading} {token : Token} {rest : List Token}
      {program : Program}
      (move : Move reading token next)
      (reads : Reads next rest program) :
      Reads reading (token :: rest) program

variable {reading : Reading} {goal : Goal} {rest : List Token}
  {program : Program}

/-! ## Expressions -/

theorem reads_operand {prior : Prior} {sign : Option AddOp} {phase : Phase}
    {operand : Operand} {tokens : List Token}
    (placed : phase.operandPlace = some (goal, prior, sign))
    (spelled : operand.SpelledBy tokens)
    (reads :
      Reads
        (reading.goTo (.operator goal prior.sum
          (Chain.extend prior.product ⟨sign, operand⟩)))
        rest program) :
    Reads (reading.goTo phase) (tokens ++ rest) program := by
  cases spelled with
  | number kind =>
      exact .move (.operand placed (.number kind)) reads
  | name kind =>
      exact .move (.operand placed (.name kind)) reads

theorem reads_factor {prior : Prior} {phase : Phase}
    {factor : Factor} {tokens : List Token}
    (starts : phase.factorPlace = some (goal, prior))
    (placed : phase.operandPlace = some (goal, prior, none))
    (spelled : factor.SpelledBy tokens)
    (reads :
      Reads
        (reading.goTo (.operator goal prior.sum
          (Chain.extend prior.product factor)))
        rest program) :
    Reads (reading.goTo phase) (tokens ++ rest) program := by
  cases spelled with
  | plain spelled =>
      exact reads_operand placed spelled reads
  | signed kind spelled =>
      exact .move (.sign starts kind) (reads_operand rfl spelled reads)

theorem reads_term {sum : Chain.Open AddOp Term} {phase : Phase}
    {term : Term} {tokens : List Token}
    (starts : phase.factorPlace = some (goal, ⟨sum, none⟩))
    (placed : phase.operandPlace = some (goal, ⟨sum, none⟩, none))
    (spelled : term.SpelledBy tokens)
    (reads : Reads (reading.goTo (.operator goal sum term)) rest program) :
    Reads (reading.goTo phase) (tokens ++ rest) program := by
  induction spelled generalizing rest with
  | first spelled =>
      exact reads_factor starts placed spelled reads
  | join leftSpelled kind rightSpelled inductionHypothesis =>
      rw [List.append_assoc]
      apply inductionHypothesis
      exact .move (.multiply rfl kind)
        (reads_factor rfl rfl rightSpelled reads)

/-- Behind an expression, the reading holds it as a term and the sum before
that, in whichever way the two make up the expression. -/
theorem reads_expr {phase : Phase}
    {value : Expr} {tokens : List Token}
    (starts : phase.factorPlace = some (goal, .none))
    (placed : phase.operandPlace = some (goal, .none, none))
    (spelled : value.SpelledBy tokens)
    (reads : ∀ sum term, Chain.extend sum term = value →
      Reads (reading.goTo (.operator goal sum term)) rest program) :
    Reads (reading.goTo phase) (tokens ++ rest) program := by
  induction spelled generalizing rest with
  | first spelled =>
      exact reads_term starts placed spelled (reads none _ rfl)
  | join leftSpelled kind rightSpelled inductionHypothesis =>
      rw [List.append_assoc]
      apply inductionHypothesis
      rintro sum term rfl
      exact .move (.add rfl kind)
        (reads_term rfl rfl rightSpelled (reads _ _ rfl))

theorem reads_test {block : Block}
    {chain : Chain CompareOp Expr} {tokens : List Token}
    (spelled : chain.SpelledBy Operator.kind Expr.SpelledBy tokens)
    (reads : ∀ earlier sum term,
      Chain.extend earlier (Chain.extend sum term) = chain →
        Reads (reading.goTo (.operator (.test block earlier) sum term))
          rest program) :
    Reads (reading.goTo (.factor (.test block none) .none))
      (tokens ++ rest) program := by
  induction spelled generalizing rest with
  | first spelled =>
      apply reads_expr rfl rfl spelled
      rintro sum term rfl
      exact reads none sum term rfl
  | join leftSpelled kind rightSpelled inductionHypothesis =>
      rw [List.append_assoc]
      apply inductionHypothesis
      rintro earlier sum term rfl
      refine .move (.compare rfl kind) (reads_expr rfl rfl rightSpelled ?_)
      rintro sum term rfl
      exact reads _ sum term rfl

/-! ## Ends of lines -/

theorem reads_blank {blank : List Token}
    (phase : reading.phase = .start)
    (isBlank : Blank blank)
    (reads : Reads reading rest program) :
    Reads reading (blank ++ rest) program := by
  induction blank with
  | nil =>
      exact reads
  | cons token more inductionHypothesis =>
      refine .move (.blank phase (isBlank token (by simp))) ?_
      exact inductionHypothesis fun other member =>
        isBlank other (List.mem_cons_of_mem token member)

theorem reads_lineEnd {statement : Statement} {lineEnd : List Token}
    (ends : reading.phase.atLineEnd = some statement)
    (isEnd : LineEnd lineEnd)
    (reads : Reads (reading.settle.push statement) rest program) :
    Reads reading (lineEnd ++ rest) program := by
  obtain ⟨token, blank, rfl, kind, isBlank⟩ := isEnd.exists_cons
  exact .move (.finish ends kind) (reads_blank rfl isBlank reads)

/-! ## Statements -/

variable {statements : List Statement} {frames : List Frame}

theorem reads_named {word : Keyword} {rule : Rule} {use : NameUse}
    {wordToken name : Token} {lineEnd : List Token}
    (wordKind : wordToken.kind = .keyword word)
    (starts : statementAt word = some (rule, .name use))
    (nameKind : name.kind = .ident)
    (isEnd : LineEnd lineEnd)
    (reads : ∀ bound labels,
      Reads
        ⟨.start, use.statement name.text :: statements, frames, bound,
          labels⟩
        rest program)
    (bound : Variables) (labels : Labels) :
    Reads ⟨.start, statements, frames, bound, labels⟩
      (wordToken :: name :: (lineEnd ++ rest)) program := by
  refine .move (.word rfl wordKind starts) (.move (.name rfl nameKind) ?_)
  cases use <;> exact reads_lineEnd rfl isEnd (reads _ _)

theorem reads_statement {statement : Statement}
    {tokens lineEnd : List Token}
    (spelled : statement.SpelledBy tokens)
    (isEnd : LineEnd lineEnd)
    (reads : ∀ bound labels,
      Reads ⟨.start, statement :: statements, frames, bound, labels⟩
        rest program)
    (bound : Variables) (labels : Labels) :
    Reads ⟨.start, statements, frames, bound, labels⟩
      (tokens ++ (lineEnd ++ rest)) program := by
  cases spelled with
  | printText wordKind textKind =>
      refine .move (.word rfl wordKind rfl) (.move (.text rfl textKind) ?_)
      change Reads _ (lineEnd ++ rest) program
      exact reads_lineEnd rfl isEnd (reads _ _)
  | printValue wordKind spelled =>
      refine .move (.word rfl wordKind rfl)
        (reads_expr rfl rfl spelled ?_)
      rintro sum term rfl
      exact reads_lineEnd rfl isEnd (reads _ _)
  | label wordKind nameKind =>
      exact reads_named wordKind rfl nameKind isEnd reads bound labels
  | jump wordKind nameKind =>
      exact reads_named wordKind rfl nameKind isEnd reads bound labels
  | assign wordKind nameKind equalsKind spelled =>
      refine .move (.word rfl wordKind rfl)
        (.move (.target rfl nameKind) ?_)
      refine .move (.equals rfl equalsKind)
        (reads_expr rfl rfl spelled ?_)
      rintro sum term rfl
      exact reads_lineEnd rfl isEnd (reads _ _)
  | input wordKind nameKind =>
      exact reads_named wordKind rfl nameKind isEnd reads bound labels

theorem statementAt_opener (block : Block) :
    ∃ rule,
      statementAt block.opener =
        some (rule, .factor (.test block none) .none) := by
  cases block <;> exact ⟨_, rfl⟩

theorem reads_opening {kind : Block} {test : Comparison}
    {opener divider : Token} {testTokens lineEnd : List Token}
    (openerKind : opener.kind = .keyword kind.opener)
    (testSpelled : test.SpelledBy testTokens)
    (dividerKind : divider.kind = .keyword kind.divider)
    (isEnd : LineEnd lineEnd)
    (reads : ∀ bound labels,
      Reads
        ⟨.start, [], ⟨kind, test, statements⟩ :: frames, bound, labels⟩
        rest program)
    (bound : Variables) (labels : Labels) :
    Reads ⟨.start, statements, frames, bound, labels⟩
      (opener :: (testTokens ++ divider :: (lineEnd ++ rest)))
      program := by
  obtain ⟨rule, starts⟩ := statementAt_opener kind
  obtain ⟨token, blank, rfl, newline, isBlank⟩ := isEnd.exists_cons
  obtain ⟨left, op, right⟩ := test
  refine .move (.word rfl openerKind starts) (reads_test testSpelled ?_)
  intro earlier sum term whole
  cases earlier with
  | none =>
      cases whole
  | some before =>
      cases whole
      refine .move (.divide rfl dividerKind) (.move (.enter rfl newline) ?_)
      exact reads_blank rfl isBlank (reads _ _)

theorem reads_program {body : Program} {tokens : List Token}
    (spelled : body.SpelledBy tokens)
    (reads : ∀ bound labels,
      Reads ⟨.start, body.reverse ++ statements, frames, bound, labels⟩
        rest program)
    (bound : Variables) (labels : Labels) :
    Reads ⟨.start, statements, frames, bound, labels⟩
      (tokens ++ rest) program := by
  induction spelled generalizing statements frames rest bound labels with
  | nil =>
      exact reads bound labels
  | simple spelled ends _ inductionHypothesis =>
      rw [List.append_assoc, List.append_assoc]
      apply reads_statement spelled ends
      apply inductionHypothesis
      simpa using reads
  | block openerKind testSpelled dividerKind ends _ closerKind closes _
      bodyHypothesis restHypothesis =>
      simp only [List.cons_append, List.append_assoc]
      apply reads_opening openerKind testSpelled dividerKind ends
      apply bodyHypothesis
      intro bound labels
      refine .move (.close rfl rfl closerKind)
        (reads_lineEnd rfl closes ?_)
      apply restHypothesis
      simpa [closeBlock, settle] using reads

/-- Whatever a program is written as can be read, and gives that program. -/
theorem reads_of_writtenAs {tokens : List Token}
    (written : program.WrittenAs tokens) :
    Reads .empty tokens program := by
  obtain ⟨blank, body, last, rfl, isBlank, spelled, kind⟩ := written
  apply reads_blank rfl isBlank
  apply reads_program spelled
  intro bound labels
  have finish :
      Reads ⟨.start, program.reverse ++ [], [], bound, labels⟩ [last] _ :=
    .finish rfl rfl kind
  simpa [Reading.program] using finish

end Reading

end TeenyTiny
