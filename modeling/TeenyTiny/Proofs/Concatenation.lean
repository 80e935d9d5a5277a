import TeenyTiny.Proofs.Acceptance
import TeenyTiny.Proofs.Regions
import TeenyTiny.Proofs.Seam

/-!
# One source behind another

Two accepted sources without a common label make an accepted source if a line
break stands between them.  The second adds its own variables and statements to
those of the first (`compile_append_newline`).
-/

namespace TeenyTiny

/-! ## Shifted tokens -/

section Shift

variable {tokens : List Token}

theorem Operand.SpelledBy.shift {operand : Operand}
    (spelled : operand.SpelledBy tokens) (offset : Nat) :
    operand.SpelledBy (tokens.map (·.shift offset)) := by
  cases spelled with
  | @number token kind =>
      exact @number (token.shift offset) kind
  | @name token kind =>
      exact @name (token.shift offset) kind

theorem Factor.SpelledBy.shift {factor : Factor}
    (spelled : factor.SpelledBy tokens) (offset : Nat) :
    factor.SpelledBy (tokens.map (·.shift offset)) := by
  cases spelled with
  | plain spelled =>
      exact plain (spelled.shift offset)
  | signed kind spelled =>
      exact signed kind (spelled.shift offset)

theorem Chain.SpelledBy.shift {Op Arg : Type} {opKind : Op → Kind}
    {ArgSpelled : Arg → List Token → Prop} {chain : Chain Op Arg}
    (spelled : chain.SpelledBy opKind ArgSpelled tokens) (offset : Nat)
    (argShift : ∀ arg argTokens, ArgSpelled arg argTokens →
      ArgSpelled arg (argTokens.map (·.shift offset))) :
    chain.SpelledBy opKind ArgSpelled (tokens.map (·.shift offset)) := by
  induction spelled with
  | first spelled =>
      exact first (argShift _ _ spelled)
  | join _ kind spelled inductionHypothesis =>
      rw [List.map_append]
      exact join inductionHypothesis kind (argShift _ _ spelled)

theorem Expr.SpelledBy.shift {expr : Expr}
    (spelled : expr.SpelledBy tokens) (offset : Nat) :
    expr.SpelledBy (tokens.map (·.shift offset)) :=
  Chain.SpelledBy.shift spelled offset fun _ _ term =>
    Chain.SpelledBy.shift term offset fun _ _ factor => factor.shift offset

theorem Comparison.SpelledBy.shift {comparison : Comparison}
    (spelled : comparison.SpelledBy tokens) (offset : Nat) :
    comparison.SpelledBy (tokens.map (·.shift offset)) :=
  Chain.SpelledBy.shift spelled offset fun _ _ expr => expr.shift offset

theorem Blank.shift
    (blank : Blank tokens) (offset : Nat) :
    Blank (tokens.map (·.shift offset)) := by
  intro token member
  obtain ⟨original, originalMember, rfl⟩ := List.mem_map.mp member
  exact blank original originalMember

theorem LineEnd.shift
    (ends : LineEnd tokens) (offset : Nat) :
    LineEnd (tokens.map (·.shift offset)) :=
  ⟨by simpa using ends.1, ends.2.shift offset⟩

theorem Statement.SpelledBy.shift {statement : Statement}
    (spelled : statement.SpelledBy tokens) (offset : Nat) :
    statement.SpelledBy (tokens.map (·.shift offset)) := by
  cases spelled with
  | @printText word text wordKind textKind =>
      exact @printText (word.shift offset) (text.shift offset) wordKind
        textKind
  | printValue wordKind spelled =>
      exact printValue wordKind (spelled.shift offset)
  | @label word name wordKind nameKind =>
      exact @label (word.shift offset) (name.shift offset) wordKind nameKind
  | @jump word name wordKind nameKind =>
      exact @jump (word.shift offset) (name.shift offset) wordKind nameKind
  | @assign word name equals _ _ wordKind nameKind equalsKind spelled =>
      exact @assign (word.shift offset) (name.shift offset)
        (equals.shift offset) _ _ wordKind nameKind equalsKind
        (spelled.shift offset)
  | @input word name wordKind nameKind =>
      exact @input (word.shift offset) (name.shift offset) wordKind nameKind

theorem Program.SpelledBy.shift {program : Program}
    (spelled : program.SpelledBy tokens) (offset : Nat) :
    program.SpelledBy (tokens.map (·.shift offset)) := by
  induction spelled with
  | nil =>
      exact nil
  | simple spelled ends _ inductionHypothesis =>
      rw [List.map_append, List.map_append]
      exact simple (spelled.shift offset) (ends.shift offset)
        inductionHypothesis
  | block openerKind testSpelled dividerKind ends _ closerKind closes _
      bodyHypothesis restHypothesis =>
      simp only [List.map_append, List.map_cons]
      exact block openerKind (testSpelled.shift offset) dividerKind
        (ends.shift offset) bodyHypothesis closerKind (closes.shift offset)
        restHypothesis

theorem Program.WrittenAs.shift {program : Program}
    (written : program.WrittenAs tokens) (offset : Nat) :
    program.WrittenAs (tokens.map (·.shift offset)) := by
  obtain ⟨blank, body, last, rfl, isBlank, spelled, kind⟩ := written
  refine ⟨blank.map (·.shift offset), body.map (·.shift offset),
    last.shift offset, ?_, isBlank.shift offset, spelled.shift offset, kind⟩
  simp

theorem namesAfter_shift
    (word : Keyword) (tokens : List Token) (offset : Nat) :
    namesAfter word (tokens.map (·.shift offset)) = namesAfter word tokens := by
  fun_induction namesAfter word tokens with
  | case1 first second rest named inductionHypothesis =>
      have same : (first.shift offset).kind = .keyword word ∧
          (second.shift offset).kind = .ident := named
      rw [List.map_cons, List.map_cons, namesAfter, if_pos same]
      exact congrArg _ inductionHypothesis
  | case2 first second rest other inductionHypothesis =>
      have same : ¬ ((first.shift offset).kind = .keyword word ∧
          (second.shift offset).kind = .ident) := other
      rw [List.map_cons, List.map_cons, namesAfter, if_neg same]
      exact inductionHypothesis
  | case3 tokens short =>
      rcases eq_nil_or_singleton short with rfl | ⟨token, rfl⟩
      · rfl
      · rfl

theorem Assigned.shift {name : String}
    (assigned : Assigned tokens name) (offset : Nat) :
    Assigned (tokens.map (·.shift offset)) name := by
  obtain ⟨lines, lineEnd, rest, rfl, kind, member⟩ := assigned
  refine ⟨lines.map (·.shift offset), lineEnd.shift offset,
    rest.map (·.shift offset), by simp, kind, ?_⟩
  rwa [namesAfter_shift]

theorem endsIn_shift
    (word : Keyword) (tokens : List Token) (offset : Nat) :
    EndsIn word (tokens.map (·.shift offset)) ↔ EndsIn word tokens := by
  rw [EndsIn, List.getLast?_map, Option.map_map]
  rfl

theorem OperandsBound.shift
    (bound : OperandsBound tokens) (offset : Nat) :
    OperandsBound (tokens.map (·.shift offset)) := by
  intro before token after whole operand
  obtain ⟨front, others, rfl, rfl, split⟩ := List.map_eq_append_iff.mp whole
  obtain ⟨original, back, rfl, rfl, rfl⟩ := List.map_eq_cons_iff.mp split
  have read : IsOperandName front original := by
    refine ⟨operand.1, fun word takes ends => ?_⟩
    exact operand.2 word takes ((endsIn_shift word front offset).mpr ends)
  rcases bound front original back rfl read with member | assigned
  · refine Or.inl ?_
    rwa [namesAfter_shift]
  · exact Or.inr (assigned.shift offset)

theorem JumpsResolved.shift
    (resolved : JumpsResolved tokens) (offset : Nat) :
    JumpsResolved (tokens.map (·.shift offset)) := by
  intro name jumped
  rw [namesAfter_shift] at jumped ⊢
  exact resolved name jumped

end Shift

/-! ## Tokens behind the end of a line -/

section Behind

variable {front back : List Token} {lineEnd : Token}

/-- What is bound stays bound behind other lines. -/
theorem Bound.append_lineEnd {name : String}
    (bound : Bound back name)
    (kind : lineEnd.kind = .newline)
    (front : List Token) :
    Bound (front ++ lineEnd :: back) name := by
  rcases bound with read | ⟨lines, otherEnd, rest, rfl, otherKind, assigned⟩
  · refine Or.inl ?_
    rw [namesAfter_append_lineEnd kind]
    exact List.mem_append_right _ read
  · refine Or.inr
      ⟨front ++ lineEnd :: lines, otherEnd, rest, by simp, otherKind, ?_⟩
    rw [namesAfter_append_lineEnd kind]
    exact List.mem_append_right _ assigned

theorem OperandsBound.append_lineEnd {last : Token}
    (frontBound : OperandsBound (front ++ [last]))
    (kind : lineEnd.kind = .newline)
    (backBound : OperandsBound back) :
    OperandsBound (front ++ lineEnd :: back) := by
  intro before token after whole operand
  rcases List.append_eq_append_iff.mp whole with
    ⟨between, rfl, split⟩ | ⟨between, rfl, split⟩
  · -- The operand is the end of the line or stands behind it.
    cases between with
    | nil =>
        cases split
        exact absurd (kind.symm.trans operand.1) (by decide)
    | cons first between =>
        cases split
        have behind : IsOperandName between token := by
          refine ⟨operand.1, fun word takes ends => ?_⟩
          exact operand.2 word takes ((endsIn_append_lineEnd kind ..).mpr ends)
        exact (backBound between token after rfl behind).append_lineEnd kind _
  · cases between with
    | nil =>
        cases split
        exact absurd (kind.symm.trans operand.1) (by decide)
    | cons first between =>
        cases split
        exact frontBound before token (between ++ [last]) (by simp) operand

theorem JumpsResolved.append_lineEnd {last : Token}
    (frontResolved : JumpsResolved (front ++ [last]))
    (lastKind : last.kind ≠ .ident)
    (kind : lineEnd.kind = .newline)
    (backResolved : JumpsResolved back) :
    JumpsResolved (front ++ lineEnd :: back) := by
  intro name jumped
  have resolved := frontResolved name
  rw [namesAfter_concat_of_ne lastKind, namesAfter_concat_of_ne lastKind]
    at resolved
  rw [namesAfter_append_lineEnd kind, List.mem_append] at jumped ⊢
  exact jumped.imp resolved (backResolved name)

/-- Empty lines between two programs belong to the first, or else stand before
the second. -/
theorem Program.SpelledBy.append
    {program more : Program} {blank : List Token}
    (spelled : program.SpelledBy front)
    (isBlank : Blank blank)
    (written : more.WrittenAs back) :
    Program.WrittenAs (program ++ more) (front ++ (blank ++ back)) := by
  induction spelled with
  | nil =>
      obtain ⟨moreBlank, body, last, rfl, moreIsBlank, spelled, kind⟩ := written
      refine ⟨blank ++ moreBlank, body, last, by simp, ?_, spelled, kind⟩
      exact List.forall_mem_append.mpr ⟨isBlank, moreIsBlank⟩
  | @simple _ _ tokens lineEnd _ spelled ends _ inductionHypothesis =>
      obtain ⟨between, body, last, whole, isBlank, rest, kind⟩ :=
        inductionHypothesis
      have longer : LineEnd (lineEnd ++ between) :=
        ⟨by simp [ends.1], List.forall_mem_append.mpr ⟨ends.2, isBlank⟩⟩
      refine ⟨[], tokens ++ ((lineEnd ++ between) ++ body), last, ?_,
        by simp [Blank], .simple spelled longer rest, kind⟩
      simp [whole]
  | @block _ _ _ _ opener divider closer test lineEnd bodyTokens closeEnd _
      openerKind testSpelled dividerKind ends bodySpelled closerKind closes _ _
      inductionHypothesis =>
      obtain ⟨between, body, last, whole, isBlank, rest, kind⟩ :=
        inductionHypothesis
      have longer : LineEnd (closeEnd ++ between) :=
        ⟨by simp [closes.1], List.forall_mem_append.mpr ⟨closes.2, isBlank⟩⟩
      refine ⟨[], opener :: (test ++ divider :: (lineEnd ++ (bodyTokens ++
        closer :: ((closeEnd ++ between) ++ body)))), last, ?_,
        by simp [Blank], .block openerKind testSpelled dividerKind ends
          bodySpelled closerKind longer rest, kind⟩
      simp [whole]

theorem Program.WrittenAs.append_lineEnd
    {program more : Program} {last : Token}
    (written : program.WrittenAs (front ++ [last]))
    (kind : lineEnd.kind = .newline)
    (moreWritten : more.WrittenAs back) :
    Program.WrittenAs (program ++ more) (front ++ lineEnd :: back) := by
  obtain ⟨blank, body, other, whole, isBlank, spelled, _⟩ := written
  rw [← List.append_assoc] at whole
  obtain ⟨rfl, _⟩ := List.append_inj' whole rfl
  have single : Blank [lineEnd] := by
    simp [Blank, kind]
  obtain ⟨between, tokens, last, joined, betweenBlank, joinedSpelled,
    lastKind⟩ := spelled.append single moreWritten
  refine ⟨blank ++ between, tokens, last, ?_,
    List.forall_mem_append.mpr ⟨isBlank, betweenBlank⟩, joinedSpelled,
    lastKind⟩
  rw [List.append_assoc, List.append_assoc, ← joined]
  rfl

end Behind

/-! ## Sources -/

section Join

variable {front back : List Token} {last backLast : Token}

theorem append_newline_concat (offset shiftedBy : Nat) :
    front ++ .newline offset :: (back ++ [last]).map (·.shift shiftedBy) =
      (front ++ .newline offset :: back.map (·.shift shiftedBy)) ++
        [last.shift shiftedBy] := by
  simp

theorem Correct.append_newline
    (inside : ∀ token ∈ front, token.kind ≠ .eof)
    (kind : last.kind = .eof)
    (correct : Correct (front ++ [last]))
    (backInside : ∀ token ∈ back, token.kind ≠ .eof)
    (backKind : backLast.kind = .eof)
    (backCorrect : Correct (back ++ [backLast]))
    (apart : ∀ name ∈ namesAfter .labelKw (front ++ [last]),
      name ∉ namesAfter .labelKw (back ++ [backLast]))
    (offset shiftedBy : Nat) :
    Correct (front ++ .newline offset ::
      (back ++ [backLast]).map (·.shift shiftedBy)) := by
  obtain ⟨⟨program, written⟩, bound, nodup⟩ :=
    (correct_concat_iff inside kind).mp correct
  obtain ⟨⟨more, moreWritten⟩, backBound, backNodup⟩ :=
    (correct_concat_iff backInside backKind).mp backCorrect
  have noName : last.kind ≠ .ident := by
    simp [kind]
  rw [namesAfter_concat_of_ne noName] at nodup apart
  have joined : ∀ token ∈
      front ++ .newline offset :: back.map (·.shift shiftedBy),
        token.kind ≠ .eof := by
    intro token member
    rw [List.mem_append, List.mem_cons, List.mem_map] at member
    rcases member with member | rfl | ⟨original, member, rfl⟩
    · exact inside token member
    · simp [Token.newline]
    · exact backInside original member
  have shiftedKind : (backLast.shift shiftedBy).kind = .eof := backKind
  rw [append_newline_concat, correct_concat_iff joined shiftedKind,
    ← append_newline_concat]
  refine ⟨⟨program ++ more, ?_⟩, ?_, ?_⟩
  · exact written.append_lineEnd rfl (moreWritten.shift shiftedBy)
  · exact bound.append_lineEnd rfl (backBound.shift shiftedBy)
  · rw [namesAfter_append_lineEnd rfl, namesAfter_shift]
    refine List.nodup_append.mpr ⟨nodup, backNodup, ?_⟩
    rintro name member _ otherMember rfl
    exact apart name member otherMember

end Join

/-- If two sources are accepted and no label is declared in both, they are
accepted with a line break between them.  The header declares the variables of
the first and then those that the second adds, and the body has the statements
of the first and then those of the second. -/
theorem compile_append_newline
    {front back : List Char} {frontTokens backTokens : List Token}
    {width : Nat} {frontText backText : String}
    (accepted : (compile front width).result = .ok frontText)
    (backAccepted : (compile back width).result = .ok backText)
    (tokenized : tokenize front = .ok frontTokens)
    (backTokenized : tokenize back = .ok backTokens)
    (apart : ∀ name ∈ namesAfter .labelKw frontTokens,
      name ∉ namesAfter .labelKw backTokens) :
    ∃ program more : Program,
      program.WrittenAs frontTokens ∧ more.WrittenAs backTokens ∧
        Fills front width program.variables program.statementLines ∧
        Fills back width more.variables more.statementLines ∧
        Fills (front ++ '\n' :: back) width
          (program.variables ++
            more.variables.filter fun name => name ∉ program.variables)
          (program.statementLines ++ more.statementLines) := by
  obtain ⟨body, last, final, read, finished, resolved, fills⟩ :=
    exists_fills_of_compile accepted
  obtain ⟨backBody, backLast, backFinal, backRead, backFinished, backResolved,
    backFills⟩ := exists_fills_of_compile backAccepted
  rw [tokenized] at read
  rw [backTokenized] at backRead
  cases read
  cases backRead
  have joined := tokenize_append_newline tokenized backTokenized
  have correct := finished.correct.append_newline
    (inside_of_tokenize tokenized) finished.kind
    (inside_of_tokenize backTokenized) backFinished.kind backFinished.correct
    apart last.span.start (last.span.start + 1)
  have written := finished.writtenAs.append_lineEnd
    (rfl : (Token.newline last.span.start).kind = .newline)
    (backFinished.writtenAs.shift (last.span.start + 1))
  have jumps := resolved.append_lineEnd (by simp [finished.kind])
    (rfl : (Token.newline last.span.start).kind = .newline)
    (backResolved.shift (last.span.start + 1))
  rw [append_newline_concat] at joined correct written jumps
  obtain ⟨joinedFinal, joinedFinished, joinedFills⟩ :=
    fills_of_correct joined backFinished.kind correct jumps width
  refine ⟨final.program, backFinal.program, finished.writtenAs,
    backFinished.writtenAs, fills, backFills, ?_⟩
  rwa [← joinedFinished.program_unique written, Program.variables_append,
    Program.statementLines_append] at joinedFills

/-- A source with a comment at its end, which has no line break. -/
def commentedSource : List Char :=
  "INPUT n\nLABEL a\n# done".toList

/-- A source that gives the same variable another value. -/
def reassigningSource : List Char :=
  "LET n = 2\nLET m = n\nGOTO b\nLABEL b\n".toList

theorem compile_append_newline_reassigning :
    ∃ frontText backText frontTokens backTokens,
      (compile commentedSource 2).result = .ok frontText ∧
        (compile reassigningSource 2).result = .ok backText ∧
        tokenize commentedSource = .ok frontTokens ∧
        tokenize reassigningSource = .ok backTokens ∧
        (∀ name ∈ namesAfter .labelKw frontTokens,
          name ∉ namesAfter .labelKw backTokens) ∧
        ∃ program more : Program,
          program.WrittenAs frontTokens ∧ more.WrittenAs backTokens ∧
            Fills commentedSource 2 program.variables
              program.statementLines ∧
            Fills reassigningSource 2 more.variables more.statementLines ∧
            Fills (commentedSource ++ '\n' :: reassigningSource) 2
              (program.variables ++
                more.variables.filter fun name => name ∉ program.variables)
              (program.statementLines ++ more.statementLines) := by
  have accepted : (compile commentedSource 2).result =
      .ok ("#include <stdio.h>\nint main(void) \x7b\n  float n;\n" ++
        "  if (0 == scanf(\"%f\", &n)) \x7b\n    n = 0;\n" ++
        "    scanf(\"%*s\");\n  \x7d\n  a:;\n  return 0;\n\x7d\n") := by
    decide +kernel
  have backAccepted : (compile reassigningSource 2).result =
      .ok ("#include <stdio.h>\nint main(void) \x7b\n  float n;\n" ++
        "  float m;\n  n = 2;\n  m = n;\n  goto b;\n  b:;\n" ++
        "  return 0;\n\x7d\n") := by
    decide +kernel
  have tokenized : tokenize commentedSource =
      .ok [⟨.keyword .inputKw, "INPUT", ⟨0, 5⟩⟩, ⟨.ident, "n", ⟨6, 7⟩⟩,
        ⟨.newline, "\n", ⟨7, 8⟩⟩, ⟨.keyword .labelKw, "LABEL", ⟨8, 13⟩⟩,
        ⟨.ident, "a", ⟨14, 15⟩⟩, ⟨.newline, "\n", ⟨15, 16⟩⟩,
        ⟨.eof, "", ⟨22, 22⟩⟩] := by
    decide +kernel
  have backTokenized : tokenize reassigningSource =
      .ok [⟨.keyword .letKw, "LET", ⟨0, 3⟩⟩, ⟨.ident, "n", ⟨4, 5⟩⟩,
        ⟨.eq, "=", ⟨6, 7⟩⟩, ⟨.number, "2", ⟨8, 9⟩⟩,
        ⟨.newline, "\n", ⟨9, 10⟩⟩, ⟨.keyword .letKw, "LET", ⟨10, 13⟩⟩,
        ⟨.ident, "m", ⟨14, 15⟩⟩, ⟨.eq, "=", ⟨16, 17⟩⟩,
        ⟨.ident, "n", ⟨18, 19⟩⟩, ⟨.newline, "\n", ⟨19, 20⟩⟩,
        ⟨.keyword .gotoKw, "GOTO", ⟨20, 24⟩⟩, ⟨.ident, "b", ⟨25, 26⟩⟩,
        ⟨.newline, "\n", ⟨26, 27⟩⟩, ⟨.keyword .labelKw, "LABEL", ⟨27, 32⟩⟩,
        ⟨.ident, "b", ⟨33, 34⟩⟩, ⟨.newline, "\n", ⟨34, 35⟩⟩,
        ⟨.eof, "", ⟨35, 35⟩⟩] := by
    decide +kernel
  exact ⟨_, _, _, _, accepted, backAccepted, tokenized, backTokenized,
    by decide, compile_append_newline accepted backAccepted tokenized
      backTokenized (by decide)⟩

end TeenyTiny
