import TeenyTiny.Proofs.Arithmetic
import TeenyTiny.Proofs.Nesting

/-!
# Comparisons are grouped anew

In a source, all operators of comparisons have one rank and are joined from left
to right.  In C, those of order bind more than those of equality.  No brackets
are written, so C takes an operator of order behind one of equality for a part
of the right operand of the latter.  C's grammar gives the comparison its tree
from the source if and only if that does not happen (`compile_groups_iff`).
-/

namespace TeenyTiny

/-! ## One more operator behind an expression -/

namespace CExpr

/-- The rank of a binary operator, or zero for other texts. -/
def rankOf (op : String) : Nat :=
  (binaryRank op).getD 0

/-- The rank of the outermost operator. -/
def topRank : CExpr → Nat
  | binary op _ _ => rankOf op
  | _ => unaryRank

/-- The expression with one more operator and operand behind it.  Operators that
bind less keep it inside of their right operands. -/
def attach : CExpr → String → CExpr → CExpr
  | binary own left inner, op, right =>
      if rankOf own < rankOf op then binary own left (inner.attach op right)
      else binary op (binary own left inner) right
  | tree, op, right => binary op tree right

theorem attach_of_le {op : String} {tree : CExpr}
    (right : CExpr)
    (bounded : rankOf op ≤ tree.topRank) :
    tree.attach op right = binary op tree right := by
  cases tree with
  | binary own left inner =>
      have stays : ¬ rankOf own < rankOf op := Nat.not_lt.mpr bounded
      rw [attach, if_neg stays]
  | number _ | name _ | unary _ _ =>
      rfl

/-- If the operator ends up outermost, its left operand is the expression. -/
theorem eq_of_attach_eq {op : String} {tree right left other : CExpr}
    (same : tree.attach op right = binary op left other) :
    tree = left := by
  cases tree with
  | binary own outer inner =>
      rw [attach] at same
      by_cases less : rankOf own < rankOf op
      · rw [if_pos less] at same
        injection same with sameOp
        rw [sameOp] at less
        omega
      · rw [if_neg less] at same
        injection same
  | number _ | name _ | unary _ _ =>
      injection same

end CExpr

namespace ParsedAs

open CExpr

variable {rank : Nat} {tokens : List CToken} {tree : CExpr}

theorem le_topRank
    (parsed : ParsedAs rank tokens tree)
    (bounded : rank ≤ unaryRank) :
    rank ≤ tree.topRank := by
  cases parsed with
  | number | name | unary _ _ =>
      exact bounded
  | binary ranked ownBounded _ _ =>
      simpa [topRank, rankOf, ranked] using ownBounded

/-- C's grammar attaches what stands behind an expression. -/
theorem attach {own : Nat} {op : String} {rightTokens : List CToken}
    {right : CExpr}
    (parsed : ParsedAs rank tokens tree)
    (ranked : binaryRank op = some own)
    (bounded : rank ≤ own)
    (rightParsed : ParsedAs (own + 1) rightTokens right) :
    ParsedAs rank (tokens ++ .mark op :: rightTokens)
      (tree.attach op right) := by
  induction parsed with
  | number =>
      exact binary ranked bounded number rightParsed
  | name =>
      exact binary ranked bounded name rightParsed
  | unary isUnary parsed _ =>
      exact binary ranked bounded (unary isUnary parsed) rightParsed
  | @binary rank outer outerOp leftTokens innerTokens left inner outerRanked
      outerBounded leftParsed innerParsed _ innerHypothesis =>
      have ranks : rankOf outerOp = outer ∧ rankOf op = own := by
        simp [rankOf, outerRanked, ranked]
      rw [CExpr.attach, ranks.1, ranks.2]
      by_cases less : outer < own
      · rw [if_pos less, List.append_assoc, List.cons_append]
        exact binary outerRanked outerBounded leftParsed (innerHypothesis less)
      · rw [if_neg less]
        have whole : ParsedAs own (leftTokens ++ .mark outerOp :: innerTokens)
            (.binary outerOp left inner) :=
          binary outerRanked (by omega) leftParsed innerParsed
        exact binary ranked bounded whole rightParsed

end ParsedAs

/-! ## Comparisons -/

/-- Whether the operator compares for equality, and not by order. -/
def CompareOp.isEquality : CompareOp → Bool
  | equal | unequal => true
  | _ => false

/-- The rank of the operator in C. -/
def CompareOp.rank (op : CompareOp) : Nat :=
  if op.isEquality then 6 else 7

theorem CompareOp.binaryRank_text (op : CompareOp) :
    binaryRank (Operator.text op) = some op.rank := by
  cases op <;> rfl

theorem CompareOp.rankOf_text (op : CompareOp) :
    CExpr.rankOf (Operator.text op) = op.rank := by
  simp [CExpr.rankOf, op.binaryRank_text]

theorem CompareOp.rank_le (op : CompareOp) : 6 ≤ op.rank ∧ op.rank ≤ 7 := by
  cases op <;> decide

/-- An operator binds less than another if it alone compares for equality. -/
theorem CompareOp.rank_lt_iff (op other : CompareOp) :
    op.rank < other.rank ↔
      ¬ (op.isEquality = true → other.isEquality = true) := by
  cases op <;> cases other <;> decide

/-- The operators of a chain, in their order. -/
def Chain.ops {Op Arg : Type} : Chain Op Arg → List Op
  | .first _ => []
  | .join left op _ => left.ops ++ [op]

/-- The tree that C gives a chain of comparisons. -/
def Chain.regrouped : Chain CompareOp Expr → CExpr
  | .first value => value.toC
  | .join left op right => left.regrouped.attach (Operator.text op) right.toC

/-- No operator of order stands behind one of equality. -/
def EqualityLast (ops : List CompareOp) : Prop :=
  ops.Pairwise fun earlier later =>
    earlier.isEquality = true → later.isEquality = true

namespace Comparison

/-- The whole comparison as a chain. -/
def chain (test : Comparison) : Chain CompareOp Expr :=
  .join test.left test.op test.right

/-- The comparison with its operands grouped as in the source, from left to
right. -/
def toC (test : Comparison) : CExpr :=
  test.chain.toC Operator.text Expr.toC

/-- The comparison with its operands grouped as in C. -/
def regrouped (test : Comparison) : CExpr :=
  test.chain.regrouped

end Comparison

section Chains

theorem Chain.parsedAs_regrouped (chain : Chain CompareOp Expr) :
    ParsedAs 6 (chain.cTokens Operator.text Expr.cTokens)
      chain.regrouped := by
  induction chain with
  | first value =>
      exact value.parsedAs_sum.lower (by decide)
  | join left op right inductionHypothesis =>
      obtain ⟨low, high⟩ := op.rank_le
      exact inductionHypothesis.attach op.binaryRank_text low
        (right.parsedAs_sum.lower (by omega))

theorem Comparison.parsedAs_iff (test : Comparison) (tree : CExpr) :
    ParsedAs 0 test.cTokens tree ↔ tree = test.regrouped := by
  have parsed : ParsedAs 0 test.cTokens test.regrouped :=
    test.chain.parsedAs_regrouped.lower (Nat.zero_le 6)
  constructor
  · intro otherParsed
    exact otherParsed.unique parsed
  · rintro rfl
    exact parsed

/-- An operator takes the whole chain before it for its left operand, unless it
binds more than the last operator there. -/
theorem Chain.attach_toC_eq_iff (chain : Chain CompareOp Expr) (op : CompareOp)
    (right : CExpr) :
    (chain.toC Operator.text Expr.toC).attach (Operator.text op) right =
        .binary (Operator.text op) (chain.toC Operator.text Expr.toC) right ↔
      ∀ last, chain.ops.getLast? = some last →
        last.isEquality = true → op.isEquality = true := by
  cases chain with
  | first value =>
      have above : 9 ≤ value.toC.topRank :=
        value.parsedAs_sum.le_topRank (by decide)
      have bounded : CExpr.rankOf (Operator.text op) ≤ value.toC.topRank := by
        have high := op.rank_le.2
        rw [op.rankOf_text]
        omega
      exact iff_of_true (CExpr.attach_of_le right bounded) nofun
  | join left own inner =>
      have last : (Chain.join left own inner).ops.getLast? = some own := by
        simp [Chain.ops]
      simp only [last, Option.some.injEq, forall_eq']
      rw [Chain.toC, CExpr.attach, own.rankOf_text, op.rankOf_text]
      by_cases less : own.rank < op.rank
      · have different : Operator.text own ≠ Operator.text op := by
          intro same
          have ranks := congrArg CExpr.rankOf same
          rw [own.rankOf_text, op.rankOf_text] at ranks
          omega
        rw [if_pos less]
        exact iff_of_false (by simp [different])
          ((own.rank_lt_iff op).mp less)
      · rw [if_neg less]
        rw [own.rank_lt_iff op, not_not] at less
        exact iff_of_true rfl less

/-- With no operator of order behind one of equality, a further operator keeps
it so if it fits the last one. -/
theorem equalityLast_concat {ops : List CompareOp} {op : CompareOp} :
    EqualityLast (ops ++ [op]) ↔
      EqualityLast ops ∧ ∀ last, ops.getLast? = some last →
        last.isEquality = true → op.isEquality = true := by
  rw [EqualityLast, EqualityLast, List.pairwise_append]
  constructor
  · rintro ⟨before, _, all⟩
    refine ⟨before, fun last found => ?_⟩
    exact all last (List.mem_of_getLast? found) op (by simp)
  · rintro ⟨before, ends⟩
    refine ⟨before, by simp, fun earlier member other same equality => ?_⟩
    rw [List.mem_singleton.mp same]
    rcases List.eq_nil_or_concat ops with rfl | ⟨front, last, rfl⟩
    · cases member
    -- The last operator stands between the two, unless it is the earlier one.
    rw [List.concat_eq_append] at member before ends
    have fits := ends last (by simp)
    rcases List.mem_append.mp member with inside | atEnd
    · rw [List.pairwise_append] at before
      exact fits (before.2.2 earlier inside last (by simp) equality)
    · rw [List.mem_singleton.mp atEnd] at equality
      exact fits equality

theorem Chain.regrouped_eq_iff (chain : Chain CompareOp Expr) :
    chain.regrouped = chain.toC Operator.text Expr.toC ↔
      EqualityLast chain.ops := by
  induction chain with
  | first value =>
      exact iff_of_true rfl List.Pairwise.nil
  | join left op right inductionHypothesis =>
      rw [Chain.ops, equalityLast_concat, ← inductionHypothesis,
        ← left.attach_toC_eq_iff op right.toC, Chain.regrouped, Chain.toC]
      constructor
      · intro same
        have before := CExpr.eq_of_attach_eq same
        rw [before] at same
        exact ⟨before, same⟩
      · rintro ⟨before, taken⟩
        rw [before, taken]

end Chains

/-! ## Comparisons of a program -/

mutual

/-- The comparisons that stand in a statement, each with its kind of block. -/
def Statement.tests : Statement → List (Block × Comparison)
  | .block kind test body => (kind, test) :: Statement.testsAll body
  | _ => []

def Statement.testsAll : List Statement → List (Block × Comparison)
  | [] => []
  | statement :: rest => statement.tests ++ Statement.testsAll rest

end

/-- The text of the line that opens a block. -/
def Block.opening (kind : Block) (test : Comparison) : String :=
  kind.cWord ++ " (" ++ test.cText ++ ") \x7b"

section Tests

variable {kind : Block} {test : Comparison}

mutual

/-- The comparisons of a statement open blocks in its lines. -/
theorem Statement.exists_line_of_tests : (statement : Statement) →
    (level : Nat) → (kind, test) ∈ statement.tests →
      ∃ line ∈ statement.lines level, line.text = kind.opening test
  | .block _ _ body, level, member => by
      rw [Statement.lines, ← Comparison.cText_eq]
      rcases List.mem_cons.mp member with here | inside
      · cases here
        exact ⟨_, List.mem_cons_self, rfl⟩
      · obtain ⟨line, found, opens⟩ :=
          Statement.exists_line_of_testsAll body (level + 1) inside
        exact ⟨line, by simp [found], opens⟩
  | .printText _, _, member | .printValue _, _, member | .label _, _, member
  | .jump _, _, member | .assign _ _, _, member | .input _, _, member => by
      cases member

theorem Statement.exists_line_of_testsAll : (statements : List Statement) →
    (level : Nat) → (kind, test) ∈ Statement.testsAll statements →
      ∃ line ∈ Statement.linesAll level statements,
        line.text = kind.opening test
  | [], _, member => by
      cases member
  | statement :: rest, level, member => by
      rcases List.mem_append.mp member with here | later
      · obtain ⟨line, found, opens⟩ :=
          statement.exists_line_of_tests level here
        exact ⟨line, List.mem_append_left _ found, opens⟩
      · obtain ⟨line, found, opens⟩ :=
          Statement.exists_line_of_testsAll rest level later
        exact ⟨line, List.mem_append_right _ found, opens⟩

end

theorem Program.exists_line_of_tests {program : Program}
    (member : (kind, test) ∈ Statement.testsAll program) :
    ∃ line ∈ program.lines, line.text = kind.opening test := by
  obtain ⟨line, found, opens⟩ :=
    Statement.exists_line_of_testsAll program 1 member
  rw [Statement.linesAll_eq_flatMap] at found
  refine ⟨line, ?_, opens⟩
  rw [Program.lines_eq, Program.innerLines, Program.statementLines]
  simp [found]

/-- The comparisons of a program stand in its tokens. -/
theorem Program.SpelledBy.exists_test {program : Program} {tokens : List Token}
    (spelled : program.SpelledBy tokens)
    (member : (kind, test) ∈ Statement.testsAll program) :
    ∃ spelling, spelling <:+: tokens ∧ test.SpelledBy spelling := by
  induction spelled with
  | nil =>
      cases member
  | @simple _ rest statementTokens lineEnd _ spelled _ _ inductionHypothesis =>
      have later : (kind, test) ∈ Statement.testsAll rest := by
        cases spelled <;> exact member
      obtain ⟨spelling, inside, testSpelled⟩ := inductionHypothesis later
      refine ⟨spelling, inside.trans ?_, testSpelled⟩
      rw [← List.append_assoc]
      exact (List.suffix_append ..).isInfix
  | @block _ _ _ _ opener divider closer testTokens lineEnd body closeEnd rest
      _ testSpelled _ _ _ _ _ _ bodyHypothesis restHypothesis =>
      rcases List.mem_append.mp member with here | later
      · rcases List.mem_cons.mp here with same | inner
        · cases same
          exact ⟨testTokens, ⟨[opener], _, rfl⟩, testSpelled⟩
        · obtain ⟨spelling, inside, innerSpelled⟩ := bodyHypothesis inner
          have whole : body <:+: opener :: (testTokens ++ divider ::
              (lineEnd ++ (body ++ closer :: (closeEnd ++ rest)))) :=
            ⟨opener :: (testTokens ++ divider :: lineEnd),
              closer :: (closeEnd ++ rest), by simp⟩
          exact ⟨spelling, inside.trans whole, innerSpelled⟩
      · obtain ⟨spelling, inside, restSpelled⟩ := restHypothesis later
        have whole : rest <:+: opener :: (testTokens ++ divider ::
            (lineEnd ++ (body ++ closer :: (closeEnd ++ rest)))) :=
          ⟨opener :: (testTokens ++ divider ::
            (lineEnd ++ (body ++ closer :: closeEnd))), [], by simp⟩
        exact ⟨spelling, inside.trans whole, restSpelled⟩

theorem Program.WrittenAs.exists_test {program : Program} {tokens : List Token}
    (written : program.WrittenAs tokens)
    (member : (kind, test) ∈ Statement.testsAll program) :
    ∃ spelling, spelling <:+: tokens ∧ test.SpelledBy spelling := by
  obtain ⟨blank, body, last, rfl, _, spelled, _⟩ := written
  obtain ⟨spelling, inside, testSpelled⟩ := spelled.exists_test member
  exact ⟨spelling, inside.trans ⟨blank, [last], by simp⟩, testSpelled⟩

/-- A comparison is written as the tokens that it was read from. -/
theorem Comparison.SpelledBy.cTokens_eq {tokens : List Token}
    (spelled : test.SpelledBy tokens)
    (admits : ∀ token ∈ tokens, token.kind.Admits token.text) :
    test.cTokens = tokens.map Token.cToken := by
  refine Chain.SpelledBy.cTokens_eq (fun _ _ => Operator.cToken_eq) ?_ spelled
    admits
  intro value spelling spelled admits
  exact spelled.cTokens_eq admits

end Tests

/-- Every comparison of an accepted source opens a block in the compiled
program.  C cuts it into the tokens that it was read from, with the numbers in
decimal, and its grammar gives these one tree.  It groups the operands from left
to right, as in the source, if and only if no operator of order stands behind
one of equality. -/
theorem compile_groups_iff
    {source : List Char} {width : Nat} {text : String}
    (accepted : (compile source width).result = .ok text) :
    ∃ tokens, ∃ program : Program,
      tokenize source = .ok tokens ∧ program.WrittenAs tokens ∧
        (∀ other : Program, other.WrittenAs tokens → other = program) ∧
        text = CLine.renderAll width program.lines ∧
        ∀ kind test, (kind, test) ∈ Statement.testsAll program →
          (∃ line ∈ program.lines, line.text = kind.opening test) ∧
          (∃ spelling, spelling <:+: tokens ∧ test.SpelledBy spelling ∧
            cTokens test.cText.toList = spelling.map Token.cToken) ∧
          (∀ tree, ParsedAs 0 (cTokens test.cText.toList) tree ↔
            tree = test.regrouped) ∧
          (test.regrouped = test.toC ↔ EqualityLast test.chain.ops) := by
  obtain ⟨tokens, program, tokenized, written, alone, _, rendered⟩ :=
    exists_program_of_compile accepted
  refine ⟨tokens, program, tokenized, written, alone, rendered, ?_⟩
  intro kind test member
  obtain ⟨spelling, inside, spelled⟩ := written.exists_test member
  have admits : ∀ token ∈ spelling, token.kind.Admits token.text :=
    fun token found => admits_of_tokenize tokenized (inside.subset found)
  have cut : cTokens test.cText.toList = test.cTokens := by
    have whole :=
      Comparison.cTokens_cText (spelled.admitted admits) detached_nil
    rwa [List.append_nil, cTokens_nil, List.append_nil] at whole
  refine ⟨Program.exists_line_of_tests member,
    ⟨spelling, inside, spelled, cut.trans (spelled.cTokens_eq admits)⟩, ?_,
    test.chain.regrouped_eq_iff⟩
  intro tree
  rw [cut]
  exact test.parsedAs_iff tree

/-- A source with an operator of order behind one of equality. -/
def mixedSource : List Char :=
  "IF 2 == 2 < 2 THEN\nPRINT 1\nENDIF\n".toList

/-- Its comparison. -/
def mixedTest : Comparison :=
  ⟨.join (.first (.first (.first ⟨none, .number "2"⟩))) .equal
      (.first (.first ⟨none, .number "2"⟩)),
    .less, .first (.first ⟨none, .number "2"⟩)⟩

def mixedTokens : List Token :=
  [⟨.number, "2", ⟨3, 4⟩⟩] ++ ⟨.eqEq, "==", ⟨5, 7⟩⟩ ::
    [⟨.number, "2", ⟨8, 9⟩⟩] ++ ⟨.lt, "<", ⟨10, 11⟩⟩ ::
      [⟨.number, "2", ⟨12, 13⟩⟩]

/-- C compares two with the outcome of the second comparison. -/
theorem compile_groups_iff_mixed :
    (compile mixedSource 4).result =
        .ok ("#include <stdio.h>\nint main(void) \x7b\n" ++
          "    if (2 == 2 < 2) \x7b\n" ++
          "        printf(\"%.2f\\n\", (float)(1));\n" ++
          "    \x7d\n    return 0;\n\x7d\n") ∧
      (∃ tokens, tokenize mixedSource = .ok tokens ∧
        Program.WrittenAs
          [.block .branch mixedTest
            [.printValue (.first (.first ⟨none, .number "1"⟩))]] tokens) ∧
      mixedTest.toC =
        .binary "<" (.binary "==" (.number "2") (.number "2")) (.number "2") ∧
      ∀ tree, ParsedAs 0 (cTokens mixedTest.cText.toList) tree ↔
        tree =
          .binary "==" (.number "2")
            (.binary "<" (.number "2") (.number "2")) := by
  have accepted : (compile mixedSource 4).result =
      .ok ("#include <stdio.h>\nint main(void) \x7b\n" ++
        "    if (2 == 2 < 2) \x7b\n" ++
        "        printf(\"%.2f\\n\", (float)(1));\n" ++
        "    \x7d\n    return 0;\n\x7d\n") := by
    decide +kernel
  have cut : tokenize mixedSource =
      .ok ([] ++ ((⟨.keyword .ifKw, "IF", ⟨0, 2⟩⟩ :: (mixedTokens ++
        ⟨.keyword .thenKw, "THEN", ⟨14, 18⟩⟩ :: ([⟨.newline, "\n", ⟨18, 19⟩⟩] ++
          ((⟨.keyword .printKw, "PRINT", ⟨19, 24⟩⟩ ::
              [⟨.number, "1", ⟨25, 26⟩⟩] ++
                ([⟨.newline, "\n", ⟨26, 27⟩⟩] ++ [])) ++
            ⟨.keyword .endifKw, "ENDIF", ⟨27, 32⟩⟩ ::
              ([⟨.newline, "\n", ⟨32, 33⟩⟩] ++ []))))) ++
        [⟨.eof, "", ⟨33, 33⟩⟩])) := by
    decide +kernel
  have number : ∀ token : Token, token.kind = .number →
      Expr.SpelledBy (.first (.first ⟨none, .number token.text⟩)) [token] :=
    fun _ kind => .first (.first (.plain (.number kind)))
  have spelled : mixedTest.SpelledBy mixedTokens :=
    .join (.join (.first (number ⟨.number, "2", ⟨3, 4⟩⟩ rfl)) rfl
      (number ⟨.number, "2", ⟨8, 9⟩⟩ rfl)) rfl
      (number ⟨.number, "2", ⟨12, 13⟩⟩ rfl)
  obtain ⟨tokens, program, tokenized, _, alone, _, groups⟩ :=
    compile_groups_iff accepted
  have written : Program.WrittenAs
      [.block .branch mixedTest
        [.printValue (.first (.first ⟨none, .number "1"⟩))]] tokens := by
    rw [cut] at tokenized
    cases tokenized
    exact ⟨[], _, _, rfl, nofun, .block rfl spelled rfl (.cons rfl nofun)
      (.simple (.printValue rfl (number ⟨.number, "1", ⟨25, 26⟩⟩ rfl))
        (.cons rfl nofun) .nil) rfl (.cons rfl nofun) .nil, rfl⟩
  cases alone _ written
  obtain ⟨_, _, grammar, _⟩ :=
    groups .branch mixedTest (by simp [Statement.testsAll, Statement.tests])
  exact ⟨accepted, ⟨tokens, tokenized, written⟩, by decide +kernel, grammar⟩

end TeenyTiny
