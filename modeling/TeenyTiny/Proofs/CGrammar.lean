import TeenyTiny.Proofs.CTokens

/-!
# Expressions of C without brackets

C's grammar of names, numbers and operators.  Signs and other unary operators
bind more than all binary ones, and each binary operator has a rank: its left
operand may have operators of the same rank and its right operand may not, so
operators of one rank are joined from left to right.

A list of tokens has at most one tree (`ParsedAs.unique`).  A mark right behind
a name or a number is always a binary operator, and its rank bounds what it can
be an operand of.
-/

namespace TeenyTiny

/-- An expression of C. -/
inductive CExpr where
  | number (text : String)
  | name (text : String)
  | unary (op : String) (operand : CExpr)
  | binary (op : String) (left right : CExpr)
  deriving DecidableEq, Repr

/-- The unary operators. -/
def unaryMarks : List String :=
  ["&", "*", "+", "-", "~", "!"]

/-- The rank of unary operators, above those of all binary ones. -/
def unaryRank : Nat :=
  11

/-- The rank of a binary operator. -/
def binaryRank : String → Option Nat
  | "*" | "/" | "%" => some 10
  | "+" | "-" => some 9
  | "<<" | ">>" => some 8
  | "<" | ">" | "<=" | ">=" => some 7
  | "==" | "!=" => some 6
  | "&" => some 5
  | "^" => some 4
  | "|" => some 3
  | "&&" => some 2
  | "||" => some 1
  | _ => none

theorem binaryRank_lt {op : String} {rank : Nat}
    (ranked : binaryRank op = some rank) :
    rank < unaryRank := by
  unfold binaryRank at ranked
  split at ranked <;> cases ranked <;> decide

/-- The tokens are the expression, and its binary operators outside of operands
have at least the given rank. -/
inductive ParsedAs : Nat → List CToken → CExpr → Prop
  | number {rank : Nat} {text : String} :
      ParsedAs rank [.number text] (.number text)
  | name {rank : Nat} {text : String} :
      ParsedAs rank [.word text] (.name text)
  | unary {rank : Nat} {op : String} {tokens : List CToken} {operand : CExpr}
      (isUnary : op ∈ unaryMarks)
      (parsed : ParsedAs unaryRank tokens operand) :
      ParsedAs rank (.mark op :: tokens) (.unary op operand)
  | binary {rank own : Nat} {op : String}
      {leftTokens rightTokens : List CToken} {left right : CExpr}
      (ranked : binaryRank op = some own)
      (bounded : rank ≤ own)
      (leftParsed : ParsedAs own leftTokens left)
      (rightParsed : ParsedAs (own + 1) rightTokens right) :
      ParsedAs rank (leftTokens ++ .mark op :: rightTokens)
        (.binary op left right)

/-- The token is a name or a number. -/
def CToken.IsLeaf (token : CToken) : Prop :=
  ∀ text, token ≠ .mark text

namespace ParsedAs

variable {rank : Nat} {tokens : List CToken} {tree : CExpr}

theorem lower {lowest : Nat}
    (parsed : ParsedAs rank tokens tree)
    (bounded : lowest ≤ rank) :
    ParsedAs lowest tokens tree := by
  cases parsed with
  | number =>
      exact number
  | name =>
      exact name
  | unary isUnary parsed =>
      exact unary isUnary parsed
  | binary ranked ownBounded leftParsed rightParsed =>
      exact binary ranked (Nat.le_trans bounded ownBounded) leftParsed
        rightParsed

/-- An expression ends in a name or a number. -/
theorem exists_leaf
    (parsed : ParsedAs rank tokens tree) :
    ∃ front leaf, tokens = front ++ [leaf] ∧ leaf.IsLeaf := by
  induction parsed with
  | @number _ text =>
      exact ⟨[], .number text, rfl, by simp [CToken.IsLeaf]⟩
  | @name _ text =>
      exact ⟨[], .word text, rfl, by simp [CToken.IsLeaf]⟩
  | @unary _ op _ _ _ _ inductionHypothesis =>
      obtain ⟨front, leaf, rfl, isLeaf⟩ := inductionHypothesis
      exact ⟨.mark op :: front, leaf, rfl, isLeaf⟩
  | @binary _ _ op leftTokens _ _ _ _ _ _ _ _ inductionHypothesis =>
      obtain ⟨front, leaf, rfl, isLeaf⟩ := inductionHypothesis
      exact ⟨leftTokens ++ .mark op :: front, leaf, by simp, isLeaf⟩

/-- A mark right behind a name or a number is a binary operator, and its rank
is not below that of the whole. -/
theorem rank_le_of_infix {front back : List CToken} {leaf : CToken}
    {op : String}
    (parsed : ParsedAs rank tokens tree)
    (whole : tokens = front ++ leaf :: .mark op :: back)
    (isLeaf : leaf.IsLeaf) :
    ∃ own, binaryRank op = some own ∧ rank ≤ own := by
  induction parsed generalizing front back with
  | number =>
      cases front <;> simp at whole
  | name =>
      cases front <;> simp at whole
  | unary _ _ inductionHypothesis =>
      cases front with
      | nil =>
          cases whole
          exact absurd rfl (isLeaf _)
      | cons first front =>
          cases whole
          -- The operand of a unary operator has no binary one.
          obtain ⟨own, ranked, bounded⟩ := inductionHypothesis rfl
          exact absurd bounded (Nat.not_le.mpr (binaryRank_lt ranked))
  | @binary _ own other leftTokens rightTokens _ _ ranked bounded _ _
      leftHypothesis rightHypothesis =>
      rcases List.append_eq_append_iff.mp whole with
        ⟨between, rfl, split⟩ | ⟨between, rfl, split⟩
      · cases between with
        | nil =>
            cases split
            exact absurd rfl (isLeaf _)
        | cons first between =>
            cases split
            obtain ⟨found, foundRank, above⟩ := rightHypothesis rfl
            exact ⟨found, foundRank, by omega⟩
      · cases between with
        | nil =>
            cases split
            exact absurd rfl (isLeaf _)
        | cons first between =>
            simp only [List.cons_append, List.cons.injEq] at split
            obtain ⟨rfl, split⟩ := split
            cases between with
            | nil =>
                cases split
                exact ⟨own, ranked, bounded⟩
            | cons second between =>
                simp only [List.cons_append, List.cons.injEq] at split
                obtain ⟨rfl, _⟩ := split
                obtain ⟨found, foundRank, above⟩ := leftHypothesis rfl
                exact ⟨found, foundRank, Nat.le_trans bounded above⟩

/-- An expression is not split at two operators.  The earlier one would be
inside the left operand of the later, and the later one inside the right operand
of the earlier, so each would have to bind more than the other. -/
theorem not_split_twice {own otherOwn : Nat} {op otherOp : String}
    {left between otherRight : List CToken}
    {leftTree rightTree otherLeftTree : CExpr}
    (ranked : binaryRank op = some own)
    (otherRanked : binaryRank otherOp = some otherOwn)
    (leftParsed : ParsedAs own left leftTree)
    (rightParsed :
      ParsedAs (own + 1) (between ++ .mark otherOp :: otherRight) rightTree)
    (otherLeftParsed :
      ParsedAs otherOwn (left ++ .mark op :: between) otherLeftTree) :
    False := by
  have later : own + 1 ≤ otherOwn := by
    obtain ⟨front, leaf, whole, isLeaf⟩ := otherLeftParsed.exists_leaf
    rcases List.eq_nil_or_concat between with rfl | ⟨start, last, rfl⟩
    · obtain ⟨_, same⟩ := List.append_inj' whole rfl
      cases same
      exact absurd rfl (isLeaf op)
    · rw [List.concat_eq_append] at whole rightParsed
      rw [← List.cons_append, ← List.append_assoc] at whole
      obtain ⟨_, same⟩ := List.append_inj' whole rfl
      cases same
      obtain ⟨found, foundRank, above⟩ :=
        rightParsed.rank_le_of_infix (List.append_assoc start [leaf] _) isLeaf
      rw [otherRanked] at foundRank
      cases foundRank
      exact above
  have earlier : otherOwn ≤ own := by
    obtain ⟨front, leaf, rfl, isLeaf⟩ := leftParsed.exists_leaf
    obtain ⟨found, foundRank, above⟩ :=
      otherLeftParsed.rank_le_of_infix (List.append_assoc front [leaf] _)
        isLeaf
    rw [ranked] at foundRank
    cases foundRank
    exact above
  omega

/-- A unary operator does not take a binary one into its operand. -/
theorem not_unary_of_binary {own : Nat} {op otherOp : String}
    {left right tokens : List CToken} {leftTree operand : CExpr}
    (leftParsed : ParsedAs own left leftTree)
    (parsed : ParsedAs unaryRank tokens operand) :
    .mark otherOp :: tokens ≠ left ++ .mark op :: right := by
  intro whole
  obtain ⟨front, leaf, rfl, isLeaf⟩ := leftParsed.exists_leaf
  cases front with
  | nil =>
      cases whole
      exact absurd rfl (isLeaf otherOp)
  | cons first front =>
      cases whole
      obtain ⟨found, foundRank, above⟩ :=
        parsed.rank_le_of_infix (List.append_assoc front [leaf] _) isLeaf
      exact absurd above (Nat.not_le.mpr (binaryRank_lt foundRank))

/-- A single token is not split. -/
theorem not_single_of_binary {own : Nat} {op : String} {token : CToken}
    {left right : List CToken} {leftTree : CExpr}
    (leftParsed : ParsedAs own left leftTree) :
    [token] ≠ left ++ .mark op :: right := by
  obtain ⟨front, _, rfl, _⟩ := leftParsed.exists_leaf
  intro whole
  have lengths := congrArg List.length whole
  simp at lengths
  omega

/-- The tokens of an expression determine its tree. -/
theorem unique {other : CExpr}
    (parsed : ParsedAs rank tokens tree)
    (otherParsed : ParsedAs rank tokens other) :
    tree = other := by
  induction parsed generalizing other with
  | number =>
      generalize whole : [CToken.number _] = tokens at otherParsed
      cases otherParsed with
      | number => cases whole; rfl
      | name => cases whole
      | unary _ _ => cases whole
      | binary _ _ left _ =>
          exact absurd whole (not_single_of_binary left)
  | name =>
      generalize whole : [CToken.word _] = tokens at otherParsed
      cases otherParsed with
      | number => cases whole
      | name => cases whole; rfl
      | unary _ _ => cases whole
      | binary _ _ left _ =>
          exact absurd whole (not_single_of_binary left)
  | @unary _ op operandTokens _ _ parsed inductionHypothesis =>
      generalize whole : CToken.mark op :: operandTokens = tokens at otherParsed
      cases otherParsed with
      | number => cases whole
      | name => cases whole
      | unary _ otherParsed =>
          cases whole
          rw [inductionHypothesis otherParsed]
      | binary _ _ left _ =>
          exact absurd whole (not_unary_of_binary left parsed)
  | @binary _ own op leftTokens rightTokens _ _ ranked _ left right
      leftHypothesis rightHypothesis =>
      generalize whole : leftTokens ++ .mark op :: rightTokens = tokens
        at otherParsed
      cases otherParsed with
      | number => exact absurd whole.symm (not_single_of_binary left)
      | name => exact absurd whole.symm (not_single_of_binary left)
      | unary _ parsed =>
          exact absurd whole.symm (not_unary_of_binary left parsed)
      | binary otherRanked _ otherLeft otherRight =>
          rcases List.append_eq_append_iff.mp whole with
            ⟨between, rfl, split⟩ | ⟨between, rfl, split⟩
          · cases between with
            | nil =>
                cases split
                rw [ranked] at otherRanked
                cases otherRanked
                rw [List.append_nil] at otherLeft
                rw [leftHypothesis otherLeft, rightHypothesis otherRight]
            | cons first between =>
                cases split
                exact (not_split_twice ranked otherRanked left right
                  otherLeft).elim
          · cases between with
            | nil =>
                cases split
                rw [ranked] at otherRanked
                cases otherRanked
                rw [List.append_nil] at leftHypothesis
                rw [leftHypothesis otherLeft, rightHypothesis otherRight]
            | cons first between =>
                cases split
                exact (not_split_twice otherRanked ranked otherLeft otherRight
                  left).elim

end ParsedAs

end TeenyTiny
