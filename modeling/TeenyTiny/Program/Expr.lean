import TeenyTiny.Token.Kind

/-!
# Expressions

The operators of one rank are joined from left to right, and a chain keeps that
shape: it is a first operand or a chain with one more operator and operand at
its right end.
-/

namespace TeenyTiny

/-! ## Operators -/

/-- The operators of sums, which are also the signs of factors. -/
inductive AddOp where
  | plus
  | minus
  deriving DecidableEq, Repr

/-- The operators of products. -/
inductive MulOp where
  | multiply
  | divide
  deriving DecidableEq, Repr

/-- The operators of comparisons. -/
inductive CompareOp where
  | equal
  | unequal
  | less
  | lessEqual
  | greater
  | greaterEqual
  deriving DecidableEq, Repr

/-- A family of operators, which are told apart by the kinds of their
tokens. -/
class Operator (Op : Type) where
  all : List Op
  kind : Op → Kind
  mem_all : ∀ op : Op, op ∈ all
  kind_injective : ∀ op other : Op, kind op = kind other → op = other
  band_kind : ∀ op : Op, (kind op).band = .operator

namespace Operator

/-- The operator of a family with a token of the given kind. -/
def ofKind? (Op : Type) [Operator Op] (kind : Kind) : Option Op :=
  all.find? fun op => Operator.kind op = kind

def text {Op : Type} [Operator Op] (op : Op) : String :=
  (kind op).symbol

end Operator

instance : Operator AddOp where
  all := [.plus, .minus]
  kind
    | .plus => .plus
    | .minus => .minus
  mem_all op := by cases op <;> decide
  kind_injective op other := by cases op <;> cases other <;> decide
  band_kind op := by cases op <;> rfl

instance : Operator MulOp where
  all := [.multiply, .divide]
  kind
    | .multiply => .star
    | .divide => .slash
  mem_all op := by cases op <;> decide
  kind_injective op other := by cases op <;> cases other <;> decide
  band_kind op := by cases op <;> rfl

instance : Operator CompareOp where
  all := [.equal, .unequal, .less, .lessEqual, .greater, .greaterEqual]
  kind
    | .equal => .eqEq
    | .unequal => .bangEq
    | .less => .lt
    | .lessEqual => .ltEq
    | .greater => .gt
    | .greaterEqual => .gtEq
  mem_all op := by cases op <;> decide
  kind_injective op other := by cases op <;> cases other <;> decide
  band_kind op := by cases op <;> rfl

/-! ## Chains -/

/-- Operands joined by operators from left to right. -/
inductive Chain (Op Arg : Type) where
  | first (arg : Arg)
  | join (left : Chain Op Arg) (op : Op) (right : Arg)
  deriving DecidableEq, Repr

namespace Chain

variable {Op Arg : Type}

/-- A chain and the operator after it, or nothing when no operand has been read
yet. -/
abbrev Open (Op Arg : Type) : Type :=
  Option (Chain Op Arg × Op)

/-- Puts an operand behind the operator of an open chain, or starts a chain with
it. -/
def extend : Open Op Arg → Arg → Chain Op Arg
  | none, arg => first arg
  | some (left, op), arg => join left op arg

/-- The operands of a chain from left to right. -/
def operands : Chain Op Arg → List Arg
  | first arg => [arg]
  | join left _ right => left.operands ++ [right]

end Chain

/-! ## The ranks of expressions -/

inductive Operand where
  | number (digits : String)
  | variable (name : String)
  deriving DecidableEq, Repr

/-- An operand with a sign or without. -/
structure Factor where
  sign : Option AddOp
  operand : Operand
  deriving DecidableEq, Repr

/-- Factors joined by `*` and `/`. -/
abbrev Term : Type :=
  Chain MulOp Factor

/-- Terms joined by `+` and `-`. -/
abbrev Expr : Type :=
  Chain AddOp Term

/-- Two or more expressions joined by comparison operators. -/
structure Comparison where
  left : Chain CompareOp Expr
  op : CompareOp
  right : Expr
  deriving DecidableEq, Repr

end TeenyTiny
