import Mathlib.Algebra.Order.Field.Rat
import Mathlib.Data.Int.Cast.Field
import Mathlib.Data.Int.CharZero
import Mathlib.Data.Nat.Cast.Order.Field
import Mathlib.Data.Rat.Lemmas
import TeenyTiny.Proofs.Arithmetic
import TeenyTiny.Proofs.Numerals

/-!
# Quotients in C

A source has one kind of numbers, and an expression of numbers has an exact
value.  In C a number without a point is an integer, and the quotient of two
integers is cut off toward zero.  So C computes the exact value as long as all
such quotients come out even (`Expr.exists_value`), and a term with one that
does not comes out too close to zero (`Term.exists_computed`).
-/

namespace TeenyTiny

/-! ## Exact values -/

def Operand.exactValue? : Operand → Option ℚ
  | .number digits => some (decimalValue digits.toList)
  | .variable _ => none

def AddOp.signed : AddOp → ℚ → ℚ
  | .plus, value => value
  | .minus, value => -value

def Factor.exactValue? (factor : Factor) : Option ℚ :=
  match factor.sign with
  | some sign => factor.operand.exactValue?.map sign.signed
  | none => factor.operand.exactValue?

def MulOp.exactValue? : MulOp → ℚ → ℚ → Option ℚ
  | .multiply, left, right => some (left * right)
  | .divide, left, right => if right = 0 then none else some (left / right)

def AddOp.exactValue? : AddOp → ℚ → ℚ → Option ℚ
  | .plus, left, right => some (left + right)
  | .minus, left, right => some (left - right)

/-- The exact value of a chain, with operators that may be undefined. -/
def Chain.exactValue? {Op Arg : Type}
    (opExact? : Op → ℚ → ℚ → Option ℚ) (argExact? : Arg → Option ℚ) :
    Chain Op Arg → Option ℚ
  | .first arg => argExact? arg
  | .join left op right =>
      (left.exactValue? opExact? argExact?).bind fun leftValue =>
        (argExact? right).bind (opExact? op leftValue)

def Term.exactValue? (term : Term) : Option ℚ :=
  Chain.exactValue? MulOp.exactValue? Factor.exactValue? term

/-- The exact value of an expression of numbers, if nothing in it is divided by
zero. -/
def Expr.exactValue? (expr : Expr) : Option ℚ :=
  Chain.exactValue? AddOp.exactValue? Term.exactValue? expr

theorem Chain.exactValue?_join {Op Arg : Type}
    {opExact? : Op → ℚ → ℚ → Option ℚ} {argExact? : Arg → Option ℚ}
    {left : Chain Op Arg} {op : Op} {right : Arg} {exact : ℚ}
    (defined : (join left op right).exactValue? opExact? argExact? =
      some exact) :
    ∃ leftExact rightExact,
      left.exactValue? opExact? argExact? = some leftExact ∧
        argExact? right = some rightExact ∧
        opExact? op leftExact rightExact = some exact := by
  obtain ⟨leftExact, leftDefined, rest⟩ := Option.bind_eq_some_iff.mp defined
  obtain ⟨rightExact, rightDefined, joined⟩ := Option.bind_eq_some_iff.mp rest
  exact ⟨leftExact, rightExact, leftDefined, rightDefined, joined⟩

/-! ## Values in C -/

namespace CValue

def negate : CValue → CValue
  | whole value => whole (-value)
  | real value => real (-value)

/-- An operation on two values, which is one on integers if both are. -/
def combine (onWhole : Int → Int → Int) (onReal : ℚ → ℚ → ℚ) :
    CValue → CValue → CValue
  | whole left, whole right => whole (onWhole left right)
  | left, right => real (onReal left.toRat right.toRat)

theorem toRat_negate (value : CValue) : value.negate.toRat = -value.toRat := by
  cases value with
  | whole value =>
      exact Int.cast_neg value
  | real value =>
      rfl

theorem isWhole_negate (value : CValue) :
    value.negate.isWhole = value.isWhole := by
  cases value <;> rfl

section Combine

variable {onWhole : Int → Int → Int} {onReal : ℚ → ℚ → ℚ}

theorem isWhole_combine (left right : CValue) :
    (combine onWhole onReal left right).isWhole =
      (left.isWhole && right.isWhole) := by
  cases left <;> cases right <;> rfl

theorem toRat_combine {left right : CValue}
    (agree : ∀ leftValue rightValue, left = whole leftValue →
      right = whole rightValue →
        (onWhole leftValue rightValue : ℚ) = onReal leftValue rightValue) :
    (combine onWhole onReal left right).toRat =
      onReal left.toRat right.toRat := by
  cases left with
  | whole left =>
      cases right with
      | whole right =>
          exact agree left right rfl rfl
      | real right =>
          rfl
  | real left =>
      cases right <;> rfl

end Combine

end CValue

open CValue

/-- What a sign does to a value. -/
def unaryValue? : String → CValue → Option CValue
  | "+", value => some value
  | "-", value => some value.negate
  | _, _ => none

/-- What an operator of arithmetic does to two values.  The quotient of two
integers is cut off toward zero. -/
def binaryValue? : String → CValue → CValue → Option CValue
  | "+", left, right => some (combine (· + ·) (· + ·) left right)
  | "-", left, right => some (combine (· - ·) (· - ·) left right)
  | "*", left, right => some (combine (· * ·) (· * ·) left right)
  | "/", left, right =>
      if right.toRat = 0 then none
      else some (combine Int.tdiv (· / ·) left right)
  | _, _, _ => none

/-- The value of an expression of C without names. -/
def CExpr.value? : CExpr → Option CValue
  | .number text => constantValue? text.toList
  | .name _ => none
  | .unary op operand => operand.value?.bind (unaryValue? op)
  | .binary op left right =>
      left.value?.bind fun leftValue =>
        right.value?.bind (binaryValue? op leftValue)

theorem CExpr.value?_binary {op : String} {left right : CExpr}
    {leftValue rightValue : CValue}
    (leftRead : left.value? = some leftValue)
    (rightRead : right.value? = some rightValue) :
    (CExpr.binary op left right).value? =
      binaryValue? op leftValue rightValue := by
  rw [CExpr.value?, leftRead, rightRead]
  rfl

/-! ## Quotients of integers -/

section Quotients

variable {left right : Int}

theorem abs_tdiv (left right : Int) :
    |((left.tdiv right : Int) : ℚ)| =
      ((left.natAbs / right.natAbs : Nat) : ℚ) := by
  have size : (left.tdiv right).natAbs = left.natAbs / right.natAbs :=
    Int.natAbs_tdiv left right
  rw [← size, ← Int.cast_abs, Int.abs_eq_natAbs, Int.cast_natCast]

theorem abs_cast_div (left right : Int) :
    |(left : ℚ) / right| = (left.natAbs : ℚ) / right.natAbs := by
  rw [abs_div, ← Int.cast_abs, ← Int.cast_abs, Int.abs_eq_natAbs,
    Int.abs_eq_natAbs, Int.cast_natCast, Int.cast_natCast]

theorem abs_tdiv_le (left right : Int) :
    |((left.tdiv right : Int) : ℚ)| ≤ |(left : ℚ) / right| := by
  rw [abs_tdiv, abs_cast_div]
  exact Nat.cast_div_le

/-- A quotient with a remainder is cut off. -/
theorem abs_tdiv_lt
    (nonzero : right ≠ 0)
    (remainder : ¬ right ∣ left) :
    |((left.tdiv right : Int) : ℚ)| < |(left : ℚ) / right| := by
  apply lt_of_le_of_ne (abs_tdiv_le left right)
  rw [abs_tdiv, abs_cast_div]
  intro same
  have positive : (right.natAbs : ℚ) ≠ 0 := by
    exact_mod_cast Int.natAbs_ne_zero.mpr nonzero
  rw [eq_div_iff positive] at same
  have whole : left.natAbs / right.natAbs * right.natAbs = left.natAbs := by
    exact_mod_cast same
  exact remainder (Int.natAbs_dvd_natAbs.mp (Dvd.intro_left _ whole))

theorem cast_tdiv_of_dvd
    (nonzero : (right : ℚ) ≠ 0)
    (divides : right ∣ left) :
    ((left.tdiv right : Int) : ℚ) = (left : ℚ) / right := by
  rw [Int.tdiv_eq_ediv_of_dvd divides, Int.cast_div divides nonzero]

end Quotients

/-! ## Terms -/

theorem Chain.all_iff {Op Arg : Type} {property : Arg → Prop}
    (chain : Chain Op Arg) :
    chain.All property ↔ ∀ arg ∈ chain.operands, property arg := by
  induction chain with
  | first arg =>
      simp [All, operands]
  | join left op right inductionHypothesis =>
      simp [All, operands, inductionHypothesis, or_imp, forall_and]

/-- Whether C takes the operand as an integer. -/
def Operand.isWhole : Operand → Bool
  | .number digits => '.' ∉ digits.toList
  | .variable _ => false

def Factor.isWhole (factor : Factor) : Bool :=
  factor.operand.isWhole

def Term.isWhole (term : Term) : Bool :=
  term.operands.all Factor.isWhole

/-- Whether all quotients of integers in the term come out even. -/
def Term.dividesEvenly : Term → Bool
  | .first _ => true
  | .join left .multiply _ => Term.dividesEvenly left
  | .join left .divide right =>
      Term.dividesEvenly left &&
        (!(Term.isWhole left && right.isWhole) ||
          (Term.exactValue? (.join left .divide right)).all (·.den = 1))

def Expr.dividesEvenly (expr : Expr) : Bool :=
  expr.operands.all Term.dividesEvenly

theorem Term.isWhole_join (left : Term) (op : MulOp) (right : Factor) :
    Term.isWhole (.join left op right) = (left.isWhole && right.isWhole) := by
  simp [Term.isWhole, Chain.operands]

theorem Operand.exists_value {operand : Operand} {exact : ℚ}
    (admitted : operand.Admitted)
    (defined : operand.exactValue? = some exact) :
    ∃ result, operand.toC.value? = some result ∧ result.toRat = exact ∧
      result.isWhole = operand.isWhole := by
  cases operand with
  | number digits =>
      cases defined
      exact constantValue?_decimalText admitted
  | _ =>
      cases defined

theorem Factor.exists_value {factor : Factor} {exact : ℚ}
    (admitted : factor.operand.Admitted)
    (defined : factor.exactValue? = some exact) :
    ∃ result, factor.toC.value? = some result ∧ result.toRat = exact ∧
      result.isWhole = factor.isWhole := by
  obtain ⟨sign, operand⟩ := factor
  cases sign with
  | none =>
      exact Operand.exists_value admitted defined
  | some sign =>
      obtain ⟨inner, operandDefined, rfl⟩ := Option.map_eq_some_iff.mp defined
      obtain ⟨result, read, value, isWhole⟩ :=
        Operand.exists_value admitted operandDefined
      have signed : (Factor.toC ⟨some sign, operand⟩).value? =
          unaryValue? (Operator.text sign) result := by
        rw [Factor.toC, CExpr.value?, read]
        rfl
      rw [signed]
      cases sign with
      | plus =>
          exact ⟨result, rfl, value, isWhole⟩
      | minus =>
          refine ⟨result.negate, rfl, ?_, ?_⟩
          · rw [toRat_negate, value]
            rfl
          · rw [isWhole_negate, isWhole]
            rfl

/-- How the value that C computes for a term stands to the exact one. -/
structure Term.Computed (term : Term) (exact : ℚ) (result : CValue) :
    Prop where
  isWhole_eq : result.isWhole = term.isWhole
  eq_of_even : term.dividesEvenly = true → result.toRat = exact
  abs_le : |result.toRat| ≤ |exact|
  abs_lt : term.dividesEvenly = false → exact ≠ 0 → |result.toRat| < |exact|

namespace Term.Computed

variable {left : Term} {right : Factor} {exact : ℚ} {result : CValue}

theorem eq_iff {term : Term}
    (computed : Computed term exact result) :
    result.toRat = exact ↔ term.dividesEvenly = true ∨ exact = 0 := by
  constructor
  · intro same
    by_contra neither
    rw [not_or, Bool.not_eq_true] at neither
    have less := computed.abs_lt neither.1 neither.2
    rw [same] at less
    exact lt_irrefl _ less
  · rintro (even | rfl)
    · exact computed.eq_of_even even
    · have bound := computed.abs_le
      rw [abs_zero] at bound
      exact abs_nonpos_iff.mp bound

/-- A step that is exact scales both values alike. -/
theorem scale {term : Term} {scaled : CValue} {factor : ℚ}
    (computed : Computed left exact result)
    (isWhole : scaled.isWhole = term.isWhole)
    (even : term.dividesEvenly = left.dividesEvenly)
    (value : scaled.toRat = result.toRat * factor) :
    Computed term (exact * factor) scaled := by
  refine ⟨isWhole, ?_, ?_, ?_⟩
  · intro evenly
    rw [even] at evenly
    rw [value, computed.eq_of_even evenly]
  · rw [value, abs_mul, abs_mul]
    exact mul_le_mul_of_nonneg_right computed.abs_le (abs_nonneg factor)
  · intro uneven nonzero
    rw [even] at uneven
    obtain ⟨exactNonzero, factorNonzero⟩ := mul_ne_zero_iff.mp nonzero
    rw [value, abs_mul, abs_mul]
    exact mul_lt_mul_of_pos_right (computed.abs_lt uneven exactNonzero)
      (abs_pos.mpr factorNonzero)

theorem multiply {rightResult : CValue}
    (computed : Computed left exact result)
    (rightWhole : rightResult.isWhole = right.isWhole) :
    Computed (.join left .multiply right) (exact * rightResult.toRat)
      (combine (· * ·) (· * ·) result rightResult) := by
  refine computed.scale ?_ rfl ?_
  · rw [isWhole_combine, computed.isWhole_eq, rightWhole, isWhole_join]
  · exact toRat_combine fun _ _ _ _ => Int.cast_mul _ _

/-- The quotient is exact if one of the operands is no integer. -/
theorem divide_real {rightResult : CValue}
    (computed : Computed left exact result)
    (rightWhole : rightResult.isWhole = right.isWhole)
    (mixed : (left.isWhole && right.isWhole) = false) :
    Computed (.join left .divide right) (exact / rightResult.toRat)
      (combine Int.tdiv (· / ·) result rightResult) := by
  rw [div_eq_mul_inv]
  refine computed.scale ?_ ?_ ?_
  · rw [isWhole_combine, computed.isWhole_eq, rightWhole, isWhole_join]
  · rw [Term.dividesEvenly, mixed]
    simp
  · rw [← div_eq_mul_inv]
    apply toRat_combine
    rintro leftValue rightValue rfl rfl
    rw [← computed.isWhole_eq, ← rightWhole] at mixed
    cases mixed

/-- The quotient of two integers is exact only if it comes out even. -/
theorem divide_whole {dividend divisor : Int}
    (computed : Computed left exact (.whole dividend))
    (rightWhole : right.isWhole = true)
    (nonzero : divisor ≠ 0)
    (defined : Term.exactValue? (.join left .divide right) =
      some (exact / divisor)) :
    Computed (.join left .divide right) (exact / divisor)
      (.whole (dividend.tdiv divisor)) := by
  have leftWhole : left.isWhole = true := computed.isWhole_eq.symm
  have castNonzero : (divisor : ℚ) ≠ 0 := Int.cast_ne_zero.mpr nonzero
  have even : Term.dividesEvenly (.join left .divide right) =
      (left.dividesEvenly && decide ((exact / divisor).den = 1)) := by
    rw [Term.dividesEvenly, leftWhole, rightWhole, defined]
    rfl
  have below : |(dividend : ℚ) / divisor| ≤ |exact / divisor| := by
    rw [abs_div, abs_div]
    exact div_le_div_of_nonneg_right computed.abs_le (abs_nonneg _)
  refine ⟨?_, ?_, ?_, ?_⟩
  · rw [isWhole_join, leftWhole, rightWhole]
    rfl
  · intro evenly
    rw [even, Bool.and_eq_true, decide_eq_true_eq] at evenly
    have same : (dividend : ℚ) = exact := computed.eq_of_even evenly.1
    rw [← same] at evenly ⊢
    exact cast_tdiv_of_dvd castNonzero
      ((Rat.den_div_intCast_eq_one_iff dividend divisor nonzero).mp evenly.2)
  · exact (abs_tdiv_le dividend divisor).trans below
  · intro uneven exactNonzero
    -- The dividend is too close to zero already, or else this quotient is cut
    -- off.
    cases leftEven : left.dividesEvenly with
    | false =>
        have strict : |(dividend : ℚ)| < |exact| :=
          computed.abs_lt leftEven (div_ne_zero_iff.mp exactNonzero).1
        apply (abs_tdiv_le dividend divisor).trans_lt
        rw [abs_div, abs_div]
        exact div_lt_div_of_pos_right strict (abs_pos.mpr castNonzero)
    | true =>
        have same : (dividend : ℚ) = exact := computed.eq_of_even leftEven
        rw [even, leftEven, Bool.true_and, decide_eq_false_iff_not, ← same,
          Rat.den_div_intCast_eq_one_iff dividend divisor nonzero] at uneven
        rw [← same]
        exact abs_tdiv_lt nonzero uneven

theorem divide {rightResult : CValue}
    (computed : Computed left exact result)
    (rightWhole : rightResult.isWhole = right.isWhole)
    (nonzero : rightResult.toRat ≠ 0)
    (defined : Term.exactValue? (.join left .divide right) =
      some (exact / rightResult.toRat)) :
    Computed (.join left .divide right) (exact / rightResult.toRat)
      (combine Int.tdiv (· / ·) result rightResult) := by
  cases mixed : left.isWhole && right.isWhole with
  | false =>
      exact computed.divide_real rightWhole mixed
  | true =>
      rw [Bool.and_eq_true] at mixed
      have leftWhole := computed.isWhole_eq.trans mixed.1
      have wholeDivisor := rightWhole.trans mixed.2
      cases result with
      | real _ =>
          cases leftWhole
      | whole dividend =>
          cases rightResult with
          | real _ =>
              cases wholeDivisor
          | whole divisor =>
              exact computed.divide_whole mixed.2
                (Int.cast_ne_zero.mp nonzero) defined

end Term.Computed

theorem Term.exists_computed {term : Term} {exact : ℚ}
    (admitted : term.Admitted)
    (defined : term.exactValue? = some exact) :
    ∃ result, term.toC.value? = some result ∧
      term.Computed exact result := by
  induction term generalizing exact with
  | first factor =>
      obtain ⟨result, read, rfl, isWhole⟩ :=
        Factor.exists_value admitted defined
      refine ⟨result, read, ?_, fun _ => rfl, le_rfl, nofun⟩
      rw [isWhole, Term.isWhole, Chain.operands, List.all_cons, List.all_nil,
        Bool.and_true]
  | join left op right inductionHypothesis =>
      obtain ⟨leftExact, _, leftDefined, rightDefined, joined⟩ :=
        Chain.exactValue?_join defined
      obtain ⟨leftResult, leftRead, computed⟩ :=
        inductionHypothesis admitted.1 leftDefined
      obtain ⟨rightResult, rightRead, rfl, rightWhole⟩ :=
        Factor.exists_value admitted.2 rightDefined
      have read : (Term.toC (.join left op right)).value? =
          binaryValue? (Operator.text op) leftResult rightResult :=
        CExpr.value?_binary leftRead rightRead
      rw [read]
      cases op with
      | multiply =>
          cases joined
          exact ⟨_, rfl, computed.multiply rightWhole⟩
      | divide =>
          -- The divisor is a single number, which C never cuts off: it is
          -- zero in C only if it is zero in the source.
          by_cases zero : rightResult.toRat = 0
          · rw [MulOp.exactValue?, if_pos zero] at joined
            cases joined
          · rw [MulOp.exactValue?, if_neg zero] at joined
            cases joined
            exact ⟨_, if_neg zero, computed.divide rightWhole zero defined⟩

/-! ## Expressions -/

/-- C computes the exact value if all quotients of integers come out even. -/
theorem Expr.exists_value {expr : Expr} {exact : ℚ}
    (admitted : expr.Admitted)
    (defined : expr.exactValue? = some exact) :
    ∃ result, expr.toC.value? = some result ∧
      (expr.dividesEvenly = true → result.toRat = exact) := by
  induction expr generalizing exact with
  | first term =>
      obtain ⟨result, read, computed⟩ :=
        Term.exists_computed admitted defined
      refine ⟨result, read, fun even => computed.eq_of_even ?_⟩
      simpa [Expr.dividesEvenly, Chain.operands] using even
  | join left op right inductionHypothesis =>
      obtain ⟨leftExact, rightExact, leftDefined, rightDefined, joined⟩ :=
        Chain.exactValue?_join defined
      obtain ⟨leftResult, leftRead, leftValue⟩ :=
        inductionHypothesis admitted.1 leftDefined
      obtain ⟨rightResult, rightRead, computed⟩ :=
        Term.exists_computed admitted.2 rightDefined
      have read : (Expr.toC (.join left op right)).value? =
          binaryValue? (Operator.text op) leftResult rightResult :=
        CExpr.value?_binary leftRead rightRead
      have split : Expr.dividesEvenly (.join left op right) =
          (Expr.dividesEvenly left && right.dividesEvenly) := by
        simp [Expr.dividesEvenly, Chain.operands]
      rw [read, split, Bool.and_eq_true]
      cases op with
      | plus =>
          cases joined
          refine ⟨_, rfl, fun even => ?_⟩
          rw [← leftValue even.1, ← computed.eq_of_even even.2]
          exact toRat_combine fun _ _ _ _ => Int.cast_add _ _
      | minus =>
          cases joined
          refine ⟨_, rfl, fun even => ?_⟩
          rw [← leftValue even.1, ← computed.eq_of_even even.2]
          exact toRat_combine fun _ _ _ _ => Int.cast_sub _ _

/-- C's grammar gives the text of an expression one tree. -/
theorem Expr.parsedAs_cText_iff {expr : Expr}
    (admitted : expr.Admitted)
    (tree : CExpr) :
    ParsedAs 0 (TeenyTiny.cTokens expr.cText.toList) tree ↔
      tree = expr.toC := by
  have cut := Expr.cTokens_cText admitted detached_nil
  rw [List.append_nil, cTokens_nil, List.append_nil] at cut
  rw [cut]
  constructor
  · intro parsed
    exact parsed.unique expr.parsedAs
  · rintro rfl
    exact expr.parsedAs

end TeenyTiny
