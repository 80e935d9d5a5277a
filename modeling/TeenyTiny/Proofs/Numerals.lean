import Mathlib.Algebra.Order.Field.Rat
import Mathlib.Data.List.TakeWhile
import TeenyTiny.Proofs.CTokens

/-!
# Values of numbers

What the text of a number stands for, in a source and in C.  Numbers of a source
are decimal.  C reads a constant with a point in decimal too, but one without a
point is an integer, and octal if a zero stands in front.  The respelled number
has no such zero, so C reads the value that the source has
(`constantValue?_decimalText`).
-/

namespace TeenyTiny

/-! ## Digits -/

def digitValue (c : Char) : Nat :=
  c.toNat - '0'.toNat

/-- The number that the digits stand for in the base. -/
def baseValue (base : Nat) (digits : List Char) : Nat :=
  digits.foldl (fun value c => base * value + digitValue c) 0

/-- The value of a decimal number with or without a point. -/
def decimalValue (text : List Char) : ℚ :=
  let whole := text.takeWhile (· ≠ '.')
  let fraction := (text.dropWhile (· ≠ '.')).tail
  baseValue 10 whole + baseValue 10 fraction / 10 ^ fraction.length

/-! ## Constants of C -/

/-- A value in C: an integer, or a number of a floating type, which is taken as
exact. -/
inductive CValue where
  | whole (value : Int)
  | real (value : ℚ)
  deriving DecidableEq

namespace CValue

def toRat : CValue → ℚ
  | whole value => value
  | real value => value

def isWhole : CValue → Bool
  | whole _ => true
  | real _ => false

end CValue

def isOctalDigit (c : Char) : Bool :=
  c.isDigit && digitValue c < 8

/-- An integer constant.  A zero in front makes it octal. -/
def integerConstant? : List Char → Option Nat
  | [] => none
  | first :: rest =>
      if first = '0' then
        if rest.all isOctalDigit then some (baseValue 8 rest) else none
      else if (first :: rest).all Char.isDigit then
        some (baseValue 10 (first :: rest))
      else none

/-- A constant without exponent and suffix, which is a floating one if it has a
point. -/
def constantValue? (text : List Char) : Option CValue :=
  let whole := text.takeWhile (· ≠ '.')
  let behind := text.dropWhile (· ≠ '.')
  if behind = [] then
    (integerConstant? text).map fun value : Nat => .whole value
  else if (whole ++ behind.tail).all Char.isDigit then
    some (.real (decimalValue text))
  else none

example : [['0', '1', '0'], ['1', '0'], ['0', '8'], ['0', '8', '.', '5']].map
    constantValue? =
      [some (.whole 8), some (.whole 10), none, some (.real (17 / 2))] := by
  decide +kernel

/-! ## Numbers with and without a point -/

section Parts

variable {digits fraction : List Char}

theorem ne_point_of_isDigit
    (areDigits : ∀ c ∈ digits, c.isDigit = true) :
    ∀ c ∈ digits, decide (c ≠ '.') = true := by
  intro c member
  have digit := areDigits c member
  apply decide_eq_true
  rintro rfl
  exact absurd digit (by decide)

theorem takeWhile_pointed
    (areDigits : ∀ c ∈ digits, c.isDigit = true)
    (fraction : List Char) :
    (digits ++ '.' :: fraction).takeWhile (· ≠ '.') = digits := by
  apply takeWhile_append_of_stop (ne_point_of_isDigit areDigits)
  simp

theorem dropWhile_pointed
    (areDigits : ∀ c ∈ digits, c.isDigit = true)
    (fraction : List Char) :
    (digits ++ '.' :: fraction).dropWhile (· ≠ '.') = '.' :: fraction := by
  apply dropWhile_append_of_stop (ne_point_of_isDigit areDigits)
  simp

theorem takeWhile_whole
    (areDigits : ∀ c ∈ digits, c.isDigit = true) :
    digits.takeWhile (· ≠ '.') = digits :=
  List.takeWhile_eq_self_iff.mpr (ne_point_of_isDigit areDigits)

theorem dropWhile_whole
    (areDigits : ∀ c ∈ digits, c.isDigit = true) :
    digits.dropWhile (· ≠ '.') = [] :=
  List.dropWhile_eq_nil_iff.mpr (ne_point_of_isDigit areDigits)

theorem decimalValue_whole
    (areDigits : ∀ c ∈ digits, c.isDigit = true) :
    decimalValue digits = baseValue 10 digits := by
  have nothing : baseValue 10 [] = 0 := rfl
  simp only [decimalValue, takeWhile_whole areDigits,
    dropWhile_whole areDigits, List.tail_nil, nothing, Nat.cast_zero, zero_div,
    add_zero]

theorem decimalValue_pointed
    (areDigits : ∀ c ∈ digits, c.isDigit = true)
    (fraction : List Char) :
    decimalValue (digits ++ '.' :: fraction) =
      baseValue 10 digits +
        baseValue 10 fraction / 10 ^ fraction.length := by
  simp only [decimalValue, takeWhile_pointed areDigits,
    dropWhile_pointed areDigits, List.tail_cons]

/-! ## Zeros in front -/

/-- The digits without zeros in front, of which one stays if nothing else is
there. -/
def significantDigits (digits : List Char) : List Char :=
  match digits.dropWhile (· = '0') with
  | [] => ['0']
  | significant => significant

theorem significantDigits_cases (digits : List Char) :
    (digits.dropWhile (· = '0') = [] ∧ significantDigits digits = ['0']) ∨
      ∃ first rest, digits.dropWhile (· = '0') = first :: rest ∧
        significantDigits digits = first :: rest ∧ first ≠ '0' := by
  cases cut : digits.dropWhile (· = '0') with
  | nil =>
      exact Or.inl ⟨rfl, by rw [significantDigits, cut]⟩
  | cons first rest =>
      have stops : decide (first = '0') = false :=
        eq_false_of_head?_dropWhile (by rw [cut, List.head?_cons])
      refine Or.inr ⟨first, rest, rfl, ?_, of_decide_eq_false stops⟩
      rw [significantDigits, cut]

theorem baseValue_dropWhile (base : Nat) (digits : List Char) :
    baseValue base (digits.dropWhile (· = '0')) = baseValue base digits := by
  induction digits with
  | nil =>
      rfl
  | cons first rest inductionHypothesis =>
      by_cases zero : first = '0'
      · rw [List.dropWhile_cons_of_pos (by simpa using zero),
          inductionHypothesis, zero]
        rfl
      · rw [List.dropWhile_cons_of_neg (by simpa using zero)]

theorem baseValue_significantDigits (base : Nat) (digits : List Char) :
    baseValue base (significantDigits digits) = baseValue base digits := by
  rw [← baseValue_dropWhile base digits]
  rcases significantDigits_cases digits with
    ⟨cut, significant⟩ | ⟨first, rest, cut, significant, _⟩
  · rw [cut, significant]
    rfl
  · rw [cut, significant]

theorem isDigit_significantDigits
    (areDigits : ∀ c ∈ digits, c.isDigit = true) :
    ∀ c ∈ significantDigits digits, c.isDigit = true := by
  intro c member
  rcases significantDigits_cases digits with
    ⟨_, significant⟩ | ⟨first, rest, cut, significant, _⟩
  · rw [significant, List.mem_singleton] at member
    rw [member]
    rfl
  · rw [significant, ← cut] at member
    exact areDigits c ((List.dropWhile_sublist _).mem member)

/-- Without zeros in front, C reads digits in decimal. -/
theorem integerConstant?_significantDigits
    (areDigits : ∀ c ∈ digits, c.isDigit = true) :
    integerConstant? (significantDigits digits) =
      some (baseValue 10 digits) := by
  have allDigits := isDigit_significantDigits areDigits
  have value := baseValue_significantDigits 10 digits
  rcases significantDigits_cases digits with
    ⟨_, significant⟩ | ⟨first, rest, _, significant, nonzero⟩
  · rw [significant] at value ⊢
    rw [← value]
    rfl
  · rw [significant] at allDigits value ⊢
    rw [integerConstant?, if_neg nonzero,
      if_pos (List.all_eq_true.mpr allDigits), value]

theorem toList_decimalText (text : String) :
    (decimalText text).toList =
      significantDigits (text.toList.takeWhile (· ≠ '.')) ++
        text.toList.dropWhile (· ≠ '.') := by
  unfold decimalText
  dsimp only
  rcases significantDigits_cases (text.toList.takeWhile (· ≠ '.')) with
    ⟨cut, significant⟩ | ⟨first, rest, cut, significant, _⟩
  · rw [cut, significant]
    exact String.toList_ofList
  · rw [cut, significant]
    exact String.toList_ofList

end Parts

/-! ## Respelled numbers -/

/-- C reads the respelled number as the value that the source has, and as an
integer if the source has no point. -/
theorem constantValue?_decimalText {text : String}
    (isNumber : IsNumber text.toList) :
    ∃ value, constantValue? (decimalText text).toList = some value ∧
      value.toRat = decimalValue text.toList ∧
      value.isWhole = decide ('.' ∉ text.toList) := by
  rw [toList_decimalText]
  generalize text.toList = letters at isNumber
  cases isNumber with
  | whole _ areDigits =>
      have significant := isDigit_significantDigits areDigits
      have noPoint : '.' ∉ letters := by
        intro member
        exact absurd (areDigits _ member) (by decide)
      have read : constantValue? (significantDigits letters) =
          some (.whole (baseValue 10 letters)) := by
        simp only [constantValue?, dropWhile_whole significant, if_true,
          integerConstant?_significantDigits areDigits, Option.map_some]
      rw [takeWhile_whole areDigits, dropWhile_whole areDigits,
        List.append_nil]
      refine ⟨_, read, ?_, ?_⟩
      · rw [decimalValue_whole areDigits]
        simp [CValue.toRat]
      · simp [CValue.isWhole, noPoint]
  | @pointed digits fraction _ areDigits _ fractionDigits =>
      have significant := isDigit_significantDigits areDigits
      have allDigits :
          (significantDigits digits ++ fraction).all Char.isDigit = true := by
        rw [List.all_eq_true, List.forall_mem_append]
        exact ⟨significant, fractionDigits⟩
      have read :
          constantValue? (significantDigits digits ++ '.' :: fraction) =
            some (.real (decimalValue
              (significantDigits digits ++ '.' :: fraction))) := by
        simp only [constantValue?, takeWhile_pointed significant,
          dropWhile_pointed significant, List.tail_cons, allDigits, if_true,
          List.cons_ne_nil, if_false]
      rw [takeWhile_pointed areDigits, dropWhile_pointed areDigits]
      refine ⟨_, read, ?_, ?_⟩
      · rw [CValue.toRat, decimalValue_pointed significant,
          decimalValue_pointed areDigits, baseValue_significantDigits]
      · simp [CValue.isWhole]

end TeenyTiny
