/-!
# Faults in patterns

Why a text is no pattern, and how that is shown: the text, marks below the
characters that are at fault, and the reason.
-/

namespace TeenyTiny

inductive PatternReason where
  | classEscapeInvalid
  | classRangeInvalid
  | classRangeLiteral
  | classUnclosed
  | countEmpty
  | countInvalid
  | countRangeInvalid
  | countUnclosed
  | escapeHexEmpty
  | escapeHexInvalid
  | escapeHexInvalidDigit
  | escapeUnexpectedEnd
  | escapeUnrecognized
  | flagDanglingNegation
  | flagDuplicate
  | flagRepeatedNegation
  | flagUnexpectedEnd
  | flagUnrecognized
  | groupNameDuplicate
  | groupNameEmpty
  | groupNameInvalid
  | groupNameUnexpectedEnd
  | groupUnclosed
  | groupUnopened
  | propertyUnknown
  | repetitionMissing
  | wordBoundaryUnclosed
  | wordBoundaryUnexpectedEnd
  | wordBoundaryUnrecognized
  | unsupportedBackreference
  | unsupportedLookAround
  deriving DecidableEq, Repr

def PatternReason.message : PatternReason → String
  | classEscapeInvalid => "invalid escape sequence found in character class"
  | classRangeInvalid =>
      "invalid character class range, the start must be <= the end"
  | classRangeLiteral => "invalid range boundary, must be a literal"
  | classUnclosed => "unclosed character class"
  | countEmpty => "repetition quantifier expects a valid decimal"
  | countInvalid => "decimal literal invalid"
  | countRangeInvalid =>
      "invalid repetition count range, the start must be <= the end"
  | countUnclosed => "unclosed counted repetition"
  | escapeHexEmpty => "hexadecimal literal empty"
  | escapeHexInvalid => "hexadecimal literal is not a Unicode scalar value"
  | escapeHexInvalidDigit => "invalid hexadecimal digit"
  | escapeUnexpectedEnd =>
      "incomplete escape sequence, reached end of pattern prematurely"
  | escapeUnrecognized => "unrecognized escape sequence"
  | flagDanglingNegation => "dangling flag negation operator"
  | flagDuplicate => "duplicate flag"
  | flagRepeatedNegation => "flag negation operator repeated"
  | flagUnexpectedEnd => "expected flag but got end of regex"
  | flagUnrecognized => "unrecognized flag"
  | groupNameDuplicate => "duplicate capture group name"
  | groupNameEmpty => "empty capture group name"
  | groupNameInvalid => "invalid capture group character"
  | groupNameUnexpectedEnd => "unclosed capture group name"
  | groupUnclosed => "unclosed group"
  | groupUnopened => "unopened group"
  | propertyUnknown => "Unicode property not found"
  | repetitionMissing => "repetition operator missing expression"
  | wordBoundaryUnclosed =>
      "special word boundary assertion is either unclosed or contains an " ++
        "invalid character"
  | wordBoundaryUnexpectedEnd =>
      "found either the beginning of a special word boundary or a bounded " ++
        "repetition on a \\b with an opening brace, but no closing brace"
  | wordBoundaryUnrecognized =>
      "unrecognized special word boundary assertion, " ++
        "valid choices are: start, end, start-half or end-half"
  | unsupportedBackreference => "backreferences are not supported"
  | unsupportedLookAround =>
      "look-around, including look-ahead and look-behind, is not supported"

/-- Columns of a text, from the first one up to but not including the second
one. -/
structure Columns where
  start : Nat
  stop : Nat
  deriving DecidableEq, Repr

/-- A reason and the columns that it is about, in ascending order. -/
structure PatternFault where
  reason : PatternReason
  columns : List Columns
  deriving DecidableEq, Repr

/-- Marks below columns, from the given column on; columns that hold nothing get
one mark. -/
def Columns.underline (column : Nat) : List Columns → String
  | [] => ""
  | columns :: rest =>
      let width := max 1 (columns.stop - columns.start)
      let spaces := List.replicate (columns.start - column) ' '
      String.ofList (spaces ++ List.replicate width '^') ++
        underline (max column columns.start + width) rest

def PatternFault.text (fault : PatternFault) (pattern : String) : String :=
  "regex parse error:\n    " ++ pattern ++ "\n    " ++
    Columns.underline 0 fault.columns ++ "\nerror: " ++ fault.reason.message

end TeenyTiny
