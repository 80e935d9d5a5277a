import TeenyTiny.Proofs.LexicalErrors
import TeenyTiny.Proofs.Numerals

/-!
# Respelled numbers

A number of a source is written in C without the zeros in front of it, which
would make it octal there.  Nothing else about it changes: the new text is a
number of the language again, with the same fraction and the same value, and
respelling it once more leaves it as it is (`decimalText_respells`).
-/

namespace TeenyTiny

/-! ## Zeros in front -/

theorem significantDigits_ne_nil (digits : List Char) :
    significantDigits digits ≠ [] := by
  rcases significantDigits_cases digits with
    ⟨_, zero⟩ | ⟨first, rest, _, significant, _⟩
  · rw [zero]
    exact List.cons_ne_nil _ _
  · rw [significant]
    exact List.cons_ne_nil _ _

/-- A zero stands in front only if nothing stands behind it. -/
theorem significantDigits_eq_zero_or (digits : List Char) :
    significantDigits digits = ['0'] ∨
      (significantDigits digits).head? ≠ some '0' := by
  rcases significantDigits_cases digits with
    ⟨_, zero⟩ | ⟨first, rest, _, significant, nonzero⟩
  · exact Or.inl zero
  · right
    rw [significant, List.head?_cons]
    intro same
    injection same with same
    exact nonzero same

theorem significantDigits_idem (digits : List Char) :
    significantDigits (significantDigits digits) =
      significantDigits digits := by
  rcases significantDigits_cases digits with
    ⟨_, zero⟩ | ⟨first, rest, _, significant, nonzero⟩
  · rw [zero]
    rfl
  · have kept : (first :: rest).dropWhile (· = '0') = first :: rest :=
      List.dropWhile_cons_of_neg (by simpa using nonzero)
    rw [significant, significantDigits, kept]

/-! ## The parts of a respelled number -/

section Parts

variable {text : String}

theorem isNumber_decimalText
    (isNumber : IsNumber text.toList) :
    IsNumber (decimalText text).toList := by
  rw [toList_decimalText]
  generalize text.toList = letters at isNumber
  cases isNumber with
  | whole _ areDigits =>
      rw [takeWhile_whole areDigits, dropWhile_whole areDigits,
        List.append_nil]
      exact .whole (significantDigits_ne_nil _)
        (isDigit_significantDigits areDigits)
  | pointed _ areDigits fractionNonempty fractionDigits =>
      rw [takeWhile_pointed areDigits, dropWhile_pointed areDigits]
      exact .pointed (significantDigits_ne_nil _)
        (isDigit_significantDigits areDigits) fractionNonempty fractionDigits

/-- Only the digits before the point are respelled. -/
theorem parts_decimalText
    (isNumber : IsNumber text.toList) :
    (decimalText text).toList.takeWhile (· ≠ '.') =
        significantDigits (text.toList.takeWhile (· ≠ '.')) ∧
      (decimalText text).toList.dropWhile (· ≠ '.') =
        text.toList.dropWhile (· ≠ '.') := by
  rw [toList_decimalText]
  generalize text.toList = letters at isNumber
  cases isNumber with
  | whole _ areDigits =>
      have significant := isDigit_significantDigits areDigits
      rw [takeWhile_whole areDigits, dropWhile_whole areDigits,
        List.append_nil, takeWhile_whole significant,
        dropWhile_whole significant]
      exact ⟨rfl, rfl⟩
  | pointed _ areDigits _ _ =>
      have significant := isDigit_significantDigits areDigits
      rw [takeWhile_pointed areDigits, dropWhile_pointed areDigits,
        takeWhile_pointed significant, dropWhile_pointed significant]
      exact ⟨rfl, rfl⟩

theorem decimalValue_decimalText
    (isNumber : IsNumber text.toList) :
    decimalValue (decimalText text).toList = decimalValue text.toList := by
  obtain ⟨whole, fraction⟩ := parts_decimalText isNumber
  simp only [decimalValue, whole, fraction, baseValue_significantDigits]

theorem decimalText_idem
    (isNumber : IsNumber text.toList) :
    decimalText (decimalText text) = decimalText text := by
  obtain ⟨whole, fraction⟩ := parts_decimalText isNumber
  apply String.toList_injective
  rw [toList_decimalText (decimalText text), whole, fraction,
    significantDigits_idem, ← toList_decimalText]

end Parts

/-! ## One lexeme as a source -/

/-- A well-formed lexeme alone is a source with one token. -/
theorem tokenize_spelling {kind : Kind} {text : String}
    (inside : kind ≠ .eof)
    (admits : kind.Admits text) :
    tokenize (kind.spelling text) =
      .ok [⟨kind, text, ⟨0, byteLength (kind.spelling text)⟩⟩,
        .eof (byteLength (kind.spelling text))] := by
  have stands := Cursor.stands_ofSource (kind.spelling text)
  have tile : Tile (kind.spelling text) [] [] (kind.spelling text) []
      ⟨kind, text, ⟨0, byteLength (kind.spelling text)⟩⟩ := by
    refine .of_endsBefore ?_ rfl (Or.inl blankRun_nil) rfl admits
      kind.endsBefore_nil
    rw [List.append_nil]
    rfl
  obtain ⟨read, moved⟩ := stands.next_of_tile inside tile
  obtain ⟨gap, taken, further, ⟨_, atEnd, _⟩ | ⟨nonempty, _⟩⟩ := moved.next
  · have yields : (Cursor.ofSource (kind.spelling text)).Yields _ none :=
      .more read inside (.finish atEnd rfl)
    exact yields.tokens_eq
  · -- No text is left that could be taken.
    have whole := further.whole
    simp [nonempty] at whole

/-! ## Respelling -/

/-- Every number that is read from a source is respelled as a number with the
same value and the same fraction.  No zero stands in front of its other digits
before the point, so C reads it in decimal, and there is nothing left to
respell. -/
theorem decimalText_respells
    {source : List Char} {index : Nat} {token : Token}
    (read : (Cursor.ofSource source).outcome index = .ok token)
    (kind : token.kind = .number) :
    tokenize (decimalText token.text).toList =
        .ok [⟨.number, decimalText token.text,
            ⟨0, byteLength (decimalText token.text).toList⟩⟩,
          .eof (byteLength (decimalText token.text).toList)] ∧
      decimalValue (decimalText token.text).toList =
        decimalValue token.text.toList ∧
      (decimalText token.text).toList.dropWhile (· ≠ '.') =
        token.text.toList.dropWhile (· ≠ '.') ∧
      ((decimalText token.text).toList.takeWhile (· ≠ '.') = ['0'] ∨
        ((decimalText token.text).toList.takeWhile (· ≠ '.')).head? ≠
          some '0') ∧
      (∃ value,
        constantValue? (decimalText token.text).toList = some value ∧
          value.toRat = decimalValue token.text.toList) ∧
      decimalText (decimalText token.text) = decimalText token.text := by
  have isNumber : IsNumber token.text.toList := by
    have admits := Cursor.admits_of_next read
    rw [kind] at admits
    exact admits
  obtain ⟨whole, fraction⟩ := parts_decimalText isNumber
  obtain ⟨value, readsAs, same, _⟩ := constantValue?_decimalText isNumber
  have isRespelled : Kind.number.Admits (decimalText token.text) :=
    isNumber_decimalText isNumber
  refine ⟨tokenize_spelling (by decide) isRespelled,
    decimalValue_decimalText isNumber, fraction, ?_,
    ⟨value, readsAs, same⟩, decimalText_idem isNumber⟩
  rw [whole]
  exact significantDigits_eq_zero_or _

/-- Of the zeros in `00.50`, one before the point stays and the one at the end
of the fraction too. -/
theorem decimalText_respells_zeros :
    (Cursor.ofSource "PRINT 00.50".toList).outcome 1 =
        .ok ⟨.number, "00.50", ⟨6, 11⟩⟩ ∧
      decimalText "00.50" = "0.50" ∧
      tokenize ['0', '.', '5', '0'] =
        .ok [⟨.number, "0.50", ⟨0, 4⟩⟩, .eof 4] ∧
      decimalValue ['0', '.', '5', '0'] =
        decimalValue ['0', '0', '.', '5', '0'] ∧
      decimalText "0.50" = "0.50" := by
  have read : (Cursor.ofSource "PRINT 00.50".toList).outcome 1 =
      .ok ⟨.number, "00.50", ⟨6, 11⟩⟩ := by
    decide +kernel
  have respelled : decimalText "00.50" = "0.50" := by
    decide +kernel
  obtain ⟨lexeme, value, _, _, _, again⟩ := decimalText_respells read rfl
  dsimp only at lexeme value again
  rw [respelled] at lexeme value again
  exact ⟨read, respelled, lexeme, value, again⟩

end TeenyTiny
