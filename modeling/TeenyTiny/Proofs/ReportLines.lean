import Mathlib.Data.List.TakeWhile
import TeenyTiny.Proofs.Positions
import TeenyTiny.Report.Line

/-!
# Lines in reports

A report cuts the source into lines by another rule than messages do: whatever
Unicode takes for the end of a line ends one.  Compared with the line feeds that
messages count, the line of an offset moves down by the line ends before it that
are no line feeds, `foreignLineEnds`, and without these the column stays the
same too (`reported_position`).
-/

namespace TeenyTiny

/-! ## Line ends -/

/-- The number of line ends that are neither a line feed nor the carriage return
before one. -/
def foreignLineEnds : List Char → Nat
  | [] => 0
  | c :: rest =>
      (if isLineEnd c = true ∧ c ≠ '\n' ∧
          ¬ (c = '\r' ∧ rest.head? = some '\n') then 1 else 0) +
        foreignLineEnds rest

/-- The characters end a line of a report before the text. -/
inductive LineEnding : List Char → List Char → Prop
  | pair {rest : List Char} :
      LineEnding ['\r', '\n'] rest
  | single {c : Char} {rest : List Char}
      (ends : isLineEnd c = true)
      (alone : c = '\r' → rest.head? ≠ some '\n') :
      LineEnding [c] rest

/-- The text has no line end. -/
def OneLine (text : List Char) : Prop :=
  ∀ c ∈ text, isLineEnd c = false

theorem OneLine.notMem {text : List Char}
    (oneLine : OneLine text) :
    '\n' ∉ text := by
  intro member
  exact absurd (oneLine '\n' member) (by decide)

theorem OneLine.append {text more : List Char}
    (oneLine : OneLine text)
    (moreLine : OneLine more) :
    OneLine (text ++ more) := by
  intro c member
  rcases List.mem_append.mp member with inFront | behind
  · exact oneLine c inFront
  · exact moreLine c behind

theorem lineEnding_cases (text : List Char) :
    OneLine text ∨
      ∃ content ending rest, text = content ++ (ending ++ rest) ∧
        OneLine content ∧ LineEnding ending rest := by
  have cut := List.takeWhile_append_dropWhile
    (p := fun c => !isLineEnd c) (l := text)
  have oneLine : OneLine (text.takeWhile fun c => !isLineEnd c) := by
    intro c member
    have inside := List.all_eq_true.mp List.all_takeWhile c member
    simpa using inside
  cases behind : text.dropWhile (fun c => !isLineEnd c) with
  | nil =>
      rw [behind, List.append_nil] at cut
      rw [cut] at oneLine
      exact Or.inl oneLine
  | cons c rest =>
      have ends : isLineEnd c = true := by
        have first : (text.dropWhile fun c => !isLineEnd c).head? = some c := by
          rw [behind, List.head?_cons]
        have stops := eq_false_of_head?_dropWhile first
        simpa using stops
      rw [behind] at cut
      right
      by_cases paired : c = '\r' ∧ rest.head? = some '\n'
      · obtain ⟨isReturn, feeds⟩ := paired
        obtain ⟨more, whole⟩ := List.head?_eq_some_iff.mp feeds
        rw [isReturn, whole] at cut
        exact ⟨_, ['\r', '\n'], more, cut.symm, oneLine, .pair⟩
      · refine ⟨_, [c], rest, cut.symm, oneLine, .single ends ?_⟩
        intro isReturn feeds
        exact paired ⟨isReturn, feeds⟩

theorem LineEnding.exists_last {ending rest : List Char}
    (isEnding : LineEnding ending rest) :
    ∃ front c, ending = front ++ [c] ∧ isLineEnd c = true := by
  cases isEnding with
  | pair =>
      exact ⟨['\r'], '\n', rfl, rfl⟩
  | single ends _ =>
      exact ⟨[], _, rfl, ends⟩

theorem LineEnding.ne_nil {ending rest : List Char}
    (isEnding : LineEnding ending rest) :
    ending ≠ [] := by
  obtain ⟨front, c, split, _⟩ := isEnding.exists_last
  rw [split]
  exact List.append_ne_nil_of_right_ne_nil front (List.cons_ne_nil c [])

/-- More text behind a line end can only change a carriage return that stood at
the very end. -/
theorem LineEnding.append {ending rest after : List Char}
    (isEnding : LineEnding ending rest)
    (uncut : ending = ['\r'] → rest = [] → after.head? ≠ some '\n') :
    LineEnding ending (rest ++ after) := by
  cases isEnding with
  | pair =>
      exact .pair
  | single ends alone =>
      refine .single ends ?_
      intro isReturn
      cases rest with
      | nil =>
          exact uncut (by rw [isReturn]) rfl
      | cons d rest =>
          exact alone isReturn

/-! ## Counting line ends -/

theorem foreignLineEnds_append_of_oneLine {content : List Char}
    (oneLine : OneLine content)
    (text : List Char) :
    foreignLineEnds (content ++ text) = foreignLineEnds text := by
  induction content with
  | nil =>
      rfl
  | cons c content inductionHypothesis =>
      have inside : isLineEnd c = false := oneLine c (List.mem_cons_self ..)
      have others : OneLine content :=
        fun d member => oneLine d (List.mem_cons_of_mem c member)
      rw [List.cons_append, foreignLineEnds, inductionHypothesis others,
        if_neg (by simp [inside]), Nat.zero_add]

/-- Every line end is either a line feed of its own or a foreign one. -/
theorem LineEnding.counts {ending rest : List Char}
    (isEnding : LineEnding ending rest) :
    (ending ++ rest).count '\n' + foreignLineEnds (ending ++ rest) =
      1 + (rest.count '\n' + foreignLineEnds rest) := by
  cases isEnding with
  | pair =>
      simp only [List.cons_append, List.nil_append, foreignLineEnds,
        List.head?_cons, List.count_cons]
      simp
      omega
  | @single c _ ends alone =>
      by_cases feeds : c = '\n'
      · rw [feeds, List.singleton_append, foreignLineEnds, List.count_cons]
        simp
        omega
      · have foreign : ¬ (c = '\r' ∧ rest.head? = some '\n') :=
          fun paired => alone paired.1 paired.2
        rw [List.singleton_append, foreignLineEnds,
          if_pos ⟨ends, feeds, foreign⟩, List.count_cons_of_ne feeds]
        omega

/-! ## The first line of a text -/

theorem splitLine_of_ending {content ending rest : List Char}
    (oneLine : OneLine content)
    (isEnding : LineEnding ending rest) :
    splitLine (content ++ (ending ++ rest)) = (content ++ ending, rest) := by
  have inside : ∀ c ∈ content, (!isLineEnd c) = true := by
    intro c member
    rw [oneLine c member]
    rfl
  have stops : ∀ c, (ending ++ rest).head? = some c →
      (!isLineEnd c) = false := by
    intro c first
    cases isEnding with
    | pair =>
        cases first
        rfl
    | single ends _ =>
        cases first
        rw [ends]
        rfl
  have front := takeWhile_append_of_stop inside stops
  have behind := dropWhile_append_of_stop inside stops
  unfold splitLine
  rw [front, behind]
  cases isEnding with
  | pair =>
      rfl
  | @single c _ _ alone =>
      rw [List.singleton_append]
      split
      · rename_i impossible
        cases impossible
      · rename_i more paired
        injection paired with isReturn feeds
        rw [feeds] at alone
        exact absurd rfl (alone isReturn)
      · rename_i other more _ whole
        injection whole with same rest
        rw [same, rest]

theorem splitLine_of_oneLine {content : List Char}
    (oneLine : OneLine content) :
    splitLine content = (content, []) := by
  have inside : ∀ c ∈ content, (!isLineEnd c) = true := by
    intro c member
    rw [oneLine c member]
    rfl
  unfold splitLine
  rw [List.takeWhile_eq_self_iff.mpr inside,
    List.dropWhile_eq_nil_iff.mpr inside]

/-! ## The line of an offset -/

namespace SourceLine

theorem find_of_splitLine {text first rest : List Char}
    (split : splitLine text = (first, rest))
    (number start offset : Nat) :
    find number start text offset =
      if rest = [] ∨ offset < start + byteLength first then
        ⟨number, start, first⟩
      else find (number + 1) (start + byteLength first) rest offset := by
  rw [find]
  simp only [split]
  by_cases last : rest = []
  · rw [dif_pos last, if_pos (Or.inl last)]
  · rw [dif_neg last]
    by_cases inside : offset < start + byteLength first
    · rw [if_pos inside, if_pos (Or.inr inside)]
    · rw [if_neg inside, if_neg]
      intro either
      rcases either with isLast | isInside
      · exact last isLast
      · exact inside isInside

/-- A text without a line end before an offset lies on the first line. -/
theorem find_of_oneLine {before : List Char}
    (oneLine : OneLine before)
    (number start : Nat) (after : List Char) :
    ∃ more, find number start (before ++ after) (start + byteLength before) =
      ⟨number, start, before ++ more⟩ := by
  rcases lineEnding_cases after with
    alone | ⟨content, ending, rest, whole, contentLine, isEnding⟩
  · have split := splitLine_of_oneLine (oneLine.append alone)
    refine ⟨after, ?_⟩
    rw [find_of_splitLine split, if_pos (Or.inl rfl)]
  · have split :=
      splitLine_of_ending (oneLine.append contentLine) isEnding
    have inside : start + byteLength before <
        start + byteLength (before ++ content ++ ending) := by
      have positive := byteLength_pos isEnding.ne_nil
      simp only [byteLength_append]
      omega
    refine ⟨content ++ ending, ?_⟩
    rw [whole, ← List.append_assoc before, find_of_splitLine split,
      if_pos (Or.inr inside), List.append_assoc]

/-- If the first line ends before the offset, the search goes on behind it. -/
theorem find_of_ending {content ending rest after : List Char}
    (contentLine : OneLine content)
    (isEnding : LineEnding ending (rest ++ after))
    (goesOn : rest ++ after ≠ [])
    (number start : Nat) :
    find number start (content ++ (ending ++ rest) ++ after)
        (start + byteLength (content ++ (ending ++ rest))) =
      find (number + 1) (start + byteLength (content ++ ending))
        (rest ++ after)
        (start + byteLength (content ++ ending) + byteLength rest) := by
  have split := splitLine_of_ending contentLine isEnding
  have offset : start + byteLength (content ++ (ending ++ rest)) =
      start + byteLength (content ++ ending) + byteLength rest := by
    simp only [byteLength_append]
    omega
  have further : ¬ (rest ++ after = [] ∨
      start + byteLength (content ++ ending) + byteLength rest <
        start + byteLength (content ++ ending)) := by
    intro either
    rcases either with nothing | less
    · exact goesOn nothing
    · omega
  rw [offset, List.append_assoc, List.append_assoc, find_of_splitLine split,
    if_neg further]

/-- The line of an offset in a report: as many lines down as there are line ends
before it, with the text behind the last of these in front.  The offset must not
lie between the two characters of one line end, nor behind a line end at the end
of the source. -/
theorem exists_find (number start : Nat) (before after : List Char)
    (uncut : ∀ front, before = front ++ ['\r'] → after.head? ≠ some '\n')
    (goesOn : after = [] →
      ∀ front c, before = front ++ [c] → isLineEnd c = false) :
    ∃ lines last more, before = lines ++ last ∧ OneLine last ∧
      (lines = [] ∨ ∃ front c, lines = front ++ [c] ∧ isLineEnd c = true) ∧
      find number start (before ++ after) (start + byteLength before) =
        ⟨number + (before.count '\n' + foreignLineEnds before),
          start + byteLength lines, last ++ more⟩ := by
  rcases lineEnding_cases before with
    oneLine | ⟨content, ending, rest, rfl, contentLine, isEnding⟩
  · obtain ⟨more, found⟩ := find_of_oneLine oneLine number start after
    have noFeeds := List.count_eq_zero.mpr oneLine.notMem
    have noForeign := foreignLineEnds_append_of_oneLine oneLine []
    rw [List.append_nil] at noForeign
    refine ⟨[], before, more, rfl, oneLine, Or.inl rfl, ?_⟩
    rw [found, noFeeds, noForeign]
    rfl
  · obtain ⟨init, c, endingIs, ends⟩ := isEnding.exists_last
    have isEndingThere : LineEnding ending (rest ++ after) := by
      apply isEnding.append
      intro isReturn atEnd
      apply uncut content
      rw [isReturn, atEnd, List.append_nil]
    have further : rest ++ after ≠ [] := by
      intro nothing
      obtain ⟨noRest, noAfter⟩ := List.append_eq_nil_iff.mp nothing
      have inside := goesOn noAfter (content ++ init) c (by
        simp [endingIs, noRest])
      rw [ends] at inside
      cases inside
    -- What holds at the end of the text holds at the end of its rest.
    have restUncut : ∀ front, rest = front ++ ['\r'] →
        after.head? ≠ some '\n' := by
      intro front restIs
      apply uncut (content ++ (ending ++ front))
      simp [restIs]
    have restGoesOn : after = [] →
        ∀ front c, rest = front ++ [c] → isLineEnd c = false := by
      intro noAfter front d restIs
      apply goesOn noAfter (content ++ (ending ++ front)) d
      simp [restIs]
    have shorter : rest.length < (content ++ (ending ++ rest)).length := by
      have positive := List.length_pos_iff.mpr isEnding.ne_nil
      simp only [List.length_append]
      omega
    obtain ⟨lines, last, more, rfl, lastLine, broken, found⟩ :=
      exists_find (number + 1) (start + byteLength (content ++ ending))
        rest after restUncut restGoesOn
    refine ⟨content ++ (ending ++ lines), last, more, by simp, lastLine,
      Or.inr ?_, ?_⟩
    · rcases broken with noLines | ⟨front, d, linesAre, endsThere⟩
      · exact ⟨content ++ init, c, by simp [noLines, endingIs], ends⟩
      · exact ⟨content ++ (ending ++ front), d, by simp [linesAre], endsThere⟩
    · have counted := isEnding.counts
      have feeds : (content ++ (ending ++ (lines ++ last))).count '\n' =
          (ending ++ (lines ++ last)).count '\n' := by
        rw [List.count_append, List.count_eq_zero.mpr contentLine.notMem,
          Nat.zero_add]
      rw [find_of_ending contentLine isEndingThere further, found, feeds,
        foreignLineEnds_append_of_oneLine contentLine, SourceLine.mk.injEq]
      refine ⟨?_, ?_, rfl⟩
      · omega
      · simp only [byteLength_append]
        omega
termination_by before.length

theorem countBefore_eq_length (text : List Char) (bytes : Nat) :
    countBefore text bytes = (startingBefore text bytes).length := by
  induction text generalizing bytes with
  | nil =>
      rfl
  | cons c rest inductionHypothesis =>
      cases bytes with
      | zero =>
          rfl
      | succ bytes =>
          rw [countBefore, inductionHypothesis, startingBefore,
            List.length_cons]

end SourceLine

/-! ## Two counts of lines -/

theorem foreignLineEnds_le_append (front text : List Char) :
    foreignLineEnds text ≤ foreignLineEnds (front ++ text) := by
  induction front with
  | nil =>
      exact Nat.le_refl _
  | cons c front inductionHypothesis =>
      rw [List.cons_append, foreignLineEnds]
      omega

/-- Without foreign line ends, only a line feed stands before the last line. -/
theorem eq_newline_of_foreignLineEnds {front last : List Char} {c : Char}
    (native : foreignLineEnds (front ++ [c] ++ last) = 0)
    (lastLine : OneLine last)
    (ends : isLineEnd c = true) :
    c = '\n' := by
  rw [List.append_assoc, List.singleton_append] at native
  have less := foreignLineEnds_le_append front (c :: last)
  rw [native, foreignLineEnds] at less
  by_contra other
  have alone : ¬ (c = '\r' ∧ last.head? = some '\n') := by
    intro paired
    exact lastLine.notMem (List.mem_of_head? paired.2)
  rw [if_pos ⟨ends, other, alone⟩] at less
  omega

/-- The position of an offset as reports count it: the line goes down by the
foreign line ends, and without these the column stays as well. -/
theorem reported_position (before after : List Char)
    (uncut : ∀ front, before = front ++ ['\r'] → after.head? ≠ some '\n')
    (goesOn : after = [] →
      ∀ front c, before = front ++ [c] → isLineEnd c = false) :
    (SourceLine.ofOffset (before ++ after) (byteLength before)).number =
        (Position.ofOffset (before ++ after) (byteLength before)).line +
          foreignLineEnds before ∧
      (foreignLineEnds before = 0 →
        (SourceLine.ofOffset (before ++ after)
            (byteLength before)).column (byteLength before) + 1 =
          (Position.ofOffset (before ++ after)
            (byteLength before)).column) := by
  obtain ⟨lines, last, more, rfl, lastLine, broken, found⟩ :=
    SourceLine.exists_find 1 0 before after uncut goesOn
  rw [Nat.zero_add, Nat.zero_add] at found
  rw [SourceLine.ofOffset, found, Position.ofOffset_append]
  constructor
  · rw [Position.line_foldl_step]
    simp only [Position.origin]
    omega
  · intro native
    have column : SourceLine.countBefore (last ++ more)
        (byteLength (lines ++ last) - byteLength lines) = last.length := by
      rw [byteLength_append, Nat.add_sub_cancel_left,
        SourceLine.countBefore_eq_length, startingBefore_append]
    rw [SourceLine.column, column]
    rcases broken with rfl | ⟨front, c, rfl, ends⟩
    · rw [List.nil_append,
        Position.column_foldl_step_of_notMem lastLine.notMem, Nat.add_comm]
      rfl
    · have feeds := eq_newline_of_foreignLineEnds native lastLine ends
      rw [feeds, List.append_assoc, List.singleton_append,
        Position.column_foldl_step_of_break lastLine.notMem, Nat.add_comm]

end TeenyTiny
