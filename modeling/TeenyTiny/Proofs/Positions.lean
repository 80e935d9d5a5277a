import Mathlib.Order.Bounds.Defs
import TeenyTiny.Proofs.LineBreaks

/-!
# Positions are exact

The position of an offset is found by one walk over the source with two
counters, of which that of the columns starts again at every line break.  Seen
from outside, it counts the line breaks that start before the offset, and the
characters on the last line before it.  An offset inside a character has the
position of the next boundary, and no two boundaries share a position
(`ofOffset_exact`).

The walk is a fold over the characters that start before the offset
(`Position.after_eq_foldl`), so two walks over one source differ in what the
longer one reads after the other has stopped.
-/

namespace TeenyTiny

/-! ## Characters and their offsets -/

/-- The characters of a text with the offsets at which they start, the first
one at `start`. -/
def charStarts (start : Nat) : List Char → List (Nat × Char)
  | [] => []
  | c :: rest => (start, c) :: charStarts (start + c.utf8Size) rest

/-- The line breaks that start before the offset. -/
def breaksBefore (source : List Char) (offset : Nat) : List (Nat × Char) :=
  (charStarts 0 source).filter fun placed =>
    placed.1 < offset && placed.2 == '\n'

/-- The characters that start before the offset and behind all line breaks
before it. -/
def lineBefore (source : List Char) (offset : Nat) : List (Nat × Char) :=
  (charStarts 0 source).filter fun placed =>
    placed.1 < offset &&
      (breaksBefore source offset).all fun lineBreak =>
        lineBreak.1 < placed.1

theorem charStarts_append (start : Nat) (text more : List Char) :
    charStarts start (text ++ more) =
      charStarts start text ++
        charStarts (start + byteLength text) more := by
  induction text generalizing start with
  | nil =>
      rfl
  | cons c text inductionHypothesis =>
      rw [List.cons_append, charStarts, inductionHypothesis, charStarts,
        byteLength, Nat.add_assoc, List.cons_append]

theorem exists_split_of_mem_charStarts {start : Nat} {text : List Char}
    {placed : Nat × Char}
    (member : placed ∈ charStarts start text) :
    ∃ before more, text = before ++ placed.2 :: more ∧
      placed.1 = start + byteLength before := by
  induction text generalizing start with
  | nil =>
      cases member
  | cons c text inductionHypothesis =>
      rw [charStarts, List.mem_cons] at member
      rcases member with first | later
      · rw [first]
        exact ⟨[], text, rfl, rfl⟩
      · obtain ⟨before, more, whole, offset⟩ := inductionHypothesis later
        refine ⟨c :: before, more, ?_, ?_⟩
        · rw [whole, List.cons_append]
        · rw [offset, byteLength, Nat.add_assoc]

theorem charStarts_bounds {start : Nat} {text : List Char}
    {placed : Nat × Char}
    (member : placed ∈ charStarts start text) :
    start ≤ placed.1 ∧ placed.1 < start + byteLength text := by
  obtain ⟨before, more, whole, offset⟩ :=
    exists_split_of_mem_charStarts member
  have positive := byteLength_pos (List.cons_ne_nil placed.2 more)
  rw [whole, byteLength_append]
  omega

theorem length_charStarts (start : Nat) (text : List Char) :
    (charStarts start text).length = text.length := by
  induction text generalizing start with
  | nil =>
      rfl
  | cons c text inductionHypothesis =>
      rw [charStarts, List.length_cons, inductionHypothesis, List.length_cons]

theorem countP_charStarts (start : Nat) (text : List Char) (tested : Char) :
    (charStarts start text).countP (fun placed => placed.2 == tested) =
      text.count tested := by
  induction text generalizing start with
  | nil =>
      rfl
  | cons c text inductionHypothesis =>
      rw [charStarts, List.countP_cons, inductionHypothesis, List.count_cons]

/-! ## The characters before an offset -/

/-- The characters of a text that start fewer than the given number of bytes
into it. -/
def startingBefore : List Char → Nat → List Char
  | [], _ => []
  | _ :: _, 0 => []
  | c :: rest, bytes + 1 =>
      c :: startingBefore rest (bytes + 1 - c.utf8Size)

theorem exists_append_startingBefore (text : List Char) (bytes : Nat) :
    ∃ behind, text = startingBefore text bytes ++ behind ∧
      (behind = [] ∨ bytes ≤ byteLength (startingBefore text bytes)) := by
  induction text generalizing bytes with
  | nil =>
      exact ⟨[], rfl, Or.inl rfl⟩
  | cons c rest inductionHypothesis =>
      cases bytes with
      | zero =>
          exact ⟨c :: rest, rfl, Or.inr (Nat.zero_le _)⟩
      | succ bytes =>
          obtain ⟨behind, whole, reaches⟩ :=
            inductionHypothesis (bytes + 1 - c.utf8Size)
          refine ⟨behind, ?_, ?_⟩
          · rw [startingBefore, List.cons_append, ← whole]
          · rcases reaches with nothing | enough
            · exact Or.inl nothing
            · right
              rw [startingBefore, byteLength]
              omega

theorem startingBefore_append (front behind : List Char) :
    startingBefore (front ++ behind) (byteLength front) = front := by
  induction front with
  | nil =>
      cases behind with
      | nil =>
          rfl
      | cons c behind =>
          rfl
  | cons c front inductionHypothesis =>
      have positive := c.utf8Size_pos
      obtain ⟨size, whole⟩ : ∃ size, byteLength (c :: front) = size + 1 :=
        ⟨byteLength (c :: front) - 1, by
          simp only [byteLength]
          omega⟩
      have left : size + 1 - c.utf8Size = byteLength front := by
        simp only [byteLength] at whole
        omega
      rw [whole, List.cons_append, startingBefore, left, inductionHypothesis]

/-- Every character before the offset starts before the offset. -/
theorem byteLength_lt_of_startingBefore {text before more : List Char}
    {bytes : Nat} {c : Char}
    (split : startingBefore text bytes = before ++ c :: more) :
    byteLength before < bytes := by
  induction text generalizing bytes before with
  | nil =>
      simp [startingBefore] at split
  | cons d rest inductionHypothesis =>
      cases bytes with
      | zero =>
          simp [startingBefore] at split
      | succ bytes =>
          cases before with
          | nil =>
              exact Nat.succ_pos bytes
          | cons first before =>
              rw [startingBefore, List.cons_append] at split
              injection split with same split
              have less := inductionHypothesis split
              rw [byteLength, ← same]
              omega

/-- The characters that start before the offset are found by their offsets. -/
theorem filter_charStarts (start : Nat) (text : List Char) (bytes : Nat) :
    (charStarts start text).filter
        (fun placed => decide (placed.1 < start + bytes)) =
      charStarts start (startingBefore text bytes) := by
  obtain ⟨behind, whole, reaches⟩ := exists_append_startingBefore text bytes
  have inFront : ∀ placed ∈ charStarts start (startingBefore text bytes),
      decide (placed.1 < start + bytes) = true := by
    intro placed member
    obtain ⟨before, more, split, offset⟩ :=
      exists_split_of_mem_charStarts member
    have less := byteLength_lt_of_startingBefore split
    rw [decide_eq_true_eq]
    omega
  have outside : ∀ placed ∈
      charStarts (start + byteLength (startingBefore text bytes)) behind,
      ¬ decide (placed.1 < start + bytes) = true := by
    intro placed member
    have bounds := charStarts_bounds member
    rcases reaches with nothing | enough
    · rw [nothing] at member
      cases member
    · rw [decide_eq_true_eq]
      omega
  conv_lhs => rw [whole]
  rw [charStarts_append, List.filter_append, List.filter_eq_self.mpr inFront,
    List.filter_eq_nil_iff.mpr outside, List.append_nil]

/-! ## The walk over a source -/

namespace Position

theorem after_eq_foldl
    (position : Position) (text : List Char) (bytes : Nat) :
    position.after text bytes =
      (startingBefore text bytes).foldl step position := by
  induction text generalizing position bytes with
  | nil =>
      rfl
  | cons c rest inductionHypothesis =>
      cases bytes with
      | zero =>
          rfl
      | succ bytes =>
          rw [after, inductionHypothesis, startingBefore, List.foldl_cons]

theorem ofOffset_append (before behind : List Char) :
    ofOffset (before ++ behind) (byteLength before) =
      before.foldl step origin := by
  rw [ofOffset, after_eq_foldl, startingBefore_append]

theorem column_foldl_step_of_notMem {line : List Char}
    (noBreak : '\n' ∉ line)
    (position : Position) :
    (line.foldl step position).column = position.column + line.length := by
  induction line generalizing position with
  | nil =>
      rfl
  | cons c line inductionHypothesis =>
      rw [List.mem_cons, not_or] at noBreak
      have other : ¬ c = '\n' := fun same => noBreak.1 same.symm
      rw [List.foldl_cons, inductionHypothesis noBreak.2, step, if_neg other,
        List.length_cons, Nat.add_assoc, Nat.add_comm 1]

/-- A line break starts the columns again. -/
theorem column_foldl_step_of_break {line : List Char}
    (noBreak : '\n' ∉ line)
    (position : Position) (lines : List Char) :
    ((lines ++ '\n' :: line).foldl step position).column =
      1 + line.length := by
  rw [List.foldl_append, List.foldl_cons,
    column_foldl_step_of_notMem noBreak, step, if_pos rfl]

/-! ## The order of positions -/

/-- The position comes before the other one: on an earlier line, or on the same
line in an earlier column. -/
def Before (position other : Position) : Prop :=
  position.line < other.line ∨
    position.line = other.line ∧ position.column < other.column

theorem Before.trans {first second third : Position}
    (left : first.Before second)
    (right : second.Before third) :
    first.Before third := by
  unfold Before at left right ⊢
  omega

theorem Before.ne {position other : Position}
    (before : position.Before other) :
    position ≠ other := by
  intro same
  rw [same] at before
  unfold Before at before
  omega

theorem before_step (position : Position) (c : Char) :
    position.Before (position.step c) := by
  unfold Before step
  by_cases lineBreak : c = '\n'
  · rw [if_pos lineBreak]
    exact Or.inl (Nat.lt_succ_self _)
  · rw [if_neg lineBreak]
    exact Or.inr ⟨rfl, Nat.lt_succ_self _⟩

/-- What a walk reads takes it to a later position. -/
theorem before_foldl_step {text : List Char}
    (nonempty : text ≠ [])
    (position : Position) :
    position.Before (text.foldl step position) := by
  induction text generalizing position with
  | nil =>
      exact absurd rfl nonempty
  | cons c text inductionHypothesis =>
      rw [List.foldl_cons]
      have moved := before_step position c
      by_cases last : text = []
      · rw [last]
        exact moved
      · exact moved.trans (inductionHypothesis last _)

end Position

/-! ## Lines and columns as counts -/

/-- The last line of a text, and the lines before it if there are any. -/
theorem exists_lastLine (text : List Char) :
    '\n' ∉ text ∨
      ∃ lines line, text = lines ++ '\n' :: line ∧ '\n' ∉ line := by
  by_cases member : '\n' ∈ text
  · obtain ⟨lines, line, whole, noBreak⟩ :=
      List.eq_append_cons_of_mem (List.mem_reverse.mpr member)
    refine Or.inr ⟨line.reverse, lines.reverse, ?_, ?_⟩
    · rw [← List.reverse_reverse text, whole]
      simp
    · rw [List.mem_reverse]
      exact noBreak
  · exact Or.inl member

theorem breaksBefore_eq (source : List Char) (offset : Nat) :
    breaksBefore source offset =
      (charStarts 0 (startingBefore source offset)).filter
        fun placed => placed.2 == '\n' := by
  have found := filter_charStarts 0 source offset
  rw [Nat.zero_add] at found
  rw [breaksBefore, ← found, List.filter_filter]
  congr 1
  funext placed
  rw [Bool.and_comm]

theorem length_breaksBefore (source : List Char) (offset : Nat) :
    (breaksBefore source offset).length =
      (startingBefore source offset).count '\n' := by
  rw [breaksBefore_eq, ← List.countP_eq_length_filter, countP_charStarts]

theorem lineBefore_eq (source : List Char) (offset : Nat) :
    lineBefore source offset =
      (charStarts 0 (startingBefore source offset)).filter fun placed =>
        (breaksBefore source offset).all fun lineBreak =>
          lineBreak.1 < placed.1 := by
  have found := filter_charStarts 0 source offset
  rw [Nat.zero_add] at found
  rw [lineBefore, ← found, List.filter_filter]
  congr 1
  funext placed
  rw [Bool.and_comm]

theorem filter_lineBreaks_of_notMem {line : List Char}
    (noBreak : '\n' ∉ line)
    (start : Nat) :
    (charStarts start line).filter (fun placed => placed.2 == '\n') = [] := by
  rw [← List.length_eq_zero_iff, ← List.countP_eq_length_filter,
    countP_charStarts]
  exact List.count_eq_zero.mpr noBreak

/-- Behind all line breaks of a text stands its last line. -/
theorem filter_behindBreaks {line : List Char}
    (noBreak : '\n' ∉ line)
    (lines : List Char) :
    (charStarts 0 (lines ++ '\n' :: line)).filter (fun placed =>
        ((charStarts 0 (lines ++ '\n' :: line)).filter fun placed =>
          placed.2 == '\n').all fun lineBreak => lineBreak.1 < placed.1) =
      charStarts (byteLength lines + 1) line := by
  have starts : charStarts 0 (lines ++ '\n' :: line) =
      charStarts 0 lines ++ (byteLength lines, '\n') ::
        charStarts (byteLength lines + 1) line := by
    rw [charStarts_append, charStarts, Nat.zero_add]
    rfl
  have breaks : (charStarts 0 (lines ++ '\n' :: line)).filter
        (fun placed => placed.2 == '\n') =
      (charStarts 0 lines).filter (fun placed => placed.2 == '\n') ++
        [(byteLength lines, '\n')] := by
    rw [starts, List.filter_append, List.filter_cons_of_pos rfl,
      filter_lineBreaks_of_notMem noBreak]
  rw [breaks, starts, List.filter_append, List.filter_cons_of_neg (by simp)]
  have earlier : ∀ placed ∈ charStarts 0 lines,
      ¬ ((charStarts 0 lines).filter (fun placed => placed.2 == '\n') ++
        [(byteLength lines, '\n')]).all
          (fun lineBreak => decide (lineBreak.1 < placed.1)) = true := by
    intro placed member behind
    have bounds := charStarts_bounds member
    rw [List.all_eq_true] at behind
    have last := behind (byteLength lines, '\n') (by simp)
    rw [decide_eq_true_eq] at last
    omega
  have later : ∀ placed ∈ charStarts (byteLength lines + 1) line,
      ((charStarts 0 lines).filter (fun placed => placed.2 == '\n') ++
        [(byteLength lines, '\n')]).all
          (fun lineBreak => decide (lineBreak.1 < placed.1)) = true := by
    intro placed member
    have bounds := charStarts_bounds member
    rw [List.all_eq_true]
    intro lineBreak isBreak
    rw [decide_eq_true_eq]
    rcases List.mem_append.mp isBreak with inLines | last
    · have lineBounds := charStarts_bounds (List.mem_of_mem_filter inLines)
      omega
    · rw [List.mem_singleton.mp last]
      omega
  rw [List.filter_eq_nil_iff.mpr earlier, List.filter_eq_self.mpr later,
    List.nil_append]

/-- The characters behind all line breaks are counted by the column. -/
theorem length_lineBefore (source : List Char) (offset : Nat) :
    1 + (lineBefore source offset).length =
      ((startingBefore source offset).foldl Position.step .origin).column := by
  rw [lineBefore_eq, breaksBefore_eq]
  generalize startingBefore source offset = front
  rcases exists_lastLine front with noBreak | ⟨lines, line, rfl, noBreak⟩
  · rw [filter_lineBreaks_of_notMem noBreak,
      Position.column_foldl_step_of_notMem noBreak]
    simp [length_charStarts, Position.origin]
  · rw [filter_behindBreaks noBreak, length_charStarts,
      Position.column_foldl_step_of_break noBreak]

/-! ## Exact positions -/

/-- What the positions of a source are, and how they follow each other. -/
structure ExactPositions (source : List Char) : Prop where
  /-- A position counts line breaks, and characters behind the last of them. -/
  counts : ∀ offset, Position.ofOffset source offset =
    ⟨1 + (breaksBefore source offset).length,
      1 + (lineBefore source offset).length⟩
  /-- An offset has the position of the first boundary that is not before
  it. -/
  inside : ∀ offset, offset ≤ byteLength source →
    ∃ boundary,
      IsLeast {place | OnBoundary source place ∧ offset ≤ place} boundary ∧
        Position.ofOffset source offset =
          Position.ofOffset source boundary
  /-- An offset beyond the end has the position of the end. -/
  beyond : ∀ offset, byteLength source < offset →
    Position.ofOffset source offset =
      Position.ofOffset source (byteLength source)
  ordered : ∀ first second, OnBoundary source first →
    OnBoundary source second → first < second →
      (Position.ofOffset source first).Before
        (Position.ofOffset source second)
  distinct : ∀ first second, OnBoundary source first →
    OnBoundary source second → first ≠ second →
      Position.ofOffset source first ≠ Position.ofOffset source second

/-- Of two boundaries, the later one has the whole text before the earlier one
before it, and more. -/
theorem exists_middle {source front behind longer rest : List Char}
    (whole : source = front ++ behind)
    (otherWhole : source = longer ++ rest)
    (less : byteLength front < byteLength longer) :
    ∃ middle, middle ≠ [] ∧ longer = front ++ middle := by
  rw [whole] at otherWhole
  rcases List.append_eq_append_iff.mp otherWhole with
    ⟨middle, split, _⟩ | ⟨middle, split, _⟩
  · refine ⟨middle, ?_, split⟩
    intro empty
    rw [split, empty, List.append_nil] at less
    omega
  · rw [split, byteLength_append] at less
    omega

theorem ofOffset_eq_startingBefore (source : List Char) (offset : Nat) :
    Position.ofOffset source offset =
      Position.ofOffset source
        (byteLength (startingBefore source offset)) := by
  obtain ⟨behind, whole, _⟩ := exists_append_startingBefore source offset
  have reached := Position.ofOffset_append
    (startingBefore source offset) behind
  rw [← whole] at reached
  rw [reached, Position.ofOffset, Position.after_eq_foldl]

/-- The characters before an offset end at the first boundary that is not before
the offset. -/
theorem isLeast_startingBefore {source : List Char} {offset : Nat}
    (within : offset ≤ byteLength source) :
    IsLeast {place | OnBoundary source place ∧ offset ≤ place}
      (byteLength (startingBefore source offset)) := by
  obtain ⟨behind, whole, reaches⟩ :=
    exists_append_startingBefore source offset
  refine ⟨⟨⟨_, behind, whole, rfl⟩, ?_⟩, ?_⟩
  · rcases reaches with nothing | enough
    · rw [nothing, List.append_nil] at whole
      rwa [← whole]
    · exact enough
  · intro place isPlace
    obtain ⟨⟨before, rest, otherWhole, place⟩, notBefore⟩ := isPlace
    by_contra less
    rw [Nat.not_le, place] at less
    obtain ⟨middle, nonempty, split⟩ :=
      exists_middle otherWhole whole less
    -- The boundary lies inside the characters before the offset, so one of them
    -- starts there.
    cases middle with
    | nil =>
        exact nonempty rfl
    | cons c more =>
        have early := byteLength_lt_of_startingBefore split
        omega

theorem startingBefore_of_beyond {source : List Char} {offset : Nat}
    (outside : byteLength source < offset) :
    startingBefore source offset = source := by
  obtain ⟨behind, whole, reaches⟩ :=
    exists_append_startingBefore source offset
  rcases reaches with nothing | enough
  · rw [nothing, List.append_nil] at whole
    exact whole.symm
  · have lengths := congrArg byteLength whole
    rw [byteLength_append] at lengths
    omega

/-- Two walks over one source differ in what the longer one reads. -/
theorem ofOffset_before {source : List Char} {first second : Nat}
    (firstBoundary : OnBoundary source first)
    (secondBoundary : OnBoundary source second)
    (order : first < second) :
    (Position.ofOffset source first).Before
      (Position.ofOffset source second) := by
  obtain ⟨front, behind, whole, isFirst⟩ := firstBoundary
  obtain ⟨longer, rest, otherWhole, isSecond⟩ := secondBoundary
  rw [isFirst, isSecond] at order ⊢
  obtain ⟨middle, nonempty, split⟩ := exists_middle whole otherWhole order
  have shorter := Position.ofOffset_append front behind
  have further := Position.ofOffset_append longer rest
  rw [← whole] at shorter
  rw [← otherWhole, split, List.foldl_append] at further
  rw [shorter, split, further]
  exact Position.before_foldl_step nonempty _

/-- Positions count lines and columns exactly, follow each other as their
offsets do, and tell all boundaries apart. -/
theorem ofOffset_exact (source : List Char) : ExactPositions source := by
  refine ⟨?counts, ?inside, ?beyond, ?ordered, ?distinct⟩
  case counts =>
    intro offset
    have line : ((startingBefore source offset).foldl
          Position.step .origin).line =
        1 + (startingBefore source offset).count '\n' :=
      Position.line_foldl_step .origin _
    rw [Position.ofOffset, Position.after_eq_foldl, length_breaksBefore,
      length_lineBefore, ← line]
  case inside =>
    intro offset within
    exact ⟨_, isLeast_startingBefore within,
      ofOffset_eq_startingBefore source offset⟩
  case beyond =>
    intro offset outside
    rw [ofOffset_eq_startingBefore, startingBefore_of_beyond outside]
  case ordered =>
    intro first second firstBoundary secondBoundary order
    exact ofOffset_before firstBoundary secondBoundary order
  case distinct =>
    intro first second firstBoundary secondBoundary different
    rcases Nat.lt_or_gt_of_ne different with less | greater
    · exact (ofOffset_before firstBoundary secondBoundary less).ne
    · exact (ofOffset_before secondBoundary firstBoundary greater).ne.symm

example : (List.range 5).map (Position.ofOffset ['é', '\n', 'x']) =
    [⟨1, 1⟩, ⟨1, 2⟩, ⟨1, 2⟩, ⟨2, 1⟩, ⟨2, 2⟩] := by
  decide

end TeenyTiny
