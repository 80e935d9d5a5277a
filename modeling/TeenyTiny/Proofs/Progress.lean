import TeenyTiny.Proofs.Tiling

/-!
# A cursor makes progress

Tokens may be read on behind an error, and the cursor then stands before, at or
behind the bad character.  Wherever it is left, it stands between two
characters of the source and never moves back.  As long as there is a lexeme,
well-formed or not, a reading takes at least one character, and the end of the
source stays the end (`forward_progress`).

One lemma says what a single reading does to the cursor (`Cursor.Stands.next`),
and all else follows from it by induction over the readings.
-/

namespace TeenyTiny

/-! ## Places in a source -/

/-- The offset lies between two characters of the source, or at one of its
ends. -/
def OnBoundary (source : List Char) (offset : Nat) : Prop :=
  ∃ before after, source = before ++ after ∧ offset = byteLength before

theorem OnBoundary.le {source : List Char} {offset : Nat}
    (boundary : OnBoundary source offset) :
    offset ≤ byteLength source := by
  obtain ⟨before, after, rfl, rfl⟩ := boundary
  rw [byteLength_append]
  omega

/-- The span starts and stops between characters of the source. -/
structure Span.Fits (span : Span) (source : List Char) : Prop where
  ordered : span.start ≤ span.stop
  inside : span.stop ≤ byteLength source
  starts : OnBoundary source span.start
  stops : OnBoundary source span.stop

/-- The span is that of the slice, which stands somewhere in the source. -/
def Span.Covers (span : Span) (source slice : List Char) : Prop :=
  ∃ before after, source = before ++ (slice ++ after) ∧
    span = ⟨byteLength before, byteLength (before ++ slice)⟩

theorem Span.Covers.fits {span : Span} {source slice : List Char}
    (covers : span.Covers source slice) :
    span.Fits source := by
  obtain ⟨before, after, rfl, rfl⟩ := covers
  have stops : OnBoundary (before ++ (slice ++ after))
      (byteLength (before ++ slice)) :=
    ⟨before ++ slice, after, by simp, rfl⟩
  refine ⟨?_, stops.le, ⟨before, slice ++ after, rfl, rfl⟩, stops⟩
  simp only [byteLength_append]
  omega

theorem Tile.covers {source before gap slice after : List Char}
    {token : Token}
    (tile : Tile source before gap slice after token) :
    token.span.Covers source slice := by
  refine ⟨before ++ gap, after, ?_, ?_⟩
  · rw [tile.whole, List.append_assoc]
  · rw [List.append_assoc, ← tile.start, ← tile.stop]

/-! ## Results of readings -/

/-- Whether a reading has met the end of the source. -/
def isEnd : Except LexicalError Token → Bool
  | .ok token => token.kind = .eof
  | .error _ => false

theorem isEnd_ok_iff (token : Token) :
    isEnd (.ok token) = true ↔ token.kind = .eof := by
  simp [isEnd]

/-! ## Where a fault lies -/

namespace Lexeme

/-- What was read of a malformed lexeme before the fault. -/
def lead (lexeme : Lexeme) (fault : LexicalFault) : List Char :=
  if fault.liesAhead then lexeme.text else []

/-- The text that the fault points at. -/
def marked (lexeme : Lexeme) (fault : LexicalFault) : List Char :=
  if fault.liesAhead then lexeme.rest.take 1 else lexeme.text

/-- The text behind the fault. -/
def beyond (lexeme : Lexeme) (fault : LexicalFault) : List Char :=
  if fault.liesAhead then lexeme.rest.drop 1 else lexeme.rest

theorem lead_append (lexeme : Lexeme) (fault : LexicalFault) :
    lexeme.lead fault ++ (lexeme.marked fault ++ lexeme.beyond fault) =
      lexeme.text ++ lexeme.rest := by
  by_cases ahead : fault.liesAhead = true
  · simp only [lead, marked, beyond, ahead, if_true, List.take_append_drop]
  · simp [lead, marked, beyond, ahead]

theorem faultSpanAt_eq
    (lexeme : Lexeme) (start : Nat) (fault : LexicalFault) :
    lexeme.faultSpanAt start fault =
      ⟨start + byteLength (lexeme.lead fault),
        start +
          byteLength (lexeme.lead fault ++ lexeme.marked fault)⟩ := by
  by_cases ahead : fault.liesAhead = true
  · simp [faultSpanAt, spanAt, lead, marked, ahead, byteLength_append,
      Nat.add_assoc]
  · simp [faultSpanAt, spanAt, lead, marked, ahead, byteLength]

end Lexeme

namespace Cursor

/-- The cursor after the given number of readings. -/
def forward (cursor : Cursor) : Nat → Cursor
  | 0 => cursor
  | count + 1 => (cursor.forward count).next.2

/-- The result of the reading that comes after the given number of others. -/
def outcome (cursor : Cursor) (index : Nat) : Except LexicalError Token :=
  (cursor.forward index).next.1

/-- The cursor stands in the source right behind the text `before`. -/
structure Stands (cursor : Cursor) (source before : List Char) : Prop where
  origin : cursor.source = source
  whole : source = before ++ cursor.rest
  offset : cursor.offset = byteLength before

theorem stands_ofSource (source : List Char) :
    (ofSource source).Stands source [] :=
  ⟨rfl, rfl, rfl⟩

variable {cursor : Cursor} {source before : List Char} {token : Token}
  {error : LexicalError}

/-- An error comes from a malformed lexeme in front. -/
theorem next_error_cases
    (failed : cursor.next.1 = .error error) :
    ∃ first rest fault,
      (splitBlanks cursor.rest).2 = first :: rest ∧
        (Lexeme.read first rest).reading = .error fault ∧
        error = ⟨fault,
          Position.ofOffset cursor.source
            ((Lexeme.read first rest).faultSpanAt cursor.start fault).start,
          (Lexeme.read first rest).faultSpanAt cursor.start fault⟩ := by
  unfold next at failed
  split at failed
  · cases failed
  · rename_i first rest front
    unfold Lexeme.toToken at failed
    dsimp only at failed
    split at failed
    · cases failed
    · rename_i fault malformed
      cases failed
      exact ⟨first, rest, fault, front, malformed, rfl⟩

/-! ## One reading -/

namespace Stands

theorem start_eq
    (stands : cursor.Stands source before) :
    cursor.start = byteLength (before ++ (splitBlanks cursor.rest).1) := by
  rw [byteLength_append, start, stands.offset]

/-- A reading skips a gap and takes the lexeme behind it.  It takes nothing
only at the end of the source. -/
theorem next
    (stands : cursor.Stands source before) :
    ∃ gap taken,
      cursor.next.2.Stands source (before ++ (gap ++ taken)) ∧
        (taken = [] ∧ cursor.next.1 = .ok (.eof (byteLength source)) ∧
            cursor.next.2.rest = [] ∨
          taken ≠ [] ∧ isEnd cursor.next.1 = false) := by
  have cut := splitBlanks_append cursor.rest
  have start := stands.start_eq
  cases front : (splitBlanks cursor.rest).2 with
  | nil =>
      rw [front, List.append_nil] at cut
      rw [cut, ← stands.whole] at start
      have moved : cursor.next =
          (.ok (.eof cursor.start), ⟨cursor.source, [], cursor.start⟩) := by
        simp [Cursor.next, front]
      rw [moved, start]
      refine ⟨cursor.rest, [], ⟨stands.origin, ?_, ?_⟩,
        Or.inl ⟨rfl, rfl, rfl⟩⟩
      · simp [← stands.whole]
      · simp [← stands.whole]
  | cons first rest =>
      have read := Lexeme.read_append first rest
      have moved : cursor.next =
          ((Lexeme.read first rest).toToken cursor.source cursor.start,
            ⟨cursor.source, (Lexeme.read first rest).rest,
              ((Lexeme.read first rest).spanAt cursor.start).stop⟩) := by
        simp [Cursor.next, front]
      have inside : isEnd ((Lexeme.read first rest).toToken
          cursor.source cursor.start) = false := by
        have noEnd := Lexeme.reading_read_ne_eof first rest
        unfold Lexeme.toToken
        cases reading : (Lexeme.read first rest).reading with
        | error fault =>
            rfl
        | ok kind =>
            rw [reading] at noEnd
            have other : kind ≠ .eof := fun same => noEnd (by rw [same])
            simpa [isEnd] using other
      rw [moved]
      refine ⟨(splitBlanks cursor.rest).1, (Lexeme.read first rest).text,
        ⟨stands.origin, ?_, ?_⟩,
        Or.inr ⟨Lexeme.read_text_ne_nil first rest, inside⟩⟩
      · have whole := stands.whole
        rw [← cut, front, ← read] at whole
        simpa using whole
      · rw [← List.append_assoc, byteLength_append, ← start]
        rfl

/-- The span of a fault in the lexeme behind the gap. -/
theorem faultSpan
    (stands : cursor.Stands source before)
    (lexeme : Lexeme) (fault : LexicalFault) :
    lexeme.faultSpanAt cursor.start fault =
      ⟨byteLength (before ++
          ((splitBlanks cursor.rest).1 ++ lexeme.lead fault)),
        byteLength (before ++ ((splitBlanks cursor.rest).1 ++
          (lexeme.lead fault ++ lexeme.marked fault)))⟩ := by
  rw [Lexeme.faultSpanAt_eq, stands.start_eq]
  simp only [byteLength_append, Span.mk.injEq]
  omega

theorem covers_of_error
    (stands : cursor.Stands source before)
    (failed : cursor.next.1 = .error error) :
    ∃ slice, error.span.Covers source slice := by
  obtain ⟨first, rest, fault, front, _, rfl⟩ := next_error_cases failed
  have cut := splitBlanks_append cursor.rest
  have whole := stands.whole
  rw [← cut, front, ← Lexeme.read_append first rest,
    ← (Lexeme.read first rest).lead_append fault] at whole
  refine ⟨(Lexeme.read first rest).marked fault,
    before ++ ((splitBlanks cursor.rest).1 ++
      (Lexeme.read first rest).lead fault),
    (Lexeme.read first rest).beyond fault, ?_, ?_⟩
  · simpa using whole
  · rw [stands.faultSpan]
    simp only [List.append_assoc]

theorem exists_tile
    (stands : cursor.Stands source before)
    (read : cursor.next.1 = .ok token) :
    ∃ gap slice after, Tile source before gap slice after token ∧
      cursor.next.2.Stands source (before ++ (gap ++ slice)) := by
  obtain ⟨gap, slice, after, tile, rest, offset⟩ :=
    Cursor.exists_tile stands.whole stands.offset read
  obtain ⟨_, _, moved, _⟩ := stands.next
  refine ⟨gap, slice, after, tile, moved.origin, ?_, offset⟩
  rw [tile.whole, rest]
  simp only [List.append_assoc]

end Stands

/-! ## Many readings -/

theorem Stands.forward
    (stands : cursor.Stands source before)
    (count : Nat) :
    ∃ further, (cursor.forward count).Stands source (before ++ further) := by
  induction count with
  | zero =>
      refine ⟨[], ?_⟩
      rw [List.append_nil]
      exact stands
  | succ count inductionHypothesis =>
      obtain ⟨further, standsThere⟩ := inductionHypothesis
      obtain ⟨gap, taken, moved, _⟩ := standsThere.next
      rw [List.append_assoc] at moved
      exact ⟨further ++ (gap ++ taken), moved⟩

theorem forward_add (cursor : Cursor) (first second : Nat) :
    cursor.forward (first + second) =
      (cursor.forward first).forward second := by
  induction second with
  | zero =>
      rfl
  | succ second inductionHypothesis =>
      rw [← Nat.add_assoc, Cursor.forward, inductionHypothesis]
      rfl

theorem offset_forward_le
    (stands : cursor.Stands source before)
    {count later : Nat}
    (order : count ≤ later) :
    (cursor.forward count).offset ≤ (cursor.forward later).offset := by
  obtain ⟨more, rfl⟩ := Nat.exists_eq_add_of_le order
  obtain ⟨further, standsThere⟩ := stands.forward count
  obtain ⟨rest, standsLater⟩ := standsThere.forward more
  rw [forward_add, standsThere.offset, standsLater.offset,
    byteLength_append (before ++ further)]
  omega

/-- At the end of the source every reading meets the end again. -/
theorem outcome_of_end
    (stands : cursor.Stands source before)
    {index later : Nat}
    (ends : isEnd (cursor.outcome index) = true)
    (order : index ≤ later) :
    cursor.outcome later = .ok (.eof (byteLength source)) ∧
      (cursor.forward (later + 1)).rest = [] := by
  obtain ⟨more, rfl⟩ := Nat.exists_eq_add_of_le order
  induction more with
  | zero =>
      obtain ⟨_, standsThere⟩ := stands.forward index
      obtain ⟨_, _, _, ⟨_, atEnd, empty⟩ | ⟨_, inside⟩⟩ := standsThere.next
      · exact ⟨atEnd, empty⟩
      · have inside : isEnd (cursor.outcome index) = false := inside
        rw [ends] at inside
        cases inside
  | succ more inductionHypothesis =>
      obtain ⟨_, empty⟩ := inductionHypothesis (Nat.le_add_right index more)
      obtain ⟨_, standsThere⟩ := stands.forward (index + more + 1)
      obtain ⟨gap, taken, moved, ⟨_, atEnd, stays⟩ | ⟨nonempty, _⟩⟩ :=
        standsThere.next
      · exact ⟨atEnd, stays⟩
      · -- There is no text left that the reading could take.
        have whole := standsThere.whole
        rw [moved.whole, empty] at whole
        simp [nonempty] at whole

/-- Every reading that does not meet the end takes a character of its own. -/
theorem countP_outcome_le
    (stands : cursor.Stands source before)
    (count : Nat) :
    (List.range count).countP (fun index => !isEnd (cursor.outcome index)) +
        (cursor.forward count).rest.length ≤
      cursor.rest.length := by
  induction count with
  | zero =>
      simp [Cursor.forward]
  | succ count inductionHypothesis =>
      obtain ⟨further, standsThere⟩ := stands.forward count
      obtain ⟨gap, taken, moved, took⟩ := standsThere.next
      have whole := standsThere.whole
      rw [moved.whole] at whole
      have lengths := congrArg List.length whole
      simp only [List.length_append] at lengths
      rw [List.range_succ, List.countP_append, List.countP_singleton]
      rw [Cursor.forward, Cursor.outcome]
      rcases took with ⟨_, atEnd, _⟩ | ⟨nonempty, inside⟩
      · have ends : isEnd (.ok (.eof (byteLength source))) = true := rfl
        rw [atEnd, ends]
        simp only [Bool.not_true, Bool.false_eq_true, if_false]
        omega
      · have positive := List.length_pos_iff.mpr nonempty
        rw [inside]
        simp only [Bool.not_false, if_true]
        omega

end Cursor

/-- What holds of all readings from the start of a source, those behind an
error included. -/
structure MakesProgress (source : List Char) : Prop where
  /-- The cursor stands between two characters, and before it lies the part of
  the source that is not ahead of it. -/
  placed : ∀ count,
    OnBoundary source ((Cursor.ofSource source).forward count).offset ∧
      ((Cursor.ofSource source).forward count).offset ≤ byteLength source ∧
      ∃ before, ((Cursor.ofSource source).forward count).Stands source before
  /-- The cursor does not move back. -/
  ordered : ∀ count later, count ≤ later →
    ((Cursor.ofSource source).forward count).offset ≤
      ((Cursor.ofSource source).forward later).offset
  /-- The spans of all tokens and errors can be cut out of the source. -/
  tokenFits : ∀ index token,
    (Cursor.ofSource source).outcome index = .ok token →
      token.span.Fits source
  errorFits : ∀ index error,
    (Cursor.ofSource source).outcome index = .error error →
      error.span.Fits source
  /-- A reading that does not meet the end takes at least one character. -/
  moves : ∀ index,
    isEnd ((Cursor.ofSource source).outcome index) = false →
      ∃ before taken after, source = before ++ (taken ++ after) ∧
        taken ≠ [] ∧
        ((Cursor.ofSource source).forward index).offset = byteLength before ∧
        ((Cursor.ofSource source).forward (index + 1)).offset =
          byteLength (before ++ taken)
  /-- No more readings than characters come before the end. -/
  bounded : ∀ count,
    (List.range count).countP
        (fun index => !isEnd ((Cursor.ofSource source).outcome index)) ≤
      source.length
  /-- The end of the source stays the end. -/
  ends : ∀ index token,
    (Cursor.ofSource source).outcome index = .ok token →
      token.kind = .eof →
        token = .eof (byteLength source) ∧
          ∀ later, index ≤ later →
            (Cursor.ofSource source).outcome later = .ok token ∧
              ((Cursor.ofSource source).forward (later + 1)).offset =
                byteLength source

/-- A cursor makes progress on every source. -/
theorem forward_progress (source : List Char) : MakesProgress source := by
  have stands := Cursor.stands_ofSource source
  refine ⟨?placed, ?ordered, ?tokenFits, ?errorFits, ?moves, ?bounded, ?ends⟩
  case placed =>
    intro count
    obtain ⟨further, standsThere⟩ := stands.forward count
    have boundary : OnBoundary source
        ((Cursor.ofSource source).forward count).offset :=
      ⟨_, _, standsThere.whole, standsThere.offset⟩
    exact ⟨boundary, boundary.le, _, standsThere⟩
  case ordered =>
    intro count later order
    exact Cursor.offset_forward_le stands order
  case tokenFits =>
    intro index token read
    obtain ⟨_, standsThere⟩ := stands.forward index
    obtain ⟨_, _, _, tile, _⟩ := standsThere.exists_tile read
    exact tile.covers.fits
  case errorFits =>
    intro index error failed
    obtain ⟨_, standsThere⟩ := stands.forward index
    obtain ⟨slice, covers⟩ := standsThere.covers_of_error failed
    exact covers.fits
  case moves =>
    intro index inside
    obtain ⟨further, standsThere⟩ := stands.forward index
    obtain ⟨gap, taken, moved, ⟨_, atEnd, _⟩ | ⟨nonempty, _⟩⟩ :=
      standsThere.next
    · rw [Cursor.outcome, atEnd] at inside
      cases inside
    · have whole := moved.whole
      rw [List.append_assoc] at whole
      exact ⟨_, gap ++ taken, _, whole, by simp [nonempty],
        standsThere.offset, moved.offset⟩
  case bounded =>
    intro count
    have counted := Cursor.countP_outcome_le stands count
    simp only [Cursor.ofSource] at counted ⊢
    omega
  case ends =>
    intro index token read kind
    have ends : isEnd ((Cursor.ofSource source).outcome index) = true := by
      rw [read, isEnd_ok_iff]
      exact kind
    obtain ⟨atEnd, _⟩ := Cursor.outcome_of_end stands ends (Nat.le_refl index)
    rw [read] at atEnd
    cases atEnd
    refine ⟨rfl, ?_⟩
    intro later order
    obtain ⟨again, empty⟩ := Cursor.outcome_of_end stands ends order
    obtain ⟨_, standsLater⟩ := stands.forward (later + 1)
    have whole := standsLater.whole
    rw [empty, List.append_nil] at whole
    refine ⟨again, ?_⟩
    rw [standsLater.offset, ← whole]

end TeenyTiny
