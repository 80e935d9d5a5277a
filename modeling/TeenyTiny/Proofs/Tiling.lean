import Mathlib.Data.List.Basic
import TeenyTiny.Proofs.Spelling

/-!
# Tokens tile the source

The tokens of a source stand one behind the other, each on its own slice of the
text, and what lies between two of them is blank (`tokenize_tiles`).  Nothing
is skipped and nothing is read twice, down to the byte.
-/

namespace TeenyTiny

/-! ## Gaps -/

/-- Spaces, tabs and carriage returns. -/
def BlankRun (run : List Char) : Prop :=
  ∀ c ∈ run, isBlank c = true

/-- Blanks with a comment behind them, which stays on its line. -/
def CommentRun (run : List Char) : Prop :=
  ∃ blanks comment, run = blanks ++ '#' :: comment ∧
    BlankRun blanks ∧ '\n' ∉ comment

/-- The run separates lexemes if it stands before the text.  A comment only
ends with its line or with the source. -/
def GapBefore (gap rest : List Char) : Prop :=
  BlankRun gap ∨ CommentRun gap ∧ (rest = [] ∨ rest.head? = some '\n')

theorem blankRun_nil : BlankRun [] := by
  rintro _ ⟨⟩

theorem BlankRun.cons {c : Char} {run : List Char}
    (blank : isBlank c = true)
    (others : BlankRun run) :
    BlankRun (c :: run) := by
  intro d member
  rcases List.mem_cons.mp member with rfl | later
  · exact blank
  · exact others d later

theorem GapBefore.cons {c : Char} {gap rest : List Char}
    (blank : isBlank c = true)
    (isGap : GapBefore gap rest) :
    GapBefore (c :: gap) rest := by
  rcases isGap with others | ⟨⟨blanks, comment, rfl, others, inLine⟩, ends⟩
  · exact Or.inl (others.cons blank)
  · exact Or.inr ⟨⟨c :: blanks, comment, rfl, others.cons blank, inLine⟩, ends⟩

/-- What is skipped before a lexeme is a gap. -/
theorem gapBefore_splitBlanks (text : List Char) :
    GapBefore (splitBlanks text).1 (splitBlanks text).2 := by
  induction text with
  | nil =>
      exact Or.inl blankRun_nil
  | cons c rest inductionHypothesis =>
      unfold splitBlanks
      by_cases blank : isBlank c = true
      · rw [if_pos blank]
        exact inductionHypothesis.cons blank
      · rw [if_neg blank]
        by_cases comment : c = '#'
        · rw [if_pos comment]
          have inLine : '\n' ∉ rest.takeWhile (· ≠ '\n') := by
            intro member
            have other := List.all_eq_true.mp List.all_takeWhile _ member
            simp at other
          refine Or.inr ⟨⟨[], _, by simp [comment], blankRun_nil, inLine⟩, ?_⟩
          cases behind : rest.dropWhile (· ≠ '\n') with
          | nil =>
              exact Or.inl rfl
          | cons d more =>
              have ends : (rest.dropWhile (· ≠ '\n')).head? = some d := by
                rw [behind]
                rfl
              have isEnd := eq_false_of_head?_dropWhile ends
              right
              simpa using isEnd
        · rw [if_neg comment]
          exact Or.inl blankRun_nil

/-! ## Tiles -/

theorem byteLength_append (text more : List Char) :
    byteLength (text ++ more) = byteLength text + byteLength more := by
  induction text with
  | nil =>
      simp [byteLength]
  | cons c text inductionHypothesis =>
      simp only [List.cons_append, byteLength, inductionHypothesis]
      omega

theorem byteLength_pos {text : List Char}
    (nonempty : text ≠ []) :
    0 < byteLength text := by
  cases text with
  | nil =>
      exact absurd rfl nonempty
  | cons c text =>
      have positive := c.utf8Size_pos
      simp only [byteLength]
      omega

/-- The place of a token in a source: behind the text `before` and a gap it
stands on the `slice`, and `after` is the text behind it. -/
structure Tile (source before gap slice after : List Char) (token : Token) :
    Prop where
  whole : source = before ++ (gap ++ (slice ++ after))
  start : token.span.start = byteLength (before ++ gap)
  stop : token.span.stop = byteLength (before ++ (gap ++ slice))
  isGap : GapBefore gap (slice ++ after)
  spelled : slice = token.kind.spelling token.text
  admits : token.kind.Admits token.text
  ends : token.kind.EndsBefore after
  /-- No longer piece of the source is a lexeme, be it of another kind. -/
  longest : ∀ more further, after = more ++ further → more ≠ [] →
    ∀ (kind : Kind) (text : String), kind.Admits text →
      slice ++ more ≠ kind.spelling text
  keyword : ∀ word : Keyword,
    token.kind = .keyword word ↔ slice = word.text.toList

section Lexemes

variable {kind : Kind} {text : String} {after : List Char}

theorem keyword_iff_spelling
    (admits : kind.Admits text)
    (word : Keyword) :
    kind = .keyword word ↔ kind.spelling text = word.text.toList := by
  constructor
  · rintro rfl
    cases admits
    rfl
  · intro same
    by_cases atEnd : kind = .eof
    · subst atEnd
      cases admits
      cases word <;> cases same
    · have known : (Kind.keyword word).Admits word.text := rfl
      rw [← List.append_nil (kind.spelling text)] at same
      exact (Lexeme.eq_of_spelling_append atEnd admits kind.endsBefore_nil
        known same).2

theorem longest_of_endsBefore
    (admits : kind.Admits text)
    (ends : kind.EndsBefore after)
    (more further : List Char)
    (behind : after = more ++ further)
    (nonempty : more ≠ [])
    (other : Kind) (otherText : String)
    (otherAdmits : other.Admits otherText) :
    kind.spelling text ++ more ≠ other.spelling otherText := by
  rw [behind] at ends
  have endsBefore := ends.of_append
  by_cases atEnd : kind = .eof
  · subst atEnd
    obtain ⟨c, _, rfl⟩ := List.exists_cons_of_ne_nil nonempty
    cases endsBefore c rfl
  · intro same
    exact nonempty (Lexeme.eq_of_spelling_append atEnd admits endsBefore
      otherAdmits same).1

end Lexemes

namespace Tile

variable {source before gap slice after : List Char} {token : Token}

/-- A lexeme that the text behind it does not continue makes a tile. -/
theorem of_endsBefore
    (whole : source = before ++ (gap ++ (slice ++ after)))
    (span : token.span =
      ⟨byteLength (before ++ gap), byteLength (before ++ (gap ++ slice))⟩)
    (isGap : GapBefore gap (slice ++ after))
    (spelled : slice = token.kind.spelling token.text)
    (admits : token.kind.Admits token.text)
    (ends : token.kind.EndsBefore after) :
    Tile source before gap slice after token := by
  have longest := longest_of_endsBefore admits ends
  have keyword := keyword_iff_spelling admits
  rw [← spelled] at longest keyword
  exact ⟨whole, congrArg Span.start span, congrArg Span.stop span, isGap,
    spelled, admits, ends, longest, keyword⟩

theorem slice_ne_nil
    (tile : Tile source before gap slice after token)
    (inside : token.kind ≠ .eof) :
    slice ≠ [] := by
  obtain ⟨first, tail, spelled, _⟩ := Lexeme.exists_read_spelling inside
    tile.admits token.kind.endsBefore_nil
  rw [tile.spelled, spelled]
  exact List.cons_ne_nil first tail

/-- The end of the source takes no text and has none behind it. -/
theorem eq_nil_of_eof
    (tile : Tile source before gap slice after token)
    (kind : token.kind = .eof) :
    slice = [] ∧ after = [] := by
  have empty := tile.admits
  have spelled := tile.spelled
  have ends := tile.ends
  rw [kind] at empty spelled ends
  constructor
  · rw [spelled, empty]
    rfl
  · cases after with
    | nil =>
        rfl
    | cons c _ =>
        cases ends c rfl

end Tile

/-- A token that is read stands behind the text in front of the cursor, and
the cursor moves right behind the token. -/
theorem Cursor.exists_tile {cursor : Cursor} {token : Token}
    {source before : List Char}
    (whole : source = before ++ cursor.rest)
    (offset : cursor.offset = byteLength before)
    (read : cursor.next.1 = .ok token) :
    ∃ gap slice after, Tile source before gap slice after token ∧
      cursor.next.2.rest = after ∧
      cursor.next.2.offset = byteLength (before ++ (gap ++ slice)) := by
  have isGap := gapBefore_splitBlanks cursor.rest
  have cut := splitBlanks_append cursor.rest
  have start : cursor.start =
      byteLength (before ++ (splitBlanks cursor.rest).1) := by
    rw [byteLength_append, Cursor.start, offset]
  rcases next_ok_cases read with
    ⟨front, rfl, moved⟩ | ⟨first, rest, kind, front, wellFormed, rfl, moved⟩
  · rw [moved]
    rw [front] at isGap cut
    rw [List.append_nil] at cut
    refine ⟨(splitBlanks cursor.rest).1, [], [], ?_, rfl, ?_⟩
    · have behind : source = before ++ ((splitBlanks cursor.rest).1 ++ []) := by
        rw [List.append_nil, cut, whole]
      have span : (Token.eof cursor.start).span =
          ⟨byteLength (before ++ (splitBlanks cursor.rest).1),
            byteLength (before ++ ((splitBlanks cursor.rest).1 ++ []))⟩ := by
        rw [List.append_nil, ← start]
        rfl
      have empty : Kind.eof.Admits "" := rfl
      exact .of_endsBefore behind span isGap rfl empty Kind.eof.endsBefore_nil
    · rw [List.append_nil]
      exact start
  · have admits := Lexeme.admitted_read first rest kind wellFormed
    obtain ⟨spelled, ends⟩ := Lexeme.ended_read first rest kind wellFormed
    have span : (Lexeme.read first rest).spanAt cursor.start =
        ⟨byteLength (before ++ (splitBlanks cursor.rest).1),
          byteLength (before ++ ((splitBlanks cursor.rest).1 ++
            (Lexeme.read first rest).text))⟩ := by
      rw [← List.append_assoc, byteLength_append (before ++ _), ← start]
      rfl
    rw [moved]
    rw [front, ← Lexeme.read_append first rest] at isGap cut
    refine ⟨(splitBlanks cursor.rest).1, (Lexeme.read first rest).text,
      (Lexeme.read first rest).rest, ?_, rfl, congrArg Span.stop span⟩
    exact .of_endsBefore (by rw [whole, cut]) span isGap spelled admits ends

/-! ## Rows of tiles -/

/-- The tokens stand one behind the other from the end of the text `before` to
the end of the source. -/
inductive Row (source : List Char) : List Char → List Token → Prop
  | last {before gap : List Char} {token : Token}
      (kind : token.kind = .eof)
      (tile : Tile source before gap [] [] token) :
      Row source before [token]
  | cons {before gap slice after : List Char} {token : Token}
      {tokens : List Token}
      (inside : token.kind ≠ .eof)
      (tile : Tile source before gap slice after token)
      (row : Row source (before ++ (gap ++ slice)) tokens) :
      Row source before (token :: tokens)

/-- Where a row of tokens ends that starts at the given offset. -/
def stopOf (start : Nat) : List Token → Nat
  | [] => start
  | token :: rest => stopOf token.span.stop rest

namespace Row

variable {source before : List Char} {tokens : List Token}

theorem exists_eof
    (row : Row source before tokens) :
    ∃ body, tokens = body ++ [.eof (byteLength source)] ∧
      ∀ token ∈ body, token.kind ≠ .eof := by
  induction row with
  | @last before gap token kind tile =>
      refine ⟨[], ?_, by simp⟩
      have whole : source = before ++ gap := by
        simpa using tile.whole
      have start : token.span.start = byteLength source := by
        rw [tile.start, ← whole]
      have stop : token.span.stop = byteLength source := by
        rw [tile.stop, List.append_nil, ← whole]
      have empty := tile.admits
      rw [kind] at empty
      obtain ⟨_, _, _, _⟩ := token
      cases kind
      cases empty
      cases start
      cases stop
      rfl
  | @cons _ _ _ _ token _ inside _ _ inductionHypothesis =>
      obtain ⟨body, rfl, others⟩ := inductionHypothesis
      refine ⟨token :: body, rfl, ?_⟩
      intro other member
      rcases List.mem_cons.mp member with rfl | later
      · exact inside
      · exact others other later

theorem le_start
    (row : Row source before tokens)
    {token : Token}
    (member : token ∈ tokens) :
    byteLength before ≤ token.span.start := by
  induction row with
  | last _ tile =>
      rw [List.mem_singleton] at member
      subst member
      rw [tile.start, byteLength_append]
      omega
  | cons _ tile _ inductionHypothesis =>
      rcases List.mem_cons.mp member with rfl | later
      · rw [tile.start, byteLength_append]
        omega
      · have further := inductionHypothesis later
        rw [byteLength_append] at further
        omega

theorem pairwise
    (row : Row source before tokens) :
    tokens.Pairwise fun token later =>
      token.span.start < later.span.start ∧
        token.span.stop ≤ later.span.start := by
  induction row with
  | last _ _ =>
      exact List.pairwise_singleton _ _
  | cons inside tile row inductionHypothesis =>
      refine List.Pairwise.cons ?_ inductionHypothesis
      intro later member
      have further := row.le_start member
      have positive := byteLength_pos (tile.slice_ne_nil inside)
      have start := tile.start
      have stop := tile.stop
      simp only [byteLength_append] at start stop further
      omega

theorem exists_tile
    (row : Row source before tokens)
    {earlier later : List Token} {token : Token}
    (split : tokens = earlier ++ token :: later) :
    ∃ before' gap slice after,
      byteLength before' = stopOf (byteLength before) earlier ∧
        Tile source before' gap slice after token := by
  induction row generalizing earlier with
  | last _ tile =>
      cases earlier with
      | nil =>
          cases split
          exact ⟨_, _, _, _, rfl, tile⟩
      | cons _ earlier =>
          simp at split
  | @cons before gap slice after head tokens inside tile row
      inductionHypothesis =>
      cases earlier with
      | nil =>
          cases split
          exact ⟨_, _, _, _, rfl, tile⟩
      | cons _ earlier =>
          rw [List.cons_append] at split
          injection split with sameHead sameTail
          subst sameHead
          have further := inductionHypothesis sameTail
          rwa [← tile.stop] at further

end Row

theorem Cursor.Yields.row {cursor : Cursor} {tokens : List Token}
    {source before : List Char}
    (yields : cursor.Yields tokens none)
    (whole : source = before ++ cursor.rest)
    (offset : cursor.offset = byteLength before) :
    Row source before tokens := by
  generalize outcomeIs : none = outcome at yields
  induction yields generalizing before with
  | stop _ =>
      cases outcomeIs
  | finish read kind =>
      obtain ⟨gap, slice, after, tile, _, _⟩ :=
        exists_tile whole offset read
      obtain ⟨rfl, rfl⟩ := tile.eq_nil_of_eof kind
      exact .last kind tile
  | more read inside _ inductionHypothesis =>
      obtain ⟨gap, slice, after, tile, rest, further⟩ :=
        exists_tile whole offset read
      refine .cons inside tile (inductionHypothesis ?_ further outcomeIs)
      rw [tile.whole, rest]
      simp only [List.append_assoc]

/-- The tokens cover the source: one empty token at its end is the last, they
are in order and do not overlap, and each stands behind the one before it and a
gap. -/
structure Tiling (source : List Char) (tokens : List Token) : Prop where
  ends : ∃ body, tokens = body ++ [.eof (byteLength source)] ∧
    ∀ token ∈ body, token.kind ≠ .eof
  ordered : tokens.Pairwise fun token later =>
    token.span.start < later.span.start ∧ token.span.stop ≤ later.span.start
  placed : ∀ earlier token later, tokens = earlier ++ token :: later →
    ∃ before gap slice after, byteLength before = stopOf 0 earlier ∧
      Tile source before gap slice after token

/-- The tokens of a source tile it. -/
theorem tokenize_tiles
    {source : List Char} {tokens : List Token}
    (tokenized : tokenize source = .ok tokens) :
    Tiling source tokens := by
  have row : Row source [] tokens :=
    (yields_of_tokenize tokenized).row rfl rfl
  refine ⟨row.exists_eof, row.pairwise, ?_⟩
  intro earlier token later split
  exact row.exists_tile split

/-- A source with characters of several bytes and lexemes that touch. -/
def accentedSource : List Char :=
  " LET x=1.50\t# é\r\nPRINT\"né\"x<=2#".toList

theorem tokenize_tiles_accented :
    ∃ tokens, tokenize accentedSource = .ok tokens ∧
      tokens.length = 11 ∧ Tiling accentedSource tokens := by
  have tokenized : tokenize accentedSource =
      .ok [⟨.keyword .letKw, "LET", ⟨1, 4⟩⟩, ⟨.ident, "x", ⟨5, 6⟩⟩,
        ⟨.eq, "=", ⟨6, 7⟩⟩, ⟨.number, "1.50", ⟨7, 11⟩⟩,
        ⟨.newline, "\n", ⟨17, 18⟩⟩, ⟨.keyword .printKw, "PRINT", ⟨18, 23⟩⟩,
        ⟨.string, "né", ⟨23, 28⟩⟩, ⟨.ident, "x", ⟨28, 29⟩⟩,
        ⟨.ltEq, "<=", ⟨29, 31⟩⟩, ⟨.number, "2", ⟨31, 32⟩⟩,
        ⟨.eof, "", ⟨33, 33⟩⟩] := by
    decide +kernel
  exact ⟨_, tokenized, rfl, tokenize_tiles tokenized⟩

end TeenyTiny
