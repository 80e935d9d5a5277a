import TeenyTiny.Proofs.Tiling

/-!
# Tokenizing undoes rendering

Any list of well-formed lexemes can be written down and read back
(`tokenize_renders`).  Blanks between them are free, and few neighbours need
one: two words, a word or a number before a number, and an operator before an
equals sign that would join it.
-/

namespace TeenyTiny

/-! ## Renderings -/

namespace Kind

/-- Keywords and identifiers. -/
def isWord : Kind → Bool
  | .keyword _ => true
  | .ident => true
  | _ => false

/-- Whether a lexeme of the first kind has to be kept apart from one of the
second kind behind it. -/
def clashes (kind next : Kind) : Bool :=
  kind.isWord && (next.isWord || next == .number) ||
    kind == .number && next == .number ||
    (kind == .eq || kind == .lt || kind == .gt) &&
      (next == .eq || next == .eqEq)

end Kind

/-- The text is the lexemes, written one behind the other with gaps before
them and at the end.  A comment stands before the end of a line or of the text
only.  The kind is that of the lexeme in front of the text, if there is one. -/
inductive Renders : Option Kind → List (Kind × String) → List Char → Prop
  | done {previous : Option Kind} {gap : List Char}
      (isGap : BlankRun gap ∨ CommentRun gap) :
      Renders previous [] gap
  | lexeme {previous : Option Kind} {kind : Kind} {text : String}
      {lexemes : List (Kind × String)} {gap rest : List Char}
      (inside : kind ≠ .eof)
      (admits : kind.Admits text)
      (isGap : BlankRun gap ∨ kind = .newline ∧ CommentRun gap)
      (apart : ∀ before, previous = some before →
        before.clashes kind = true → gap ≠ [])
      (renders : Renders (some kind) lexemes rest) :
      Renders previous ((kind, text) :: lexemes)
        (gap ++ (kind.spelling text ++ rest))

/-! ## Neighbours -/

section Neighbours

variable {kind next : Kind} {text : String} {gap rest : List Char}

/-- Words start with a letter, numbers with a digit, and all other lexemes with
signs that are neither.  Only two of them start with an equals sign. -/
theorem exists_first
    (inside : kind ≠ .eof)
    (admits : kind.Admits text) :
    ∃ first tail, kind.spelling text = first :: tail ∧
      (kind.isWord = true ∧ first.isAlpha = true ∨
        kind = .number ∧ first.isDigit = true ∨
        first.isAlphanum = false ∧ first ≠ '.' ∧
          (first = '=' → kind = .eq ∨ kind = .eqEq)) := by
  cases kind with
  | eof =>
      exact absurd rfl inside
  | number =>
      obtain ⟨first, tail, spelled, digit⟩ := IsNumber.exists_digit admits
      exact ⟨first, tail, spelled, Or.inr (Or.inl ⟨rfl, digit⟩)⟩
  | ident =>
      obtain ⟨first, tail, spelled, letter⟩ := admits.1.exists_letter
      exact ⟨first, tail, spelled, Or.inl ⟨rfl, letter⟩⟩
  | keyword word =>
      cases admits
      obtain ⟨first, tail, spelled, letter⟩ :=
        (Lexeme.isName_keyword word).exists_letter
      exact ⟨first, tail, spelled, Or.inl ⟨rfl, letter⟩⟩
  | string =>
      exact ⟨'"', _, rfl, Or.inr (Or.inr (by decide))⟩
  | _ =>
      cases admits
      exact ⟨_, _, rfl, Or.inr (Or.inr (by decide))⟩

/-- A lexeme that is continued by the first character of the next one clashes
with it. -/
theorem clashes_of_isContinuedBy {first : Char}
    (inside : kind ≠ .eof)
    (starts : next.isWord = true ∧ first.isAlpha = true ∨
      next = .number ∧ first.isDigit = true ∨
      first.isAlphanum = false ∧ first ≠ '.' ∧
        (first = '=' → next = .eq ∨ next = .eqEq))
    (continued : kind.isContinuedBy first = true) :
    kind.clashes next = true := by
  cases kind with
  | eof =>
      exact absurd rfl inside
  | keyword _ | ident =>
      rcases starts with ⟨isWord, _⟩ | ⟨rfl, _⟩ | ⟨sign, _⟩
      · rw [Kind.clashes, isWord]
        rfl
      · rfl
      · have alphanumeric : first.isAlphanum = true := continued
        rw [sign] at alphanumeric
        cases alphanumeric
  | number =>
      have decimal : first.isDigit = true ∨ first = '.' := by
        simpa [Kind.isContinuedBy] using continued
      rcases starts with ⟨_, letter⟩ | ⟨rfl, _⟩ | ⟨sign, noPoint, _⟩
      · rcases decimal with digit | rfl
        · rw [isAlpha_eq_false_of_isDigit digit] at letter
          cases letter
        · cases letter
      · rfl
      · rcases decimal with digit | point
        · simp [Char.isAlphanum, digit] at sign
        · exact absurd point noPoint
  | eq | lt | gt =>
      have equals : first = '=' := by
        simpa [Kind.isContinuedBy] using continued
      subst equals
      rcases starts with ⟨_, letter⟩ | ⟨_, digit⟩ | ⟨_, _, isEquals⟩
      · cases letter
      · cases digit
      · rcases isEquals rfl with rfl | rfl <;> rfl
  | _ =>
      cases continued

/-- Neighbours that do not clash need no gap. -/
theorem endsBefore_spelling
    (inside : kind ≠ .eof)
    (harmless : kind.clashes next ≠ true)
    (nextInside : next ≠ .eof)
    (nextAdmits : next.Admits text)
    (rest : List Char) :
    kind.EndsBefore (next.spelling text ++ rest) := by
  obtain ⟨first, tail, spelled, starts⟩ := exists_first nextInside nextAdmits
  rw [spelled, List.cons_append]
  apply Kind.endsBefore_cons
  rw [← Bool.not_eq_true]
  intro continued
  exact harmless (clashes_of_isContinuedBy inside starts continued)

/-- A gap ends any lexeme before it. -/
theorem endsBefore_gap
    (inside : kind ≠ .eof)
    (isGap : BlankRun gap ∨ CommentRun gap)
    (nonempty : gap ≠ [])
    (rest : List Char) :
    kind.EndsBefore (gap ++ rest) := by
  have ends : ∀ c, isBlank c = true ∨ c = '#' →
      kind.isContinuedBy c = false := by
    intro c separates
    have listed : ((c = ' ' ∨ c = '\t') ∨ c = '\r') ∨ c = '#' := by
      simpa [isBlank] using separates
    cases kind with
    | eof =>
        exact absurd rfl inside
    | _ =>
        rcases listed with ((rfl | rfl) | rfl) | rfl <;> rfl
  obtain ⟨c, others, rfl⟩ := List.exists_cons_of_ne_nil nonempty
  apply Kind.endsBefore_cons
  apply ends
  rcases isGap with blanks | ⟨blanks, comment, whole, areBlank, _⟩
  · exact Or.inl (blanks c (by simp))
  · cases blanks with
    | nil =>
        cases whole
        exact Or.inr rfl
    | cons d blanks =>
        cases whole
        exact Or.inl (areBlank c (by simp))

end Neighbours

/-- The lexeme in front of a rendering is not continued by it. -/
theorem Renders.endsBefore {kind : Kind} {lexemes : List (Kind × String)}
    {text : List Char}
    (renders : Renders (some kind) lexemes text)
    (inside : kind ≠ .eof) :
    kind.EndsBefore text := by
  cases renders with
  | done isGap =>
      by_cases empty : text = []
      · rw [empty]
        exact kind.endsBefore_nil
      · have ends := endsBefore_gap inside isGap empty []
        rwa [List.append_nil] at ends
  | lexeme nextInside admits isGap apart _ =>
      rename_i gap rest _
      by_cases empty : gap = []
      · subst empty
        apply endsBefore_spelling inside _ nextInside admits
        intro clash
        exact apart kind rfl clash rfl
      · exact endsBefore_gap inside (isGap.imp_right And.right) empty _

/-! ## Reading a rendering -/

theorem splitBlanks_of_front {rest : List Char}
    (front : ∀ c, rest.head? = some c → isBlank c = false ∧ c ≠ '#') :
    splitBlanks rest = ([], rest) := by
  cases rest with
  | nil =>
      rfl
  | cons c rest =>
      obtain ⟨noBlank, noComment⟩ := front c rfl
      simp [splitBlanks, noBlank, noComment]

theorem splitBlanks_blankRun {blanks : List Char}
    (areBlank : BlankRun blanks)
    (text : List Char) :
    splitBlanks (blanks ++ text) =
      (blanks ++ (splitBlanks text).1, (splitBlanks text).2) := by
  induction blanks with
  | nil =>
      rfl
  | cons c blanks inductionHypothesis =>
      have blank := areBlank c (by simp)
      have others : BlankRun blanks :=
        fun d member => areBlank d (List.mem_cons_of_mem c member)
      simp [splitBlanks, blank, inductionHypothesis others]

/-- A gap is skipped as a whole. -/
theorem splitBlanks_gap {gap rest : List Char}
    (isGap : GapBefore gap rest)
    (front : ∀ c, rest.head? = some c → isBlank c = false ∧ c ≠ '#') :
    splitBlanks (gap ++ rest) = (gap, rest) := by
  rcases isGap with areBlank | ⟨⟨blanks, comment, rfl, areBlank, inLine⟩, ends⟩
  · rw [splitBlanks_blankRun areBlank, splitBlanks_of_front front,
      List.append_nil]
  · have inside : ∀ c ∈ comment, decide (c ≠ '\n') = true := by
      intro c member
      apply decide_eq_true
      rintro rfl
      exact inLine member
    have stops : ∀ c, rest.head? = some c → decide (c ≠ '\n') = false := by
      intro c first
      rcases ends with rfl | lineEnd
      · cases first
      · rw [lineEnd] at first
        cases first
        rfl
    have skipped : splitBlanks ('#' :: (comment ++ rest)) =
        ('#' :: comment, rest) := by
      have noBlank : isBlank '#' = false := rfl
      simp only [splitBlanks, noBlank, Bool.false_eq_true, if_false, if_true,
        takeWhile_append_of_stop inside stops,
        dropWhile_append_of_stop inside stops]
    rw [List.append_assoc, List.cons_append, splitBlanks_blankRun areBlank,
      skipped]

theorem Lexeme.content_spelling (kind : Kind) (text : String)
    (rest : List Char) :
    (Lexeme.mk (.ok kind) (kind.spelling text) rest).content kind =
      text.toList := by
  cases kind <;> simp [Lexeme.content, Kind.spelling]

/-- A lexeme behind a gap is read back, and the cursor moves right behind
it. -/
theorem Cursor.next_spelling {cursor : Cursor} {kind : Kind} {text : String}
    {gap rest : List Char}
    (front : cursor.rest = gap ++ (kind.spelling text ++ rest))
    (inside : kind ≠ .eof)
    (admits : kind.Admits text)
    (isGap : GapBefore gap (kind.spelling text ++ rest))
    (ends : kind.EndsBefore rest) :
    ∃ token, cursor.next.1 = .ok token ∧ token.kind = kind ∧
      token.text = text ∧ cursor.next.2.rest = rest := by
  obtain ⟨first, tail, spelled, read⟩ :=
    Lexeme.exists_read_spelling inside admits ends
  have notBlank : isBlank first = false ∧ first ≠ '#' :=
    Lexeme.not_blank_of_read (congrArg Lexeme.reading read)
  have skipped : splitBlanks cursor.rest =
      (gap, kind.spelling text ++ rest) := by
    rw [front]
    apply splitBlanks_gap isGap
    intro c isFirst
    rw [spelled] at isFirst
    cases isFirst
    exact notBlank
  have content := Lexeme.content_spelling kind text rest
  have made : cursor.next =
      (.ok ⟨kind, text, (Lexeme.read first (tail ++ rest)).spanAt cursor.start⟩,
        ⟨cursor.source, rest,
          ((Lexeme.read first (tail ++ rest)).spanAt cursor.start).stop⟩) := by
    rw [Cursor.next, skipped, spelled, List.cons_append]
    dsimp only
    rw [Lexeme.toToken, read]
    dsimp only
    rw [content, String.ofList_toList]
  rw [made]
  exact ⟨_, rfl, rfl, rfl, rfl⟩

/-- A gap at the end of the text leaves nothing but the end. -/
theorem Cursor.next_gap {cursor : Cursor}
    (isGap : BlankRun cursor.rest ∨ CommentRun cursor.rest) :
    ∃ offset, cursor.next.1 = .ok (.eof offset) := by
  have gapBefore : GapBefore cursor.rest [] :=
    isGap.imp_right fun comment => ⟨comment, Or.inl rfl⟩
  have skipped : splitBlanks cursor.rest = (cursor.rest, []) := by
    have cut := splitBlanks_gap gapBefore (by rintro _ ⟨⟩)
    rwa [List.append_nil] at cut
  refine ⟨cursor.start, ?_⟩
  rw [Cursor.next, skipped]

/-- From a rendering on, a cursor yields the lexemes. -/
theorem Renders.exists_yields {previous : Option Kind}
    {lexemes : List (Kind × String)} {text : List Char}
    (renders : Renders previous lexemes text)
    {cursor : Cursor}
    (front : cursor.rest = text) :
    ∃ tokens, cursor.Yields tokens none ∧
      tokens.map (fun token => (token.kind, token.text)) =
        lexemes ++ [(.eof, "")] := by
  induction renders generalizing cursor with
  | done isGap =>
      rw [← front] at isGap
      obtain ⟨offset, read⟩ := Cursor.next_gap isGap
      exact ⟨[.eof offset], .finish read rfl, rfl⟩
  | @lexeme _ kind text lexemes gap rest inside admits isGap _ renders
      inductionHypothesis =>
      have gapBefore : GapBefore gap (kind.spelling text ++ rest) := by
        rcases isGap with blanks | ⟨rfl, comment⟩
        · exact Or.inl blanks
        · cases admits
          exact Or.inr ⟨comment, Or.inr rfl⟩
      obtain ⟨token, read, rfl, rfl, moved⟩ := Cursor.next_spelling front
        inside admits gapBefore (renders.endsBefore inside)
      obtain ⟨tokens, yields, same⟩ := inductionHypothesis moved
      refine ⟨token :: tokens, .more read inside yields, ?_⟩
      rw [List.map_cons, same]
      rfl

/-- However well-formed lexemes are written down, tokenizing gives them back,
with the end of the source behind them. -/
theorem tokenize_renders
    {lexemes : List (Kind × String)} {source : List Char}
    (renders : Renders none lexemes source) :
    ∃ tokens, tokenize source = .ok tokens ∧
      tokens.map (fun token => (token.kind, token.text)) =
        lexemes ++ [(.eof, "")] := by
  have front : (Cursor.ofSource source).rest = source := rfl
  obtain ⟨tokens, yields, same⟩ := renders.exists_yields front
  exact ⟨tokens, yields.tokens_eq, same⟩

/-- Lexemes that touch wherever they may, with a comment at the end of the line
and another at the end. -/
def touchingSource : List Char :=
  "IF 12x\"é\"= ==\r#=\n #".toList

def touchingLexemes : List (Kind × String) :=
  [(.keyword .ifKw, "IF"), (.number, "12"), (.ident, "x"), (.string, "é"),
    (.eq, "="), (.eqEq, "=="), (.newline, "\n")]

theorem tokenize_renders_touching :
    Renders none touchingLexemes touchingSource ∧
      ∃ tokens, tokenize touchingSource = .ok tokens ∧
        tokens.map (fun token => (token.kind, token.text)) =
          touchingLexemes ++ [(.eof, "")] := by
  have blank : BlankRun [' '] := List.all_eq_true.mp rfl
  have comment : CommentRun ['\r', '#', '='] :=
    ⟨['\r'], ['='], rfl, List.all_eq_true.mp rfl, by decide⟩
  have lastLine : Renders (some .newline) [] [' ', '#'] :=
    .done (Or.inr ⟨[' '], [], rfl, blank, by simp⟩)
  have lineEnd := @Renders.lexeme (some .eqEq) .newline "\n" _ _ _
    (by decide) rfl (Or.inr ⟨rfl, comment⟩) (by simp) lastLine
  have test := @Renders.lexeme (some .eq) .eqEq "==" _ _ _
    (by decide) rfl (Or.inl blank) (by simp) lineEnd
  have equals := @Renders.lexeme (some .string) .eq "=" _ _ _
    (by decide) rfl (Or.inl blankRun_nil) (by rintro _ ⟨⟩ ⟨⟩) test
  have quoted := @Renders.lexeme (some .ident) .string "é" _ _ _
    (by decide) (List.all_eq_true.mp rfl) (Or.inl blankRun_nil)
    (by rintro _ ⟨⟩ ⟨⟩) equals
  have name := @Renders.lexeme (some .number) .ident "x" _ _ _
    (by decide) ⟨by decide, rfl⟩ (Or.inl blankRun_nil)
    (by rintro _ ⟨⟩ ⟨⟩) quoted
  have digits : Kind.number.Admits "12" :=
    .whole (by decide) (List.all_eq_true.mp rfl)
  have number := @Renders.lexeme (some (.keyword .ifKw)) .number "12" _ _ _
    (by decide) digits (Or.inl blank) (by simp) name
  have renders : Renders none touchingLexemes touchingSource :=
    @Renders.lexeme none (.keyword .ifKw) "IF" _ _ _
      (by decide) rfl (Or.inl blankRun_nil) (by rintro _ ⟨⟩) number
  exact ⟨renders, tokenize_renders renders⟩

end TeenyTiny
