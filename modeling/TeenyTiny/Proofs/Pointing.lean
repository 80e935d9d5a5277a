import Mathlib.Data.List.Nodup
import TeenyTiny.Proofs.LexicalErrors
import TeenyTiny.Proofs.Targets

/-!
# What a fault points at

A fault points at a piece of the source, whatever characters stand before it.
A broken rule of the grammar points at one token, and a misused name at just
that name: the variable that has no value, the label that is declared for the
second time, or the first jump to the first label that is missing
(`compile_points_at_source`).

The spans in a fault are those of tokens, some of them read long before, so all
that is needed is that every token lies in the source where its span says.
-/

namespace TeenyTiny

/-! ## Tokens in the source -/

namespace Cursor

variable {cursor : Cursor} {source before : List Char} {token : Token}
  {tokens : List Token} {outcome : Option LexicalError}

/-- Every token lies in the source where its span says. -/
theorem Yields.exists_tile
    (yields : cursor.Yields tokens outcome)
    (stands : cursor.Stands source before)
    (member : token ∈ tokens) :
    ∃ front gap slice after, Tile source front gap slice after token := by
  induction yields generalizing before with
  | stop _ =>
      cases member
  | finish read _ =>
      obtain ⟨gap, slice, after, tile, _⟩ := stands.exists_tile read
      rw [List.mem_singleton.mp member]
      exact ⟨before, gap, slice, after, tile⟩
  | more read _ _ inductionHypothesis =>
      obtain ⟨gap, slice, after, tile, moved⟩ := stands.exists_tile read
      rcases List.mem_cons.mp member with rfl | later
      · exact ⟨before, gap, slice, after, tile⟩
      · exact inductionHypothesis moved later

end Cursor

theorem FailsBehind.fits {source before : List Char} {error : LexicalError}
    (fails : FailsBehind source before error) :
    error.span.Fits source := by
  obtain ⟨gap, lead, marked, after, _, whole, _, _, rfl⟩ := fails
  have covers : (⟨byteLength (before ++ (gap ++ lead)),
      byteLength (before ++ (gap ++ (lead ++ marked)))⟩ : Span).Covers
        source marked := by
    refine ⟨before ++ (gap ++ lead), after, ?_, ?_⟩
    · rw [whole]
      simp only [List.append_assoc]
    · simp only [List.append_assoc]
  exact covers.fits

/-- Behind `before`, the token of the stream is a name, which the source holds
at the span of the token. -/
structure NameAt
    (source : List Char) (tokens before : List Token) (token : Token) :
    Prop where
  placed : ∃ after, tokens = before ++ token :: after
  kind : token.kind = .ident
  isName : IsName token.text.toList
  covers : token.span.Covers source token.text.toList

section Streams

variable {source : List Char} {tokens before after : List Token}
  {token : Token} {outcome : Option LexicalError}

theorem span_fits_of_yields
    (yields : (Cursor.ofSource source).Yields tokens outcome)
    (placed : tokens = before ++ token :: after) :
    token.span.Fits source := by
  have member : token ∈ tokens := by
    simp [placed]
  obtain ⟨_, _, _, _, tile⟩ :=
    yields.exists_tile (Cursor.stands_ofSource source) member
  exact tile.covers.fits

theorem nameAt_of_yields
    (yields : (Cursor.ofSource source).Yields tokens outcome)
    (placed : tokens = before ++ token :: after)
    (kind : token.kind = .ident) :
    NameAt source tokens before token := by
  have member : token ∈ tokens := by
    simp [placed]
  obtain ⟨_, _, slice, _, tile⟩ :=
    yields.exists_tile (Cursor.stands_ofSource source) member
  have admits := tile.admits
  have spelled := tile.spelled
  rw [kind] at admits spelled
  have covers := tile.covers
  rw [spelled] at covers
  exact ⟨⟨after, placed⟩, kind, admits.1, covers⟩

end Streams

/-! ## Faults in the source -/

/-- What the fault points at, in a source with the given tokens in front of its
end or of its first malformed lexeme. -/
inductive PointsAt (source : List Char) (tokens : List Token) :
    Option LexicalError → Fault → Prop
  | lexical {error : LexicalError} :
      PointsAt source tokens (some error) (.lexical error)
  | grammar {outcome : Option LexicalError} {before after : List Token}
      {token : Token} {cause : GrammarFault}
      (placed : tokens = before ++ token :: after)
      (broken : ¬ Viable (before ++ [token])) :
      PointsAt source tokens outcome (.grammar cause token.span)
  | unbound {outcome : Option LexicalError} {before : List Token}
      {token : Token}
      (named : NameAt source tokens before token)
      (isRead : IsOperandName before token)
      (unbound : ¬ Bound before token.text) :
      PointsAt source tokens outcome
        (.name (.unbound token.text) token.span)
  | repeated {outcome : Option LexicalError} {before : List Token}
      {token : Token}
      (named : NameAt source tokens before token)
      (behind : EndsIn .labelKw before)
      (second : (namesAfter .labelKw before).count token.text = 1) :
      PointsAt source tokens outcome
        (.name (.repeatedLabel token.text) token.span)
  | missing {before : List Token} {token : Token} {names : List String}
      (named : NameAt source tokens before token)
      (first : FirstMissing tokens before token) :
      PointsAt source tokens none
        (.name (.missingLabels (token.text :: names)) token.span)

/-- The message of the fault has the name in it. -/
def Fault.Mentions (fault : Fault) (name : String) : Prop :=
  ∃ lead rest, fault.message = lead ++ (name ++ rest)

theorem exists_intercalate_cons (comma name : String) (names : List String) :
    ∃ rest, comma.intercalate (name :: names) = name ++ rest := by
  cases names with
  | nil =>
      refine ⟨"", ?_⟩
      rw [String.intercalate_singleton, String.append_empty]
  | cons next names =>
      refine ⟨comma ++ comma.intercalate (next :: names), ?_⟩
      rw [String.intercalate_cons_of_ne_nil (List.cons_ne_nil next names),
        String.append_assoc]

namespace PointsAt

variable {source : List Char} {tokens : List Token}
  {outcome : Option LexicalError} {fault : Fault}

theorem fits
    (points : PointsAt source tokens outcome fault)
    (yields : (Cursor.ofSource source).Yields tokens outcome) :
    fault.span.Fits source := by
  cases points with
  | lexical =>
      obtain ⟨_, _, fails⟩ :=
        yields.scanned (Cursor.stands_ofSource source) .start
      exact fails.fits
  | grammar placed _ =>
      exact span_fits_of_yields yields placed
  | unbound named _ _ | repeated named _ _ | missing named _ =>
      exact named.covers.fits

theorem mentions {cause : NameFault} {span : Span}
    (points : PointsAt source tokens outcome (.name cause span)) :
    ∃ name, IsName name.toList ∧ span.Covers source name.toList ∧
      (Fault.name cause span).Mentions name := by
  cases points with
  | unbound named _ _ =>
      refine ⟨_, named.isName, named.covers,
        "referencing variable before assignment: ", "", ?_⟩
      rw [String.append_empty]
      rfl
  | repeated named _ _ =>
      refine ⟨_, named.isName, named.covers, "label already exists: ", "", ?_⟩
      rw [String.append_empty]
      rfl
  | @missing _ token names named _ =>
      obtain ⟨rest, listed⟩ := exists_intercalate_cons ", " token.text names
      refine ⟨_, named.isName, named.covers,
        "attempting to GOTO undeclared label: ", rest, ?_⟩
      rw [← listed]
      rfl

end PointsAt

/-! ## Offences in the source -/

section Offences

variable {source : List Char} {tokens : List Token} {index : Nat}
  {token : Token} {offence : Offence} {outcome : Option LexicalError}
  {fault : Fault}

theorem OffendsAt.eq_append
    (offends : OffendsAt tokens index token offence) :
    tokens = tokens.take index ++ token :: tokens.drop (index + 1) := by
  obtain ⟨bound, rfl⟩ := List.getElem?_eq_some_iff.mp offends.1
  rw [List.getElem_cons_drop, List.take_append_drop]

/-- Before the first label that is declared again, every label is declared
once. -/
theorem FirstOffence.count_eq_one
    (first : FirstOffence tokens index token .repeated) :
    (namesAfter .labelKw (tokens.take index)).count token.text = 1 := by
  obtain ⟨⟨rest, grammatical⟩, _, _, declared⟩ := first.offends.2
  have whole := first.offends.eq_append
  have bound := first.offends.index_lt
  have nodup : (namesAfter .labelKw (tokens.take index)).Nodup := by
    rw [nodup_namesAfter_iff]
    intro before other after split ends kind member
    have viable : Viable (before ++ [other]) := by
      refine ⟨after ++ ([token] ++ rest), ?_⟩
      rw [split] at grammatical
      simpa using grammatical
    have earlier : before.length < index := by
      have lengths := congrArg List.length split
      rw [List.length_take, List.length_append, List.length_cons] at lengths
      omega
    have offends :
        OffendsAt tokens before.length other Offence.repeated := by
      rw [whole, split, List.append_assoc, List.cons_append,
        offendsAt_length_iff]
      exact ⟨rfl, viable, ends, kind, member⟩
    exact first.first _ _ _ earlier offends
  exact List.count_eq_one_of_mem nodup declared

theorem FirstOffence.pointsAt
    (first : FirstOffence tokens index token offence)
    (reports : offence.Reports token fault)
    (yields : (Cursor.ofSource source).Yields tokens outcome) :
    PointsAt source tokens outcome fault := by
  have placed := first.offends.eq_append
  cases reports with
  | grammar cause =>
      exact .grammar placed first.offends.2
  | unbound =>
      obtain ⟨_, isRead, unbound⟩ := first.offends.2
      exact .unbound (nameAt_of_yields yields placed isRead.1) isRead unbound
  | repeated =>
      obtain ⟨_, behind, kind, _⟩ := first.offends.2
      exact .repeated (nameAt_of_yields yields placed kind) behind
        first.count_eq_one

end Offences

/-! ## Compiling -/

section Compile

variable {source : List Char} {width : Nat} {fault : Fault}

theorem pointsAt_of_tokenize {tokens : List Token}
    (tokenized : tokenize source = .ok tokens)
    (failed : (compile source width).result = .error fault) :
    PointsAt source tokens none fault := by
  have yields := yields_of_tokenize tokenized
  obtain ⟨body, last, rfl, kind, inside⟩ := exists_eof_of_tokenize tokenized
  rw [compile_of_yields yields, result_compileTokens] at failed
  rcases Reading.readAll_cases inside kind with
    ⟨final, done, finished⟩ |
      ⟨other, index, token, offence, found, first, reports⟩
  · rw [done] at failed
    cases checked : final.labels.check with
    | ok _ =>
        simp [checked] at failed
    | error other =>
        simp only [checked, Except.error.injEq] at failed
        subst failed
        obtain ⟨before, token, after, names, placed, named, missing, rfl⟩ :=
          finished.exists_missing checked
        exact .missing (nameAt_of_yields yields placed named) missing
  · simp only [found, Except.error.injEq] at failed
    subst failed
    exact first.pointsAt reports yields

theorem pointsAt_of_yields {tokens : List Token} {error : LexicalError}
    (yields : (Cursor.ofSource source).Yields tokens (some error))
    (failed : (compile source width).result = .error fault) :
    PointsAt source tokens (some error) fault := by
  have inside : ∀ token ∈ tokens.dropLast, token.kind ≠ .eof :=
    fun token member => yields.inside member
  rw [result_compile_of_yields yields] at failed
  rcases Reading.Reached.empty.readSeen_cases inside with
    ⟨final, done, _⟩ |
      ⟨other, index, token, offence, found, first, reports, _⟩
  · simp only [done, Except.error.injEq] at failed
    subst failed
    exact .lexical
  · simp only [found, Except.error.injEq] at failed
    subst failed
    exact first.pointsAt reports yields

/-- The span of every fault can be cut out of the source.  A malformed lexeme
apart, it is that of a token, and a misused name is all that the span covers and
has its place in the message. -/
theorem compile_points_at_source
    (failed : (compile source width).result = .error fault) :
    fault.span.Fits source ∧
      (∃ tokens outcome,
        (Cursor.ofSource source).Yields tokens outcome ∧
          PointsAt source tokens outcome fault) ∧
      ∀ cause span, fault = .name cause span →
        ∃ name, IsName name.toList ∧ span.Covers source name.toList ∧
          fault.Mentions name := by
  obtain ⟨tokens, outcome, yields, points⟩ :
      ∃ tokens outcome, (Cursor.ofSource source).Yields tokens outcome ∧
        PointsAt source tokens outcome fault := by
    cases tokenized : tokenize source with
    | ok tokens =>
        exact ⟨tokens, none, yields_of_tokenize tokenized,
          pointsAt_of_tokenize tokenized failed⟩
    | error error =>
        obtain ⟨tokens, yields⟩ := yields_of_tokenize_error tokenized
        exact ⟨tokens, some error, yields, pointsAt_of_yields yields failed⟩
  refine ⟨points.fits yields, ⟨tokens, outcome, yields, points⟩, ?_⟩
  rintro cause span rfl
  exact points.mentions

end Compile

/-- Of the two labels that are missing, the second one in the source comes first
in the alphabet, and its first jump lies behind a letter of two bytes. -/
theorem compile_points_at_jump :
    ∃ source fault, source = "GOTO b\n# é\nGOTO a\nGOTO a\n".toList ∧
      fault = .name (.missingLabels ["a", "b"]) ⟨17, 18⟩ ∧
      (compile source 4).result = .error fault ∧
      fault.span.Fits source ∧
      (∃ tokens outcome,
        (Cursor.ofSource source).Yields tokens outcome ∧
          PointsAt source tokens outcome fault) ∧
      ∃ name : String, IsName name.toList ∧
        fault.span.Covers source name.toList ∧ fault.Mentions name := by
  have failed :
      (compile "GOTO b\n# é\nGOTO a\nGOTO a\n".toList 4).result =
        .error (.name (.missingLabels ["a", "b"]) ⟨17, 18⟩) := by
    decide +kernel
  obtain ⟨fits, points, named⟩ := compile_points_at_source failed
  exact ⟨_, _, rfl, rfl, failed, fits, points, named _ _ rfl⟩

end TeenyTiny
