import TeenyTiny.Proofs.Offence
import TeenyTiny.Proofs.TokenList

/-!
# The verdict on a list of tokens

A list of tokens without an offence is read to its end, and otherwise the
reading fails with its first offence.  If the tokens behind the list are not
in view, an offence counts only if it shows before the last token of the list.
Jumps are checked at the end, so missing labels are found if nothing else is
(`compileTokens_cases`).
-/

namespace TeenyTiny

/-- No token breaks a rule. -/
def Correct (tokens : List Token) : Prop :=
  ∀ index token offence, ¬ OffendsAt tokens index token offence

theorem FirstOffence.not_correct
    {tokens : List Token} {index : Nat} {token : Token} {offence : Offence}
    (first : FirstOffence tokens index token offence) :
    ¬ Correct tokens :=
  fun correct => correct index token offence first.offends

/-- Correctness is seen at each token and what stands before it. -/
theorem correct_iff (tokens : List Token) :
    Correct tokens ↔
      ∀ before token after, tokens = before ++ token :: after →
        ∀ offence, ¬ Offends before token offence := by
  constructor
  · rintro correct before token after rfl offence offends
    exact correct before.length token offence
      (offendsAt_length_iff.mpr ⟨rfl, offends⟩)
  · intro free index token offence offends
    obtain ⟨bound, rfl⟩ := List.getElem?_eq_some_iff.mp offends.1
    refine free (tokens.take index) _ (tokens.drop (index + 1)) ?_ offence
      offends.2
    rw [← List.drop_eq_getElem_cons bound, List.take_append_drop]

namespace Reading

section Lists

variable {before body tokens : List Token} {reading : Reading}
  {last token : Token} {index : Nat} {offence : Offence}

/-! ## Reading up to the last token -/

/-- The tokens are read, or the reading fails with the first offence. -/
theorem Reached.readSeen_cases
    (reached : Reached before reading)
    (inside : ∀ token ∈ tokens.dropLast, token.kind ≠ .eof) :
    (∃ final, (reading.readSeen tokens).result = .ok final ∧
        Reached (before ++ tokens.dropLast) final) ∨
      ∃ fault index token offence,
        (reading.readSeen tokens).result = .error fault ∧
          FirstOffence (before ++ tokens) index token offence ∧
          offence.Reports token fault ∧
          index + offence.delay + 1 < (before ++ tokens).length := by
  -- Each token that is read goes over to `before`, so the list as a whole
  -- stays the same along the induction.
  fun_induction readSeen reading tokens generalizing before with
  | case1 reading current next rest inductionHypothesis =>
      rw [Traced.result_andThen]
      have currentInside : current.kind ≠ .eof := inside current (by simp)
      cases done : (reading.step current next).result with
      | error fault =>
          obtain ⟨index, token, offence, first, reports, position⟩ :=
            reached.firstOffence_of_error done
          have whole := first.append (next :: rest)
          rw [List.append_assoc] at whole
          refine Or.inr
            ⟨fault, index, token, offence, rfl, whole, reports, ?_⟩
          rw [position]
          simp
      | ok moved =>
          obtain ⟨move, allowed⟩ := move_of_step currentInside done
          have further := inductionHypothesis moved
            (reached.move move allowed)
            fun token member => inside token (List.mem_cons_of_mem _ member)
          simpa using further
  | case2 tokens reading short =>
      refine Or.inl ⟨reading, rfl, ?_⟩
      have dropped : tokens.dropLast = [] := by
        rcases eq_nil_or_singleton short with rfl | ⟨token, rfl⟩
        · rfl
        · rfl
      rwa [dropped, List.append_nil]

/-- An offence that shows before the last token is found. -/
theorem readSeen_of_firstOffence
    (inside : ∀ token ∈ tokens.dropLast, token.kind ≠ .eof)
    (first : FirstOffence tokens index token offence)
    (early : index + offence.delay + 1 < tokens.length) :
    ∃ fault, (Reading.empty.readSeen tokens).result = .error fault ∧
      offence.Reports token fault := by
  rcases Reached.empty.readSeen_cases inside with
    ⟨final, _, reached⟩ |
      ⟨fault, otherIndex, other, otherOffence, failed, otherFirst, reports, _⟩
  · have offends := first.offends
    rcases List.eq_nil_or_concat tokens with rfl | ⟨front, last, rfl⟩
    · cases early
    rw [List.concat_eq_append] at offends early reached
    rw [List.dropLast_concat, List.nil_append] at reached
    rw [List.length_append, List.length_singleton] at early
    rw [offendsAt_append_iff (by omega)] at offends
    obtain ⟨rfl, position, _⟩ := reached.offendsAt offends
    rw [Offence.delay] at early
    omega
  · obtain ⟨rfl, rfl, rfl⟩ := first.unique otherFirst
    exact ⟨fault, failed, reports⟩

/-- Only an offence that shows before the last token is found. -/
theorem readSeen_of_late
    (inside : ∀ token ∈ tokens.dropLast, token.kind ≠ .eof)
    (late : ∀ index token offence,
      FirstOffence tokens index token offence →
        ¬ index + offence.delay + 1 < tokens.length) :
    ∃ final, (Reading.empty.readSeen tokens).result = .ok final := by
  rcases Reached.empty.readSeen_cases inside with
    ⟨final, done, _⟩ |
      ⟨_, index, token, offence, _, first, _, early⟩
  · exact ⟨final, done⟩
  · exact absurd early (late index token offence first)

/-! ## Reading to the end of the source -/

theorem step_eof {stopped : Reading} {after : Token}
    (kind : last.kind = .eof)
    (ended : (reading.step last after).result = .ok stopped) :
    reading = stopped ∧ reading.phase = .start ∧ reading.frames = [] := by
  rcases step_cases reading last after with
    ⟨fault, misuse⟩ | ⟨next, move⟩ | ⟨phase, frames, _⟩ | ⟨cause, refused⟩
  · rw [step_of_misuse misuse] at ended
    cases ended
  · exact absurd kind move.inside
  · rw [step_of_end phase frames kind] at ended
    cases ended
    exact ⟨rfl, phase, frames⟩
  · rw [refused] at ended
    cases ended

/-- The tokens are a whole source, and the reading is the one at its end. -/
structure Finished (body : List Token) (last : Token) (final : Reading) :
    Prop where
  reached : Reached body final
  phase : final.phase = .start
  frames : final.frames = []
  kind : last.kind = .eof

/-- The end of the source is reached with no block open, or the reading fails
with the first offence. -/
theorem readAll_cases
    (inside : ∀ token ∈ body, token.kind ≠ .eof)
    (kind : last.kind = .eof) :
    (∃ final, (Reading.empty.readAll (body ++ [last])).result = .ok final ∧
        Finished body last final) ∨
      ∃ fault index token offence,
        (Reading.empty.readAll (body ++ [last])).result = .error fault ∧
          FirstOffence (body ++ [last]) index token offence ∧
          offence.Reports token fault := by
  rw [readAll_concat, Traced.result_andThen]
  have dropped : (body ++ [last]).dropLast = body := List.dropLast_concat
  rw [← dropped] at inside
  have seen := Reached.empty.readSeen_cases inside
  rw [dropped, List.nil_append] at seen
  rcases seen with
    ⟨final, done, reached⟩ |
      ⟨fault, index, token, offence, failed, first, reports, _⟩
  · rw [done]
    cases ended : (final.step last last).result with
    | error fault =>
        obtain ⟨index, token, offence, first, reports, _⟩ :=
          reached.firstOffence_of_error ended
        exact Or.inr ⟨fault, index, token, offence, ended, first, reports⟩
    | ok stopped =>
        obtain ⟨rfl, phase, frames⟩ := step_eof kind ended
        exact Or.inl ⟨final, ended, reached, phase, frames, kind⟩
  · rw [failed]
    exact Or.inr ⟨fault, index, token, offence, rfl, first, reports⟩

end Lists

namespace Finished

variable {body : List Token} {last : Token} {final : Reading}

theorem writtenAs
    (finished : Finished body last final) :
    final.program.WrittenAs (body ++ [last]) := by
  obtain ⟨reached, phase, frames, kind⟩ := finished
  exact writtenAs_of_reads (reached.reads_append (.finish phase frames kind))

/-- The tokens have no other parse tree. -/
theorem program_unique {other : Program}
    (finished : Finished body last final)
    (written : other.WrittenAs (body ++ [last])) :
    other = final.program := by
  have reads := reads_of_writtenAs written
  cases finished.reached.reads_of_append reads with
  | finish _ _ _ =>
      rfl
  | move move _ =>
      exact absurd finished.kind move.inside

theorem correct
    (finished : Finished body last final) :
    Correct (body ++ [last]) := by
  intro index token offence offends
  have bound := offends.index_lt
  rw [List.length_append, List.length_singleton] at bound
  rcases Nat.lt_or_eq_of_le (Nat.le_of_lt_succ bound) with shorter | rfl
  · obtain ⟨_, _, named, _⟩ :=
      finished.reached.offendsAt ((offendsAt_append_iff shorter).mp offends)
    rw [finished.phase] at named
    cases named
  · obtain ⟨rfl, offends⟩ := offendsAt_length_iff.mp offends
    have noName : last.kind ≠ .ident := by
      simp [finished.kind]
    cases offence with
    | grammar =>
        have written := finished.writtenAs
        exact offends ⟨[], final.program, by rwa [List.append_nil]⟩
    | unbound =>
        exact noName offends.2.1.1
    | repeated =>
        exact noName offends.2.2.1

/-- At the end of a source its labels and jumps are all known. -/
theorem mem_unresolved_iff
    (finished : Finished body last final)
    (name : String) :
    name ∈ final.labels.unresolved.map Prod.fst ↔
      name ∈ namesAfter .gotoKw (body ++ [last]) ∧
        name ∉ namesAfter .labelKw (body ++ [last]) := by
  have knows := finished.reached.knows
  have noName : last.kind ≠ .ident := by
    simp [finished.kind]
  rw [namesAfter_concat_of_ne noName, namesAfter_concat_of_ne noName,
    knows.declared, knows.jumps, finished.phase]
  simp only [Labels.unresolved, Labels.isDeclared, Phase.pending,
    List.append_nil, List.mem_reverse, List.not_mem_nil, or_false,
    List.mem_map, List.mem_filter, Bool.not_eq_true', List.contains_eq_mem,
    decide_eq_false_iff_not]
  constructor
  · rintro ⟨target, ⟨member, missing⟩, rfl⟩
    exact ⟨⟨target, member, rfl⟩, missing⟩
  · rintro ⟨⟨target, member, rfl⟩, missing⟩
    exact ⟨target, ⟨member, missing⟩, rfl⟩

/-- The check of the jumps passes, or it names the labels that are missing. -/
theorem check_cases
    (finished : Finished body last final) :
    (final.labels.check = .ok () ∧ JumpsResolved (body ++ [last])) ∨
      ¬ JumpsResolved (body ++ [last]) ∧ ∃ names span,
        final.labels.check = .error (.name (.missingLabels names) span) ∧
          ∀ name, name ∈ names ↔
            name ∈ namesAfter .gotoKw (body ++ [last]) ∧
              name ∉ namesAfter .labelKw (body ++ [last]) := by
  have known := finished.mem_unresolved_iff
  cases unresolved : final.labels.unresolved with
  | nil =>
      refine Or.inl ⟨by simp [Labels.check, unresolved], ?_⟩
      intro name jumped
      by_contra undeclared
      have member := (known name).mpr ⟨jumped, undeclared⟩
      rw [unresolved] at member
      cases member
  | cons target rest =>
      rw [unresolved, List.map_cons] at known
      obtain ⟨jumped, undeclared⟩ :=
        (known target.1).mp (List.mem_cons_self ..)
      refine Or.inr ⟨fun resolved => undeclared (resolved _ jumped),
        target.1 :: rest.map Prod.fst, target.2, ?_, known⟩
      simp [Labels.check, unresolved]

end Finished

end Reading

/-! ## Compiling -/

/-- A list of tokens is compiled, or the first offence is the fault, or else
the labels are that are missing. -/
theorem compileTokens_cases {body : List Token} {last : Token}
    (inside : ∀ token ∈ body, token.kind ≠ .eof)
    (kind : last.kind = .eof)
    (width : Nat) :
    (∃ final, Reading.Finished body last final ∧
        JumpsResolved (body ++ [last]) ∧
        (compileTokens (body ++ [last]) width).result =
          .ok (final.write (.empty width)).text) ∨
      (∃ fault index token offence,
        (compileTokens (body ++ [last]) width).result = .error fault ∧
          FirstOffence (body ++ [last]) index token offence ∧
          offence.Reports token fault) ∨
      Correct (body ++ [last]) ∧ ¬ JumpsResolved (body ++ [last]) ∧
        ∃ names span,
          (compileTokens (body ++ [last]) width).result =
              .error (.name (.missingLabels names) span) ∧
            ∀ name, name ∈ names ↔
              name ∈ namesAfter .gotoKw (body ++ [last]) ∧
                name ∉ namesAfter .labelKw (body ++ [last]) := by
  rw [result_compileTokens]
  rcases Reading.readAll_cases inside kind with
    ⟨final, done, finished⟩ |
      ⟨fault, index, token, offence, failed, first, reports⟩
  · simp only [done]
    rcases finished.check_cases with
      ⟨checked, resolved⟩ | ⟨unresolved, names, span, checked, missing⟩
    · simp only [checked]
      exact Or.inl ⟨final, finished, resolved, rfl⟩
    · simp only [checked]
      exact Or.inr (Or.inr
        ⟨finished.correct, unresolved, names, span, rfl, missing⟩)
  · simp only [failed]
    exact Or.inr (Or.inl ⟨fault, index, token, offence, rfl, first, reports⟩)

/-- The end of the source is the last token and no other. -/
theorem exists_eof_of_tokenize {source : List Char} {tokens : List Token}
    (tokenized : tokenize source = .ok tokens) :
    ∃ body last, tokens = body ++ [last] ∧ last.kind = .eof ∧
      ∀ token ∈ body, token.kind ≠ .eof := by
  have yields := yields_of_tokenize tokenized
  obtain ⟨body, last, rfl, kind⟩ := yields.exists_eof
  refine ⟨body, last, rfl, kind, fun token member => yields.inside ?_⟩
  rwa [List.dropLast_concat]

theorem compile_of_tokenize_error
    {source : List Char} {error : LexicalError}
    (failed : tokenize source = .error error)
    (width : Nat) (text : String) :
    (compile source width).result ≠ .ok text := by
  obtain ⟨tokens, yields⟩ := yields_of_tokenize_error failed
  rw [result_compile_of_yields yields]
  cases (Reading.empty.readSeen tokens).result <;> simp

/-- An accepted source has been read to its end, and its text is that of the
reading. -/
theorem exists_finished_of_compile
    {source : List Char} {width : Nat} {text : String}
    (accepted : (compile source width).result = .ok text) :
    ∃ body last final,
      tokenize source = .ok (body ++ [last]) ∧
        Reading.Finished body last final ∧
        JumpsResolved (body ++ [last]) ∧
        text = (final.write (.empty width)).text := by
  cases tokenized : tokenize source with
  | error error =>
      exact absurd accepted (compile_of_tokenize_error tokenized width text)
  | ok tokens =>
      obtain ⟨body, last, rfl, kind, inside⟩ :=
        exists_eof_of_tokenize tokenized
      rw [compile_of_yields (yields_of_tokenize tokenized)] at accepted
      rcases compileTokens_cases inside kind width with
        ⟨final, finished, resolved, done⟩ | ⟨_, _, _, _, failed, _⟩ |
          ⟨_, _, _, _, failed, _⟩
      · rw [done] at accepted
        cases accepted
        exact ⟨body, last, final, rfl, finished, resolved, rfl⟩
      · rw [failed] at accepted
        cases accepted
      · rw [failed] at accepted
        cases accepted

end TeenyTiny
