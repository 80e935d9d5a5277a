import Mathlib.Data.List.Induction
import TeenyTiny.Proofs.Translation

/-!
# The two regions of a compiled program

An accepted source fills a page: the header declares its variables, each once,
and the body holds the lines of its statements with the end of the function
behind them (`fills_of_correct`).
-/

namespace TeenyTiny

/-! ## Variables of a program -/

theorem eraseDups_concat {α : Type} [DecidableEq α]
    (names : List α) (name : α) :
    (names ++ [name]).eraseDups =
      if name ∈ names then names.eraseDups
      else names.eraseDups ++ [name] := by
  rw [List.eraseDups_append]
  by_cases known : name ∈ names
  · simp [known, List.removeAll]
  · simp [known, List.removeAll, List.eraseDups_cons]

theorem nodup_eraseDups (names : List String) : names.eraseDups.Nodup := by
  induction names using List.reverseRecOn with
  | nil =>
      exact List.nodup_nil
  | append_singleton names name inductionHypothesis =>
      rw [eraseDups_concat]
      split
      · exact inductionHypothesis
      · rename_i fresh
        have absent : name ∉ names.eraseDups := by
          rwa [List.mem_eraseDups]
        refine List.nodup_append.mpr
          ⟨inductionHypothesis, by simp, ?_⟩
        rintro other member _ equal rfl
        rw [List.mem_singleton] at equal
        exact absent (equal ▸ member)

theorem eraseDups_filter (keeps : String → Bool) (names : List String) :
    (names.filter keeps).eraseDups = names.eraseDups.filter keeps := by
  induction names using List.reverseRecOn with
  | nil =>
      rfl
  | append_singleton names name inductionHypothesis =>
      rw [List.filter_append, eraseDups_concat]
      by_cases kept : keeps name = true
      · have whole : [name].filter keeps = [name] := by simp [kept]
        rw [whole, eraseDups_concat]
        by_cases known : name ∈ names
        · simp [known, kept, inductionHypothesis]
        · simp [known, kept, inductionHypothesis]
      · have nothing : [name].filter keeps = [] := by simp [kept]
        rw [nothing, List.append_nil, inductionHypothesis]
        by_cases known : name ∈ names
        · simp [known]
        · simp [known, kept]

namespace Program

theorem nodup_variables (program : Program) : program.variables.Nodup :=
  nodup_eraseDups _

theorem mem_variables {program : Program} {name : String} :
    name ∈ program.variables ↔ name ∈ Statement.targetsAll program :=
  List.mem_eraseDups

/-- Of two programs, the second adds the variables that are new. -/
theorem variables_append (program more : Program) :
    Program.variables (program ++ more) =
      program.variables ++
        more.variables.filter
          (fun name => decide (name ∉ program.variables)) := by
  have removed : (Statement.targetsAll more).removeAll
        (Statement.targetsAll program) =
      (Statement.targetsAll more).filter
        fun name => decide (name ∉ program.variables) := by
    simp [List.removeAll, mem_variables]
  rw [Program.variables, Statement.targetsAll_append, List.eraseDups_append,
    removed, eraseDups_filter]
  rfl

end Program

/-! ## Pages -/

/-- The lines behind the statements of a program. -/
def closingLines : List CLine :=
  [⟨1, "return 0;"⟩, ⟨0, "\x7d"⟩]

/-- The page declares the variables in its header and has the lines of
statements in its body, with the end of the function behind them. -/
structure Page.Holds
    (page : Page) (width : Nat) (names : List String) (lines : List CLine) :
    Prop where
  header : page.header = CLine.renderAll width (headerLines names)
  body : page.body = CLine.renderAll width (lines ++ closingLines)

/-- The lines of the statements of a program. -/
def Program.statementLines (program : Program) : List CLine :=
  program.flatMap (Statement.lines 1)

theorem Program.statementLines_append (program more : Program) :
    Program.statementLines (program ++ more) =
      program.statementLines ++ more.statementLines :=
  List.flatMap_append

theorem Reading.holds_write_empty (reading : Reading) (width : Nat) :
    (reading.write (.empty width)).Holds width reading.bound.names
      reading.program.statementLines := by
  have fresh : (reading.bound.write (.empty width)).atLineStart = true := by
    rw [Variables.write_eq]
    rfl
  constructor
  · rw [Reading.write, Program.write_eq, Page.header_addLines,
      Variables.write_eq]
    simp [Page.addHeader, Page.empty]
  · rw [Reading.write, Program.write_eq, Page.body_addLines fresh,
      Variables.write_eq]
    simp [Page.addHeader, Page.empty, Program.bodyLines, closingLines,
      Program.statementLines]

/-! ## Accepted sources -/

/-- A source is read in one way, whatever page its program is written onto. -/
theorem exists_read_of_source (source : List Char) :
    ∃ read : Traced Fault Reading, ∀ page,
      compileOnto source page =
        read.andThen fun reading => .done (reading.write page) := by
  cases opened : Window.ofSource source with
  | error error =>
      refine ⟨.fail (.lexical error), fun page => ?_⟩
      rw [compileOnto, opened]
      rfl
  | ok window =>
      refine ⟨window.read, fun page => ?_⟩
      rw [compileOnto, opened]
      rfl

theorem compileOnto_of_yields {source : List Char} {tokens : List Token}
    (yields : (Cursor.ofSource source).Yields tokens none)
    (page : Page) :
    (compileOnto source page).result =
      match (Reading.empty.readAll tokens).result with
      | .error fault => .error fault
      | .ok reading =>
          match reading.labels.check with
          | .error fault => .error fault
          | .ok _ => .ok (reading.write page) := by
  rcases Window.ofSource_cases yields with
    ⟨window, setUp, runs⟩ | ⟨error, impossible, _⟩
  · have runs := runs .empty
    simp only [compileOnto, setUp, Window.compileOnto, Window.read, runs,
      Reading.readYield, Traced.result_bind, Traced.result_enter,
      Traced.result_ofExcept, Traced.result_note, Traced.result_pure]
    cases (Reading.empty.readAll tokens).result with
    | error fault =>
        rfl
    | ok reading =>
        dsimp only
        cases reading.labels.check <;> rfl
  · cases impossible

theorem compile_of_compileOnto
    {source : List Char} {width : Nat} {page : Page}
    (filled : (compileOnto source (.empty width)).result = .ok page) :
    (compile source width).result = .ok page.text := by
  simp [compile, filled]

theorem compile_of_compileOnto_error
    {source : List Char} {width : Nat} {fault : Fault}
    (refused : (compileOnto source (.empty width)).result = .error fault) :
    (compile source width).result = .error fault := by
  simp [compile, refused]

theorem inside_of_tokenize
    {source : List Char} {body : List Token} {last : Token}
    (tokenized : tokenize source = .ok (body ++ [last])) :
    ∀ token ∈ body, token.kind ≠ .eof := by
  intro token member
  apply (yields_of_tokenize tokenized).inside
  rwa [List.dropLast_concat]

/-- The source is accepted.  Its header declares the variables, and its body
has the lines of statements. -/
def Fills (source : List Char) (width : Nat) (names : List String)
    (lines : List CLine) : Prop :=
  ∃ page, (compileOnto source (.empty width)).result = .ok page ∧
    page.Holds width names lines ∧
    (compile source width).result = .ok page.text

/-- A correct source is read to its end, and its program is written onto any
page. -/
theorem exists_reading_of_correct
    {source : List Char} {body : List Token} {last : Token}
    (tokenized : tokenize source = .ok (body ++ [last]))
    (kind : last.kind = .eof)
    (correct : Correct (body ++ [last]))
    (resolved : JumpsResolved (body ++ [last])) :
    ∃ final, Reading.Finished body last final ∧
      ∀ page, (compileOnto source page).result = .ok (final.write page) := by
  have yields := yields_of_tokenize tokenized
  have inside := inside_of_tokenize tokenized
  rcases Reading.readAll_cases inside kind with
    ⟨final, read, finished⟩ | ⟨_, _, _, _, _, first, _⟩
  · refine ⟨final, finished, fun page => ?_⟩
    rcases finished.check_cases with ⟨checked, _⟩ | ⟨unresolved, _⟩
    · rw [compileOnto_of_yields yields, read]
      simp only [checked]
    · exact absurd resolved unresolved
  · exact absurd correct first.not_correct

/-- The page of a correct source holds its program. -/
theorem fills_of_correct
    {source : List Char} {body : List Token} {last : Token}
    (tokenized : tokenize source = .ok (body ++ [last]))
    (kind : last.kind = .eof)
    (correct : Correct (body ++ [last]))
    (resolved : JumpsResolved (body ++ [last]))
    (width : Nat) :
    ∃ final, Reading.Finished body last final ∧
      Fills source width final.program.variables
        final.program.statementLines := by
  obtain ⟨final, finished, writes⟩ :=
    exists_reading_of_correct tokenized kind correct resolved
  have filled := writes (.empty width)
  have holds := final.holds_write_empty width
  rw [finished.names_eq_variables] at holds
  exact ⟨final, finished, _, filled, holds, compile_of_compileOnto filled⟩

/-- An accepted source has been read to its end, and its page holds the
program. -/
theorem exists_fills_of_compile
    {source : List Char} {width : Nat} {text : String}
    (accepted : (compile source width).result = .ok text) :
    ∃ body last final,
      tokenize source = .ok (body ++ [last]) ∧
        Reading.Finished body last final ∧
        JumpsResolved (body ++ [last]) ∧
        Fills source width final.program.variables
          final.program.statementLines := by
  obtain ⟨body, last, _, tokenized, found, resolved, _⟩ :=
    exists_finished_of_compile accepted
  obtain ⟨final, finished, fills⟩ :=
    fills_of_correct tokenized found.kind found.correct resolved width
  exact ⟨body, last, final, tokenized, finished, resolved, fills⟩

end TeenyTiny
