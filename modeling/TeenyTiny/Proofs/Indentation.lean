import TeenyTiny.Proofs.Nesting

/-!
# What indentation depends on

The width of a level decides about the spaces in front of lines and about
nothing else (`compile_widths`).  A page on which something has been written
before is extended: the program comes behind it, deeper by the level of the
page, and goes on with the last line of the page if that has not ended
(`compileOnto_extends`).
-/

namespace TeenyTiny

open CLine

/-! ## One program for all pages -/

/-- A source is refused on all pages with the same fault, or else it has been
read and is written onto each. -/
theorem compileOnto_cases (source : List Char) :
    (∃ fault, ∀ page, (compileOnto source page).result = .error fault) ∨
      ∃ reading : Reading,
        Statement.AllAdmitted reading.program ∧
          reading.bound.names = reading.program.variables ∧
          ∀ page,
            (compileOnto source page).result = .ok (reading.write page) := by
  obtain ⟨read, reads⟩ := exists_read_of_source source
  cases outcome : read.result with
  | error fault =>
      left
      refine ⟨fault, fun page => ?_⟩
      rw [reads, Traced.result_andThen, outcome]
  | ok reading =>
      right
      have filled : (compileOnto source (.empty 0)).result =
          .ok (reading.write (.empty 0)) := by
        rw [reads, Traced.result_andThen, outcome]
        rfl
      obtain ⟨body, last, found, tokenized, complete, resolved, _⟩ :=
        exists_finished_of_compile (compile_of_compileOnto filled)
      obtain ⟨final, finished, writes⟩ := exists_reading_of_correct
        tokenized complete.kind complete.correct resolved
      have admitted := finished.writtenAs.admitted fun token member =>
        admits_of_tokenize tokenized member
      exact ⟨final, admitted, finished.names_eq_variables, writes⟩

/-! ## Widths -/

/-- For two widths of a level, a source is refused with the same fault, or it is
compiled to texts with the same lines but for the spaces in front. -/
theorem compile_widths (source : List Char) (width other : Nat) :
    (∃ fault, (compile source width).result = .error fault ∧
        (compile source other).result = .error fault) ∨
      ∃ text otherText,
        (compile source width).result = .ok text ∧
          (compile source other).result = .ok otherText ∧
          (textLines text.toList).length =
            (textLines otherText.toList).length ∧
          (textLines text.toList).map unindented =
            (textLines otherText.toList).map unindented := by
  rcases compileOnto_cases source with
    ⟨fault, refused⟩ | ⟨reading, admitted, declared, writes⟩
  · left
    exact ⟨fault, compile_of_compileOnto_error (refused (.empty width)),
      compile_of_compileOnto_error (refused (.empty other))⟩
  · right
    have solid := (Program.nested_lines admitted).solid
    have shown : ∀ spaces,
        textLines (reading.write (.empty spaces)).text.toList =
          reading.program.lines.map (chars spaces) := by
      intro spaces
      rw [Reading.text_write_empty, declared]
      exact textLines_renderAll solid spaces
    have bare : ∀ spaces,
        (reading.program.lines.map (chars spaces)).map unindented =
          reading.program.lines.map (·.text.toList) := by
      intro spaces
      rw [List.map_map]
      apply List.map_congr_left
      intro line member
      exact (solid line member).unindented_chars spaces
    refine ⟨_, _, compile_of_compileOnto (writes (.empty width)),
      compile_of_compileOnto (writes (.empty other)), ?_, ?_⟩
    · rw [shown, shown, List.length_map, List.length_map]
    · rw [shown, shown, bare, bare]

/-! ## Deeper lines -/

/-- The line some levels deeper. -/
def CLine.deeper (levels : Nat) (line : CLine) : CLine :=
  { line with level := line.level + levels }

theorem CLine.chars_deeper (levels width : Nat) (line : CLine) :
    (line.deeper levels).chars width =
      List.replicate (levels * width) ' ' ++ line.chars width := by
  have total : (line.level + levels) * width =
      levels * width + line.level * width := by
    rw [Nat.add_mul, Nat.add_comm]
  rw [chars, chars, ← List.append_assoc, ← List.replicate_add, ← total]
  rfl

mutual

theorem Statement.lines_add (level levels : Nat) : (statement : Statement) →
    statement.lines (level + levels) =
      (statement.lines level).map (deeper levels)
  | .printText _ | .printValue _ | .label _ | .jump _ | .assign _ _ => rfl
  | .input _ => by
      have inside : level + 1 + levels = level + levels + 1 :=
        Nat.add_right_comm ..
      simp [Statement.lines, deeper, inside]
  | .block _ _ body => by
      have inside : level + 1 + levels = level + levels + 1 :=
        Nat.add_right_comm ..
      have deeperBody := Statement.linesAll_add (level + 1) levels body
      rw [inside] at deeperBody
      simp [Statement.lines, deeper, deeperBody]

theorem Statement.linesAll_add (level levels : Nat) :
    (statements : List Statement) →
      Statement.linesAll (level + levels) statements =
        (Statement.linesAll level statements).map (deeper levels)
  | [] => rfl
  | statement :: rest => by
      rw [Statement.linesAll, Statement.linesAll, List.map_append,
        Statement.lines_add level levels statement,
        Statement.linesAll_add level levels rest]

end

theorem Program.bodyLines_eq_map (program : Program) (level : Nat) :
    program.bodyLines level = (program.bodyLines 0).map (deeper level) := by
  have inside := Statement.linesAll_add 1 level program
  rw [Nat.add_comm 1 level] at inside
  simp only [Program.bodyLines, ← Statement.linesAll_eq_flatMap,
    List.map_append, inside]
  simp [deeper, Nat.add_comm]

theorem Program.bodyLines_ne_nil (program : Program) (level : Nat) :
    program.bodyLines level ≠ [] := by
  simp [Program.bodyLines]

/-! ## Pages -/

namespace Page

variable {page : Page}

theorem width_addLines (page : Page) (lines : List CLine) :
    (page.addLines lines).width = page.width := by
  induction lines generalizing page with
  | nil =>
      rfl
  | cons line rest inductionHypothesis =>
      exact inductionHypothesis (page.addLine line)

theorem atLineStart_addLines {lines : List CLine}
    (nonempty : lines ≠ []) :
    (page.addLines lines).atLineStart = true := by
  induction lines generalizing page with
  | nil =>
      exact absurd rfl nonempty
  | cons line rest inductionHypothesis =>
      cases rest with
      | nil => rfl
      | cons next rest => exact inductionHypothesis (List.cons_ne_nil _ _)

/-- Lines as they stand behind the page.  They get the spaces of its level in
front, but the first one goes on with an unfinished line and has none then. -/
def place (page : Page) : List (List Char) → List (List Char)
  | [] => []
  | first :: rest =>
      (if page.atLineStart then (page.pad page.level).toList ++ first
        else unindented first) ::
        rest.map ((page.pad page.level).toList ++ ·)

/-- The first line that is added stands where it is placed. -/
theorem body_addLine_deeper {line : CLine}
    (solid : line.Solid)
    (page : Page) :
    (page.addLine (line.deeper page.level)).body.toList =
      page.body.toList ++
        joinLines (page.place [line.chars page.width]) := by
  cases starts : page.atLineStart with
  | true =>
      rw [body_addLine starts, String.toList_append, toList_render,
        chars_deeper]
      simp [place, starts, joinLines, pad]
  | false =>
      have shown := solid.unindented_chars page.width
      simp [place, starts, joinLines, shown, addLine, deeper]

/-- Lines that are added stand where they are placed. -/
theorem body_addLines_deeper {lines : List CLine}
    (solid : ∀ line ∈ lines, line.Solid)
    (page : Page) :
    (page.addLines (lines.map (deeper page.level))).body.toList =
      page.body.toList ++
        joinLines (page.place (lines.map (chars page.width))) := by
  cases lines with
  | nil =>
      simp [place, joinLines]
  | cons line rest =>
      have first :=
        body_addLine_deeper (solid line (List.mem_cons_self ..)) page
      have fresh : (page.addLine (line.deeper page.level)).atLineStart = true :=
        rfl
      have behind : (renderAll page.width
            (rest.map (deeper page.level))).toList =
          joinLines ((rest.map (chars page.width)).map
            ((page.pad page.level).toList ++ ·)) := by
        rw [toList_renderAll, List.map_map, List.map_map]
        congr 1
        apply List.map_congr_left
        intro line _
        simp [chars_deeper, pad]
      have whole : joinLines (page.place
            ((line :: rest).map (chars page.width))) =
          joinLines (page.place [line.chars page.width]) ++
            joinLines ((rest.map (chars page.width)).map
              ((page.pad page.level).toList ++ ·)) := by
        simp [place, joinLines]
      rw [List.map_cons, addLines_cons, body_addLines fresh,
        String.toList_append, first, whole, ← behind, List.append_assoc]
      rfl

/-- The page `filled` is `page` with what a page `fresh` has from its start on
behind it. -/
structure Extends (filled page fresh : Page) : Prop where
  level : filled.level = page.level
  width : filled.width = page.width
  atLineStart : filled.atLineStart = true
  header : filled.header = page.header ++ fresh.header
  wholeLines : joinLines (textLines fresh.body.toList) = fresh.body.toList
  body : filled.body.toList =
    page.body.toList ++ joinLines (page.place (textLines fresh.body.toList))

end Page

section Writing

variable (reading : Reading) (page : Page)

theorem Reading.write_eq :
    reading.write page =
      (page.addHeader (renderAll page.width
        (headerLines reading.bound.names))).addLines
          (reading.program.bodyLines page.level) := by
  rw [Reading.write, Variables.write_eq, Program.write_eq]
  rfl

theorem Reading.body_write_empty :
    (reading.write (.empty page.width)).body.toList =
      joinLines ((reading.program.bodyLines 0).map (chars page.width)) := by
  rw [Reading.write_eq, Page.body_addLines rfl, String.toList_append,
    toList_renderAll]
  rfl

/-- A program that is written onto a page extends it. -/
theorem Reading.extends_write
    (admitted : Statement.AllAdmitted reading.program) :
    (reading.write page).Extends page (reading.write (.empty page.width)) := by
  have solid : ∀ line ∈ reading.program.bodyLines 0, line.Solid := by
    intro line member
    apply (Program.nested_lines admitted).solid
    exact List.mem_append_right _ member
  have bodyLines : textLines
        (reading.write (.empty page.width)).body.toList =
      (reading.program.bodyLines 0).map (chars page.width) := by
    rw [Reading.body_write_empty, ← toList_renderAll]
    exact textLines_renderAll solid page.width
  constructor
  · rw [Reading.write_eq, Page.level_addLines]
    rfl
  · rw [Reading.write_eq, Page.width_addLines]
    rfl
  · rw [Reading.write_eq]
    exact Page.atLineStart_addLines (reading.program.bodyLines_ne_nil _)
  · rw [Reading.write_eq, Reading.write_eq, Page.header_addLines,
      Page.header_addLines]
    simp [Page.addHeader, Page.empty]
  · rw [bodyLines, Reading.body_write_empty]
  · rw [bodyLines, Reading.write_eq, Program.bodyLines_eq_map]
    exact Page.body_addLines_deeper solid (page.addHeader _)

end Writing

/-- A source is refused with one fault on all pages, or it extends every page by
the page that it is compiled to. -/
theorem compileOnto_extends (source : List Char) :
    (∃ fault, ∀ page, (compileOnto source page).result = .error fault) ∨
      ∀ page : Page, ∃ filled fresh,
        (compileOnto source page).result = .ok filled ∧
          (compileOnto source (.empty page.width)).result = .ok fresh ∧
          (compile source page.width).result =
            .ok (fresh.header ++ fresh.body) ∧
          filled.Extends page fresh := by
  rcases compileOnto_cases source with
    ⟨fault, refused⟩ | ⟨reading, admitted, _, writes⟩
  · left
    exact ⟨fault, refused⟩
  · right
    intro page
    have fresh := writes (.empty page.width)
    exact ⟨_, _, writes page, fresh, compile_of_compileOnto fresh,
      reading.extends_write page admitted⟩

end TeenyTiny
