import TeenyTiny.Diagnostic
import TeenyTiny.Report.Line
import TeenyTiny.Report.Piece
import TeenyTiny.Text.Width

/-!
# Reports

A report shows a failure together with the line of the source in which it lies:

    Error: Semantic error
       ╭─[ <unknown>:1:7 ]
       │
     1 │ PRINT xyz
       │       ─┬─
       │        ╰─── referencing variable before assignment: xyz
    ───╯

Columns count characters.  A character is drawn in as many cells as it is wide,
a tab in as many as reach the next column that is a multiple of four, and any
other white space as one space.
-/

namespace TeenyTiny

namespace Report

/-! ## Cells -/

/-- The characters with which the character at a column of a line is drawn. -/
def drawn (column : Nat) (c : Char) : List Char :=
  if c = '\t' then List.replicate ((column / 4 + 1) * 4 - column) ' '
  else if isWhiteSpace c then [' ']
  else [c]

/-- The number of cells of the character at a column of a line. -/
def cellCount (column : Nat) (c : Char) : Nat :=
  if c = '\t' then (column / 4 + 1) * 4 - column
  else if isWhiteSpace c then 1
  else displayWidth c

/-- The columns before `bound` with their numbers of cells, which is one behind
the text. -/
def columns (text : List Char) (bound : Nat) : List (Nat × Nat) :=
  let inside := text.zipIdx.map fun (c, column) => (column, cellCount column c)
  let behind := (List.range' text.length (bound - text.length)).map (·, 1)
  (inside ++ behind).take bound

/-! ## The mark under a line -/

structure Mark where
  start : Nat
  stop : Nat

namespace Mark

def covers (mark : Mark) (column : Nat) : Bool :=
  mark.start ≤ column && column < mark.stop

/-- The column from which the message hangs. -/
def middle (mark : Mark) : Nat :=
  (mark.start + mark.stop) / 2

def cell (text : String) : Piece :=
  .inked .red text

/-- The cells of a column in the row that underlines the mark. -/
def underline (mark : Mark) (column cells : Nat) : List Piece :=
  if column = mark.middle then
    match cells, mark.covers column with
    | 0, _ => []
    | more + 1, true => cell "┬" :: List.replicate more (cell "─")
    | more + 1, false => [cell "│", .spaces more]
  else if mark.covers column then List.replicate cells (cell "─")
  else [.spaces cells]

/-- The cells of a column in the row that leads to the message. -/
def lead (mark : Mark) (column cells : Nat) : List Piece :=
  if column < mark.middle then [.spaces cells]
  else if column = mark.middle then
    match cells with
    | 0 => []
    | more + 1 => cell "╰" :: List.replicate more (cell "─")
  else List.replicate cells (cell "─")

end Mark

/-! ## Rows -/

def headline (stage : Stage) : List Piece :=
  [.inked .red "Error:", .bare (" " ++ stage.title)]

/-- The characters of a line, the marked ones in red. -/
def drawnLine (text : List Char) (mark : Mark) : List Piece :=
  text.zipIdx.flatMap fun (c, column) =>
    let ink := if mark.covers column then Ink.red else Ink.plain
    (drawn column c).map fun cell => .inked ink (String.singleton cell)

def excerpt (line : SourceLine) (mark : Mark) (message : String) :
    List (List Piece) :=
  let number := toString line.number
  let gap := number.length
  let cells := columns line.shown (mark.stop + 2)
  let rule := String.ofList (List.replicate (gap + 2) '─')
  let bar := String.ofList (List.replicate (gap + 1) ' ') ++ "│"
  let margin := [.bare " ", .inked .skipped bar, .bare " "]
  let place := number ++ ":" ++ toString (mark.start + 1)
  [ [.spaces (gap + 2), .inked .margin "╭", .inked .margin "─",
      .inked .margin "[", .bare (" <unknown>:" ++ place ++ " "),
      .inked .margin "]"],
    [.spaces (gap + 2), .inked .margin "│"],
    [.bare " ", .inked .margin (number ++ " │"), .bare " "] ++
      drawnLine line.shown mark,
    margin ++
      cells.flatMap (fun (column, count) => mark.underline column count),
    margin ++ cells.flatMap (fun (column, count) => mark.lead column count) ++
      [.bare (" " ++ message)],
    [.inked .margin (rule ++ "╯")] ]

/-- The rows of a report.  A span that does not lie in the source has no
excerpt. -/
def rows (source : List Char) (stage : Stage) (message : String) (span : Span) :
    List (List Piece) :=
  if span.stop ≤ byteLength source then
    let line := SourceLine.ofOffset source span.start
    let mark : Mark := ⟨line.column span.start, line.column span.stop⟩
    headline stage :: excerpt line mark message
  else [headline stage]

end Report

/-- The report of a failure.  One that lies in the files is told in one line,
without its end. -/
def Diagnostic.report (diagnostic : Diagnostic) (coloured : Bool)
    (source : List Char) (file : String) : String :=
  match diagnostic with
  | .source stage message span =>
      let rows := Report.rows source stage message span
      String.join (rows.map (renderRow coloured))
  | .file _ => file ++ ": " ++ diagnostic.text

end TeenyTiny
