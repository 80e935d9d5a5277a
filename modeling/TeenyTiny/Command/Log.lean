import TeenyTiny.Command.Filter
import TeenyTiny.Text.Controls

/-!
# Log lines

How events are written to the log: one line for each event, and more for a
message of several lines, in which all lines but the first are indented.
-/

namespace TeenyTiny

/-- A text with spaces behind it up to the given number of characters. -/
def padRight (width : Nat) (text : String) : String :=
  text ++ String.ofList (List.replicate (width - text.length) ' ')

/-- The text with all lines but the first indented. -/
def indentLines (text : String) : String :=
  "\n    ".intercalate (text.splitOn "\n")

/-- The log line of a record at the given time. -/
def Record.line (time : String) (record : Record) : String :=
  withoutControls
    ("[" ++ time ++ " " ++ padRight 5 record.level ++ " " ++ record.origin ++
      "] " ++ indentLines record.message ++ "\n")

/-- The log lines of the events that the filter admits. -/
def logText (filter : LogFilter) (time : String) (events : List Event) :
    String :=
  String.join
    ((events.filter filter.admits).map (fun event => event.record.line time))

end TeenyTiny
