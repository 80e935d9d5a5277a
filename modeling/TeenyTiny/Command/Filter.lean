import TeenyTiny.Event
import TeenyTiny.Pattern.Read
import TeenyTiny.Text.Blank

/-!
# Log filters

Which events are written to the log.  A filter has a threshold for all parts of
the program, others for the parts whose names start in a given way, and perhaps
a pattern that has to occur in the message.
-/

namespace TeenyTiny

/-- The least weighty level that is written to the log; none for a silent
log. -/
abbrev Threshold : Type :=
  Option Level

namespace Threshold

def admits (threshold : Threshold) (level : Level) : Bool :=
  match threshold with
  | none => false
  | some least => level.rank ≤ least.rank

/-- The threshold for the given number of requests for more log lines. -/
def ofVerbosity : Nat → Threshold
  | 0 => some .warn
  | 1 => some .debug
  | _ => some .trace

/-- The threshold with the given name, in which capitals do not count. -/
def ofName? (name : String) : Option Threshold :=
  match name.toLower with
  | "off" => some none
  | "error" => some (some .error)
  | "warn" => some (some .warn)
  | "info" => some (some .info)
  | "debug" => some (some .debug)
  | "trace" => some (some .trace)
  | _ => none

end Threshold

structure LogFilter where
  /-- The threshold for parts of the program that have no other. -/
  threshold : Threshold
  /-- The thresholds for parts whose names start with the given texts.  The
  longest text counts. -/
  directives : List (String × Threshold)
  /-- What has to occur in a message. -/
  pattern : Option Pattern

namespace LogFilter

def thresholdOf (filter : LogFilter) (origin : String) : Threshold :=
  let fitting := filter.directives.filter (·.1.isPrefixOf origin)
  let longest := fitting.foldl (fun best directive =>
    match best with
    | some (start, _) =>
        if start.utf8ByteSize ≤ directive.1.utf8ByteSize then some directive
        else best
    | none => some directive) (none : Option (String × Threshold))
  (longest.map (·.2)).getD filter.threshold

def admits (filter : LogFilter) (event : Event) : Bool :=
  (filter.thresholdOf event.origin).admits event.level &&
    filter.pattern.all fun pattern => pattern.occursIn event.message

end LogFilter

/-! ## Reading a filter -/

/-- What is wrong with a part of the text of a filter. -/
inductive FilterComplaint where
  | tooManySlashes (text : String)
  | unreadable (part : String)
  | badPattern (text : String) (fault : PatternFault)
  deriving DecidableEq, Repr

def FilterComplaint.line (complaint : FilterComplaint) : String :=
  let message :=
    match complaint with
    | tooManySlashes text =>
        "invalid logging spec '" ++ text ++ "' (too many '/'s)"
    | unreadable part => "invalid logging spec '" ++ part ++ "'"
    | badPattern text fault => "invalid regex filter - " ++ fault.text text
  "warning: " ++ message ++ ", ignoring it\n"

def trimmed (text : String) : String :=
  let front := text.toList.dropWhile isWhiteSpace
  String.ofList (front.reverse.dropWhile isWhiteSpace).reverse

namespace LogFilter

/-- The filter with another threshold for the parts whose names start with the
given text. -/
def direct (filter : LogFilter) (start : String) (threshold : Threshold) :
    LogFilter :=
  let others := filter.directives.filter (·.1 ≠ start)
  { filter with directives := others ++ [(start, threshold)] }

/-- The filter that part of a text asks for: a name of a threshold, the start of
a name of a part of the program, or both with an equals sign between them.  The
start of a name by itself asks for all events. -/
def readDirective (filter : LogFilter) (part : String) :
    Except FilterComplaint LogFilter :=
  match part.splitOn "=" with
  | [name] =>
      match Threshold.ofName? name with
      | some threshold => .ok { filter with threshold }
      | none => .ok (filter.direct name (some .trace))
  | [start, name] =>
      match trimmed name with
      | "" => .ok (filter.direct start (some .trace))
      | name =>
          match Threshold.ofName? name with
          | some threshold => .ok (filter.direct start threshold)
          | none => .error (.unreadable name)
  | _ => .error (.unreadable part)

/-- The filter that parts of a text ask for, with what is wrong with them.
Empty parts and parts that are wrong change nothing. -/
def readDirectives (filter : LogFilter) :
    List String → LogFilter × List FilterComplaint
  | [] => (filter, [])
  | part :: rest =>
      if part = "" then filter.readDirectives rest
      else
        match filter.readDirective part with
        | .ok filter => filter.readDirectives rest
        | .error complaint =>
            let (filter, complaints) := filter.readDirectives rest
            (filter, complaint :: complaints)

/-- The filter that a text asks for, with what is wrong with it: parts that
commas divide, and perhaps a pattern behind a slash. -/
def read (filter : LogFilter) (text : String) :
    LogFilter × List FilterComplaint :=
  let readParts (parts : String) :=
    filter.readDirectives ((parts.splitOn ",").map trimmed)
  match text.splitOn "/" with
  | [parts] => readParts parts
  | [parts, pattern] =>
      let (filter, complaints) := readParts parts
      match Pattern.ofText pattern with
      | .ok pattern => ({ filter with pattern := some pattern }, complaints)
      | .error fault => (filter, complaints ++ [.badPattern pattern fault])
  | _ => (filter, [.tooManySlashes text])

end LogFilter

end TeenyTiny
