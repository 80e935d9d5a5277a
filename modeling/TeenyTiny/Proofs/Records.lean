import TeenyTiny.Event
import TeenyTiny.Traced

/-!
# Records

What a log shows of the events of a traced computation: the texts of its
records, written out.  `Record.isTrace`, `Record.declares` and
`Record.tellsCount` pick records by what they show, and for each of them there
is the same choice among events (`Traced.filter_records`).
-/

namespace TeenyTiny

namespace Record

/-! ## Records that are written out -/

/-- A rule of the grammar is entered. -/
def trace (text : String) : Record :=
  ⟨"TRACE", "teenyc::parser::parser", text⟩

def declaredVariable (name : String) : Record :=
  ⟨"DEBUG", "teenyc::parser::symbols", "declared variable '" ++ name ++ "'"⟩

def declaredLabel (name : String) : Record :=
  ⟨"DEBUG", "teenyc::parser::symbols", "declared label '" ++ name ++ "'"⟩

/-- The translation is finished. -/
def finished (count : Nat) : Record :=
  ⟨"DEBUG", "teenyc::parser::parser",
    "translation finished with " ++ toString count ++ " variables"⟩

/-- The text in C is complete. -/
def generated (bytes : Nat) : Record :=
  ⟨"DEBUG", "teenyc", "generated " ++ toString bytes ++ " bytes of C"⟩

/-- A text is stored in a file. -/
def wrote (bytes : Nat) (path : String) : Record :=
  ⟨"DEBUG", "teenyc::codegen::emitter",
    "wrote " ++ toString bytes ++ " bytes to " ++ path⟩

/-! ## Choosing records -/

def isTrace (record : Record) : Bool :=
  record.level = "TRACE"

def startsWith (record : Record) (front : String) : Bool :=
  front.toList.isPrefixOf record.message.toList

/-- Whether a record tells of a new variable or label. -/
def declares (record : Record) : Bool :=
  record.level = "DEBUG" &&
    (record.startsWith "declared variable" ||
      record.startsWith "declared label")

/-- Whether a record tells the number of variables. -/
def tellsCount (record : Record) : Bool :=
  record.level = "DEBUG" && record.startsWith "translation finished"

end Record

namespace Event

/-- Whether an event is noted at the level of traces. -/
def isTrace (event : Event) : Bool :=
  event.level = .trace

/-- Whether an event tells of a new variable or label. -/
def declares : Event → Bool
  | newVariable _ | newLabel _ => true
  | _ => false

/-- The number of variables that a note of a finished translation tells. -/
def finalCount? : Event → Option Nat
  | finished count => some count
  | _ => none

@[simp]
theorem record_entered (rule : Rule) :
    (entered rule).record = .trace rule.name :=
  rfl

@[simp]
theorem record_newVariable (name : String) :
    (newVariable name).record = .declaredVariable name :=
  rfl

@[simp]
theorem record_newLabel (name : String) :
    (newLabel name).record = .declaredLabel name :=
  rfl

@[simp]
theorem record_finished (count : Nat) :
    (finished count).record = .finished count :=
  rfl

@[simp]
theorem record_generated (bytes : Nat) :
    (generated bytes).record = .generated bytes :=
  rfl

@[simp]
theorem record_wrote (bytes : Nat) (path : String) :
    (wrote bytes path).record = .wrote bytes path :=
  rfl

theorem isTrace_record (event : Event) :
    event.record.isTrace = event.isTrace := by
  cases event <;> rfl

-- The records of one level differ in the first letter of their messages, so
-- those that are not wanted are told apart by computation.
theorem declares_record (event : Event) :
    event.record.declares = event.declares := by
  cases event with
  | newVariable name =>
      simp [Record.declares, Record.startsWith, Record.declaredVariable,
        String.toList_append, declares]
  | newLabel name =>
      simp [Record.declares, Record.startsWith, Record.declaredLabel,
        String.toList_append, declares]
  | entered _ | tokenized _ | compiling _ =>
      rfl
  | _ =>
      simp only [record_finished, record_generated, record_wrote,
        Record.declares, Record.startsWith, Record.finished,
        Record.generated, Record.wrote, String.toList_append]
      rfl

theorem tellsCount_record (event : Event) :
    event.record.tellsCount = event.finalCount?.isSome := by
  cases event with
  | finished count =>
      simp [Record.tellsCount, Record.startsWith, Record.finished,
        String.toList_append, finalCount?]
  | entered _ | tokenized _ | compiling _ =>
      rfl
  | _ =>
      simp only [record_newVariable, record_newLabel, record_generated,
        record_wrote, Record.tellsCount, Record.startsWith,
        Record.declaredVariable, Record.declaredLabel, Record.generated,
        Record.wrote, String.toList_append]
      rfl

end Event

namespace Traced

variable {Failure Result : Type}

/-- The records of all events. -/
def records (traced : Traced Failure Result) : List Record :=
  traced.events.map Event.record

/-- To choose among records is to choose among events. -/
theorem filter_records {chosen : Record → Bool} {wanted : Event → Bool}
    (same : ∀ event : Event, chosen event.record = wanted event)
    (traced : Traced Failure Result) :
    traced.records.filter chosen =
      (traced.events.filter wanted).map Event.record := by
  rw [records, List.filter_map]
  congr 2
  funext event
  exact same event

/-- The numbers of variables that the events tell. -/
def finalCounts (traced : Traced Failure Result) : List Nat :=
  traced.events.filterMap Event.finalCount?

/-- The numbers are those in the records. -/
theorem filter_tellsCount (traced : Traced Failure Result) :
    traced.records.filter Record.tellsCount =
      traced.finalCounts.map Record.finished := by
  rw [traced.filter_records Event.tellsCount_record, finalCounts]
  induction traced.events with
  | nil =>
      rfl
  | cons event rest inductionHypothesis =>
      cases event with
      | finished count =>
          exact congrArg (Record.finished count :: ·) inductionHypothesis
      | _ =>
          exact inductionHypothesis

end Traced

end TeenyTiny
