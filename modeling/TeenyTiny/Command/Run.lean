import TeenyTiny.Command.Help
import TeenyTiny.Command.Log
import TeenyTiny.File.Store
import TeenyTiny.Report.Basic

/-!
# Running a command

What the program writes, and the code with which it ends: zero for success, one
for a source or a file that fails, and two for a command line that cannot be
understood.
-/

namespace TeenyTiny

/-- What a run of the program leaves behind besides files. -/
structure Outcome where
  exitCode : Nat
  output : String
  errors : String
  deriving DecidableEq, Repr

namespace Outcome

def success (output : String) : Outcome :=
  ⟨0, output, ""⟩

/-- A failure, told in a coloured report, after some output. -/
def failure (diagnostic : Diagnostic) (source : List Char)
    (file output : String) : Outcome :=
  let report := diagnostic.report true source file
  match diagnostic with
  | .source _ _ _ => ⟨1, output, report⟩
  | .file _ => ⟨1, output, report ++ "\n"⟩

def logged (outcome : Outcome) (lines : String) : Outcome :=
  { outcome with errors := lines ++ outcome.errors }

end Outcome

/-- A token in a listing: its kind, its text in quotes, and its span. -/
def Token.line (token : Token) : String :=
  padRight 12 token.kind.name ++ " " ++ padRight 16 (quoteText token.text) ++
    " " ++ toString token.span.start ++ ".." ++ toString token.span.stop ++
    "\n"

/-- Lists tokens up to the first error. -/
def listTokens (source : List Char) (file : String) (listed : String) :
    List (Except LexicalError Token) → Outcome
  | [] => .success listed
  | .ok token :: rest => listTokens source file (listed ++ token.line) rest
  | .error error :: _ =>
      .failure (Fault.lexical error).diagnostic source file listed

def checkSource (environment : Environment) (source : List Char)
    (file : String) : List Event × Outcome :=
  let settings := Settings.ofEnvironment environment
  let compiled := compile source settings.indentWidth
  let outcome :=
    match compiled.result with
    | .ok _ => .success ("OK: " ++ file ++ "\n")
    | .error fault => .failure fault.diagnostic source file ""
  (compiled.events, outcome)

variable {m : Type → Type} [Monad m]

def compileSource (store : Store m) (settings : Settings)
    (source : List Char) (file : String) : m (List Event × Outcome) := do
  let stored ← compileToStore store source settings
  let outcome :=
    match stored.result with
    | .ok ⟨path, page⟩ =>
        let size := toString page.text.utf8ByteSize
        .success
          ("Compiling completed: " ++ path ++ " (" ++ size ++ " bytes)\n")
    | .error failure => .failure failure.diagnostic source file ""
  return (.compiling file :: stored.events, outcome)

/-- Does the work on a source file, of which the text is given. -/
def Action.perform (action : Action) (store : Store m)
    (environment : Environment) (source : List Char) (file : String) :
    m (List Event × Outcome) :=
  match action with
  | .compile output indentWidth =>
      let settings := Settings.ofEnvironment environment
      compileSource store (settings.override output indentWidth) source file
  | .check => pure (checkSource environment source file)
  | .tokens => pure ([], listTokens source file "" (Feed.ofSource source).items)

def unreadable (file : String) (fault : FileFault) : Outcome :=
  ⟨1, "", "Error reading file '" ++ file ++ "': " ++ fault.message ++ "\n"⟩

def performOnFile (action : Action) (store : Store m)
    (environment : Environment) (file : String) :
    m (List Event × Outcome) := do
  match ← store.read file with
  | .error fault => return ([], unreadable file fault)
  | .ok text => action.perform store environment text.toList file

/-- Does what the command line asks for.  Log lines carry the given time, and
what is wrong with the text of the log filter is told before them. -/
def Request.perform (request : Request) (store : Store m)
    (environment : Environment) (time : String) : m Outcome := do
  match request with
  | .version => return .success versionText
  | .help command => return .success (helpText command)
  | .run verbosity action file =>
      let (events, outcome) ← performOnFile action store environment file
      let filter : LogFilter := ⟨.ofVerbosity verbosity, [], none⟩
      let (filter, complaints) := filter.read (environment.log.getD "")
      let warnings := String.join (complaints.map (·.line))
      return outcome.logged (warnings ++ logText filter time events)

/-- Runs the program with the given arguments. -/
def runCommand (store : Store m) (environment : Environment) (time : String)
    (arguments : List String) : m Outcome :=
  match Request.ofArguments? arguments with
  | some request => request.perform store environment time
  | none => pure ⟨2, "", usageText⟩

end TeenyTiny
