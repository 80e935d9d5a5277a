import TeenyTiny.Settings

/-!
# Requests

What the command line asks for.  Options may stand before and after the file, a
short option may share its dash with others, and a value stands in the same
argument as its option or in the next one.  Behind `--` nothing is an option.
-/

namespace TeenyTiny

/-- The commands that work on a source file. -/
inductive Command where
  | compile
  | check
  | tokens
  deriving DecidableEq, Repr

def Command.ofName? : String → Option Command
  | "compile" => some .compile
  | "check" => some .check
  | "tokens" => some .tokens
  | _ => none

inductive Action where
  | compile (output : Option String) (indentWidth : Option Nat)
  | check
  | tokens
  deriving DecidableEq, Repr

/-- What the command line asks for. -/
inductive Request where
  /-- The version of the program. -/
  | version
  /-- An explanation of the program or of one command. -/
  | help (command : Option Command)
  /-- Work on a source file, with the given number of requests for more log
  lines. -/
  | run (verbosity : Nat) (action : Action) (file : String)
  deriving DecidableEq, Repr

/-! ## What is given behind a command -/

/-- What the arguments behind a command have given so far. -/
structure Given where
  file : Option String
  output : Option String
  indentWidth : Option Nat
  verbosity : Nat

namespace Given

def nothing : Given :=
  ⟨none, none, none, 0⟩

/-- Takes an argument as the file, which is given once and is not empty. -/
def setFile (given : Given) (file : String) : Option Given :=
  if given.file = none ∧ file ≠ "" then some { given with file } else none

/-- Takes a value of the option for the output path, which is given once and is
not empty. -/
def setOutput (given : Given) (output : String) : Option Given :=
  if given.output = none ∧ output ≠ "" then some { given with output } else none

/-- Takes a value of the option for the indentation, which is given once and is
a number. -/
def setIndent (given : Given) (value : String) : Option Given :=
  match given.indentWidth, numberOf? value with
  | none, some width => some { given with indentWidth := width }
  | _, _ => none

def addVerbose (given : Given) : Given :=
  { given with verbosity := given.verbosity + 1 }

/-- The request that a command comes to, with the given number of requests for
more log lines before it.  Those behind the command replace them. -/
def request (given : Given) (command : Command) (verbosity : Nat) :
    Option Request :=
  let verbosity := if given.verbosity = 0 then verbosity else given.verbosity
  let action :=
    match command with
    | .compile => Action.compile given.output given.indentWidth
    | .check => .check
    | .tokens => .tokens
  given.file.map (Request.run verbosity action)

end Given

/-! ## Options -/

/-- Whether an argument is an option: it starts with a dash and is not only
that. -/
def isOption (argument : String) : Bool :=
  match argument.toList with
  | '-' :: _ :: _ => true
  | _ => false

/-- Splits a long option, of which the dashes are taken off, at its first equals
sign. -/
def splitOption (option : List Char) : String × Option String :=
  (String.ofList (option.takeWhile (· ≠ '=')),
    match option.dropWhile (· ≠ '=') with
    | [] => none
    | _ :: value => some (String.ofList value))

/-- What the arguments behind a command come to up to some point. -/
inductive Progress where
  /-- An explanation is asked for, whatever follows. -/
  | help
  /-- This is given. -/
  | given (given : Given)
  /-- The next argument is the value of an option. -/
  | awaiting (set : String → Option Given)

namespace Progress

/-- Reads the long option with the given name and value. -/
def ofLong (command : Command) (given : Given) (name : String)
    (value : Option String) : Option Progress :=
  match name, value, command with
  | "verbose", none, _ => some (.given given.addVerbose)
  | "help", none, _ => some .help
  | "output", none, .compile => some (.awaiting given.setOutput)
  | "output", some value, .compile => (given.setOutput value).map .given
  | "indent", none, .compile => some (.awaiting given.setIndent)
  | "indent", some value, .compile => (given.setIndent value).map .given
  | _, _, _ => none

/-- Reads the short options behind one dash.  What follows an option with a
value is that value; an equals sign before it does not count. -/
def ofShort (command : Command) (given : Given) : List Char → Option Progress
  | [] => some (.given given)
  | 'v' :: rest => ofShort command given.addVerbose rest
  | 'h' :: _ => some .help
  | 'o' :: rest =>
      match command, rest with
      | .compile, [] => some (.awaiting given.setOutput)
      | .compile, '=' :: value =>
          (given.setOutput (String.ofList value)).map .given
      | .compile, value => (given.setOutput (String.ofList value)).map .given
      | _, _ => none
  | _ => none

/-- Reads an argument that is an option. -/
def ofOption (command : Command) (given : Given) (argument : String) :
    Option Progress :=
  match argument.toList with
  | '-' :: '-' :: rest =>
      ofLong command given (splitOption rest).1 (splitOption rest).2
  | '-' :: rest => ofShort command given rest
  | _ => none

end Progress

/-- An option before a command: a request of its own, or the new number of
requests for more log lines. -/
inductive Lead where
  | request (request : Request)
  | verbosity (verbosity : Nat)

namespace Lead

/-- Reads the short options behind one dash. -/
def ofShort (verbosity : Nat) : List Char → Option Lead
  | [] => some (.verbosity verbosity)
  | 'v' :: rest => ofShort (verbosity + 1) rest
  | 'h' :: _ => some (.request (.help none))
  | 'V' :: _ => some (.request .version)
  | _ => none

/-- Reads an argument that is an option. -/
def ofOption (verbosity : Nat) (argument : String) : Option Lead :=
  match argument.toList with
  | '-' :: '-' :: rest =>
      match String.ofList rest with
      | "verbose" => some (.verbosity (verbosity + 1))
      | "help" => some (.request (.help none))
      | "version" => some (.request .version)
      | _ => none
  | '-' :: rest => ofShort verbosity rest
  | _ => none

end Lead

/-! ## The command line -/

namespace Request

def ofRest (command : Command) (verbosity : Nat) :
    Progress → List String → Option Request
  | .help, _ => some (.help command)
  | .awaiting _, [] => none
  | .awaiting set, value :: rest =>
      if isOption value then none
      else
        match set value with
        | some given => ofRest command verbosity (.given given) rest
        | none => none
  | .given given, [] => given.request command verbosity
  | .given given, "--" :: rest => do
      let given ← rest.foldlM Given.setFile given
      given.request command verbosity
  | .given given, argument :: rest =>
      if isOption argument then
        match Progress.ofOption command given argument with
        | some progress => ofRest command verbosity progress rest
        | none => none
      else
        match given.setFile argument with
        | some given => ofRest command verbosity (.given given) rest
        | none => none

/-- The request for an explanation of the named command. -/
def ofHelp : List String → Option Request
  | [] | ["help"] => some (.help none)
  | [name] => (Command.ofName? name).map fun command => .help command
  | _ => none

/-- Reads the command line behind the given number of requests for more log
lines. -/
def ofArgumentsAfter (verbosity : Nat) : List String → Option Request
  | [] => none
  | "help" :: rest => ofHelp rest
  | argument :: rest =>
      if isOption argument then
        match Lead.ofOption verbosity argument with
        | some (.request request) => some request
        | some (.verbosity verbosity) => ofArgumentsAfter verbosity rest
        | none => none
      else
        match Command.ofName? argument with
        | some command => ofRest command verbosity (.given .nothing) rest
        | none => none

/-- The request that the command line makes, or none if it cannot be
understood. -/
def ofArguments? (arguments : List String) : Option Request :=
  ofArgumentsAfter 0 arguments

end Request

end TeenyTiny
