import TeenyTiny.Command.Request

/-!
# Fixed texts of the command line
-/

namespace TeenyTiny

def versionText : String :=
  "teenyc 0.1.0\n"

/-- What is said of a command line that cannot be understood. -/
def usageText : String :=
  "error: invalid arguments\n\n" ++
    "Usage: teenyc [OPTIONS] <COMMAND>\n\n" ++
    "For more information, try '--help'.\n"

/-- The explanation of the program or of one command. -/
def helpText : Option Command → String
  | none =>
      "Teeny Tiny to C translator\n\n" ++
        "Usage: teenyc [OPTIONS] <COMMAND>\n\n" ++
        "Commands:\n" ++
        "  compile  Translate a source file to C\n" ++
        "  check    Run every check without writing output\n" ++
        "  tokens   Dump the token stream\n" ++
        "  help     Print this message or the help of the given " ++
        "subcommand(s)\n\n" ++
        "Options:\n" ++
        "  -v, --verbose...  Raise log verbosity (-v debug, -vv trace)\n" ++
        "  -h, --help        Print help\n" ++
        "  -V, --version     Print version\n"
  | some .compile =>
      "Translate a source file to C\n\n" ++
        "Usage: teenyc compile [OPTIONS] <FILE>\n\n" ++
        "Arguments:\n" ++
        "  <FILE>  \n\n" ++
        "Options:\n" ++
        "  -o, --output <OUTPUT>  Output path (defaults to TEENY_OUTPUT " ++
        "or out.c)\n" ++
        "  -v, --verbose...       Raise log verbosity (-v debug, " ++
        "-vv trace)\n" ++
        "      --indent <INDENT>  Spaces per indentation level (defaults to " ++
        "TEENY_INDENT or 4)\n" ++
        "  -h, --help             Print help\n"
  | some .check =>
      "Run every check without writing output\n\n" ++
        "Usage: teenyc check [OPTIONS] <FILE>\n\n" ++
        "Arguments:\n" ++
        "  <FILE>  \n\n" ++
        "Options:\n" ++
        "  -v, --verbose...  Raise log verbosity (-v debug, -vv trace)\n" ++
        "  -h, --help        Print help\n"
  | some .tokens =>
      "Dump the token stream\n\n" ++
        "Usage: teenyc tokens [OPTIONS] <FILE>\n\n" ++
        "Arguments:\n" ++
        "  <FILE>  \n\n" ++
        "Options:\n" ++
        "  -v, --verbose...  Raise log verbosity (-v debug, -vv trace)\n" ++
        "  -h, --help        Print help\n"

end TeenyTiny
