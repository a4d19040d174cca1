import TypePolish.Command.Arguments

/-!
The texts of the command: what its flags show, and how it refuses arguments.
-/

namespace TypePolish

namespace Flag

def longForm : Flag → Text
  | .help => "--help".toList
  | .version => "--version".toList

def information : Flag → Text
  | .help =>
      ("Post-process generated TypeScript types\n" ++
        "\n" ++
        "Usage: process-types <PATH>\n" ++
        "\n" ++
        "Arguments:\n" ++
        "  <PATH>  Path to the generated type-definition file (rewritten in place)\n" ++
        "\n" ++
        "Options:\n" ++
        "  -h, --help     Print help\n" ++
        "  -V, --version  Print version\n").toList
  | .version => "process-types-cli 0.1.0\n".toList

end Flag

namespace Misuse

def usage : Text :=
  "\n\nUsage: process-types <PATH>".toList

def pointer : Text :=
  "\n\nFor more information, try '--help'.\n".toList

def inQuotes (argument : Text) : Text :=
  ['\''] ++ argument ++ ['\'']

def explanation : Misuse → Text
  | .missingPath =>
      "the following required arguments were not provided:\n  <PATH>".toList ++ usage
  | .emptyPath => "a value is required for '<PATH>' but none was supplied".toList
  | .surplus argument =>
      "unexpected argument ".toList ++ inQuotes argument.lossy ++ " found".toList ++ usage
  | .unknownOption option =>
      "unexpected argument ".toList ++ inQuotes option ++ " found\n\n  tip: to pass ".toList ++
        inQuotes option ++ " as a value, use ".toList ++ inQuotes ("-- ".toList ++ option) ++ usage
  | .unexpectedValue flag value =>
      "unexpected value ".toList ++ inQuotes value.lossy ++ " for ".toList ++
        inQuotes flag.longForm ++ " found; no more were expected".toList ++
        "\n\nUsage: process-types ".toList ++ flag.longForm ++ " <PATH>".toList

def message (misuse : Misuse) : Text :=
  "error: ".toList ++ misuse.explanation ++ pointer

end Misuse

end TypePolish
