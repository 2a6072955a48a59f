import Sexpr.Command.Invocation
import Sexpr.Text.Lines

/-!
Usage and help texts of the program and of its commands.
-/

namespace Sexpr.Command

def mainUsage : List String :=
  ["usage: lispish [-h] [--version] [-v] [--lenient]",
   "               \x7bcheck,tokens,tree,config\x7d ..."]

def CommandName.usage : CommandName → List String
  | .check => ["usage: lispish check [-h] [-q] [--no-tokens] [file]"]
  | .tokens => ["usage: lispish tokens [-h] [--format \x7btext,table,json\x7d] file"]
  | .tree => ["usage: lispish tree [-h] [--format \x7btext,json\x7d] file"]
  | .config => ["usage: lispish config [-h] [--show | --init | --paths] [--user]"]

def mainHelp : List String :=
  ["",
   "S-expression tokenizer and parser",
   "",
   "positional arguments:",
   "  \x7bcheck,tokens,tree,config\x7d",
   "                        Available commands",
   "    check               Echo input, list tokens and print the parse tree",
   "    tokens              List tokens",
   "    tree                Print the parse tree",
   "    config              Show or initialize configuration",
   "",
   "options:",
   "  -h, --help            show this help message and exit",
   "  --version             show program's version number and exit",
   "  -v, --verbose         Enable debug logging",
   "  --lenient             Accept any token as an atom (e.g. a stray ')')",
   "",
   "Command-line interface for lispish.",
   "",
   "Provides CLI commands via the `lispish` command:",
   "",
   "    lispish check [file]        - Echo input, list tokens and print the parse tree",
   "    lispish tokens <file>       - List tokens",
   "    lispish tree <file>         - Print the parse tree",
   "    lispish config              - Show or initialize configuration",
   "",
   "Use '-' (or omit the file for `check`) to read from stdin.",
   "",
   "Examples:",
   "    echo '(+ 3 4)' | lispish check",
   "    lispish tokens program.lsp --format table",
   "    lispish tree program.lsp --format json",
   "    lispish --lenient tree program.lsp",
   "    lispish config --init"]

def CommandName.help : CommandName → List String
  | .check =>
    ["",
     "positional arguments:",
     "  file         Source file (default: stdin)",
     "",
     "options:",
     "  -h, --help   show this help message and exit",
     "  -q, --quiet  Don't echo the input",
     "  --no-tokens  Omit the token listing"]
  | .tokens =>
    ["",
     "positional arguments:",
     "  file                  Source file ('-' for stdin)",
     "",
     "options:",
     "  -h, --help            show this help message and exit",
     "  --format \x7btext,table,json\x7d"]
  | .tree =>
    ["",
     "positional arguments:",
     "  file                  Source file ('-' for stdin)",
     "",
     "options:",
     "  -h, --help            show this help message and exit",
     "  --format \x7btext,json\x7d"]
  | .config =>
    ["",
     "options:",
     "  -h, --help  show this help message and exit",
     "  --show      Show effective configuration",
     "  --init      Create template config file",
     "  --paths     Show config file paths",
     "  --user      Use user config (~/.config/lispish/config.toml) for --init"]

def usageOf (command : Option CommandName) : String :=
  Text.unlines (match command with
    | none => mainUsage
    | some name => name.usage)

def helpOf (command : Option CommandName) : String :=
  usageOf command ++ Text.unlines (match command with
    | none => mainHelp
    | some name => name.help)

/-- The program, or the program with a command, as it is called. -/
def titleOf : Option CommandName → String
  | none => programName
  | some name => programName ++ " " ++ name.text

end Sexpr.Command
