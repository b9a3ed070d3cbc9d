import MonkeySyntax.CommandLine.Arguments
import MonkeySyntax.CommandLine.Log

/-!
# The manual

The grammar of the program and of its three commands, and the texts that describe them.
-/

set_option autoImplicit false

namespace MonkeySyntax.CommandLine

def version : String :=
  "0.1.0"

def termsOfUse : String :=
  "MIT"

def levelNames : List String :=
  Level.all.map Level.name

def commandNames : List String :=
  ["repl", "tokenize", "parse"]

def helpFlag : Flag := ⟨["-h", "--help"], .showHelp⟩

def versionFlag : Flag := ⟨["--version"], .showVersion⟩

def levelFlag : Flag := ⟨["--log-level"], .keep (some levelNames)⟩

def promptFlag : Flag := ⟨["--prompt"], .keep none⟩

def strictFlag : Flag := ⟨["--strict"], .note⟩

def mainGrammar : Grammar where
  program := "monkey"
  usage :=
    "usage: monkey [-h] [--version] [--log-level \x7bDEBUG,INFO,WARNING,ERROR\x7d]\n" ++
    "              \x7brepl,tokenize,parse\x7d ...\n"
  details :=
    "\nMonkey language lexer and parser\n" ++
    "\npositional arguments:\n" ++
    "  \x7brepl,tokenize,parse\x7d\n" ++
    "    repl                Read lines and print their tokens\n" ++
    "    tokenize            Print the tokens of a file\n" ++
    "    parse               Print the AST of a file\n" ++
    "\noptions:\n" ++
    "  -h, --help            show this help message and exit\n" ++
    "  --version             show program's version number and exit\n" ++
    "  --log-level \x7bDEBUG,INFO,WARNING,ERROR\x7d\n" ++
    "                        Logging verbosity (default: WARNING)\n" ++
    "\nExamples:\n" ++
    "    monkey repl                    # Start the interactive token printer\n" ++
    "    monkey tokenize program.mk     # Print the tokens of a file\n" ++
    "    monkey parse program.mk        # Print the AST of a file\n" ++
    "        \n"
  flags := [helpFlag, versionFlag, levelFlag]
  operands := .command "command" commandNames

def replGrammar : Grammar where
  program := "monkey repl"
  usage := "usage: monkey repl [-h] [--prompt PROMPT]\n"
  details :=
    "\noptions:\n" ++
    "  -h, --help       show this help message and exit\n" ++
    "  --prompt PROMPT  Prompt string (default: '>> ')\n"
  flags := [helpFlag, promptFlag]
  operands := .none

def tokenizeGrammar : Grammar where
  program := "monkey tokenize"
  usage := "usage: monkey tokenize [-h] [--strict] file\n"
  details :=
    "\npositional arguments:\n" ++
    "  file        Source file\n" ++
    "\noptions:\n" ++
    "  -h, --help  show this help message and exit\n" ++
    "  --strict    Fail on the first illegal character\n"
  flags := [helpFlag, strictFlag]
  operands := .one "file"

def parseGrammar : Grammar where
  program := "monkey parse"
  usage := "usage: monkey parse [-h] file\n"
  details :=
    "\npositional arguments:\n" ++
    "  file        Source file\n" ++
    "\noptions:\n" ++
    "  -h, --help  show this help message and exit\n"
  flags := [helpFlag]
  operands := .one "file"

end MonkeySyntax.CommandLine
