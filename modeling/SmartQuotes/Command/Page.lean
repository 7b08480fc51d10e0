import SmartQuotes.Command.Reading

/-!
# Pages of help

The program and each of its commands have a page: the form of the command line, the usage lines and
the help text, laid out for a terminal of a hundred columns.
-/

namespace SmartQuotes.Command

inductive Page
  | program
  | check
  | fix
  | convert
deriving DecidableEq, Repr

namespace Page

def name : Page → String
  | program => "curly-quotes"
  | check => "curly-quotes check"
  | fix => "curly-quotes fix"
  | convert => "curly-quotes convert"

/-- The page of a command. -/
def ofCommand? (t : Text) : Option Page :=
  if t = text "check" then some check
  else if t = text "fix" then some fix
  else if t = text "convert" then some convert
  else none

def form : Page → Form
  | program => ⟨[.help, .verbose], .command⟩
  | check => ⟨[.help, .config, .summary], .any⟩
  | fix => ⟨[.help, .config], .any⟩
  | convert => ⟨[.help, .kind, .config], .one⟩

def kinds : String := "\x7bLiteral,TemplateLiteral,JSXText,VLiteral,VText\x7d"

def usage : Page → List String
  | program => ["usage: curly-quotes [-h] [-v] \x7bcheck,fix,convert\x7d ..."]
  | check => ["usage: curly-quotes check [-h] [--config CONFIG] [--summary] [paths ...]"]
  | fix => ["usage: curly-quotes fix [-h] [--config CONFIG] [paths ...]"]
  | convert =>
    ["usage: curly-quotes convert [-h] [--kind " ++ kinds ++ "]",
      "                            [--config CONFIG]",
      "                            text"]

def details : Page → List String
  | program =>
    ["Replace straight quotes with typographic quotes in JavaScript and Vue sources.",
      "",
      "positional arguments:",
      "  \x7bcheck,fix,convert\x7d",
      "    check              List fragments that still contain straight quotes.",
      "    fix                Rewrite sources with typographic quotes.",
      "    convert            Print the conversion of a single fragment text.",
      "",
      "options:",
      "  -h, --help           show this help message and exit",
      "  -v, --verbose        Log debug messages."]
  | check =>
    ["positional arguments:",
      "  paths            Files or directories to process (default: current directory).",
      "",
      "options:",
      "  -h, --help       show this help message and exit",
      "  --config CONFIG  YAML configuration file (default: .curly-quotes.yml when present).",
      "  --summary        Print a summary table at the end."]
  | fix =>
    ["positional arguments:",
      "  paths            Files or directories to process (default: current directory).",
      "",
      "options:",
      "  -h, --help       show this help message and exit",
      "  --config CONFIG  YAML configuration file (default: .curly-quotes.yml when present)."]
  | convert =>
    ["positional arguments:",
      "  text                  Fragment text, delimiters included.",
      "",
      "options:",
      "  -h, --help            show this help message and exit",
      "  --kind " ++ kinds,
      "                        Fragment kind deciding the delimiters (default: Literal).",
      "  --config CONFIG       YAML configuration file providing the quote marks."]

def lines (ls : List String) : Text := ls.flatMap fun l => text l ++ ['\n']

/-- The usage lines with what is wrong. -/
def refusal (p : Page) (problem : Problem) : Text :=
  lines p.usage ++ text p.name ++ text ": error: " ++ problem.message ++ ['\n']

def help (p : Page) : Text := lines (p.usage ++ [""] ++ p.details)

end Page

end SmartQuotes.Command
