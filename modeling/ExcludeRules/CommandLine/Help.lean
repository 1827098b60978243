/-
What the program says about its command line.
-/

namespace ExcludeRules.CommandLine

/-- The name of the program. -/
def programName : String := "rsyncfilter"

def version : String := "1.0.0"

/-- The commands, and the program before a command is chosen. -/
inductive Page
  | program
  | translate
  | check
  deriving DecidableEq, Repr

/-- A text of several lines. -/
def textOf (lines : List String) : String := String.join (lines.map (· ++ "\n"))

namespace Page

/-- What a command is called in messages. -/
def title : Page → String
  | program => programName
  | translate => programName ++ " translate"
  | check => programName ++ " check"

/-- The line that shows how a command is written. -/
def usage (p : Page) : String :=
  "usage: " ++ p.title ++
    match p with
    | program => " [-h] [-v] [-c FILE] [--debug] \x7btranslate,check\x7d ..."
    | translate => " [-h] RULE [RULE ...]"
    | check => " [-h] [-r DIR] [-e RULE] [-f FILE] PATH [PATH ...]"

/-- What the parts of a command line are for. -/
def explanation : Page → List String
  | program => [
    "",
    "rsyncfilter - rsync-compatible exclude rule matching",
    "",
    "positional arguments:",
    "  \x7btranslate,check\x7d",
    "    translate           Print the expression for each rule",
    "    check               Report whether paths are excluded",
    "",
    "options:",
    "  -h, --help            show this help message and exit",
    "  -v, --version         show program's version number and exit",
    "  -c FILE, --config FILE",
    "                        Configuration file path (YAML format)",
    "  --debug               Enable debug logging",
    "",
    "Examples:",
    "  # Show the expression generated for a rule",
    "  rsyncfilter translate '*.java' 'build/'",
    "",
    "  # Check paths against an exclude file",
    "  rsyncfilter check --root /srv/project --exclude-from excludes.txt " ++
      "src/Main.java build/out.o",
    "        "]
  | translate => [
    "",
    "positional arguments:",
    "  RULE        Filter rule text",
    "",
    "options:",
    "  -h, --help  show this help message and exit"]
  | check => [
    "",
    "positional arguments:",
    "  PATH                  Paths to check",
    "",
    "options:",
    "  -h, --help            show this help message and exit",
    "  -r DIR, --root DIR    Absolute transfer root (default: rules.root from",
    "                        config)",
    "  -e RULE, --exclude RULE",
    "                        Exclude rule (repeatable)",
    "  -f FILE, --exclude-from FILE",
    "                        Read exclude rules from FILE (repeatable)"]

/-- The whole help of a command. -/
def help (p : Page) : String := textOf (p.usage :: p.explanation)

end Page

end ExcludeRules.CommandLine
