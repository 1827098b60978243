/-
The command line of the program.

Options of the program stand in front of the command, those of the command behind
it.  Of an option that takes one value the last counts; rules and rule files are
collected.
-/
import ExcludeRules.CommandLine.Help
import ExcludeRules.CommandLine.Option

namespace ExcludeRules.CommandLine

inductive Key
  | help
  | version
  | config
  | debug
  | root
  | exclude
  | excludeFrom
  deriving DecidableEq, Repr

/-- What is given for a check, apart from the paths. -/
structure CheckOptions where
  root : Option String
  excludes : List String
  files : List String
  deriving DecidableEq, Repr

/-- What is to be done. -/
inductive Command
  /-- Show the expression of each rule. -/
  | translate (rules : List String)
  /-- Say of each path whether it is excluded. -/
  | check (options : CheckOptions) (paths : List String)
  deriving DecidableEq, Repr

structure Arguments where
  config : Option String
  debug : Bool
  command : Command
  deriving DecidableEq, Repr

/-- What a command line asks for. -/
inductive Request
  | run (arguments : Arguments)
  /-- Show a text and be done. -/
  | inform (text : String)
  | refuse (page : Page) (fault : UsageFault)
  deriving DecidableEq, Repr

namespace Page

def helpOption : OptionSpec Key := ⟨.help, some 'h', "help", false⟩

/-- The options and operands of each command. -/
def grammar : Page → Grammar Key
  | program => ⟨[helpOption, ⟨.version, some 'v', "version", false⟩,
      ⟨.config, some 'c', "config", true⟩, ⟨.debug, none, "debug", false⟩], .wordAndRest, "command"⟩
  | translate => ⟨[helpOption], .some, "RULE"⟩
  | check => ⟨[helpOption, ⟨.root, some 'r', "root", true⟩, ⟨.exclude, some 'e', "exclude", true⟩,
      ⟨.excludeFrom, some 'f', "exclude-from", true⟩], .some, "PATH"⟩

/-- The commands by the words that choose them. -/
def commands : List (String × Page) := [("translate", translate), ("check", check)]

/-- The text that a setting asks for in place of everything else. -/
def answer? (p : Page) : Setting Key → Option String
  | .flag .help => some p.help
  | .flag .version => some (programName ++ " " ++ version ++ "\n")
  | _ => none

/--
What the settings of a command amount to: the text that is asked for first, or
else what is wrong with the command line, or else the settings and what is left over.
-/
def settle (p : Page) (texts : List String) :
    Except Request (List (Setting Key) × List String) :=
  let r := p.grammar.read texts
  match r.settings.findSome? p.answer? with
  | some text => .error (.inform text)
  | none =>
    match r.outcome with
    | .error fault => .error (.refuse p fault)
    | .ok left => .ok (r.settings, left)

end Page

/-- The operands among settings. -/
def operandsOf (settings : List (Setting Key)) : List String :=
  settings.flatMap fun
    | .operands texts => texts
    | _ => []

/-- The options of a check with one more setting. -/
def CheckOptions.set (o : CheckOptions) : Setting Key → CheckOptions
  | .value .root text => { o with root := some text }
  | .value .exclude text => { o with excludes := o.excludes ++ [text] }
  | .value .excludeFrom text => { o with files := o.files ++ [text] }
  | _ => o

def CheckOptions.setAll (o : CheckOptions) (settings : List (Setting Key)) : CheckOptions :=
  settings.foldl .set o

/-- The command that some settings of it amount to. -/
def Command.ofSettings (p : Page) (settings : List (Setting Key)) : Command :=
  match p with
  | .check => .check (CheckOptions.setAll ⟨none, [], []⟩ settings) (operandsOf settings)
  | _ => .translate (operandsOf settings)

/-- The configuration file that is named, the last counting. -/
def configOf (settings : List (Setting Key)) : Option String :=
  settings.reverse.findSome? fun
    | .value .config text => some text
    | _ => none

/--
What a command line asks for.  The command is read where its word stands, so a
text that was asked for in front of it comes first, and what is left over of the
program's arguments is reported last.
-/
def Request.ofTexts (texts : List String) : Request :=
  let outer := Page.program.grammar.read texts
  match outer.settings.findSome? Page.program.answer? with
  | some text => .inform text
  | none =>
    match operandsOf outer.settings with
    | [] =>
      match outer.outcome with
      | .error fault => .refuse .program fault
      | .ok left => .refuse .program (.unrecognized left)
    | word :: rest =>
      match Page.commands.find? (·.1 = word) with
      | none => .refuse .program (.invalidChoice "command" word (Page.commands.map (·.1)))
      | some (_, page) =>
        match page.settle rest, outer.outcome with
        | .error request, _ => request
        | .ok _, .error fault => .refuse .program fault
        | .ok (settings, left), .ok outerLeft =>
          match outerLeft ++ left with
          | [] => .run ⟨configOf outer.settings, outer.settings.contains (.flag .debug),
              .ofSettings page settings⟩
          | texts => .refuse .program (.unrecognized texts)

end ExcludeRules.CommandLine
