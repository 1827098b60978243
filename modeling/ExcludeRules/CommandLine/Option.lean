/-
Command lines of options and operands.

An option has a long name and may have a short one; long names may be shortened as
long as one option is meant.  The value of an option is the next argument, or
stands behind the name; short options without values can be written together.
After two dashes every argument is an operand.  Operands come in one run: it is
what stands between two options, or all that is left.

Options take effect in the order in which they are written, so reading gives a
list of settings and, behind it, what is left over or what is wrong.
-/
import ExcludeRules.Text.Digit
import ExcludeRules.Text.Quoted

namespace ExcludeRules.CommandLine

/-- An option of a command; `key` says what it is for. -/
structure OptionSpec (κ : Type) where
  key : κ
  short : Option Char
  long : String
  takesValue : Bool
  deriving Repr

namespace OptionSpec

variable {κ : Type}

/-- The names of an option as they are written, the short one first. -/
def names (o : OptionSpec κ) : List String :=
  (o.short.map fun c => String.ofList ['-', c]).toList ++ ["--" ++ o.long]

/-- What an option is called in messages. -/
def title (o : OptionSpec κ) : String := "/".intercalate o.names

end OptionSpec

/-- How many operands a command takes. -/
inductive Operands
  /-- At least one. -/
  | some
  /-- A word and everything behind it, options included. -/
  | wordAndRest
  deriving DecidableEq, Repr

/-- The options and operands of a command. -/
structure Grammar (κ : Type) where
  options : List (OptionSpec κ)
  operands : Operands
  /-- What the operands are called in messages. -/
  operandName : String

/-- What is wrong with a command line. -/
inductive UsageFault
  | ambiguous (written : String) (candidates : List String)
  | missingValue (option : String)
  | ignoredValue (option value : String)
  | invalidChoice (name value : String) (choices : List String)
  | missingOperand (name : String)
  | unrecognized (arguments : List String)
  deriving DecidableEq, Repr

def UsageFault.message : UsageFault → String
  | ambiguous written candidates =>
    "ambiguous option: " ++ written ++ " could match " ++ ", ".intercalate candidates
  | missingValue option => "argument " ++ option ++ ": expected one argument"
  | ignoredValue option value =>
    "argument " ++ option ++ ": ignored explicit argument " ++ Text.quote value
  | invalidChoice name value choices =>
    "argument " ++ name ++ ": invalid choice: " ++ Text.quote value ++ " (choose from "
      ++ ", ".intercalate (choices.map Text.quote) ++ ")"
  | missingOperand name => "the following arguments are required: " ++ name
  | unrecognized arguments => "unrecognized arguments: " ++ " ".intercalate arguments

/-- What one part of a command line sets. -/
inductive Setting (κ : Type)
  | flag (key : κ)
  | value (key : κ) (text : String)
  | operands (texts : List String)
  deriving DecidableEq, Repr

/-! ### What an argument is -/

/-- What stands behind the name of an option in the same argument. -/
structure Attached where
  /-- Whether an equals sign stands between. -/
  separated : Bool
  text : List Char
  deriving DecidableEq, Repr

inductive Argument (κ : Type)
  | operand
  /-- Two dashes, which only mark that operands follow. -/
  | dashes
  | option (spec : OptionSpec κ) (long : Bool) (attached : Option Attached)
  /-- An option that the command does not have. -/
  | unknown

namespace Argument

variable {κ : Type}

def isOperand : Argument κ → Bool
  | operand => true
  | _ => false

def isDashes : Argument κ → Bool
  | dashes => true
  | _ => false

def isOption : Argument κ → Bool
  | option _ _ _ => true
  | unknown => true
  | _ => false

/-- Cuts an argument at its first equals sign. -/
def cut (arg : List Char) : List Char × Option Attached :=
  let name := arg.takeWhile (· ≠ '=')
  (name, if name.length < arg.length then some ⟨true, arg.drop (name.length + 1)⟩ else none)

/-- Each name of each option. -/
def named (options : List (OptionSpec κ)) : List (List Char × OptionSpec κ) :=
  options.flatMap fun o => o.names.map fun name => (name.toList, o)

def isLong (name : List Char) : Bool := ['-', '-'].isPrefixOf name

/-- The names that an argument may stand for, with what is attached to them. -/
def candidates (options : List (OptionSpec κ)) (arg : List Char) :
    List (List Char × OptionSpec κ × Option Attached) :=
  if isLong arg then
    let (name, attached) := cut arg
    (named options).filterMap fun (n, o) =>
      if name.isPrefixOf n then some (n, o, attached) else none
  else
    (named options).filterMap fun (n, o) =>
      if n = arg.take 2 then some (n, o, some ⟨false, arg.drop 2⟩)
      else if arg.isPrefixOf n then some (n, o, none)
      else none

def isDigit (c : Char) : Bool := (Text.digitValue? c).isSome

/-- Whether an argument is a negative number, with or without a point; one line feed may follow. -/
def isNegativeNumber (arg : List Char) : Bool :=
  match arg with
  | '-' :: rest =>
    let body := if rest.getLast? = some '\n' then rest.dropLast else rest
    match body.dropWhile isDigit with
    | [] => !body.isEmpty
    | '.' :: fraction => !fraction.isEmpty && fraction.all isDigit
    | _ => false
  | _ => false

/-- What an argument in front of any two dashes is. -/
def ofText (options : List (OptionSpec κ)) (text : String) : Except UsageFault (Argument κ) :=
  let arg := text.toList
  let find (name : List Char) : Option (OptionSpec κ) :=
    ((named options).find? (·.1 = name)).map (·.2)
  if arg.head? ≠ some '-' then .ok operand
  else match find arg with
    | some o => .ok (option o (isLong arg) none)
    | none =>
      if arg.length = 1 then .ok operand
      else match find (cut arg).1, (cut arg).2 with
        | some o, some attached => .ok (option o (isLong arg) attached)
        | _, _ =>
          match candidates options arg with
          | [(name, o, attached)] => .ok (option o (isLong name) attached)
          | [] =>
            if isNegativeNumber arg || arg.contains ' ' then .ok operand else .ok unknown
          | several => .error (.ambiguous text (several.map fun c => String.ofList c.1))

/-- What each argument is. -/
def ofTexts (options : List (OptionSpec κ)) :
    List String → Except UsageFault (List (Argument κ × String))
  | [] => .ok []
  | text :: rest =>
    if text = "--" then .ok ((dashes, text) :: rest.map fun t => (operand, t))
    else do
      let a ← ofText options text
      return (a, text) :: (← ofTexts options rest)

end Argument

/-! ### Reading -/

/-- The settings up to the end of a command line, or up to what is wrong with it. -/
structure Reading (κ : Type) where
  settings : List (Setting κ)
  /-- The arguments that are left over. -/
  outcome : Except UsageFault (List String)

namespace Reading

variable {κ : Type}

def failed (fault : UsageFault) : Reading κ := ⟨[], .error fault⟩

/-- A reading with settings in front. -/
def after (settings : List (Setting κ)) (r : Reading κ) : Reading κ :=
  { r with settings := settings ++ r.settings }

/-- A reading with arguments left over in front. -/
def leaving (texts : List String) (r : Reading κ) : Reading κ :=
  { r with outcome := r.outcome.map (texts ++ ·) }

end Reading

/-- What an option that is written amounts to. -/
structure Step (κ : Type) where
  settings : List (Setting κ)
  /-- Options in the same argument that the command does not have. -/
  left : List String
  /-- Whether the argument behind it is its value. -/
  usesNext : Bool

section

variable {κ : Type}

/-- Reads an option; `next` is the operand behind it, if one follows. -/
def readOption (options : List (OptionSpec κ)) (next : Option String) :
    (fuel : Nat) → OptionSpec κ → (long : Bool) → Option Attached → Except UsageFault (Step κ)
  | 0, _, _, _ => .ok ⟨[], [], false⟩
  | fuel + 1, o, long, attached =>
    match attached with
    | none =>
      if o.takesValue then
        match next with
        | some value => .ok ⟨[.value o.key value], [], true⟩
        | none => .error (.missingValue o.title)
      else .ok ⟨[.flag o.key], [], false⟩
    | some a =>
      if o.takesValue then .ok ⟨[.value o.key (String.ofList a.text)], [], false⟩
      else match a.text with
        | [] => .error (.ignoredValue o.title "")
        | c :: rest =>
          if long || a.separated || c = '-' then
            .error (.ignoredValue o.title (String.ofList a.text))
          else match options.find? (·.short = some c) with
            | none => .ok ⟨[.flag o.key], [String.ofList ('-' :: a.text)], false⟩
            | some o' => do
              let attached' : Option Attached := match rest with
                | [] => none
                | '=' :: value => some ⟨true, value⟩
                | value => some ⟨false, value⟩
              let step ← readOption options next fuel o' false attached'
              return { step with settings := .flag o.key :: step.settings }

/-- The number of arguments that the operands take here. -/
def operandCount (operands : Operands) (args : List (Argument κ × String)) : Nat :=
  let lead := (args.takeWhile (·.1.isDashes)).length
  match args.drop lead with
  | [] => 0
  | (a, _) :: rest =>
    if !a.isOperand then 0
    else match operands with
      | .wordAndRest => args.length
      | .some => lead + 1 + (rest.takeWhile (!·.1.isOption)).length

/-- The operands among some arguments: the two dashes that mark them are left out. -/
def operandTexts (operands : Operands) (args : List (Argument κ × String)) : List String :=
  let texts := args.map (·.2)
  match operands with
  | .some => texts.erase "--"
  | .wordAndRest => texts

/-- Reads a command line; `open_` says whether the operands are still to come. -/
def readArguments (g : Grammar κ) :
    (fuel : Nat) → (open_ : Bool) → List (Argument κ × String) → Reading κ
  | 0, _, _ => ⟨[], .ok []⟩
  | fuel + 1, open_, args =>
    let count := if open_ then operandCount g.operands args else 0
    if 0 < count && !(args.head?.any (·.1.isOption)) then
      (readArguments g fuel false (args.drop count)).after
        [.operands (operandTexts g.operands (args.take count))]
    else match args.takeWhile (!·.1.isOption), args.dropWhile (!·.1.isOption) with
      | left, [] =>
        let last : Reading κ :=
          if open_ then .failed (.missingOperand g.operandName) else ⟨[], .ok []⟩
        last.leaving (left.map (·.2))
      | left, (.option o long attached, _) :: rest =>
        let next := match rest with
          | (.operand, text) :: _ => some text
          | _ => none
        match readOption g.options next (rest.length + 2 + (attached.map (·.text.length)).getD 0)
            o long attached with
        | .error fault => .failed fault
        | .ok step =>
          ((readArguments g fuel open_ (if step.usesNext then rest.drop 1 else rest)).leaving
            (left.map (·.2) ++ step.left)).after step.settings
      | left, (_, text) :: rest =>
        (readArguments g fuel open_ rest).leaving (left.map (·.2) ++ [text])

/-- Reads the arguments of a command. -/
def Grammar.read (g : Grammar κ) (texts : List String) : Reading κ :=
  match Argument.ofTexts g.options texts with
  | .error fault => .failed fault
  | .ok args => readArguments g (2 * args.length + 1) true args

end

end ExcludeRules.CommandLine
