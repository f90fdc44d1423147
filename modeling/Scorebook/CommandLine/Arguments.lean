import Scorebook.CommandLine.Commands
import Scorebook.Text.Search

/-!
# Reading the arguments

The arguments are read from left to right, and the first that is wrong decides.  An option is given
by its name or its letter, with its value behind an equals sign, behind the letter, or as the next
argument; it is given once, but the file of settings may be named both before and after the command,
and the later one counts.  After `--` nothing is an option any more.
-/

namespace Scorebook.CommandLine
open Text

inductive Shape where
  /-- Two hyphens: the rest are no options. -/
  | escape
  /-- A name, and a value behind an equals sign. -/
  | named (name : String) (value : Option String)
  /-- A letter, and what stands behind it. -/
  | lettered (letter : Char) (rest : List Char)
  | plain
deriving DecidableEq, Repr

/-- The shape of an argument.  A single hyphen is plain. -/
def shapeOf (arg : String) : Shape :=
  match arg.toList with
  | ['-', '-'] => .escape
  | '-' :: '-' :: cs =>
    match cutAt? ['='] cs with
    | some (name, value) => .named (String.ofList name) (some (String.ofList value))
    | none => .named (String.ofList cs) none
  | '-' :: c :: cs => .lettered c cs
  | _ => .plain

/-- The value that stands behind a letter, if there is one. -/
def behindLetter? : List Char → Option String
  | [] => none
  | '=' :: cs => some (String.ofList cs)
  | cs => some (String.ofList cs)

/-- Why nothing is to be done. -/
inductive Halt where
  /-- Help was asked for. -/
  | help (topic : HelpTopic)
  | version
  /-- The arguments are wrong. -/
  | misuse
deriving DecidableEq, Repr

inductive Place where
  /-- Before the command. -/
  | start
  | inside (command : CommandName)
  /-- Behind the word `help`. -/
  | helping (topic : HelpTopic)
deriving DecidableEq, Repr

structure Progress where
  place : Place
  /-- The values of options before the command. -/
  outer : List (String × String)
  /-- The values of options at this place. -/
  values : List (String × String)
  arguments : List String
  /-- The option whose value comes next. -/
  awaiting : Option OptionSpec
  escaped : Bool

namespace Progress

def start : Progress := ⟨.start, [], [], [], none, false⟩

def options (p : Progress) : List OptionSpec :=
  match p.place with
  | .inside c => c.options
  | _ => [configOption]

def helpTopic (p : Progress) : HelpTopic :=
  match p.place with
  | .inside c => .command c
  | _ => .program

/-- The argument that comes next, if one is taken. -/
def nextArgument? (p : Progress) : Option ArgumentSpec :=
  match p.place with
  | .inside c =>
    match c.arguments[p.arguments.length]?, c.arguments.getLast? with
    | some a, _ => some a
    | none, some a => if a.isRepeated then some a else none
    | none, none => none
  | _ => none

def giveValue (p : Progress) (o : OptionSpec) (value : String) : Except Halt Progress :=
  if (p.values.lookup o.name).isSome || !o.kind.accepts value then .error .misuse
  else .ok { p with values := p.values ++ [(o.name, value)], awaiting := none }

/-- Takes an option, with its value or without one. -/
def giveOption (p : Progress) (o : OptionSpec) : Option String → Except Halt Progress
  | some value => p.giveValue o value
  | none => .ok { p with awaiting := some o }

def giveArgument (p : Progress) (arg : String) : Except Halt Progress :=
  match p.nextArgument? with
  | some a =>
    if a.kind.accepts arg then .ok { p with arguments := p.arguments ++ [arg] }
    else .error .misuse
  | none => .error .misuse

/-- Takes the word for a command, or `help`. -/
def giveCommand (p : Progress) (word : String) : Except Halt Progress :=
  if word = helpWord then .ok { p with place := .helping .program }
  else
    match CommandName.ofWord? word with
    | some c => .ok { p with place := .inside c, outer := p.values, values := [] }
    | none => .error .misuse

/-- Takes the name of an option, or asks for help or the version. -/
def giveName (p : Progress) (name : String) (value : Option String) : Except Halt Progress :=
  if name = "help" then .error (if value.isSome then .misuse else .help p.helpTopic)
  else if name = "version" ∧ p.place = .start then
    .error (if value.isSome then .misuse else .version)
  else
    match p.options.find? fun o => o.name == name with
    | some o => p.giveOption o value
    | none => .error .misuse

/-- Takes the letter of an option, or asks for help or the version. -/
def giveLetter (p : Progress) (letter : Char) (rest : List Char) : Except Halt Progress :=
  if letter = 'h' then .error (.help p.helpTopic)
  else if letter = 'V' ∧ p.place = .start then .error .version
  else
    match p.options.find? fun o => o.letter == some letter with
    | some o => p.giveOption o (behindLetter? rest)
    | none => .error .misuse

/-- Takes what stands behind the word `help`: one command, or that word again. -/
def giveTopic (p : Progress) (topic : HelpTopic) (word : String) : Except Halt Progress :=
  match topic with
  | .program =>
    if word = helpWord then .ok { p with place := .helping .help }
    else
      match CommandName.ofWord? word with
      | some c => .ok { p with place := .helping (.command c) }
      | none => .error .misuse
  | _ => .error .misuse

def step (p : Progress) (arg : String) : Except Halt Progress :=
  match p.place with
  | .helping topic => p.giveTopic topic arg
  | _ =>
    if p.escaped then p.giveArgument arg
    else
      match shapeOf arg, p.awaiting with
      | .plain, some o => p.giveValue o arg
      | _, some _ => .error .misuse
      | .escape, none => .ok { p with escaped := true }
      | .named name value, none => p.giveName name value
      | .lettered letter rest, none => p.giveLetter letter rest
      | .plain, none => if p.place = .start then p.giveCommand arg else p.giveArgument arg

/-- The command with its values; `none` when something is missing. -/
def command? (p : Progress) (c : CommandName) : Option Command :=
  match c, p.arguments with
  | .ingest, gameIds => some (.ingest gameIds (p.values.lookup "from-file"))
  | .decode, [gameId] => some (.decode gameId)
  | .resolve, [token, year] => (readYear? year).map (.resolve token)
  | .extract, [file] =>
    (p.values.lookup "game-id").map fun gameId =>
      .extract file gameId ((p.values.lookup "date").bind readDate?)
  | .rosterImport, [file] => some (.rosterImport file)
  | _, _ => none

def config (p : Progress) : String :=
  ((p.values.lookup configOption.name).or (p.outer.lookup configOption.name)).getD defaultConfig

/-- What is to be done when all arguments were read. -/
def finish (p : Progress) : Except Halt Invocation :=
  match p.awaiting, p.place with
  | some _, _ => .error .misuse
  | none, .start => .error .misuse
  | none, .helping topic => .error (.help topic)
  | none, .inside c =>
    match p.command? c with
    | some command => .ok ⟨p.config, command⟩
    | none => .error .misuse

end Progress

def readArguments (args : List String) : Except Halt Invocation := do
  (← args.foldlM Progress.step .start).finish

end Scorebook.CommandLine
