import Scorebook.CommandLine.Commands

/-!
# Help

The texts that explain the program and its commands: what it does, how it is called, and its
commands, arguments and options in columns.
-/

namespace Scorebook.CommandLine

/-- A text with blanks behind it up to a width. -/
def padded (width : Nat) (s : String) : String :=
  s ++ String.ofList (List.replicate (width - s.length) ' ')

/-- A section with a heading: two columns, the first as wide as its longest entry. -/
def columns (heading : String) (rows : List (String × String)) : String :=
  let width := rows.foldl (fun w r => max w r.1.length) 0
  "\n" ++ heading ++ ":\n" ++
    String.join (rows.map fun (left, right) => "  " ++ padded width left ++ "  " ++ right ++ "\n")

def ArgumentSpec.shown (a : ArgumentSpec) : String :=
  if a.isRepeated then "[" ++ a.placeholder ++ "]..." else "<" ++ a.placeholder ++ ">"

/-- How an option is written in a call. -/
def OptionSpec.shown (o : OptionSpec) : String := "--" ++ o.name ++ " <" ++ o.placeholder ++ ">"

/-- An option in the list of options, in line with those that have a letter. -/
def OptionSpec.row (o : OptionSpec) : String × String :=
  match o.letter with
  | some c => ("-" ++ String.singleton c ++ ", " ++ o.shown, o.help)
  | none => ("    " ++ o.shown, o.help)

def helpRow : String × String := ("-h, --help", "Print help")
def versionRow : String × String := ("-V, --version", "Print version")

def aboutHelp : String := "Print this message or the help of the given subcommand(s)"

def programUsage : String := "Usage: " ++ programName ++ " [OPTIONS] <COMMAND>\n"

def programHelp : String :=
  about ++ "\n\n" ++ programUsage ++
    columns "Commands" ((CommandName.all.map fun c => (c.word, c.about)) ++
      [(helpWord, aboutHelp)]) ++
    columns "Options" [configOption.row, helpRow, versionRow]

def CommandName.usage (c : CommandName) : String :=
  let required := (c.options.filter (·.isRequired)).map (·.shown)
  "Usage: " ++ " ".intercalate ([programName, c.word, "[OPTIONS]"] ++ required ++
    c.arguments.map (·.shown)) ++ "\n"

def CommandName.help (c : CommandName) : String :=
  c.about ++ "\n\n" ++ c.usage ++ columns "Arguments" (c.arguments.map fun a => (a.shown, "")) ++
    columns "Options" (c.options.map (·.row) ++ [helpRow])

/-- What may stand behind the word that asks for help. -/
def helpArgument : ArgumentSpec := ⟨"COMMAND", .text, true⟩

def helpOnHelp : String :=
  aboutHelp ++ "\n\nUsage: " ++ programName ++ " " ++ helpWord ++ " " ++ helpArgument.shown ++
    "\n" ++
    columns "Arguments" [(helpArgument.shown, "Print help for the subcommand(s)")]

def helpText : HelpTopic → String
  | .program => programHelp
  | .command c => c.help
  | .help => helpOnHelp

def versionText : String := programName ++ " " ++ version ++ "\n"

def misuseText : String :=
  "error: the arguments cannot be understood\n\n" ++ programUsage ++
    "\nFor more information, try '--help'.\n"

end Scorebook.CommandLine
