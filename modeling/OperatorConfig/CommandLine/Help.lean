import OperatorConfig.CommandLine.Argument

/-!
# Help

What the program says about itself, and about each of its commands. A parameter is listed with its
description, the variable that can give it with what the variable holds, its default, and its choices.
-/

namespace OperatorConfig.CommandLine

def programName : String := "syndesis-config"

def programVersion : String := "0.1.0"

def programAbout : String :=
  "Configuration resolution and database upgrade decisions for the Syndesis Kubernetes operator"

def versionText : String := s!"{programName} {programVersion}\n"

/-- What is said about arguments that make no sense. -/
def usageText : String :=
  s!"error: the arguments make no sense\n\nUsage: {programName} [OPTIONS] <COMMAND>\n\n"
    ++ "For more information, try '--help'.\n"

def padded (width : Nat) (s : String) : String :=
  s ++ String.ofList (List.replicate (width - s.length) ' ')

def Parameter.usage (parameter : Parameter) : String :=
  let placeholder := String.ofList <| parameter.name.toList.map fun c =>
    if c = '-' then '_' else c.toUpper
  if parameter.form = .switch then s!"--{parameter.name}" else s!"--{parameter.name} <{placeholder}>"

def Parameter.description (vars : Variables) (parameter : Parameter) : String :=
  let held (name : String) : String := (vars.get? name).getD ""
  let environment := parameter.variableName.map fun name => s!"[env: {name}={held name}]"
  let standard := parameter.default.map fun value => s!"[default: {value}]"
  let choices :=
    match parameter.form with
    | .choice names => some ("[possible values: " ++ ", ".intercalate names ++ "]")
    | _ => none
  " ".intercalate ([some parameter.about, environment, standard, choices].filterMap id)

structure Entry where
  usage : String
  about : String

def askingEntries (scope : Scope) : List Entry :=
  ⟨"  -h, --help", "Print help"⟩ ::
    (if scope = none then [⟨"  -V, --version", "Print version"⟩] else [])

def parameterEntries (vars : Variables) (scope : Scope) : List Entry :=
  let entry (parameter : Parameter) : Entry :=
    ⟨"      " ++ parameter.usage, parameter.description vars⟩
  match scope.parameters with
  | first :: second :: rest => (second :: first :: rest).map entry
  | parameters => parameters.map entry

def inColumns (entries : List Entry) : String :=
  let width := entries.foldl (fun width entry => max width entry.usage.length) 0
  String.join <| entries.map fun entry => padded width entry.usage ++ "  " ++ entry.about ++ "\n"

/-- Entries with the description on a line of its own. -/
def inLines (entries : List Entry) : String :=
  String.join <| entries.map fun entry => entry.usage ++ "\n          " ++ entry.about ++ "\n"

def commandList : String :=
  inColumns <|
    (Command.all.map fun command => ⟨"  " ++ padded 7 command.name, command.about⟩)
      ++ [⟨"  help   ", "Print this message or the help of the given subcommand(s)"⟩]

def helpText (vars : Variables) : Scope → String
  | none =>
      s!"{programAbout}\n\nUsage: {programName} [OPTIONS] <COMMAND>\n\nCommands:\n" ++ commandList
        ++ "\nOptions:\n" ++ inColumns (parameterEntries vars none ++ askingEntries none)
  | some command =>
      let entries := parameterEntries vars (some command) ++ askingEntries (some command)
      s!"{command.about}\n\nUsage: {programName} {command.name} [OPTIONS]\n\nOptions:\n"
        ++ (if command.parameters.isEmpty then inColumns entries else inLines entries)

def helpOnHelpText : String :=
  s!"Print this message or the help of the given subcommand(s)\n\nUsage: {programName} help [COMMAND]"
    ++ "\n\nCommands:\n" ++ commandList

end OperatorConfig.CommandLine
