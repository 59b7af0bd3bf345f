import OperatorConfig.CommandLine.Parameter
import OperatorConfig.Table

/-!
# Reading arguments

Arguments give parameters, each at most once: `--name value` or `--name=value`, and `--name` alone for a
switch. The parameters of the program come before the name of a command and those of the command behind
it; the format of the log may stand in both places. Asking for help or for the version ends the reading
at once. What the arguments do not give is taken from the environment or has a default.
-/

namespace OperatorConfig.CommandLine

/-- Why there is nothing to run. -/
inductive Halt where
  /-- The arguments make no sense. -/
  | usage
  | help (command : Option Command)
  /-- Help about asking for help. -/
  | helpOnHelp
  | version
deriving DecidableEq

structure Given where
  parameter : Parameter
  value : String := ""

/-- What arguments are read against: the program itself, or one of its commands. -/
abbrev Scope := Option Command

namespace Scope

def parameters : Scope → List Parameter
  | none => [Parameter.logFormat]
  | some command => Parameter.logFormat :: command.parameters

end Scope

abbrev Givens := List Given

namespace Givens

def value? (givens : Givens) (name : String) : Option String :=
  (givens.find? (·.parameter.name = name)).map (·.value)

def has (givens : Givens) (name : String) : Bool :=
  givens.any (·.parameter.name = name)

/-- Adds a parameter, unless it was given before or its value has not its form. -/
def settle (givens : Givens) : Option Given → Except Halt Givens
  | none => .ok givens
  | some given =>
      let acceptable :=
        given.parameter.form = .switch || given.parameter.form.accepts given.value
      if acceptable && !givens.has given.parameter.name then .ok (givens ++ [given])
      else .error .usage

end Givens

/-- What has been read up to the end or to a name that is no parameter. -/
structure Reading where
  givens : Givens
  /-- A parameter that is not settled yet. -/
  pending : Option Given
  /-- A name and what follows it. -/
  rest : Option (String × List String) := none

/-- A long argument as its name and the value attached to it. -/
def splitLong (s : List Char) : String × Option String :=
  match s.span (· ≠ '=') with
  | (name, []) => (String.ofList name, none)
  | (name, _ :: value) => (String.ofList name, some (String.ofList value))

/-- Whether an argument is a value rather than the name of a parameter. -/
def isValue (argument : String) : Bool :=
  match argument.toList with
  | ['-'] => true
  | '-' :: _ => false
  | _ => true

def ask (scope : Scope) (givens : Givens) (pending : Option Given) (letter : Char) : Except Halt Reading := do
  let _ ← givens.settle pending
  if letter = 'h' then throw (.help scope)
  else if letter = 'V' ∧ scope = none then throw .version
  else throw .usage

def read (scope : Scope) (givens : Givens) (pending : Option Given) :
    List String → Except Halt Reading
  | [] => .ok ⟨givens, pending, none⟩
  | argument :: rest =>
      match argument.toList with
      | ['-', '-'] => if rest = [] then .ok ⟨givens, pending, none⟩ else .error .usage
      | '-' :: '-' :: long =>
          match splitLong long with
          | ("help", none) => ask scope givens pending 'h'
          | ("version", none) => ask scope givens pending 'V'
          | (name, attached) =>
              match scope.parameters.find? (·.name = name) with
              | none => .error .usage
              | some parameter => do
                  let givens ← givens.settle pending
                  match parameter.form, attached with
                  | .switch, some _ => throw .usage
                  | .switch, none => read scope (← givens.settle (some ⟨parameter, ""⟩)) none rest
                  | _, some value => read scope (← givens.settle (some ⟨parameter, value⟩)) none rest
                  | _, none =>
                      match rest with
                      | value :: rest =>
                          if isValue value then read scope givens (some ⟨parameter, value⟩) rest
                          else throw .usage
                      | [] => throw .usage
      | '-' :: letter :: _ => ask scope givens pending letter
      | _ => .ok ⟨givens, pending, some (argument, rest)⟩

/-- The environment as the arguments see it: which variables are set, even to nothing. -/
abbrev Variables := Table

/-- Whether the variables that stand in for parameters which are not given have their forms. -/
def variablesFit (vars : Variables) (scope : Scope) (givens : Givens) : Bool :=
  scope.parameters.all fun parameter =>
    givens.has parameter.name
      || (parameter.variableName.bind vars.get?).all parameter.form.accepts

/-- Settles the last parameter and checks the variables that stand in. -/
def conclude (vars : Variables) (scope : Scope) (givens : Givens) (pending : Option Given) :
    Except Halt Givens := do
  let givens ← givens.settle pending
  if variablesFit vars scope givens then return givens else throw .usage

def areCompatible (givens : Givens) : Bool :=
  (!givens.has "spec-file" || givens.has "offline")
    && !(givens.has "report-status" && givens.has "offline")

/-- The value of a parameter: as given, from the environment, or by default. -/
def valueOf (vars : Variables) (givens : Givens) (parameter : Parameter) : String :=
  (givens.value? parameter.name <|> parameter.variableName.bind vars.get?
    <|> parameter.default).getD ""

def helpTopic : List String → Halt
  | [] => .help none
  | [name] =>
      if name = "help" then .helpOnHelp
      else
        match Command.ofName? name with
        | some command => .help (some command)
        | none => .usage
  | _ => .usage

structure Invocation where
  command : Command
  givens : Givens
  logFormat : Log.Format

/-- The format of the log: what is given for the command goes before what is given for the program. -/
def logFormat (vars : Variables) (program command : Givens) : Log.Format :=
  let text :=
    (command.value? "log-format" <|> program.value? "log-format").getD
      (valueOf vars [] .logFormat)
  match Log.Format.ofText text with
  | .ok format => format
  | .error _ => .text

/-- What arguments ask to be run. -/
def invocation (vars : Variables) (arguments : List String) : Except Halt Invocation := do
  let program ← read none [] none arguments
  match program.rest with
  | none => throw .usage
  | some (name, arguments) =>
      if name = "help" then throw (helpTopic arguments)
      else
        match Command.ofName? name with
        | none => throw .usage
        | some command => do
            let reading ← read (some command) [] none arguments
            if reading.rest.isSome then throw .usage
            let givens ← conclude vars (some command) reading.givens reading.pending
            if !areCompatible givens then throw .usage
            let programGivens ← conclude vars none program.givens program.pending
            return ⟨command, givens, logFormat vars programGivens givens⟩

inductive Output where
  | yaml
  | json
deriving DecidableEq

structure Options where
  config : String
  namespaceName : String
  name : String
  offline : Bool
  specFile : Option String
  /-- In seconds. -/
  probeTimeout : Nat
  reportStatus : Bool
  output : Output

def resolutionValue (vars : Variables) (givens : Givens) (name : String) : String :=
  match Parameter.resolution.find? (·.name = name) with
  | some parameter => valueOf vars givens parameter
  | none => ""

def Output.ofName (name : String) : Output :=
  if name = "json" then .json else .yaml

def Invocation.options (vars : Variables) (invocation : Invocation) : Options :=
  let value := resolutionValue vars invocation.givens
  { config := value "config"
    namespaceName := value "namespace"
    name := value "name"
    offline := invocation.givens.has "offline"
    specFile := invocation.givens.value? "spec-file"
    probeTimeout := (natural? (value "probe-timeout-secs")).getD 0
    reportStatus := invocation.givens.has "report-status"
    output := .ofName (value "output") }

end OperatorConfig.CommandLine
