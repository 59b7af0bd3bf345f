import OperatorConfig.Log.Record
import OperatorConfig.Text.Digit

/-!
# Parameters of commands

A parameter has a name and, unless it is a switch, a value of a certain form; some values can also be
given by a variable of the environment. The program has parameters of its own, which also stand behind
its commands, and each command has those of the table here.
-/

namespace OperatorConfig.CommandLine

inductive Form where
  /-- No value: the parameter is given or not. -/
  | switch
  | text
  | path
  /-- An integer of 64 bits without a sign. -/
  | natural
  | choice (names : List String)
  | logFormat
deriving DecidableEq

/-- The number that digits denote, if it has 64 bits; a plus may stand in front. -/
def natural? (s : String) : Option Nat :=
  let digits :=
    match s.toList with
    | '+' :: rest => rest
    | digits => digits
  if digits ≠ [] ∧ digits.all Char.isDigit then
    let n := digits.foldl (fun n c => 10 * n + (c.toNat - '0'.toNat)) 0
    if n < UInt64.size then some n else none
  else none

def Form.accepts (form : Form) (value : String) : Bool :=
  match form with
  | .switch => false
  | .text => true
  | .path => value ≠ ""
  | .natural => (natural? value).isSome
  | .choice names => names.contains value
  | .logFormat => (Log.Format.ofText value).toBool

structure Parameter where
  name : String
  about : String
  form : Form := .text
  /-- The variable that gives the value if the arguments do not. -/
  variableName : Option String := none
  default : Option String := none

namespace Parameter

def logFormat : Parameter where
  name := "log-format"
  about := "Log output format (text or json)"
  form := .logFormat
  variableName := some "LOG_FORMAT"
  default := some "text"

def resolution : List Parameter :=
  [{ name := "config"
     about := "Default configuration document (YAML or JSON)"
     form := .path
     variableName := some "SYNDESIS_CONFIG_TEMPLATE"
     default := some "config/config.yaml" },
   { name := "namespace"
     about := "Namespace of the installation"
     variableName := some "POD_NAMESPACE"
     default := some "default" },
   { name := "name"
     about := "Name of the Syndesis custom resource"
     default := some "app" },
   { name := "offline"
     about := "Resolve without cluster access"
     form := .switch },
   { name := "spec-file"
     about := "Custom resource spec (YAML or JSON) used in offline mode"
     form := .path },
   { name := "probe-timeout-secs"
     about := "Timeout for each database version probe"
     form := .natural
     default := some "10" },
   { name := "report-status"
     about := "Record the outcome on the custom resource status"
     form := .switch },
   { name := "output"
     about := "Output format of the resolved configuration"
     form := .choice ["yaml", "json"]
     default := some "yaml" }]

end Parameter

inductive Command where
  | resolve
  | addons
  | crd
deriving DecidableEq

namespace Command

def all : List Command := [.resolve, .addons, .crd]

def name : Command → String
  | .resolve => "resolve"
  | .addons => "addons"
  | .crd => "crd"

def about : Command → String
  | .resolve => "Resolve the effective configuration and the database upgrade decision"
  | .addons => "List add-ons and whether the resolved configuration enables them"
  | .crd => "Print the Syndesis CustomResourceDefinition"

/-- The parameters of a command, without those of the program. -/
def parameters : Command → List Parameter
  | .resolve => Parameter.resolution
  | .addons => Parameter.resolution
  | .crd => []

def ofName? (name : String) : Option Command := all.find? (·.name = name)

end Command

end OperatorConfig.CommandLine
