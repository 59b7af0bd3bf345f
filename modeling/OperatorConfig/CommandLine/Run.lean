import OperatorConfig.Cluster.Definition
import OperatorConfig.CommandLine.Help
import OperatorConfig.CommandLine.Program
import OperatorConfig.Resolution.Status
import OperatorConfig.Settings.Addon
import OperatorConfig.Settings.Redaction
import OperatorConfig.Yaml.Printer

/-!
# Running a command

A resolution runs without a cluster, with a specification from a file, or in a cluster, from which it
takes the specification, and to which it may report the outcome. A report that fails is noted and makes
no difference otherwise. What ends a run is told with everything that lies behind it, and the exit status
says whether it is worth trying again.
-/

namespace OperatorConfig.CommandLine

/-- What ends a run. -/
inductive Trouble where
  | failure (cause : Failure)
  | noConnection (detail : String)
  | unreadable (path : String) (fault : FileFault)
  /-- The specification is no document. -/
  | malformed (path : String) (fault : Yaml.Fault)
  /-- The specification is no JSON value. -/
  | unsuitable (path : String) (obstacle : Yaml.Value.Obstacle)

namespace Trouble

/-- A trouble with everything that lies behind it. -/
def account : Trouble → String
  | .failure cause => ": ".intercalate (cause.message :: cause.causes)
  | .noConnection detail => s!"connecting to Kubernetes cluster: {detail}"
  | .unreadable path fault => s!"reading {path}: {fault.message}"
  | .malformed path fault => s!"parsing {path}: {fault.message}"
  | .unsuitable path obstacle => s!"parsing {path}: {obstacle.message}"

/-- Whether it is worth trying again. -/
def isRetriable : Trouble → Bool
  | .failure cause => cause.isRetriable
  | .noConnection _ => true
  | _ => false

end Trouble

structure Outcome where
  exitStatus : Nat
  output : String := ""
  /-- What is said about arguments that make no sense. -/
  complaint : String := ""

/-- The variable that names the pod of the operator. -/
def podVariable : String := "POD_NAME"

/-- The exit status of a trouble that may clear. -/
def retryStatus : Nat := 75

/-- The specification in a document of a file. -/
def specificationOf (path : String) (content : Except FileFault (List UInt8)) :
    Except Trouble Specification := do
  let document ← content.mapError (.unreadable path)
  let value ← (Yaml.ofBytes .jsonValues document).mapError (.malformed path)
  let json ← value.toJson.mapError (.unsuitable path)
  let overrides ← (Platform.ofJson json.canonical).mapError .failure
  return ⟨overrides⟩

/-- The specification in a file; without a file nothing is overridden. -/
def readSpecification : Option String → Program (Except Trouble Specification)
  | none => return .ok {}
  | some path => do
      let content ← Program.file path
      return specificationOf path content

/-- A resolution without a cluster. -/
def resolveOffline (options : Options) (env : Environment) (words : Words) :
    Program (Except Trouble Resolution) := do
  match ← readSpecification options.specFile with
  | .error trouble => return .error trouble
  | .ok specification => do
      let content ← Program.file options.config
      let (outcome, _) ← Program.overWire <| Cluster.Access.run {} <|
        Resolution.resolveDocument { store := false, database := false } options.namespaceName
          specification env options.config content words
      return outcome.mapError .failure

/-- The resolution of the custom resource in the cluster, with the host of the installation. -/
def resolveOnline (options : Options) (access : Cluster.Access) (env : Environment) (words : Words) :
    Program (Except Failure Resolution) := do
  match ← Program.overWire (Cluster.fetchSpecification options.namespaceName options.name) with
  | .error failure => return .error failure
  | .ok specification => do
      let content ← Program.file options.config
      let resolution ← Program.overWire <| access.run <|
        Resolution.resolveDocument {} options.namespaceName specification env options.config content words
      match resolution.1 with
      | .error failure => return .error failure
      | .ok resolution => do
          let routed ← Program.overWire <| access.run <|
            resolution.settings.setRoute env options.namespaceName
          return routed.map fun settings => { resolution with settings }

/-- A resolution in the cluster, with a report if one is wanted. -/
def resolveInCluster (options : Options) (env : Environment) (words : Words) :
    Program (Except Trouble Resolution) := do
  match ← Program.connect with
  | .error detail => return .error (.noConnection detail)
  | .ok () => do
      Program.note .connected
      let access : Cluster.Access :=
        { pod := env.value podVariable, patience := 1000 * options.probeTimeout }
      let outcome ← resolveOnline options access env words
      if options.reportStatus then
        let reported ← Program.overWire <|
          Cluster.report options.namespaceName options.name (Status.ofOutcome outcome)
        match reported with
        | .error failure => Program.note (.reportFailed failure)
        | .ok () => pure ()
      return outcome.mapError .failure

def resolve (options : Options) (env : Environment) (words : Words) :
    Program (Except Trouble Resolution) := do
  Program.note (.starting options.namespaceName)
  if options.offline then resolveOffline options env words
  else resolveInCluster options env words

/-- What is printed of a resolution: the decision and the settings without secrets. -/
def shown (resolution : Resolution) : Json :=
  (Json.object
    [("upgradeDecision", .text resolution.upgrade.name),
      ("configuration", Schema.toJson resolution.settings.redacted)]).canonical

def Output.print (output : Output) (document : Json) : String :=
  match output with
  | .yaml => Yaml.render document
  | .json => document.pretty ++ "\n"

def addonList (s : Settings) : String :=
  String.join <| Addon.all.map fun addon => padded 10 addon.name ++ s!" {addon.isEnabled s}\n"

def Invocation.print (invocation : Invocation) (options : Options) (resolution : Resolution) : String :=
  match invocation.command with
  | .addons => addonList resolution.settings
  | _ => options.output.print (shown resolution)

def Invocation.run (invocation : Invocation) (vars : Variables) (words : Words) :
    Program Outcome := do
  if invocation.command = .crd then return { exitStatus := 0, output := Yaml.render Cluster.definition }
  else
    let options := invocation.options vars
    match ← resolve options (Environment.ofTable vars) words with
    | .ok resolution =>
        return { exitStatus := 0, output := invocation.print options resolution }
    | .error trouble => do
        Program.note (.failed trouble.account)
        return { exitStatus := if trouble.isRetriable then retryStatus else 1 }

def Halt.outcome (vars : Variables) : Halt → Outcome
  | .usage => { exitStatus := 2, complaint := usageText }
  | .help scope => { exitStatus := 0, output := helpText vars scope }
  | .helpOnHelp => { exitStatus := 0, output := helpOnHelpText }
  | .version => { exitStatus := 0, output := versionText }

/-- Runs the program with its arguments. -/
def run (vars : Variables) (words : Words) (arguments : List String) : Program Outcome :=
  match invocation vars arguments with
  | .ok invocation => invocation.run vars words
  | .error halt => return halt.outcome vars

/-- The variable that sets the filter of the log. -/
def filterVariable : String := "RUST_LOG"

def variableNames : List String :=
  [filterVariable, podVariable, hostVariable]
    ++ (Parameter.logFormat :: Parameter.resolution).filterMap (·.variableName)
    ++ Settings.variableNames

/-- The records of events that pass the filter of the environment. -/
def records (vars : Variables) (events : List Event) : List Log.Record :=
  let filter := Log.Filter.ofText ((vars.get? filterVariable).getD "")
  (events.map Event.record).filter filter.passes

end OperatorConfig.CommandLine
