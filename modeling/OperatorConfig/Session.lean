import OperatorConfig.Resolution.Resolve
import OperatorConfig.Resolution.Route
import OperatorConfig.Settings.Redaction

/-!
# Sessions

The stages of a resolution, and a few more ways to change settings, taken one at a time and in any
order. A session holds the settings, which every step changes in place, and what has been drawn of the
random words. Nothing is taken back where a step fails: what it has changed until then stays changed.
-/

namespace OperatorConfig

inductive Step where
  | load (document : List UInt8)
  | enter (namespaceName : String)
  | takeStored (data : Option Table)
  | generate
  | provision (store : Bool) (namespaceName : String)
  | environment (env : Environment)
  | specify (specification : Specification)
  | merge (document : List UInt8)
  | override (document : List UInt8)
  | connectExternal
  | redact
  | setRoute (env : Environment) (namespaceName : String)
  /-- Decides about an upgrade and keeps the decision in the settings. -/
  | decide (namespaceName : String)

structure Session where
  settings : Settings
  words : Words

/-- Work in a session, which may fail on the way. -/
abbrev Work := ExceptT Failure (StateT Session Operator)

namespace Work

variable {α : Type}

/-- Goes on with what a computation gives. -/
def ask (inquiry : Operator α) : Work α := ExceptT.lift (StateT.lift inquiry)

/-- Goes on with a value, or ends the work with a failure. -/
def attempt (result : Except Failure α) : Work α := ExceptT.mk (pure result)

def settings : Work Settings := return (← get).settings

def change (f : Settings → Settings) : Work Unit :=
  modify fun session => { session with settings := f session.settings }

def generateMissing : Work Unit := do
  let s ← settings
  ask (Operator.notes (s.missingSecrets.map .generating))
  modify fun session =>
    let (settings, words) := session.settings.generateMissing session.words
    ⟨settings, words⟩

def provision (reach : Reach) (namespaceName : String) : Work Unit := do
  let stored ← ask
    (if reach.store then Operator.secrets Resolution.secretsName namespaceName else pure (.ok none))
  let data ← attempt stored
  ask (Operator.notes (Resolution.layoutEvents data))
  change (Bundle.ofData data).apply
  generateMissing

def override (overrides : Platform) : Work Unit :=
  change fun s => { s with platform := Schema.merge s.platform overrides }

/-- Puts the URL of an external database in the place of that of the managed one. -/
def connectExternal : Work Unit := do
  let s ← settings
  match ← attempt s.externalUrl? with
  | none => pure ()
  | some url => do
      ask (Operator.note (.usingExternal url.text))
      change fun s => { s with platform.components.database.url := url.text }

/-- Takes the host from the environment, or else from the route. -/
def setRoute (env : Environment) (namespaceName : String) : Work Unit :=
  match env.get? hostVariable with
  | some host => change (Settings.withHost host)
  | none => do
      let answer ← ask (Operator.routeHost namespaceName)
      match ← attempt answer with
      | none => pure ()
      | some host => change (Settings.withHost host)

def ofStep : Step → Work Unit
  | .load document => do
      let loaded ← attempt (Settings.loadBytes document)
      change fun _ => loaded
  | .enter namespaceName => change (Settings.inNamespace namespaceName)
  | .takeStored data => change (Bundle.ofData data).apply
  | .generate => generateMissing
  | .provision store namespaceName => provision { store } namespaceName
  | .environment env => change (Settings.applyEnvironment env)
  | .specify specification => do
      let overrides ← attempt (Platform.ofJson specification.toJson)
      override overrides
  | .merge document => do
      let upper ← attempt (Settings.loadBytes document)
      change fun s => Schema.merge s upper
  | .override document => do
      let overrides ← attempt (Platform.ofBytes document)
      override overrides
  | .connectExternal => connectExternal
  | .redact => change Settings.redacted
  | .setRoute env namespaceName => setRoute env namespaceName
  | .decide namespaceName => do
      let s ← settings
      let decision ← ask (Upgrade.decide s namespaceName)
      change (Settings.withDecision · decision)

end Work

namespace Session

/-- The failure of work, if it has failed, and the session that it has left. -/
def told : Except Failure Unit × Session → Option Failure × Session
  | (.ok (), after) => (none, after)
  | (.error failure, after) => (some failure, after)

/-- Takes a step; also gives the failure, if it fails. -/
def take (session : Session) (step : Step) : Operator (Option Failure × Session) := do
  return told (← (Work.ofStep step).run.run session)

end Session

end OperatorConfig
