import OperatorConfig.Resolution.Resolve

/-!
# The reported status

What the custom resource says about the last resolution: whether it came to an end, what about the
database, and a message for people.
-/

namespace OperatorConfig

inductive Phase where
  | resolved
  | resolutionFailed
deriving DecidableEq

def Phase.name : Phase → String
  | .resolved => "Resolved"
  | .resolutionFailed => "ResolutionFailed"

/-- The status of a custom resource; the time of the resolution is added when it is reported. -/
structure Status where
  phase : Option Phase := none
  message : Option String := none
  databaseNeedsUpgrade : Bool := false
  upgradeDecision : Option String := none
  lastResolutionTime : Option String := none
deriving DecidableEq

namespace Status

def ofDecision : Except Failure Decision → Status
  | .ok decision =>
      { phase := some .resolved
        message :=
          match decision with
          | .undetermined reason => some s!"Upgrade check undetermined: {reason}"
          | _ => some "Configuration resolved"
        databaseNeedsUpgrade := decision.needsUpgrade
        upgradeDecision := some decision.name }
  | .error failure =>
      { phase := some .resolutionFailed
        message := some failure.message }

/-- The status that describes the outcome of a resolution. -/
def ofOutcome (outcome : Except Failure Resolution) : Status :=
  ofDecision (outcome.map (·.upgrade))

def textMember (key : String) : Option String → List (String × Json)
  | some value => [(key, .text value)]
  | none => []

/-- The status as JSON; what it does not say is left out. -/
def toJson (status : Status) : Json :=
  (Json.object <|
    textMember "phase" (status.phase.map Phase.name)
      ++ textMember "message" status.message
      ++ [("databaseNeedsUpgrade", Json.flag status.databaseNeedsUpgrade)]
      ++ textMember "upgradeDecision" status.upgradeDecision
      ++ textMember "lastResolutionTime" status.lastResolutionTime).canonical

end Status

end OperatorConfig
