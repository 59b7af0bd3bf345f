import OperatorConfig.Log.Event
import OperatorConfig.Question

/-!
# Computations of the operator

An operator's computation asks the questions of a resolution and notes events.
-/

namespace OperatorConfig

/-- A computation of the operator. -/
abbrev Operator := Inquiry Question Question.Answer Event

namespace Operator

def note (event : Event) : Operator Unit := Inquiry.noted event

def notes (events : List Event) : Operator Unit := Inquiry.notes events

def secrets (name namespaceName : String) : Operator (Except Failure (Option Table)) :=
  Inquiry.question (Question.secrets name namespaceName)

def containers (namespaceName : String) : Operator (Except Failure (Option (List Container))) :=
  Inquiry.question (Question.containers namespaceName)

/-- Asks the running database for its version. -/
def runningBanner (connection : Connection) : Operator (Except Failure String) :=
  Inquiry.question (Question.runningBanner connection)

/-- Asks for the version that the next rollout will run. -/
def targetBanner (namespaceName : String) : Operator (Except Failure String) :=
  Inquiry.question (Question.targetBanner namespaceName)

def routeHost (namespaceName : String) : Operator (Except Failure (Option String)) :=
  Inquiry.question (Question.routeHost namespaceName)

end Operator

end OperatorConfig
