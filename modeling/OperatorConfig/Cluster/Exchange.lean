import OperatorConfig.Cluster.Reply
import OperatorConfig.Operator
import OperatorConfig.Postgres.Session

/-!
# What goes over the wire

The operator sends requests to the cluster and messages to the managed database. A `Wire` computation
asks for the answers one after the other.
-/

namespace OperatorConfig.Cluster

/-- What is sent. -/
inductive Exchange where
  | request (request : Request)
  | message (connection : Connection) (sent : Postgres.Message)

/-- What comes back. -/
abbrev Exchange.Answer : Exchange → Type
  | .request _ => Reply
  | .message _ sent => sent.Answer

/-- A computation over the wire. -/
abbrev Wire := Inquiry Exchange Exchange.Answer Event

namespace Wire

def note (event : Event) : Wire Unit := Inquiry.noted event

/-- Sends a request, unless it has a flaw, and notes a refusal. -/
def send (request : Except RequestFlaw Request) : Wire (Except RequestFault Reply) :=
  match request with
  | .error flaw => return .error (.unsendable flaw)
  | .ok request => do
      let reply : Reply ← Inquiry.question (Exchange.request request)
      Inquiry.notes reply.refusalEvents
      return .ok reply

def fetch {α : Type} (read : Reply → Except RequestFault α) (request : Except RequestFlaw Request) :
    Wire (Except RequestFault α) := do
  match ← send request with
  | .error fault => return .error fault
  | .ok reply => do
      let outcome := read reply
      Inquiry.notes (reply.readingEvents outcome)
      return outcome

def speak {α : Type} (connection : Connection)
    (session : Inquiry Postgres.Message Postgres.Message.Answer Event α) : Wire α :=
  session.through fun sent => Inquiry.question (Exchange.message connection sent)

end Wire

end OperatorConfig.Cluster
