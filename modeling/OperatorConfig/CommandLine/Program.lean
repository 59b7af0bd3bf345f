import OperatorConfig.Cluster.Access
import OperatorConfig.Settings.Loading

/-!
# Programs

A program reads files and exchanges messages with a cluster to which it connects first. `Program` says
what it asks for in which order, and leaves open who answers.
-/

namespace OperatorConfig.CommandLine

/-- What a program asks for. -/
inductive Demand where
  | file (path : String)
  | connection
  | exchange (exchange : Cluster.Exchange)

abbrev Demand.Answer : Demand → Type
  | .file _ => Except FileFault (List UInt8)
  | .connection => Except String Unit
  | .exchange sent => sent.Answer

abbrev Program := Inquiry Demand Demand.Answer Event

namespace Program

def note (event : Event) : Program Unit := Inquiry.noted event

def file (path : String) : Program (Except FileFault (List UInt8)) :=
  Inquiry.question (Demand.file path)

def connect : Program (Except String Unit) :=
  Inquiry.question Demand.connection

def overWire {α : Type} (wire : Cluster.Wire α) : Program α :=
  wire.through fun sent => Inquiry.question (Demand.exchange sent)

end Program

end OperatorConfig.CommandLine
