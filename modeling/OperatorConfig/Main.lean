import OperatorConfig.CommandLine.Run
import OperatorConfig.Log.Line
import Std.Time.Format

/-!
# The program

Everything that the program does is said by `CommandLine.run`. Here its demands are met: files are read,
the variables of the environment are looked up, words are drawn from the randomness of the system, and
records of the log are written as they come. A cluster cannot be reached from here, so only a resolution
without one succeeds.
-/

namespace OperatorConfig.CommandLine

/-- The moment in universal time, to the microsecond. -/
def moment : IO String := do
  let now ← Std.Time.Timestamp.now
  return (Std.Time.DateTime.ofTimestamp now .UTC).format "uuuu-MM-dd'T'HH:mm:ss.SSSSSS'Z'"

/-- The words that bytes hold, four bytes each. -/
def wordsOf : List UInt8 → List UInt32
  | a :: b :: c :: d :: rest =>
      (a.toUInt32 <<< 24 ||| b.toUInt32 <<< 16 ||| c.toUInt32 <<< 8 ||| d.toUInt32) :: wordsOf rest
  | _ => []

/-- Random words; there are more of them than a resolution uses. -/
def randomWords : IO Words := do
  let bytes ← IO.getRandomBytes 65536
  match WordSource.cycle? (wordsOf bytes.toList) with
  | some source => return { source }
  | none => throw (IO.userError "the randomness of the system is exhausted")

def environmentVariables : IO Variables := do
  let entries ← variableNames.filterMapM fun name => do
    return (← IO.getEnv name).map fun value => (name, value)
  return Table.ofList entries

def readFile (path : String) : IO (Except FileFault (List UInt8)) := do
  match ← (IO.FS.readBinFile path).toBaseIO with
  | .ok content => return .ok content.toList
  | .error (.noFileOrDirectory ..) => return .error .absent
  | .error (.permissionDenied ..) => return .error .denied
  | .error (.inappropriateType _ 21 _) => return .error .directory
  | .error (.inappropriateType ..) => return .error (.other "Not a directory (os error 20)")
  | .error fault => return .error (.other (toString fault))

def unreachable : String := "no way to a cluster is known"

def supply : (demand : Demand) → IO demand.Answer
  | .file path => readFile path
  | .connection => return .error unreachable
  | .exchange (.request _) => return .lost unreachable
  | .exchange (.message _ (.startup ..)) => return .error unreachable
  | .exchange (.message _ (.password _)) => return .error unreachable
  | .exchange (.message _ (.query _)) => return .error unreachable

def writeEvent (vars : Variables) (format : Log.Format) (event : Event) : IO Unit := do
  for record in records vars [event] do
    IO.println (record.line format (← moment))

def formatOf (vars : Variables) (arguments : List String) : Log.Format :=
  match invocation vars arguments with
  | .ok invocation => invocation.logFormat
  | .error _ => .text

/-- Runs the program and answers its exit status. -/
def execute (arguments : List String) : IO UInt32 := do
  let vars ← environmentVariables
  let program := run vars (← randomWords) arguments
  let outcome ← program.run supply (writeEvent vars (formatOf vars arguments))
  IO.print outcome.output
  IO.eprint outcome.complaint
  return UInt32.ofNat outcome.exitStatus

end OperatorConfig.CommandLine

def main (arguments : List String) : IO UInt32 :=
  OperatorConfig.CommandLine.execute arguments
