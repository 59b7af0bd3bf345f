import OperatorConfig.Json.Printer
import OperatorConfig.Log.Record

/-!
# Lines of the log

A record is written on one line with the moment at which it was made: for programs as a JSON object, for
people with the level and the origin in front of the message and the fields behind it.
-/

namespace OperatorConfig.Log.Record

def fieldText : Json → String
  | .text s => s
  | value => value.compact

def jsonLine (moment : String) (record : Record) : String :=
  (Json.object
    [("timestamp", .text moment), ("level", .text record.level.name),
      ("fields", .object (("message", .text record.message) :: record.fields)),
      ("target", .text record.origin)]).compact

def textLine (moment : String) (record : Record) : String :=
  let level := String.ofList (List.replicate (5 - record.level.name.length) ' ') ++ record.level.name
  let fields := record.fields.map fun (name, value) => s!" {name}={fieldText value}"
  s!"{moment} {level} {record.origin}: {record.message}" ++ String.join fields

def line (format : Format) (moment : String) (record : Record) : String :=
  match format with
  | .text => record.textLine moment
  | .json => record.jsonLine moment

end OperatorConfig.Log.Record
