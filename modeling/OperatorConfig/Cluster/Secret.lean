import OperatorConfig.Cluster.Metadata
import OperatorConfig.Failure

/-!
# Secrets of the cluster

A secret has entries as bytes and entries as texts. Both make up one table, in which the texts win; bytes
that are no text are read with replacement characters.
-/

namespace OperatorConfig.Cluster

open Form
open Fields (done field)

def secretForm : Form :=
  .record "Secret" <|
    field "apiVersion" optional (.constant "v1") <|
    field "data" optional (.map bytes) <|
    field "immutable" optional flag <|
    field "kind" optional (.constant "Secret") <|
    field "metadata" needed metadataForm <|
    field "stringData" optional (.map text) <|
    field "type" optional text done

end OperatorConfig.Cluster

namespace OperatorConfig

structure StoredSecret where
  data : List (String × List UInt8) := []
  stringData : Table := Table.empty

namespace StoredSecret

/-- The entries of both kinds in one table. -/
def toTable (secret : StoredSecret) : Table :=
  (Table.ofList (secret.data.map fun entry => (entry.1, Text.ofBytesLossy entry.2))).overlay
    secret.stringData

def ofMembers (value : Json) : StoredSecret where
  data := (((value.get? "data").bind (·.members?)).getD []).map fun (name, value) =>
    (name, ((Text.Base64.decode (Text.bytes (value.text?.getD ""))).toOption).getD [])
  stringData := Table.ofList <|
    (((value.get? "stringData").bind (·.members?)).getD []).map fun (name, value) =>
      (name, value.text?.getD "")

def ofJson (value : Json) : Except Schema.Mismatch StoredSecret :=
  (Cluster.secretForm.ofJson value).map ofMembers

/-- What is stored, by the answer to a request: a secret that does not exist is no failure. -/
def ofLookup : Except RequestFault StoredSecret → Except Failure (Option Table)
  | .ok secret => .ok (some secret.toTable)
  | .error fault => if fault.isAbsent then .ok none else .error (.secretStore fault)

end StoredSecret

end OperatorConfig
