import OperatorConfig.Cluster.Form

/-!
# Names and histories of objects

What every object of the cluster has: a name, labels, owners, and who managed it when.
-/

namespace OperatorConfig.Cluster

open Form
open Fields (done field)

def managedFields : Form :=
  .record "ManagedFieldsEntry" <|
    field "apiVersion" optional text <| field "fieldsType" optional text <|
    field "fieldsV1" optional any <| field "manager" optional text <|
    field "operation" optional text <| field "subresource" optional text <| field "time" optional time done

def ownerReference : Form :=
  .record "OwnerReference" <|
    field "apiVersion" needed text <| field "blockOwnerDeletion" optional flag <|
    field "controller" optional flag <| field "kind" needed text <|
    field "name" needed text <| field "uid" needed text done

def metadataForm : Form :=
  .record "ObjectMeta" <|
    field "annotations" optional (.map text) <|
    field "creationTimestamp" optional time <|
    field "deletionGracePeriodSeconds" optional int64 <|
    field "deletionTimestamp" optional time <|
    field "finalizers" optional (.list text) <|
    field "generateName" optional text <|
    field "generation" optional int64 <|
    field "labels" optional (.map text) <|
    field "managedFields" optional (.list managedFields) <|
    field "name" optional text <|
    field "namespace" optional text <|
    field "ownerReferences" optional (.list ownerReference) <|
    field "resourceVersion" optional text <|
    field "selfLink" optional text <|
    field "uid" optional text done

end OperatorConfig.Cluster
