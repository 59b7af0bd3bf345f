import OperatorConfig.Cluster.Container
import OperatorConfig.Inquiry
import OperatorConfig.Failure

/-!
# What a resolution asks

A resolution asks for the stored secrets of an installation and for three facts about the managed
database: its containers, the version that runs, and the version that the next rollout will run. In a
cluster it also asks under which host the installation is reached. Any answer may be a failure.
-/

namespace OperatorConfig

structure Connection where
  host : String
  port : Nat
  user : String
  password : String
  database : String
deriving DecidableEq

def managedDatabase : String := "syndesis-db"

def Connection.managed (user password database : String) : Connection where
  host := managedDatabase
  port := 5432
  user := user
  password := password
  database := database

inductive Question where
  | secrets (name namespaceName : String)
  | containers (namespaceName : String)
  | runningBanner (connection : Connection)
  | targetBanner (namespaceName : String)
  | routeHost (namespaceName : String)
deriving DecidableEq

/-- The answers to a question; there may be no secrets, no containers and no host. -/
abbrev Question.Answer : Question → Type
  | .secrets _ _ => Except Failure (Option Table)
  | .containers _ => Except Failure (Option (List Container))
  | .runningBanner _ => Except Failure String
  | .targetBanner _ => Except Failure String
  | .routeHost _ => Except Failure (Option String)

end OperatorConfig
