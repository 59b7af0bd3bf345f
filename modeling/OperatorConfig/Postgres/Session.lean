import OperatorConfig.Failure
import OperatorConfig.Inquiry
import OperatorConfig.Log.Event

/-!
# Asking a server for its version

A session with a database server: the client names the user and the database, gives the password, and
queries the version. The server may refuse the connection or the query.
-/

namespace OperatorConfig.Postgres

/-- What a client sends. -/
inductive Message where
  | startup (user database : String)
  | password (value : String)
  | query (text : String)
deriving DecidableEq

/-- What the server answers: a query has at most one row. -/
abbrev Message.Answer : Message → Type
  | .startup _ _ => Except String Unit
  | .password _ => Except String Unit
  | .query _ => Except String (Option String)

def versionQuery : String := "SHOW server_version"

def refused (text : String) : Failure :=
  .versionProbe s!"error returned from database: {text}"

/-- The banner of the running server. -/
def readBanner (user password database : String) :
    Inquiry Message Message.Answer Event (Except Failure String) := do
  let started : Except String Unit ← Inquiry.question (Message.startup user database)
  match started with
  | .error text => return .error (refused text)
  | .ok () =>
      let entered : Except String Unit ← Inquiry.question (Message.password password)
      match entered with
      | .error text => return .error (refused text)
      | .ok () =>
          let row : Except String (Option String) ← Inquiry.question (Message.query versionQuery)
          match row with
          | .error text => return .error (refused text)
          | .ok none =>
              return .error (.versionProbe
                "no rows returned by a query that expected to return at least one row")
          | .ok (some version) => do
              let banner := s!"PostgreSQL {version}"
              Inquiry.noted (Event.runningBannerRead banner)
              return .ok banner

end OperatorConfig.Postgres
