import OperatorConfig.Cluster.Request
import OperatorConfig.Log.Event
import OperatorConfig.Schema.Read
import OperatorConfig.Text.Quoted
import OperatorConfig.Text.Utf8

/-!
# Replies of the cluster

A reply has a status and a body. A status from 400 to 599 is a refusal, which the body describes if it
is an object with a status and a code, whatever they are; a body of any other form is quoted in place of
a message. All other statuses mean success.
-/

namespace OperatorConfig.Cluster

open Json (Node Items Document)
open Schema (Complaint)

/-- What becomes of a request. -/
inductive Reply where
  | answered (status : Nat) (body : List UInt8)
  /-- The request did not get through. -/
  | lost (text : String)
  /-- No answer came as long as it was waited for. -/
  | silent

def statusPhrase : Nat → String
  | 400 => "Bad Request"
  | 401 => "Unauthorized"
  | 402 => "Payment Required"
  | 403 => "Forbidden"
  | 404 => "Not Found"
  | 405 => "Method Not Allowed"
  | 406 => "Not Acceptable"
  | 407 => "Proxy Authentication Required"
  | 408 => "Request Timeout"
  | 409 => "Conflict"
  | 410 => "Gone"
  | 411 => "Length Required"
  | 412 => "Precondition Failed"
  | 413 => "Payload Too Large"
  | 414 => "URI Too Long"
  | 415 => "Unsupported Media Type"
  | 416 => "Range Not Satisfiable"
  | 417 => "Expectation Failed"
  | 418 => "I'm a teapot"
  | 421 => "Misdirected Request"
  | 422 => "Unprocessable Entity"
  | 423 => "Locked"
  | 424 => "Failed Dependency"
  | 425 => "Too Early"
  | 426 => "Upgrade Required"
  | 428 => "Precondition Required"
  | 429 => "Too Many Requests"
  | 431 => "Request Header Fields Too Large"
  | 451 => "Unavailable For Legal Reasons"
  | 500 => "Internal Server Error"
  | 501 => "Not Implemented"
  | 502 => "Bad Gateway"
  | 503 => "Service Unavailable"
  | 504 => "Gateway Timeout"
  | 505 => "HTTP Version Not Supported"
  | 506 => "Variant Also Negotiates"
  | 507 => "Insufficient Storage"
  | 508 => "Loop Detected"
  | 510 => "Not Extended"
  | 511 => "Network Authentication Required"
  | _ => "<unknown status code>"

abbrev refusalFields : Schema.Fields :=
  .field "status" .text <| .field "message" .text <| .field "reason" .text <|
  .field "code" .integer .done

/-- The refusal that fields describe; without a status or a code there is none. -/
def refusalOf : refusalFields.Partial → Option Refusal
  | (some (status : String), (message : Option String), (reason : Option String),
      some (code : Int32), ()) =>
      if 0 ≤ code.toInt ∧ code.toInt < 65536 then
        some ⟨status, message.getD "", reason.getD "", code.toInt.toNat⟩
      else none
  | _ => none

def itemCount : Items → Nat
  | .item _ rest => itemCount rest + 1
  | _ => 0

/-- The refusal that a node describes: an object, or an array with the four fields in order. -/
def readRefusal : Node → Except Complaint (Option Refusal)
  | .object _ members => do
      return refusalOf
        (← Schema.foldMembers (refusalFields.take (Json.deepest - 1)) refusalFields.unread members)
  | .array _ items => do
      let (status, message, reason, code, ()) ← refusalFields.readItems (Json.deepest - 1) items
      return if itemCount items = 4 then
        refusalOf (some status, some message, some reason, some code, ())
      else none
  | _ => .ok none

def describedRefusal (body : List UInt8) : Option Refusal :=
  let document := Document.ofBytes body
  match document.whole .fault (readRefusal document.root) with
  | .ok refusal => refusal
  | .error _ => none

def refusal (status : Nat) (body : List UInt8) (text : String) : Refusal :=
  (describedRefusal body).getD
    { status := s!"{status} {statusPhrase status}"
      message := Text.quoted text
      reason := "Failed to parse error data"
      code := status }

def textOf (body : List UInt8) : Except RequestFault String :=
  match Text.utf8Fault? body with
  | some fault => .error (.notText fault)
  | none => .ok (Text.ofBytesLossy body)

namespace Reply

/-- The body of a reply that is no refusal. -/
def body : Reply → Except RequestFault (List UInt8)
  | .answered status body =>
      if 400 ≤ status ∧ status < 600 then do
        .error (.refused (refusal status body (← textOf body)))
      else .ok body
  | .lost text => .error (.transport text)
  | .silent => .error (.transport "no answer")

def document (reply : Reply) : Except RequestFault (List UInt8 × Document) := do
  let body ← reply.body
  let _ ← textOf body
  return (body, Document.ofBytes body)

def refusalEvents : Reply → List Event
  | .answered status body =>
      if 400 ≤ status ∧ status < 600 then
        match textOf body with
        | .error _ => []
        | .ok text =>
            let refusal := refusal status body text
            if (describedRefusal body).isSome then [.refused refusal]
            else [.refusalUnclear text, .refusalSupposed refusal]
      else []
  | _ => []

def readingEvents {α : Type} (reply : Reply) : Except RequestFault α → List Event
  | .error (.unreadable reason place) =>
      match reply.document with
      | .ok (body, _) => [.replyUnreadable (Text.ofBytesLossy body) reason place]
      | .error _ => []
  | _ => []

/-- What a reader makes of the document in the body of a reply. -/
def read {α : Type} (reader : Node → Except Complaint α) (reply : Reply) : Except RequestFault α := do
  let (body, document) ← reply.document
  match document.whole .fault (reader document.root) with
  | .ok value => .ok value
  | .error complaint => .error (.unreadable complaint.reason (complaint.place body))

end Reply

end OperatorConfig.Cluster
