import TableClient.Json.Reader
import TableClient.Text.Lower
import TableClient.Text.Utf8

/-!
# Responses

What comes back for a request: a response with status, reason, headers and body, or a failure of
the transport. How the bytes of a body are decoded is up to the transport, which knows charsets and
guesses them; so a response has its body as text as well. Whether a body is JSON shows when it is
read. What a caller gets out of a response is a choice of its own.

## Main definitions

* `TableClient.Client.Response` — the responses; `Response.isRejection`, `read`, `decoded`.
* `TableClient.Client.Response.ofUtf8` — the responses whose bodies are in UTF-8.
* `TableClient.Client.Failure`, `TableClient.Client.Outcome` — what else can happen to a request.
* `TableClient.Client.Selector` — the choices of what to get out of a response.
-/

set_option relaxedAutoImplicit false
set_option autoImplicit false

namespace TableClient.Client

/-- A response. -/
structure Response where
  status : Int
  reason : Option Text
  body : List UInt8
  /-- The body as text. -/
  text : String
  /-- The text that is read when the body is taken for JSON. -/
  document : String
  headers : Members

/-- A failure of a request, by its kind and wording. -/
structure Failure where
  kind : String
  text : Text
  /-- Whether the failure is one of the transport. All others are not for the client to handle. -/
  isTransport : Bool
deriving DecidableEq

/-- What happens to a request. -/
inductive Outcome where
  | response (r : Response)
  | failure (f : Failure)

/-- What to get out of a response. -/
inductive Selector where
  | status
  | text
  | json
  /-- Whether the response counts as a success. -/
  | succeeded
  | nothing
  | header (name : Text)
  /-- Whether the status tells that a record is gone. -/
  | deleted
  /-- Whatever a caller makes of the response. -/
  | made (value : Response → Value)

/-- Why a choice finds nothing in a response. -/
inductive SelectorFault where
  | unreadable (f : Json.ReadFault)
  | missingHeader
deriving DecidableEq

/-- The status that tells that a record is gone. -/
def deletedStatus : Int := 204

namespace Response

/-- Whether the status reports an error of the client or the server. -/
def isRejection (r : Response) : Bool := 400 ≤ r.status && r.status < 600

/-- The response with a body in UTF-8. What does not spell a character shows as a replacement. -/
def ofUtf8 (status : Int) (reason : Option Text) (body : List UInt8) (headers : Members) :
    Response :=
  let text := String.ofList (Text.Utf8.decodeLossy body)
  ⟨status, reason, body, text, text, headers⟩

/-- The reason as a value, which is null when there is none. -/
def reasonValue (r : Response) : Value := r.reason.elim .null .text

/-- The value of the body, which must be JSON. -/
def read (r : Response) : Except Json.ReadFault Value := Json.read r.document

/-- The value of the body, or null when it is empty or no JSON. A body that is nested too deeply is
a fault. -/
def decoded (r : Response) : Except Json.ReadFault Value :=
  if r.body.isEmpty then .ok .null
  else
    match r.read with
    | .ok v => .ok v
    | .error .tooDeep => .error .tooDeep
    | .error .malformed | .error .hugeInteger => .ok .null

/-- The header of a name in any letter case. Of several, the last one counts. -/
def header? (r : Response) (name : Text) : Option Value :=
  (r.headers.reverse.find? fun h => h.1.lower == name.lower).map (·.2)

/-- The response without records, as it is given when nothing else is to come. -/
def noRecords : Response :=
  .ofUtf8 200 (some "OK") (Text.Utf8.encode "\x7b\"result\": []\x7d".toList) []

end Response

/-- Gets the chosen part out of a response. -/
def Selector.pick (r : Response) : Selector → Except SelectorFault Value
  | status => .ok (.int r.status)
  | text => .ok (.text r.text)
  | json =>
    match r.read with
    | .ok v => .ok v
    | .error f => .error (.unreadable f)
  | succeeded => .ok (.bool !r.isRejection)
  | nothing => .ok .null
  | header name =>
    match r.header? name with
    | some v => .ok v
    | none => .error .missingHeader
  | deleted => .ok (.bool (r.status == deletedStatus))
  | made value => .ok (value r)

end TableClient.Client
