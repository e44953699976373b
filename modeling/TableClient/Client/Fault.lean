import TableClient.Client.Response
import TableClient.Log.Entry
import TableClient.Query.Fault
import TableClient.Url.Path

/-!
# Why an operation fails

An operation on an instance can fail before a request is sent, because of what it was given; while
the request is under way; and afterwards, because of what came back. Failures of the transport and
rejections are reported as faults of the operation, with a message that names the instance as it
was given. Other failures of a request are passed on as they are.

## Main definitions

* `TableClient.Client.OperationFault` — reports of unreachable and rejecting instances;
  `OperationFault.unreachable`, `OperationFault.rejected`.
* `TableClient.Client.ArgumentFault`, `TableClient.Client.BodyFault` — unusable values.
* `TableClient.Client.Fault` — all reasons.
-/

set_option relaxedAutoImplicit false
set_option autoImplicit false

namespace TableClient.Client

/-- A request that led to no success: the wording of the report, the failure of the transport that
it wraps, the status that the instance answered with, and the failure that it was raised from. -/
structure OperationFault where
  message : Text
  failure? : Option Failure
  status? : Option Int
  cause? : Option Failure

namespace OperationFault

/-- How every message begins. -/
def lead (host : Value) : Text :=
  "Error while performing specified operation on " ++ host.shown ++ ". "

/-- The transport failed: the failure is wrapped, and the report is raised from it. -/
def unreachable (host : Value) (failure : Failure) : OperationFault where
  message := lead host ++ "Error: " ++ failure.text
  failure? := some failure
  status? := none
  cause? := some failure

/-- The instance answered with the status of an error. -/
def rejected (host : Value) (status : Int) (reason : Value) : OperationFault where
  message :=
    lead host ++ "Error code: " ++ Numeral.intText status ++ ", error: " ++ reason.shown
  failure? := none
  status? := some status
  cause? := none

end OperationFault

/-- What is wrong with an argument of an operation. -/
inductive ArgumentFault where
  /-- The name of a table is not a text. -/
  | tableNotText
  /-- A list of path segments has no table in front. -/
  | noTable
  /-- A limit is not a number. -/
  | limitNotNumber
  /-- Names of fields are not a collection of texts. -/
  | fieldsNotTexts
  /-- A limit or an offset has no text. -/
  | unshowable (f : WriteFault)
  /-- The path segments make no path. -/
  | path (f : Url.PathFault)
deriving DecidableEq

/-- What is wrong with the body of a response. -/
inductive BodyFault where
  /-- A member is read of a value that is no record. -/
  | notRecord
  /-- A member that need not be there is asked of a value that is no record. -/
  | noMembers
  /-- A member that must be there is missing. -/
  | missingMember
  /-- The records cannot be counted. -/
  | notCountable
deriving DecidableEq

/-- Why an operation fails. -/
inductive Fault where
  | query (f : Query.Fault)
  | argument (f : ArgumentFault)
  | log (f : Log.Fault)
  | operation (f : OperationFault)
  /-- A failure that is not of the transport. -/
  | other (f : Failure)
  | selector (f : SelectorFault)
  | body (f : BodyFault)
  /-- A block of operations failed at its end. -/
  | interrupted

end TableClient.Client
