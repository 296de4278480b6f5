import OffloadVolume.Duration
import OffloadVolume.Text.Quoted

/-!
# Call status

How a call to the control plane failed: one of the seventeen codes and a message.
-/

namespace OffloadVolume

inductive StatusCode where
  | ok | cancelled | unknown | invalidArgument | deadlineExceeded | notFound | alreadyExists
  | permissionDenied | resourceExhausted | failedPrecondition | aborted | outOfRange
  | unimplemented | internal | unavailable | dataLoss | unauthenticated
  deriving DecidableEq, Repr

namespace StatusCode

/-- All codes; a code's place is its number. -/
def all : List StatusCode :=
  [ok, cancelled, unknown, invalidArgument, deadlineExceeded, notFound, alreadyExists,
   permissionDenied, resourceExhausted, failedPrecondition, aborted, outOfRange, unimplemented,
   internal, unavailable, dataLoss, unauthenticated]

/-- The code of a number; one that no code has is unknown. -/
def ofInt (n : Int) : StatusCode :=
  if n < 0 then unknown else all.getD n.toNat unknown

def name : StatusCode → String
  | ok => "Ok"
  | cancelled => "Cancelled"
  | unknown => "Unknown"
  | invalidArgument => "InvalidArgument"
  | deadlineExceeded => "DeadlineExceeded"
  | notFound => "NotFound"
  | alreadyExists => "AlreadyExists"
  | permissionDenied => "PermissionDenied"
  | resourceExhausted => "ResourceExhausted"
  | failedPrecondition => "FailedPrecondition"
  | aborted => "Aborted"
  | outOfRange => "OutOfRange"
  | unimplemented => "Unimplemented"
  | internal => "Internal"
  | unavailable => "Unavailable"
  | dataLoss => "DataLoss"
  | unauthenticated => "Unauthenticated"

theorem mem_all (c : StatusCode) : c ∈ all := by cases c <;> decide

end StatusCode

/-- Why a call failed. `delivered` tells that the status came with the headers of an answer, which are
not kept here; a status that the caller makes itself has none. -/
structure Status where
  code : StatusCode
  message : String
  delivered : Bool := false
  deriving DecidableEq, Repr

namespace Status

/-- The status that a caller makes itself when its deadline passes. -/
def noResponse (timeout : Duration) : Status :=
  ⟨.deadlineExceeded, "no response within " ++ timeout.text, false⟩

def text (s : Status) : String :=
  "status: " ++ s.code.name ++ ", message: " ++ Text.quote s.message ++
    ", details: [], metadata: MetadataMap \x7b headers: \x7b\x7d \x7d"

end Status
end OffloadVolume
