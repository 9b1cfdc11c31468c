import RoutingProcessor.Text.Quoted

namespace RoutingProcessor.Rpc

-- How a remote call ended.
inductive Code where
  | ok | cancelled | unknown | invalidArgument | deadlineExceeded | notFound | alreadyExists
  | permissionDenied | resourceExhausted | failedPrecondition | aborted | outOfRange
  | unimplemented | internal | unavailable | dataLoss | unauthenticated
deriving DecidableEq

namespace Code

-- The codes with their names, in the order of their numbers.
def all : List (Code × String) := [
  (ok, "Ok"), (cancelled, "Cancelled"), (unknown, "Unknown"),
  (invalidArgument, "InvalidArgument"), (deadlineExceeded, "DeadlineExceeded"),
  (notFound, "NotFound"), (alreadyExists, "AlreadyExists"),
  (permissionDenied, "PermissionDenied"), (resourceExhausted, "ResourceExhausted"),
  (failedPrecondition, "FailedPrecondition"), (aborted, "Aborted"), (outOfRange, "OutOfRange"),
  (unimplemented, "Unimplemented"), (internal, "Internal"), (unavailable, "Unavailable"),
  (dataLoss, "DataLoss"), (unauthenticated, "Unauthenticated")]

def name (code : Code) : String := (all.lookup code).getD "Unknown"

-- A number without a code stands for an unknown error.
def ofInt (n : Int) : Code :=
  if n < 0 then unknown else ((all[n.toNat]?).map (·.1)).getD unknown

end Code

structure Status where
  code : Code
  message : String
deriving DecidableEq

-- A status inside a message.
def Status.describe (status : Status) : String :=
  "status: " ++ status.code.name ++ ", message: " ++ Text.Quoted.quote status.message ++
    ", details: [], metadata: MetadataMap \x7b headers: \x7b\x7d \x7d"

end RoutingProcessor.Rpc
