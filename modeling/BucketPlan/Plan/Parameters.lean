import BucketPlan.Plan.Request

namespace BucketPlan

/-- The forms that a service declares for parameters. A record has members that must be there, and says
of each member that it may have what form it is of. -/
inductive Form where
  | text (least : Nat)
  | boolean
  | listOf (item : Form)
  | record (required : List String) (members : List (String × Form))
  | other (kind : String)
deriving Repr

/-- The service that a bucket is set up by: the form of what goes into a call, given by the name of the
call, where there is such a call; and what is wrong with a value that should be of a form. -/
structure Service where
  input : String → Option Form
  problems : Form → Value → List String

/-- Why a call is not accepted. -/
inductive CallFault where
  | unknownOperation (name : String)
  | parameters (problems : List String)
deriving DecidableEq, Repr

/-- Checks the parameters of a call that is given by name. -/
def checkCall (service : Service) (name : String) (params : Value) : Except CallFault Unit :=
  match service.input name with
  | none => .error (.unknownOperation name)
  | some form =>
    match service.problems form params with
    | [] => .ok ()
    | problems => .error (.parameters problems)

end BucketPlan
