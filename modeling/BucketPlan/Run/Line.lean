import BucketPlan.Redaction
import BucketPlan.Value.Line
import BucketPlan.Value.Plain

namespace BucketPlan

inductive Level where
  | debug
  | info
  | warning
  | error
  | critical
deriving DecidableEq, Repr

namespace Level

def all : List Level := [debug, info, warning, error, critical]

def name : Level → String
  | debug => "DEBUG"
  | info => "INFO"
  | warning => "WARNING"
  | error => "ERROR"
  | critical => "CRITICAL"

def rank : Level → Nat
  | debug => 10
  | info => 20
  | warning => 30
  | error => 40
  | critical => 50

/-- Whether a host that listens from a level on hears this one. -/
def isHeard (level host : Level) : Bool :=
  host.rank ≤ level.rank

end Level

/-- What is logged: an event with its fields, or a plain remark. -/
inductive LogBody where
  | event (fields : List (String × Value))
  | remark (text : String)

structure LogEntry where
  level : Level
  body : LogBody

def putField (name : String) (value : Value) : List (String × Value) → List (String × Value)
  | [] => [(name, value)]
  | (other, old) :: rest =>
    if other = name then (name, value) :: rest else (other, old) :: putField name value rest

/-- The fields of an event. Its message is redacted, with the sensitive fields in a certain order;
further fields are taken as they are, and may replace the standard ones in place. -/
def eventFields (order : List String) (bucket : Option String) (stage event reason message : String)
    (extra : List (String × Value)) : List (String × Value) :=
  extra.foldl (fun fields (name, value) => putField name value fields)
    [("component", .str "s3-bucket-compiler"), ("bucket", plain bucket), ("stage", .str stage),
      ("event", .str event), ("reason", .str reason), ("message", .str (redactIn order message))]

namespace LogEntry

def text (entry : LogEntry) : Except Fault String :=
  match entry.body with
  | .event fields => (Value.record fields).line
  | .remark text => .ok text

/-- The texts of the entries that a host hears. -/
def texts (entries : List LogEntry) (host : Level) : Except Fault (List String) :=
  (entries.filter fun entry => entry.level.isHeard host).mapM text

end LogEntry

end BucketPlan
