/-
# The client span as the calls made on it

The HTTP client instrumentation (`src/instrumentation/nethttp/client.go`) only ever calls
`SetTag`, `LogFields` and `Finish` on the client span, so the span is the list of those calls
in order (`SpanEvent`).  Tags are those of `opentracing-go/ext` the client uses, or named by a
string; log fields are strings or errors.  What the tracer makes of a second `Finish` is not
this file's concern: `finishes` counts the calls.
-/

import ScopeAgent.Go.Bytes

namespace ScopeAgent
namespace Nethttp

/-- The value of a tag: a string, a boolean or a `uint16`. -/
inductive TagValue
  | str (s : Bytes)
  | bool (b : Bool)
  | uint16 (v : Nat)
  deriving DecidableEq, Repr

/-- The tags the client sets: those of `opentracing-go/ext` it uses, and tags named by a
string. -/
inductive Tag
  | spanKind
  | component
  | httpMethod
  | httpUrl
  | httpStatusCode
  | error
  | peerService
  | peerHostname
  | peerAddress
  | peerHostIPv4
  | peerHostIPv6
  | peerPort
  | named (key : Bytes)
  deriving DecidableEq, Repr

/-- The value of a log field: `log.String` or `log.Error` (errors named by a number). -/
inductive FieldValue
  | str (s : Bytes)
  | error (e : Nat)
  deriving DecidableEq, Repr

/-- A call on the client span. -/
inductive SpanEvent
  | setTag (tag : Tag) (v : TagValue)
  | logFields (fields : List (Bytes × FieldValue))
  | finish
  deriving DecidableEq, Repr

/-- The client span `tracer.start` opens: its operation name and the calls made on it. -/
structure ClientSpan where
  operationName : Bytes
  events : List SpanEvent
  deriving DecidableEq, Repr

/-- The number of `Finish` calls among the calls made on a span. -/
def finishes (evs : List SpanEvent) : Nat := evs.count .finish

@[simp] theorem finishes_nil : finishes [] = 0 := rfl

@[simp] theorem finishes_append (a b : List SpanEvent) :
    finishes (a ++ b) = finishes a + finishes b := List.count_append ..

@[simp] theorem finishes_cons_setTag (t : Tag) (v : TagValue) (evs : List SpanEvent) :
    finishes (.setTag t v :: evs) = finishes evs := List.count_cons_of_ne (by simp) _

@[simp] theorem finishes_cons_logFields (fs : List (Bytes × FieldValue)) (evs : List SpanEvent) :
    finishes (.logFields fs :: evs) = finishes evs := List.count_cons_of_ne (by simp) _

@[simp] theorem finishes_cons_finish (evs : List SpanEvent) :
    finishes (.finish :: evs) = finishes evs + 1 := List.count_cons_self ..

/-- `LogFields(log.String("event", name))`. -/
def logEvent (name : Bytes) : SpanEvent := .logFields [(lit "event", .str name)]

@[simp] theorem finishes_cons_logEvent (name : Bytes) (evs : List SpanEvent) :
    finishes (logEvent name :: evs) = finishes evs := finishes_cons_logFields _ _

end Nethttp
end ScopeAgent
