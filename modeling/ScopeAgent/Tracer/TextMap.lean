/-
# The text-map propagator

`textMapPropagator.Inject` and `textMapPropagator.Extract`
(`src/tracer/propagation_ot.go`, lines 35-162), on a `TextMapCarrier`.

`Inject` writes the span context twice: as the three `ot-tracer-*` fields (the trace id as
32 hex digits, the span id in hex without padding, the sampled flag as `true`/`false`) and as
the one `traceparent` field `00-<trace id>-<span id, %016x>-<01|00>`; then every baggage
entry under `ot-baggage-`, its key as given.

`Extract` walks the carrier twice with `ForeachKey`, matching keys after `strings.ToLower`.
The first walk reads `traceparent`; the second reads the three fields and the baggage.  The
error of the first walk is assigned to `err` and overwritten by the second (lines 87 and
117), so a bad `traceparent` only stops the first walk, keeping what it had assigned.  A
counter decides the outcome: `+4` for a `traceparent` that passes (`+3` in the case, `+1`
after the switch), `+1` for each of the three fields read, and `-1 +1` for any other key.
At least 3 is a span context, 0 is `ErrSpanContextNotFound`, anything between is
`ErrSpanContextCorrupted`.

The two walks are given as two lists: the order of a `range` over a Go map is picked anew
for each walk.
-/

import ScopeAgent.Tracer.SpanContext
import ScopeAgent.Go.Strconv

namespace ScopeAgent
namespace TextMapPropagator

/-- `prefixTracerState`. -/
def prefixTracerState : Bytes := lit "ot-tracer-"
/-- `prefixBaggage`. -/
def prefixBaggage : Bytes := lit "ot-baggage-"
/-- `tracerStateFieldCount`. -/
def tracerStateFieldCount : Int := 3
/-- `fieldNameTraceID`. -/
def fieldNameTraceID : Bytes := prefixTracerState ++ lit "traceid"
/-- `fieldNameSpanID`. -/
def fieldNameSpanID : Bytes := prefixTracerState ++ lit "spanid"
/-- `fieldNameSampled`. -/
def fieldNameSampled : Bytes := prefixTracerState ++ lit "sampled"
/-- `traceParentKey`. -/
def traceParentKey : Bytes := lit "traceparent"

/-- The `traceparent` value `Inject` writes: `fmt.Sprintf("%v-%v-%016x-%v", "00", traceId,
sc.SpanID, tpSampled)`. -/
def traceParentValue (traceId : Bytes) (spanID : UInt64) (sampled : Bool) : Bytes :=
  lit "00" ++ lit "-" ++ traceId ++ lit "-" ++ Strconv.formatHex016 spanID.toNat ++ lit "-" ++
    (if sampled then lit "01" else lit "00")

/-- `textMapPropagator.Inject(sc, carrier)` on a `TextMapCarrier`, `Set` being `c[k] = v`;
`bag` is the order in which `range sc.Baggage` visits the baggage. -/
def inject (sc : SpanContext) (bag : List Entry) (carrier : StrMap) : StrMap :=
  let traceId := Strings.removeAll sc.traceID.toString 45
  let carrier := carrier.insert fieldNameTraceID traceId
  let carrier := carrier.insert fieldNameSpanID (Strconv.formatUint sc.spanID.toNat 16)
  let carrier := carrier.insert fieldNameSampled (Strconv.formatBool sc.sampled)
  let carrier := carrier.insert traceParentKey (traceParentValue traceId sc.spanID sc.sampled)
  bag.foldl (fun c e => c.insert (prefixBaggage ++ e.1) e.2) carrier

/-- The variables of `Extract` that its two handlers assign. -/
structure Decoding where
  requiredFieldCount : Int
  traceID : Uuid.UUID
  spanID : UInt64
  sampled : Bool
  decodedBaggage : StrMap

/-- Their values before the first walk. -/
def Decoding.init : Decoding := ⟨0, Uuid.nil, 0, false, ∅⟩

/-- `carrier.ForeachKey(handler)` over the entries in the order the carrier visits them: the
first error stops the walk and is returned, with what the handlers assigned so far. -/
def foreachKey (handler : Decoding → Bytes → Bytes → Decoding × Option OTError) :
    Decoding → List Entry → Decoding × Option OTError
  | d, [] => (d, none)
  | d, e :: rest =>
    match handler d e.1 e.2 with
    | (d', some err) => (d', some err)
    | (d', none) => foreachKey handler d' rest

/-- `requiredFieldCount++` after a handler's `switch`, unless the switch returned. -/
def countAfter : Decoding × Option OTError → Decoding × Option OTError
  | (d, some err) => (d, some err)
  | (d, none) => ({ d with requiredFieldCount := d.requiredFieldCount + 1 }, none)

variable (lowerTo : Nat → Nat)

/-- The `case traceParentKey` body of the first handler (lines 90-109): the length check,
`strings.Split(v, "-")`, the checks on the parts, then `uuid.Parse` and
`strconv.ParseUint`, each result assigned before its error is tested. -/
def traceParentCase (d : Decoding) (v : Bytes) : Decoding × Option OTError :=
  if v.length < 55 then (d, some .spanContextCorrupted) else
  match Strings.split v 45 with
  | p0 :: p1 :: p2 :: p3 :: _ =>
    if p0 ≠ lit "00" ∨ p1.length ≠ 32 ∨ p2.length ≠ 16 then (d, some .spanContextCorrupted) else
    let d := { d with traceID := (Uuid.parse lowerTo p1).1 }
    if (Uuid.parse lowerTo p1).2 = false then (d, some .spanContextCorrupted) else
    let d := { d with spanID := UInt64.ofNat (Strconv.parseUint p2 16 64).1 }
    if (Strconv.parseUint p2 16 64).2.isSome then (d, some .spanContextCorrupted) else
    let d := if p3 = lit "01" then { d with sampled := true } else d
    ({ d with requiredFieldCount := d.requiredFieldCount + 3 }, none)
  | _ => (d, some .spanContextCorrupted)

/-- The first `ForeachKey` handler (lines 87-116). -/
def traceParentHandler (d : Decoding) (k v : Bytes) : Decoding × Option OTError :=
  countAfter <|
    if Strings.toLower lowerTo k = traceParentKey then traceParentCase lowerTo d v
    else ({ d with requiredFieldCount := d.requiredFieldCount - 1 }, none)

/-- The `switch` of the second handler (lines 118-141). -/
def fieldCase (d : Decoding) (k v : Bytes) : Decoding × Option OTError :=
  if Strings.toLower lowerTo k = fieldNameTraceID then
    let d := { d with traceID := (Uuid.parse lowerTo v).1 }
    if (Uuid.parse lowerTo v).2 = false then (d, some .spanContextCorrupted) else (d, none)
  else if Strings.toLower lowerTo k = fieldNameSpanID then
    let d := { d with spanID := UInt64.ofNat (Strconv.parseUint v 16 64).1 }
    if (Strconv.parseUint v 16 64).2.isSome then (d, some .spanContextCorrupted) else (d, none)
  else if Strings.toLower lowerTo k = fieldNameSampled then
    let d := { d with sampled := (Strconv.parseBool v).1 }
    if (Strconv.parseBool v).2.isSome then (d, some .spanContextCorrupted) else (d, none)
  else
    let lowercaseK := Strings.toLower lowerTo k
    let d := if Strings.hasPrefix lowercaseK prefixBaggage then
        { d with decodedBaggage :=
            d.decodedBaggage.insert (Strings.trimPrefix lowercaseK prefixBaggage) v }
      else d
    ({ d with requiredFieldCount := d.requiredFieldCount - 1 }, none)

/-- The second `ForeachKey` handler (lines 117-144). -/
def fieldHandler (d : Decoding) (k v : Bytes) : Decoding × Option OTError :=
  countAfter (fieldCase lowerTo d k v)

/-- `textMapPropagator.Extract(carrier)`: `first` and `second` are the orders of the two
`ForeachKey` walks. -/
def extract (first second : List Entry) : Except OTError SpanContext :=
  let d := (foreachKey (traceParentHandler lowerTo) Decoding.init first).1
  match foreachKey (fieldHandler lowerTo) d second with
  | (_, some err) => .error err
  | (d, none) =>
    if d.requiredFieldCount < tracerStateFieldCount then
      if d.requiredFieldCount = 0 then .error .spanContextNotFound
      else .error .spanContextCorrupted
    else .ok ⟨d.traceID, d.spanID, d.sampled, d.decodedBaggage⟩

end TextMapPropagator
end ScopeAgent
