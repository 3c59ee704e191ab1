/-
# `wire.TracerState`, the binary propagator's payload

Modelled from the spec: package `tracer/wire` is not among the repository's files.  The spec
gives the payload's fields, "trace id high 64 bits, trace id low 64 bits, span id (64-bit),
sampled (boolean), baggage (string-to-string mapping)"; here they are the proto3 message

    message TracerState {
      fixed64 trace_id_hi = 1;
      fixed64 trace_id_lo = 2;
      fixed64 span_id = 3;
      bool sampled = 4;
      map<string, string> baggage_items = 5;
    }

with the `Marshal` and `Unmarshal` that `gogo/protobuf` v1.3.1 generates for it.  `Marshal`
leaves out every field at its zero value (proto3), so the all-zero state with no baggage is
the empty payload.  `Unmarshal` reads fields until the end of the buffer: a field number it
does not know is skipped (`skipWire`), a known one with the wrong wire type is an error, a
later value of a field replaces an earlier one, and each map entry is one baggage item.
-/

import ScopeAgent.Go.Proto
import ScopeAgent.Tracer.SpanContext

namespace ScopeAgent
namespace Wire

open Proto

/-- Modelled from the spec: `wire.TracerState`, the payload's five fields as the proto3
message above declares them. -/
structure TracerState where
  traceIdHi : UInt64
  traceIdLo : UInt64
  spanId : UInt64
  sampled : Bool
  baggageItems : StrMap
  deriving DecidableEq

/-- The state `Unmarshal` starts from: `wire.TracerState{}`. -/
def TracerState.empty : TracerState := ⟨0, 0, 0, false, ∅⟩

/-- One `fixed64` field: the tag byte and eight little-endian bytes, absent at zero. -/
def fixed64Field (tag : UInt8) (v : UInt64) : Bytes :=
  if v ≠ 0 then tag :: leBytes 8 v.toNat else []

/-- The body of one entry of `baggage_items`: its key (`0x0a`) and its value (`0x12`), each
with its length. -/
def entryBody (e : Entry) : Bytes :=
  0x0a :: encodeVarint e.1.length ++ e.1 ++ 0x12 :: encodeVarint e.2.length ++ e.2

/-- One entry of `baggage_items`: tag `0x2a`, the body's length, then the body. -/
def mapEntry (e : Entry) : Bytes :=
  0x2a :: encodeVarint (entryBody e).length ++ entryBody e

/-- Modelled from the spec: `(*TracerState).Marshal()` as `gogo/protobuf` generates it, the
fields in order of their numbers; `bag` is the order in which the `range` over `BaggageItems`
puts the entries. -/
def marshal (m : TracerState) (bag : List Entry) : Bytes :=
  fixed64Field 0x09 m.traceIdHi ++ fixed64Field 0x11 m.traceIdLo ++ fixed64Field 0x19 m.spanId ++
    (if m.sampled then [0x20, 0x01] else []) ++ bag.flatMap mapEntry

/-- The field number `int32(wire >> 3)` of a tag, as its low 32 bits. -/
def fieldNum (wire : Nat) : Nat := wire / 8 % 2 ^ 32

/-- The loop over the fields of one map entry, `for iNdEx < postIndex`: field 1 is the key,
field 2 the value (their wire types are not checked), any other field is skipped.  The
position reached, the key and the value. -/
def entryLoop (dAtA : Bytes) (postIndex : Nat) :
    (fuel i : Nat) → Bytes → Bytes → Except ProtoError (Nat × Bytes × Bytes)
  | 0, i, k, v => .ok (i, k, v)
  | fuel + 1, i, k, v =>
    if i < postIndex then
      match varintAt dAtA i with
      | .error e => .error e
      | .ok (wire, j) =>
        if fieldNum wire = 1 ∨ fieldNum wire = 2 then
          match varintAt dAtA j with
          | .error e => .error e
          | .ok (len, j) =>
            if 2 ^ 63 ≤ len ∨ 2 ^ 63 ≤ j + len then .error .invalidLength
            else if dAtA.length < j + len then .error .unexpectedEOF
            else if fieldNum wire = 1 then entryLoop dAtA postIndex fuel (j + len) ((dAtA.drop j).take len) v
            else entryLoop dAtA postIndex fuel (j + len) k ((dAtA.drop j).take len)
        else
          match skipWire (dAtA.drop i) with
          | .error e => .error e
          | .ok skippy =>
            if 2 ^ 63 ≤ skippy ∨ 2 ^ 63 ≤ i + skippy then .error .invalidLength
            else if postIndex < i + skippy then .error .unexpectedEOF
            else entryLoop dAtA postIndex fuel (i + skippy) k v
    else .ok (i, k, v)

/-- The loop of `(*TracerState).Unmarshal(dAtA)` over the fields, `for iNdEx < l`; at its end
`if iNdEx > l {io.ErrUnexpectedEOF}`.  Each round reads a tag byte, so `len(dAtA) + 1` rounds
are enough. -/
def unmarshalLoop (dAtA : Bytes) : (fuel i : Nat) → TracerState → Except ProtoError TracerState
  | 0, _, m => .ok m
  | fuel + 1, i, m =>
    if i < dAtA.length then
      match varintAt dAtA i with
      | .error e => .error e
      | .ok (wire, j) =>
        let wireType := wire % 8
        if wireType = 4 then .error .endGroup
        else if fieldNum wire = 0 ∨ 2 ^ 31 ≤ fieldNum wire then .error .illegalTag
        else if fieldNum wire = 1 ∨ fieldNum wire = 2 ∨ fieldNum wire = 3 then
          if wireType ≠ 1 then .error .wrongWireType
          else if dAtA.length < j + 8 then .error .unexpectedEOF
          else
            let x := UInt64.ofNat (leValue (dAtA.drop j))
            unmarshalLoop dAtA fuel (j + 8)
              (if fieldNum wire = 1 then { m with traceIdHi := x }
              else if fieldNum wire = 2 then { m with traceIdLo := x }
              else { m with spanId := x })
        else if fieldNum wire = 4 then
          if wireType ≠ 0 then .error .wrongWireType
          else
            match varintAt dAtA j with
            | .error e => .error e
            | .ok (v, j) => unmarshalLoop dAtA fuel j { m with sampled := v ≠ 0 }
        else if fieldNum wire = 5 then
          if wireType ≠ 2 then .error .wrongWireType
          else
            match varintAt dAtA j with
            | .error e => .error e
            | .ok (msglen, j) =>
              if 2 ^ 63 ≤ msglen ∨ 2 ^ 63 ≤ j + msglen then .error .invalidLength
              else if dAtA.length < j + msglen then .error .unexpectedEOF
              else
                match entryLoop dAtA (j + msglen) dAtA.length j [] [] with
                | .error e => .error e
                | .ok (_, k, v) =>
                  unmarshalLoop dAtA fuel (j + msglen) { m with baggageItems := m.baggageItems.insert k v }
        else
          match skipWire (dAtA.drop i) with
          | .error e => .error e
          | .ok skippy =>
            if 2 ^ 63 ≤ skippy ∨ 2 ^ 63 ≤ i + skippy then .error .invalidLength
            else if dAtA.length < i + skippy then .error .unexpectedEOF
            else unmarshalLoop dAtA fuel (i + skippy) m
    else if dAtA.length < i then .error .unexpectedEOF
    else .ok m

/-- Modelled from the spec: `proto.Unmarshal(buf, &ctx)` into `ctx := wire.TracerState{}`, the
loop `gogo/protobuf` generates. -/
def unmarshal (dAtA : Bytes) : Except ProtoError TracerState :=
  unmarshalLoop dAtA (dAtA.length + 1) 0 TracerState.empty

end Wire
end ScopeAgent
