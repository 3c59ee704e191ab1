/-
# The binary propagator

`binaryPropagator.Inject` and `binaryPropagator.Extract` (`src/tracer/propagation_ot.go`,
lines 164-239).  `Inject` marshals the span context as a `wire.TracerState` and writes the
payload's length as a big-endian `uint32`, then the payload.  `Extract` reads the length with
`binary.Read` (an `io.ReadFull` of four bytes), then makes a zero-filled buffer of that length
and fills it with one `Read` (line 216), not with `io.ReadFull`, and unmarshals the whole
buffer.

So what `Extract` decodes depends on how the reader splits the stream.  Whatever it reads
after the length, the rest of the buffer stays zero (`extract_beBytes_append`): a payload that
arrives in two reads is decoded from its first part and zeros.  After the length, an empty
stream is `ErrSpanContextNotFound` (`extract_beBytes`), and that is the whole of what `Inject`
writes for the all-zero span context, whose payload is empty.  The readers are those
`Io.Stream` models, which, like `bytes.Reader`, return `io.EOF` on every `Read` once exhausted,
an empty buffer's included; a `bytes.Buffer` returns `(0, nil)` there and is outside the model.
From a reader that fills every buffer it is given, such as a `bytes.Reader`, `Extract` gives
back the span context `Inject` wrote whenever the payload is not empty
(`extract_inject_buffer`, by `Wire.unmarshal_marshal`).
-/

import ScopeAgent.Go.Io
import ScopeAgent.Tracer.WireRoundTrip

namespace ScopeAgent
namespace BinaryPropagator

/-- The high half of the trace id: `binary.BigEndian.Uint64(bytes[:8])` of
`sc.TraceID.MarshalBinary()`. -/
def traceIdHi (u : Uuid.UUID) : UInt64 := UInt64.ofNat (Io.beValue (u.bytes.take 8))

/-- The low half: `binary.BigEndian.Uint64(bytes[8:])`. -/
def traceIdLo (u : Uuid.UUID) : UInt64 := UInt64.ofNat (Io.beValue (u.bytes.drop 8))

/-- The state `Inject` marshals. -/
def stateOf (sc : SpanContext) : Wire.TracerState :=
  ⟨traceIdHi sc.traceID, traceIdLo sc.traceID, sc.spanID, sc.sampled, sc.baggage⟩

/-- `binaryPropagator.Inject(sc, carrier)` on an empty buffer: the bytes it writes, the
length `uint32(len(b))` in big-endian order and then the payload `b`; `bag` is the order in
which `Marshal` puts the baggage entries. -/
def inject (sc : SpanContext) (bag : List Entry) : Bytes :=
  let b := Wire.marshal (stateOf sc) bag
  Io.beBytes 4 (b.length % 2 ^ 32) ++ b

/-- The trace id `uuid.FromBytes` makes of `PutUint64(hi)` and `PutUint64(lo)`. -/
def traceIdOf (hi lo : UInt64) : Uuid.UUID :=
  ⟨Io.beBytes 8 hi.toNat ++ Io.beBytes 8 lo.toNat, by simp⟩

/-- The end of `Extract` (lines 224-238): unmarshal the buffer into a `wire.TracerState{}` and
build the span context. -/
def spanContextOf (buf : Bytes) : Except OTError SpanContext :=
  match Wire.unmarshal buf with
  | .error _ => .error .spanContextCorrupted
  | .ok ctx => .ok ⟨traceIdOf ctx.traceIdHi ctx.traceIdLo, ctx.spanId, ctx.sampled, ctx.baggageItems⟩

/-- `binaryPropagator.Extract(carrier)` on a reader: `binary.Read` of the length, then
`buf := make([]byte, length)` and one `carrier.Read(buf)`. -/
def extract (s : Io.Stream) : Except OTError SpanContext :=
  match Io.readFull 4 s with
  | (_, some _, _) => .error .spanContextCorrupted
  | (bs, none, s) =>
    let length := Io.beValue bs
    match s.read length with
    | (got, some _, _) =>
      if 0 < got.length then .error .spanContextCorrupted else .error .spanContextNotFound
    | (got, none, _) => spanContextOf (got ++ List.replicate (length - got.length) 0)

/-- **Nothing after the length is `ErrSpanContextNotFound`**, whatever the length says and
however the reader splits the four bytes. -/
theorem extract_beBytes (L : Nat) (sizes : List Nat) :
    extract ⟨Io.beBytes 4 L, sizes⟩ = .error .spanContextNotFound := by
  obtain ⟨_, h⟩ := Io.readFull_append (Io.beBytes 4 L) [] sizes
  rw [Io.length_beBytes, List.append_nil] at h
  simp [extract, h]

/-- **`Extract` decodes the bytes of one read and zeros**: after the length `L`, a stream
that holds `p`, with `0 < |p| ≤ L`, is decoded from a nonempty prefix of `p` that the reader
chooses, padded with zeros to `L` bytes. -/
theorem extract_beBytes_append (L : Nat) (hL : L < 2 ^ 32) (p : Bytes) (hp : 0 < p.length)
    (hpL : p.length ≤ L) (sizes : List Nat) :
    ∃ k, 0 < k ∧ k ≤ p.length ∧
      extract ⟨Io.beBytes 4 L ++ p, sizes⟩ =
        spanContextOf (p.take k ++ List.replicate (L - k) 0) := by
  obtain ⟨n, h⟩ := Io.readFull_append (Io.beBytes 4 L) p sizes
  rw [Io.length_beBytes] at h
  have hL' : Io.beValue (Io.beBytes 4 L) = L := by
    rw [Io.beValue_beBytes]
    exact Nat.mod_eq_of_lt hL
  obtain ⟨k, hk0, hkL, hkp, hread⟩ :=
    Io.read_of_ne_nil (List.ne_nil_of_length_pos hp) (show 0 < L by omega) (sizes.drop n)
  refine ⟨k, hk0, hkp, ?_⟩
  simp [extract, h, hL', hread, List.length_take_of_le hkp]

/-- The trace id comes back from its two halves. -/
theorem traceIdOf_traceIdHi (u : Uuid.UUID) : traceIdOf (traceIdHi u) (traceIdLo u) = u := by
  have half : ∀ b : Bytes, b.length = 8 → Io.beBytes 8 (UInt64.ofNat (Io.beValue b)).toNat = b := by
    intro b hb
    have hlt : Io.beValue b < 2 ^ 64 := by simpa [hb] using Io.beValue_lt b
    rw [UInt64.toNat_ofNat_of_lt hlt, ← hb, Io.beBytes_beValue]
  obtain ⟨bytes, hlen⟩ := u
  simp only [traceIdOf, traceIdHi, traceIdLo, Uuid.UUID.mk.injEq]
  rw [half _ (by simp [hlen]), half _ (by simp [hlen]), List.take_append_drop]

/-- **`Extract` reads back what `Inject` writes**, from a reader that fills every buffer it is
given (a `bytes.Reader`), whenever the payload is not empty and its length fits a `uint32`. -/
theorem extract_inject_buffer (sc : SpanContext) {bag : List Entry}
    (hbag : Enumerates bag sc.baggage) (hne : Wire.marshal (stateOf sc) bag ≠ [])
    (hlen : (Wire.marshal (stateOf sc) bag).length < 2 ^ 32) :
    extract ⟨inject sc bag, []⟩ = .ok sc := by
  generalize hb : Wire.marshal (stateOf sc) bag = b at hne hlen
  obtain ⟨n, h⟩ := Io.readFull_append (Io.beBytes 4 (b.length % 2 ^ 32)) b []
  rw [Io.length_beBytes, List.drop_nil] at h
  have hL : Io.beValue (Io.beBytes 4 (b.length % 2 ^ 32)) = b.length := by
    rw [Io.beValue_beBytes, Nat.mod_eq_of_lt hlen, Nat.mod_eq_of_lt (show _ < 256 ^ 4 from hlen)]
  have hpos : 0 < b.length := List.length_pos.2 hne
  have hread : Io.Stream.read ⟨b, []⟩ b.length = (b, none, ⟨[], []⟩) := by
    simp only [Io.Stream.read, if_neg hne, if_neg (Nat.pos_iff_ne_zero.1 hpos), List.headD_nil,
      Nat.min_self, Nat.max_eq_right hpos, List.take_length, List.drop_length, List.tail_nil]
  have hm : Wire.unmarshal b = .ok (stateOf sc) :=
    hb ▸ Wire.unmarshal_marshal (stateOf sc) hbag (by rw [hb]; omega)
  simp only [extract, inject, hb, h, hL, hread, Nat.sub_self, List.replicate_zero, List.append_nil,
    spanContextOf, hm]
  rw [stateOf, traceIdOf_traceIdHi]

/-- A sampled span context with span id 1 and one baggage item: from a `bytes.Buffer` it comes
back whole. -/
theorem extract_inject_buffer_baggage :
    extract ⟨inject ⟨Uuid.nil, 1, true, Finmap.singleton (lit "k") (lit "v")⟩
        [⟨lit "k", lit "v"⟩], []⟩ =
      .ok ⟨Uuid.nil, 1, true, Finmap.singleton (lit "k") (lit "v")⟩ :=
  extract_inject_buffer ⟨Uuid.nil, 1, true, Finmap.singleton (lit "k") (lit "v")⟩ rfl (by decide)
    (by decide)

/-- The all-zero span context, whose payload is empty, from any `Io.Stream` reader, and a span
context whose payload arrives in two reads: neither comes back. -/
theorem extract_inject_zero_or_split :
    (∀ sizes, extract ⟨inject ⟨Uuid.nil, 0, false, ∅⟩ [], sizes⟩ = .error .spanContextNotFound) ∧
    extract ⟨inject ⟨Uuid.nil, 1, false, ∅⟩ [], [4, 1]⟩ = .ok ⟨Uuid.nil, 0, false, ∅⟩ := by
  refine ⟨fun sizes => ?_, by decide⟩
  rw [show inject ⟨Uuid.nil, 0, false, ∅⟩ [] = Io.beBytes 4 0 by decide]
  exact extract_beBytes 0 sizes

/-- A length of two and one byte `0x78`, the tag of an unknown varint field: however an
`Io.Stream` reader splits it, the buffer is `78 00` and decodes to the zero span context. -/
theorem extract_truncated_unknown_field (sizes : List Nat) :
    extract ⟨Io.beBytes 4 2 ++ [0x78], sizes⟩ = .ok ⟨Uuid.nil, 0, false, ∅⟩ := by
  obtain ⟨k, hk0, hk1, h⟩ := extract_beBytes_append 2 (by omega) [0x78] (by decide) (by decide) sizes
  obtain rfl : k = 1 := by
    simp only [List.length_singleton] at hk1
    omega
  rw [h]
  decide

end BinaryPropagator
end ScopeAgent
