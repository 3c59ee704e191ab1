/-
# Protocol buffers as `gogo/protobuf` v1.3.1 generates them

The pieces of generated code that `wire.TracerState`'s `Marshal` and `Unmarshal` use, on
byte positions (`iNdEx`) as natural numbers:

* the varint writer `encodeVarintWire` (`encodeVarint`) and the varint loop that generated
  `Unmarshal` inlines for every tag and length (`varintAt`): seven bits a byte, least
  significant first, ten bytes at most;
* little-endian `fixed64` (`encoding/binary.LittleEndian`);
* `skipWire`, which steps over a field of an unknown number (with nested groups).

A Go `int` is 64 bits: a length read as a varint is negative when its top bit is set, which
the generated checks `length < 0` test; they are written `2 ^ 63 ≤ length` here.

`varintGo_varintBytes` and `leValue_leBytes` read back what the writers write, with any bytes
after it.
-/

import ScopeAgent.Go.Bytes
import Mathlib.Algebra.Group.Nat.Basic

namespace ScopeAgent
namespace Proto

/-- The errors of generated `Unmarshal` and `skipWire`.  Their texts are not modelled: the
binary propagator tests the error only against `nil`. -/
inductive ProtoError
  /-- `ErrIntOverflowWire`: a varint of more than ten bytes -/
  | intOverflow
  /-- `io.ErrUnexpectedEOF` -/
  | unexpectedEOF
  /-- `ErrInvalidLengthWire` -/
  | invalidLength
  /-- `ErrUnexpectedEndOfGroupWire` -/
  | unexpectedEndOfGroup
  /-- `proto: illegal wireType %d` -/
  | illegalWireType
  /-- `proto: TracerState: wiretype end group for non-group` -/
  | endGroup
  /-- `proto: TracerState: illegal tag %d (wire type %d)` -/
  | illegalTag
  /-- `proto: wrong wireType = %d for field ...` -/
  | wrongWireType
  deriving DecidableEq, Repr

/-- The varint loop of generated code on the bytes from the read position, from `shift`:
`if shift >= 64 {ErrIntOverflowWire}; if iNdEx >= l {io.ErrUnexpectedEOF}; b := dAtA[iNdEx];
iNdEx++; v |= uint64(b&0x7F) << shift; if b < 0x80 {break}`.  The value modulo `2^64` and
the number of bytes read. -/
def varintGo (shift : Nat) : Bytes → Except ProtoError (Nat × Nat)
  | [] => .error (if 64 ≤ shift then .intOverflow else .unexpectedEOF)
  | b :: rest =>
    if 64 ≤ shift then .error .intOverflow
    else if b < 0x80 then .ok (b.toNat * 2 ^ shift % 2 ^ 64, 1)
    else
      match varintGo (shift + 7) rest with
      | .ok (v, n) => .ok ((b.toNat % 128 * 2 ^ shift + v) % 2 ^ 64, n + 1)
      | .error e => .error e

/-- A varint read at position `i` of `dAtA`: the value and the position after it. -/
def varintAt (dAtA : Bytes) (i : Nat) : Except ProtoError (Nat × Nat) :=
  match varintGo 0 (dAtA.drop i) with
  | .ok (v, n) => .ok (v, i + n)
  | .error e => .error e

/-- The loop of `encodeVarintWire`: `for v >= 1<<7 { dAtA[offset] = uint8(v&0x7f|0x80);
v >>= 7; offset++ }; dAtA[offset] = uint8(v)`; `fuel` bounds the rounds. -/
def varintBytes : (fuel v : Nat) → Bytes
  | 0, v => [v.toUInt8]
  | fuel + 1, v =>
    if v < 128 then [v.toUInt8] else (v % 128 + 128).toUInt8 :: varintBytes fuel (v / 128)

/-- The bytes `encodeVarintWire` writes for `v`; `v` rounds are more than enough. -/
def encodeVarint (v : Nat) : Bytes := varintBytes v v

/-- `encoding/binary.LittleEndian.PutUint64`, for `n = 8`: the low `n` bytes, least
significant first. -/
def leBytes : Nat → Nat → Bytes
  | 0, _ => []
  | n + 1, v => (v % 256).toUInt8 :: leBytes n (v / 256)

/-- `encoding/binary.LittleEndian.Uint64(dAtA[iNdEx:])`: the first eight bytes. -/
def leValue (b : Bytes) : Nat := (b.take 8).foldr (fun c acc => c.toNat + 256 * acc) 0

/-- The loop of `skipWire(dAtA)`: from position `i` with `depth` groups open, read a tag and
step over its value (`case 0`: a varint, `1`: eight bytes, `2`: a length and that many
bytes, `3`/`4`: open or close a group, `5`: four bytes), until no group is open.  The
position it reaches; each round reads a tag byte, so `len(dAtA)` rounds are enough. -/
def skipWireLoop (dAtA : Bytes) : (fuel i depth : Nat) → Except ProtoError Nat
  | 0, _, _ => .error .unexpectedEOF
  | fuel + 1, i, depth =>
    if i < dAtA.length then
      match varintAt dAtA i with
      | .error e => .error e
      | .ok (wire, i) =>
        let next : Except ProtoError (Nat × Nat) :=
          match wire % 8 with
          | 0 =>
            match varintAt dAtA i with
            | .ok (_, i) => .ok (i, depth)
            | .error e => .error e
          | 1 => .ok (i + 8, depth)
          | 2 =>
            match varintAt dAtA i with
            | .ok (length, i) =>
              if 2 ^ 63 ≤ length then .error .invalidLength else .ok (i + length, depth)
            | .error e => .error e
          | 3 => .ok (i, depth + 1)
          | 4 => if depth = 0 then .error .unexpectedEndOfGroup else .ok (i, depth - 1)
          | 5 => .ok (i + 4, depth)
          | _ => .error .illegalWireType
        match next with
        | .error e => .error e
        | .ok (i, depth) =>
          if 2 ^ 63 ≤ i then .error .invalidLength
          else if depth = 0 then .ok i
          else skipWireLoop dAtA fuel i depth
    else .error .unexpectedEOF

/-- `skipWire(dAtA)`: the length of the field at the start of `dAtA`.  The last step over
a value is not checked against the end of `dAtA`: the caller does. -/
def skipWire (dAtA : Bytes) : Except ProtoError Nat := skipWireLoop dAtA dAtA.length 0 0

theorem toUInt8_toNat_of_lt {v : Nat} (h : v < 256) : (v.toUInt8).toNat = v :=
  UInt8.toNat_ofNat_of_lt h

theorem lt_0x80_iff (b : UInt8) : b < 0x80 ↔ b.toNat < 128 := Iff.rfl

/-- One byte of the varint and the rest: `v` is its low seven bits and `128` times the rest. -/
theorem mod_mul_add_div_mul (v s : Nat) :
    v % 128 * 2 ^ s + v / 128 * 2 ^ (s + 7) = v * 2 ^ s := by
  have h7 : v / 128 * 2 ^ (s + 7) = v / 128 * 128 * 2 ^ s := by
    rw [Nat.pow_add, Nat.mul_comm (2 ^ s), ← Nat.mul_assoc]
  rw [h7, ← Nat.add_mul, show v % 128 + v / 128 * 128 = v by omega]

/-- **The varint loop reads back what the writer's loop writes**, from any shift that leaves
room for it, with any bytes after it. -/
theorem varintGo_varintBytes (rest : Bytes) :
    ∀ (fuel v shift : Nat), v ≤ fuel → v * 2 ^ shift < 2 ^ 64 → (shift = 0 ∨ 0 < v) →
      varintGo shift (varintBytes fuel v ++ rest) = .ok (v * 2 ^ shift, (varintBytes fuel v).length)
  | fuel, v, shift, hv, hfit, hpos => by
    have hs : shift < 64 := by
      rcases hpos with rfl | hpos
      · omega
      · by_contra h
        have : 2 ^ 64 ≤ 2 ^ shift := Nat.pow_le_pow_right (by omega) (by omega)
        have : 2 ^ shift ≤ v * 2 ^ shift := Nat.le_mul_of_pos_left _ hpos
        omega
    cases fuel with
    | zero =>
      obtain rfl : v = 0 := by omega
      simp [varintBytes, varintGo, hs, lt_0x80_iff, toUInt8_toNat_of_lt (show 0 < 256 by omega)]
    | succ fuel =>
      by_cases hv128 : v < 128
      · have hb : (v.toUInt8).toNat = v := toUInt8_toNat_of_lt (by omega)
        rw [varintBytes, if_pos hv128, List.cons_append, varintGo, if_neg (Nat.not_le.2 hs),
          if_pos ((lt_0x80_iff _).2 (by rw [hb]; exact hv128)), hb, Nat.mod_eq_of_lt hfit]
        rfl
      · have hb : ((v % 128 + 128).toUInt8).toNat = v % 128 + 128 :=
          toUInt8_toNat_of_lt (by omega)
        have hfit' : v / 128 * 2 ^ (shift + 7) < 2 ^ 64 := by
          have := mod_mul_add_div_mul v shift
          omega
        have ih := varintGo_varintBytes rest fuel (v / 128) (shift + 7) (by omega) hfit'
          (.inr (by omega))
        simp only [varintBytes, if_neg hv128, List.cons_append, varintGo, Nat.not_le.2 hs,
          if_false, lt_0x80_iff, hb, show ¬ v % 128 + 128 < 128 by omega, ih, List.length_cons,
          show (v % 128 + 128) % 128 = v % 128 by omega, mod_mul_add_div_mul, Nat.mod_eq_of_lt hfit]

theorem length_varintBytes_pos (fuel v : Nat) : 0 < (varintBytes fuel v).length := by
  cases fuel with
  | zero => simp [varintBytes]
  | succ fuel => unfold varintBytes; split_ifs <;> simp

/-- **A varint reads back**, at any position and with any bytes after it. -/
@[simp] theorem length_leBytes (n v : Nat) : (leBytes n v).length = n := by
  induction n generalizing v with
  | zero => rfl
  | succ n ih => simp [leBytes, ih]

theorem foldr_leBytes (n v : Nat) :
    (leBytes n v).foldr (fun c acc => c.toNat + 256 * acc) 0 = v % 256 ^ n := by
  induction n generalizing v with
  | zero => simp [leBytes, Nat.mod_one]
  | succ n ih =>
    rw [leBytes, List.foldr_cons, ih, toUInt8_toNat_of_lt (Nat.mod_lt _ (by omega)), Nat.pow_succ,
      Nat.mul_comm (256 ^ n), Nat.mod_mul]

/-- **A `fixed64` reads back**, with any bytes after it. -/
theorem leValue_leBytes (v : Nat) (rest : Bytes) : leValue (leBytes 8 v ++ rest) = v % 2 ^ 64 := by
  rw [leValue, List.take_left' (length_leBytes 8 v), foldr_leBytes,
    show (256 : Nat) ^ 8 = 2 ^ 64 by decide]

end Proto
end ScopeAgent
