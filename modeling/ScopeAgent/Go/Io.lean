/-
# `io.Reader`, `io.ReadFull` and big-endian words

A reader is given by the bytes it has left and by the sizes of its coming reads (`Stream`).
The readers modelled are those like `bytes.Reader` and `strings.Reader`: while bytes remain, a
`Read` of `len(p) > 0` returns from one to `len(p)` of them with a `nil` error (and `(0, nil)`
when `len(p) = 0`), and once none remain it returns `(0, io.EOF)`, whatever `len(p)`; one list
of sizes is one such reader.  Readers outside the class are not modelled: a `bytes.Buffer`
returns `(0, nil)` for an empty read of an empty buffer, and other readers may return their
last bytes together with `io.EOF`.  `io.ReadFull` loops on `Read` until the buffer is full
(`readFull`); whatever the sizes, it reads exactly the bytes asked for when the stream holds
them (`readFull_append`).

`encoding/binary.BigEndian` writes an `n`-byte word most significant byte first
(`beBytes`) and reads it back (`beValue_beBytes`).
-/

import ScopeAgent.Go.Bytes
import Mathlib.Algebra.Group.Nat.Basic

namespace ScopeAgent
namespace Io

/-- The errors of a read that `Extract` can meet: `io.EOF` and `io.ErrUnexpectedEOF`. -/
inductive IoError
  | eof
  | unexpectedEOF
  deriving DecidableEq, Repr

/-- A reader like `bytes.Reader` over `rest`, whose coming reads return `sizes` bytes in turn
(clamped to what the buffer and the stream allow; once `sizes` is used up, as many as
allowed), with `io.EOF` only on a read that finds no byte left. -/
structure Stream where
  rest : Bytes
  sizes : List Nat
  deriving DecidableEq, Repr

/-- `r.Read(p)` with `len(p) = n`: the bytes read, the error, and the reader after it. -/
def Stream.read (s : Stream) (n : Nat) : Bytes × Option IoError × Stream :=
  if s.rest = [] then ([], some .eof, s)
  else if n = 0 then ([], none, s)
  else
    let k := max 1 (min (s.sizes.headD n) (min n s.rest.length))
    (s.rest.take k, none, ⟨s.rest.drop k, s.sizes.tail⟩)

/-- The loop of `io.ReadAtLeast(r, buf, min)` with `len(buf) = min`:
`for n < min && err == nil { nn, err = r.Read(buf[n:]); n += nn }`.  Each round reads a byte
or ends the loop, so `min + 1` rounds are enough. -/
def readAtLeastLoop (min : Nat) : (fuel : Nat) → Bytes → Option IoError → Stream →
    Bytes × Option IoError × Stream
  | 0, got, err, s => (got, err, s)
  | fuel + 1, got, err, s =>
    if got.length < min ∧ err = none then
      match s.read (min - got.length) with
      | (b, err, s) => readAtLeastLoop min fuel (got ++ b) err s
    else (got, err, s)

/-- `io.ReadFull(r, buf)` with `len(buf) = n`: the loop, then `err = nil` once the buffer is
full, and `io.ErrUnexpectedEOF` for an `io.EOF` after some bytes. -/
def readFull (n : Nat) (s : Stream) : Bytes × Option IoError × Stream :=
  match readAtLeastLoop n (n + 1) [] none s with
  | (got, err, s) =>
    if n ≤ got.length then (got, none, s)
    else if 0 < got.length ∧ err = some .eof then (got, some .unexpectedEOF, s)
    else (got, err, s)

/-- A read from an empty stream is `(0, io.EOF)`, whatever the buffer. -/
@[simp] theorem read_nil (sizes : List Nat) (n : Nat) :
    Stream.read ⟨[], sizes⟩ n = ([], some .eof, ⟨[], sizes⟩) := rfl

/-- A read of `n > 0` bytes from a stream that holds some reads between one and `n` of
them. -/
theorem read_of_ne_nil {r : Bytes} (hr : r ≠ []) {n : Nat} (hn : 0 < n) (sizes : List Nat) :
    ∃ k, 0 < k ∧ k ≤ n ∧ k ≤ r.length ∧
      Stream.read ⟨r, sizes⟩ n = (r.take k, none, ⟨r.drop k, sizes.tail⟩) := by
  have hpos : 0 < r.length := List.length_pos.2 hr
  refine ⟨max 1 (min (sizes.headD n) (min n r.length)), by omega, by omega, by omega, ?_⟩
  simp only [Stream.read, if_neg hr, if_neg (Nat.pos_iff_ne_zero.1 hn)]

/-- **The loop reads exactly the missing bytes** when the stream holds them, whatever the
sizes of the reads; it uses some of the sizes. -/
theorem readAtLeastLoop_append (min : Nat) :
    ∀ (fuel : Nat) (got p q : Bytes) (sizes : List Nat),
      got.length + p.length = min → p.length < fuel →
      ∃ n, readAtLeastLoop min fuel got none ⟨p ++ q, sizes⟩ = (got ++ p, none, ⟨q, sizes.drop n⟩)
  | 0, _, _, _, _, _, hf => absurd hf (Nat.not_lt_zero _)
  | fuel + 1, got, p, q, sizes, hlen, hf => by
    by_cases hp : p = []
    · subst hp
      refine ⟨0, ?_⟩
      simp only [List.length_nil, Nat.add_zero] at hlen
      simp [readAtLeastLoop, hlen]
    · have hpos : 0 < p.length := List.length_pos.2 hp
      have hpq : p ++ q ≠ [] := by simp [hp]
      obtain ⟨k, hk0, hkn, -, hread⟩ := read_of_ne_nil hpq (show 0 < min - got.length by omega) sizes
      have hkp : k ≤ p.length := by omega
      rw [List.take_append_of_le_length hkp, List.drop_append_of_le_length hkp] at hread
      obtain ⟨n, hrest⟩ := readAtLeastLoop_append min fuel (got ++ p.take k) (p.drop k) q sizes.tail
        (by simp only [List.length_append, List.length_take, List.length_drop]; omega)
        (by simp only [List.length_drop]; omega)
      refine ⟨n + 1, ?_⟩
      rw [readAtLeastLoop, if_pos ⟨by omega, rfl⟩, hread]
      simpa only [List.append_assoc, List.take_append_drop, List.drop_tail] using hrest

/-- **`io.ReadFull` reads the first `n` bytes** of a stream that holds them, with no error,
whatever the sizes of the reads; it uses some of the sizes. -/
theorem readFull_append (p q : Bytes) (sizes : List Nat) :
    ∃ n, readFull p.length ⟨p ++ q, sizes⟩ = (p, none, ⟨q, sizes.drop n⟩) := by
  obtain ⟨n, h⟩ := readAtLeastLoop_append p.length (p.length + 1) [] p q sizes
    (by simp) (Nat.lt_succ_self _)
  exact ⟨n, by simp [readFull, h]⟩

/-- `binary.BigEndian.PutUint{16,32,64}`: the low `n` bytes of `v`, most significant first. -/
def beBytes : Nat → Nat → Bytes
  | 0, _ => []
  | n + 1, v => beBytes n (v / 256) ++ [(v % 256).toUInt8]

/-- `binary.BigEndian.Uint{16,32,64}`: the number the bytes write, most significant first. -/
def beValue (b : Bytes) : Nat := b.foldl (fun acc c => acc * 256 + c.toNat) 0

@[simp] theorem length_beBytes (n v : Nat) : (beBytes n v).length = n := by
  induction n generalizing v with
  | zero => rfl
  | succ n ih => simp [beBytes, ih]

theorem beValue_append (a b : Bytes) :
    beValue (a ++ b) = b.foldl (fun acc c => acc * 256 + c.toNat) (beValue a) :=
  List.foldl_append ..

/-- **Reading a big-endian word back** gives the number modulo `256^n`. -/
theorem beValue_beBytes (n v : Nat) : beValue (beBytes n v) = v % 256 ^ n := by
  induction n generalizing v with
  | zero => simp [beBytes, beValue, Nat.mod_one]
  | succ n ih =>
    have hb : ((v % 256).toUInt8).toNat = v % 256 :=
      UInt8.toNat_ofNat_of_lt (Nat.mod_lt _ (by omega))
    rw [beBytes, beValue_append, ih, Nat.pow_succ, Nat.mul_comm (256 ^ n), Nat.mod_mul]
    simp only [List.foldl_cons, List.foldl_nil, hb]
    omega

/-- A word of `n` bytes is below `256^n`. -/
theorem beValue_lt (b : Bytes) : beValue b < 256 ^ b.length := by
  induction b using List.reverseRecOn with
  | nil => exact Nat.one_pos
  | append_singleton b c ih =>
    have hc : c.toNat < 256 := c.toNat_lt_size
    rw [beValue_append, List.length_append, List.length_singleton, Nat.pow_succ]
    calc beValue b * 256 + c.toNat < (beValue b + 1) * 256 := by omega
      _ ≤ 256 ^ b.length * 256 := Nat.mul_le_mul_right _ ih

/-- Writing the word of `n` bytes back gives the bytes. -/
theorem beBytes_beValue (b : Bytes) : beBytes b.length (beValue b) = b := by
  induction b using List.reverseRecOn with
  | nil => rfl
  | append_singleton b c ih =>
    have hc : c.toNat < 256 := c.toNat_lt_size
    have hdiv : (beValue b * 256 + c.toNat) / 256 = beValue b := by omega
    have hmod : ((beValue b * 256 + c.toNat) % 256).toUInt8 = c := by
      rw [show (beValue b * 256 + c.toNat) % 256 = c.toNat by omega]
      exact UInt8.toNat.inj (UInt8.toNat_ofNat_of_lt hc)
    rw [List.length_append, List.length_singleton, beBytes, beValue_append]
    simp only [List.foldl_cons, List.foldl_nil, hdiv, hmod, ih]

end Io
end ScopeAgent
